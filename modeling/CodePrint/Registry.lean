import CodePrint.Fingerprint
import CodePrint.Language.Profile
import CodePrint.Log.Event

/-! # Grammar registries

An installation says which modules can be found and which of those cannot be used. A registry serves
the languages it was built for; building it loads their grammars and is reported.
-/

namespace CodePrint

/-- The state of the modules that a scan may need, by the names of those that are not in order. -/
structure Installation where
  /-- Modules that cannot be found. -/
  absent : List String := []
  /-- Modules that are found but provide no grammar. -/
  broken : List String := []
deriving DecidableEq, Repr

namespace Installation

/-- Whether a module can be found. -/
def finds (installation : Installation) (module : String) : Bool :=
  !installation.absent.contains module

/-- Whether a module provides its grammar. -/
def loads (installation : Installation) (module : String) : Bool :=
  installation.finds module && !installation.broken.contains module

/-- Whether the grammar of a language can be found. -/
def hasGrammar (installation : Installation) (language : Language) : Bool :=
  installation.finds language.profile.module

/-- The languages whose grammars can be found, in order. -/
def languages (installation : Installation) : List Language :=
  Language.all.filter installation.hasGrammar

/-- Whether a backend can compute digests. -/
def hasBackend (installation : Installation) (backend : HashBackend) : Bool :=
  match backend.module? with
  | some module => installation.finds module
  | none => true

/-- A backend has to be there before digests are computed with it. -/
def requireBackend (installation : Installation) (backend : HashBackend) :
    Except ScanError Unit :=
  match backend.module? with
  | some module =>
    if installation.finds module then .ok () else .error (.backendUnavailable backend.name module)
  | none => .ok ()

end Installation

/-- The grammar of a language cannot be had. -/
def Profile.unavailable (profile : Profile) : ScanError :=
  .grammarUnavailable profile.language.tag profile.module (some profile.package)

/-- A set of languages whose grammars are loaded. -/
structure Registry where
  /-- The languages in the order in which they were enabled. -/
  languages : List Language
deriving DecidableEq, Repr

namespace Registry

/-- The languages whose grammars load, or the error of the first that does not. -/
def loadAll (installation : Installation) : List Language → Except ScanError (List Language)
  | [] => .ok []
  | language :: rest =>
    if installation.loads language.profile.module then do
      let later ← loadAll installation rest
      return language :: later
    else .error language.profile.unavailable

/-- The registry of the enabled languages, and what is reported when it is ready. A repeated
language counts once. -/
def build (installation : Installation) (enabled : List Language) :
    Except ScanError Registry × List Event :=
  match loadAll installation enabled.eraseDups with
  | .ok languages => (.ok ⟨languages⟩, [.registryReady languages])
  | .error error => (.error error, [])

/-- All that building a registry reports is that it is ready, for the languages that it serves; a
registry that could not be built is not reported. -/
theorem build_reports (installation : Installation) (enabled : List Language) :
    (build installation enabled).2 =
      ((build installation enabled).1.toOption.map fun registry =>
        Event.registryReady registry.languages).toList := by
  unfold build
  split <;> rfl

/-- The registry of every language whose grammar can be found, and what is reported of it. -/
def buildDefault (installation : Installation) : Except ScanError Registry × List Event :=
  build installation installation.languages

/-- The registry on one line. -/
def text (registry : Registry) : String :=
  let enabled := ", ".intercalate (registry.languages.map fun language => Text.quoted language.tag)
  s!"GrammarRegistry(enabled=[{enabled}])"

/-- Whether a registry serves a language. -/
def supports (registry : Registry) (language : Language) : Bool :=
  registry.languages.contains language

/-- The profile of a language that the registry serves. A language it does not serve is either not
installed or not enabled. -/
def profile (registry : Registry) (installation : Installation) (language : Language) :
    Except ScanError Profile :=
  if registry.supports language then .ok language.profile
  else if installation.hasGrammar language then
    .error (.languageNotEnabled language.tag (registry.languages.map (·.tag)))
  else .error language.profile.unavailable

end Registry

end CodePrint
