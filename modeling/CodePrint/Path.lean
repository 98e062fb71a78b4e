/-! # Paths

A path is a root and the components below it. Runs of slashes and single-dot components leave no
trace; double-dot components stay. Exactly two slashes at the start are a root of their own, any
other number of them is the plain root.
-/

namespace CodePrint

/-- Where a path starts. -/
inductive PathRoot where
  | relative
  | single
  | double
deriving DecidableEq, Repr

/-- The root as it is written. -/
def PathRoot.text : PathRoot → String
  | .relative => ""
  | .single => "/"
  | .double => "//"

/-- A path, with neither empty nor single-dot components. -/
structure Path where
  root : PathRoot
  components : List String
deriving DecidableEq, Repr

/-- The home directories that a leading `~` or `~name` stands for. -/
structure Homes where
  /-- The home directory of the current user. -/
  own : String
  /-- The home directories of named users. -/
  named : List (String × String)

namespace Path

/-- The pieces of a text between slashes. -/
def splitSlashes : List Char → List (List Char)
  | [] => [[]]
  | c :: rest =>
    match splitSlashes rest with
    | [] => [[c]]
    | piece :: pieces => if c = '/' then [] :: piece :: pieces else (c :: piece) :: pieces

/-- The root that a number of slashes at the start writes. -/
def rootOf : (slashes : Nat) → PathRoot
  | 0 => .relative
  | 2 => .double
  | _ => .single

/-- The path that a text writes. -/
def ofString (text : String) : Path :=
  let chars := text.toList
  let pieces := (splitSlashes chars).filter fun piece => piece ≠ [] ∧ piece ≠ ['.']
  ⟨rootOf (chars.takeWhile (· == '/')).length, pieces.map String.ofList⟩

/-- The text of a path; the path with no root and no component is a single dot. -/
def text (path : Path) : String :=
  if path.root = .relative ∧ path.components = [] then "."
  else path.root.text ++ "/".intercalate path.components

/-- Whether a path starts at a root. -/
def isAbsolute (path : Path) : Bool :=
  path.root != .relative

/-- The part of a name from its last dot on, unless that dot is its first or last character. -/
def suffixOf (name : List Char) : List Char :=
  let tail := name.reverse.takeWhile (· != '.')
  if tail.isEmpty || name.length ≤ tail.length + 1 then [] else '.' :: tail.reverse

/-- The suffix of the last component. -/
def suffix (path : Path) : String :=
  match path.components.getLast? with
  | some name => String.ofList (suffixOf name.toList)
  | none => ""

/-- A directory text without slashes at its end; the root keeps one. -/
def withoutLastSlashes (directory : String) : String :=
  let kept := (directory.toList.reverse.dropWhile (· == '/')).reverse
  if kept.isEmpty then "/" else String.ofList kept

/-- The home directory that a first component stands for, if one is known. -/
def homeFor? (homes : Homes) (component : String) : Option String :=
  if component = "~" then some (withoutLastSlashes homes.own)
  else (homes.named.lookup (String.ofList (component.toList.drop 1))).map withoutLastSlashes

/-- The path with a leading `~` or `~name` replaced by the home directory; nothing when no home
directory is known for it. -/
def expandHome? (homes : Homes) (path : Path) : Option Path :=
  match path.root, path.components with
  | .relative, first :: rest =>
    if first.toList.head? = some '~' then
      match homeFor? homes first with
      | some directory =>
        if directory.toList.head? = some '~' then none
        else
          let home := ofString directory
          some { home with components := home.components ++ rest }
      | none => none
    else some path
  | _, _ => some path

end Path

end CodePrint
