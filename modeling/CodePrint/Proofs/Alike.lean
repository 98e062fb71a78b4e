/-! # Computations that may fail, side by side

Two computations are alike if both give a value or both fail, with related values and related
failures. Computations built from alike parts in the same way are alike.
-/

namespace CodePrint

/-- A sequence gives a result exactly when its first step gives a value from which the second gives
that result. -/
theorem bind_eq_ok {ε α β : Type} {first : Except ε α} {next : α → Except ε β} {result : β} :
    first >>= next = .ok result ↔ ∃ value, first = .ok value ∧ next value = .ok result := by
  cases first with
  | error failure => exact iff_of_false nofun nofun
  | ok value =>
      constructor
      · exact fun given => ⟨value, rfl, given⟩
      · rintro ⟨_, same, given⟩
        cases same
        exact given

/-- A sequence fails in its first step, or in its second step with the value of the first. -/
theorem bind_eq_error {ε α β : Type} {first : Except ε α} {next : α → Except ε β} {failure : ε} :
    first >>= next = .error failure ↔
      first = .error failure ∨ ∃ value, first = .ok value ∧ next value = .error failure := by
  cases first with
  | error other =>
      constructor
      · intro failed
        cases failed
        exact .inl rfl
      · rintro (same | ⟨_, same, _⟩)
        · cases same
          rfl
        · cases same
  | ok value =>
      refine ⟨fun failed => .inr ⟨value, rfl, failed⟩, ?_⟩
      rintro (same | ⟨_, same, failed⟩)
      · cases same
      · cases same
        exact failed

/-- Renaming failures keeps a computation failing, with the new name of the old cause. -/
theorem mapError_eq_error {ε δ α : Type} {computed : Except ε α} {f : ε → δ} {failure : δ} :
    computed.mapError f = .error failure ↔
      ∃ cause, computed = .error cause ∧ f cause = failure := by
  cases computed with
  | error cause =>
      constructor
      · intro failed
        cases failed
        exact ⟨cause, rfl, rfl⟩
      · rintro ⟨_, same, rfl⟩
        cases same
        rfl
  | ok value => exact iff_of_false nofun nofun

/-- Renaming failures changes no value. -/
theorem mapError_eq_ok {ε δ α : Type} {computed : Except ε α} {f : ε → δ} {value : α} :
    computed.mapError f = .ok value ↔ computed = .ok value := by
  cases computed with
  | error cause => exact iff_of_false nofun nofun
  | ok other =>
      constructor
      · intro same
        cases same
        rfl
      · intro same
        cases same
        rfl

/-- A mapped computation gives what the function makes of the computed value. -/
theorem map_eq_ok {ε α β : Type} {computed : Except ε α} {f : α → β} {result : β} :
    computed.map f = .ok result ↔ ∃ value, computed = .ok value ∧ f value = result := by
  cases computed with
  | error failure => exact iff_of_false nofun nofun
  | ok value =>
      constructor
      · intro made
        exact ⟨value, rfl, Except.ok.inj made⟩
      · rintro ⟨_, same, rfl⟩
        cases same
        rfl

/-- Mapping the value of a computation changes no failure. -/
theorem map_eq_error {ε α β : Type} {computed : Except ε α} {f : α → β} {failure : ε} :
    computed.map f = .error failure ↔ computed = .error failure := by
  cases computed with
  | error other =>
      constructor
      · intro failed
        cases failed
        rfl
      · intro failed
        cases failed
        rfl
  | ok value => exact iff_of_false nofun nofun

/-- What remains when failures are forgotten is the value of a computation that succeeded. -/
theorem toOption_eq_some {ε α : Type} {computed : Except ε α} {value : α} :
    computed.toOption = some value ↔ computed = .ok value := by
  cases computed with
  | error failure => exact iff_of_false nofun nofun
  | ok other =>
      constructor
      · exact fun same => congrArg _ (Option.some.inj same)
      · intro same
        cases same
        rfl

/-- A computation that fails with nothing gives a value. -/
theorem exists_ok_of_forall_ne {ε α : Type} {computed : Except ε α}
    (never : ∀ failure, computed ≠ .error failure) : ∃ value, computed = .ok value := by
  cases computed with
  | error failure => exact absurd rfl (never failure)
  | ok value => exact ⟨value, rfl⟩

/-- The failure of a computation, if it fails. -/
def failure? {ε α : Type} : Except ε α → Option ε
  | .ok _ => none
  | .error failure => some failure

/-- There is no failure to report exactly where there is a value. -/
theorem failure_eq_none {ε α : Type} {computed : Except ε α} :
    failure? computed = none ↔ ∃ value, computed = .ok value := by
  cases computed with
  | error failure => exact iff_of_false nofun nofun
  | ok value => exact iff_of_true rfl ⟨value, rfl⟩

/-- The failure that is reported is the one the computation ended with. -/
theorem failure_eq_some {ε α : Type} {computed : Except ε α} {failure : ε} :
    failure? computed = some failure ↔ computed = .error failure := by
  cases computed with
  | error other =>
      constructor
      · exact fun same => congrArg _ (Option.some.inj same)
      · intro same
        cases same
        rfl
  | ok value => exact iff_of_false nofun nofun

/-- A last step that cannot fail leaves the failure as it is. -/
theorem failure_bind_ok {ε α β : Type} (first : Except ε α) (last : α → β) :
    failure? (first >>= fun value => .ok (last value)) = failure? first := by
  cases first with
  | error failure => rfl
  | ok value => rfl

/-- Both computations give values that are related, or both fail in a related way. -/
def Alike {ε δ α β : Type} (failures : ε → δ → Prop) (values : α → β → Prop) :
    Except ε α → Except δ β → Prop
  | .ok left, .ok right => values left right
  | .error left, .error right => failures left right
  | _, _ => False

namespace Alike

variable {ε δ α β γ κ : Type} {failures : ε → δ → Prop} {values : α → β → Prop}
  {results : γ → κ → Prop} {left : Except ε α} {right : Except δ β}

/-- Two sequences are alike when their first steps are and their second steps are alike on values
that correspond. -/
theorem bind (alike : Alike failures values left right) {next : α → Except ε γ}
    {after : β → Except δ κ}
    (continued : ∀ first second, values first second →
      Alike failures results (next first) (after second)) :
    Alike failures results (left >>= next) (right >>= after) := by
  match left, right, alike with
  | .ok first, .ok second, related => exact continued first second related
  | .error first, .error second, related => exact related

/-- A relation between the values of two computations may be weakened. -/
theorem imp {others : α → β → Prop} (alike : Alike failures values left right)
    (weaker : ∀ first second, values first second → others first second) :
    Alike failures others left right := by
  match left, right, alike with
  | .ok first, .ok second, related => exact weaker first second related
  | .error first, .error second, related => exact related

end Alike

end CodePrint
