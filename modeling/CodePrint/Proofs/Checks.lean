import CodePrint.Settings.Check

/-! # What checks accept

A joined check accepts a value if both of its parts do, and the value of a field is its default or
was accepted by the field's own check. Conversely a check that reads every value of a type from the
way it is written reads lists and optional values of that type from the way these are written.
-/

namespace CodePrint

namespace Checked

variable {α β : Type}

/-- A mapped result is valid where the result it was mapped from is. -/
theorem map_eq_valid {checked : Checked α} {f : α → β} {value : β} :
    checked.map f = .valid value ↔ ∃ given, checked = .valid given ∧ f given = value := by
  cases checked with
  | valid given => simp [map]
  | invalid first others => simp [map]
  | halted cause => simp [map]

/-- Two results joined are valid exactly when each of them is. -/
theorem join_eq_valid {left : Checked α} {right : Checked β} {value : α × β} :
    left.join right = .valid value ↔ left = .valid value.1 ∧ right = .valid value.2 := by
  cases left with
  | valid a => cases right <;> simp [join, Prod.ext_iff]
  | invalid first others => cases right <;> simp [join]
  | halted cause => cases right <;> simp [join]

private theorem under_eq_valid {checked : Checked α} {step : LocationStep} {value : α} :
    checked.under step = .valid value ↔ checked = .valid value := by
  cases checked <;> simp [under]

/-- A check after another finds a value valid when both do, the second given what the first
found. -/
theorem andThen_eq_valid {checked : Checked α} {check : α → Checked β} {value : β} :
    checked.andThen check = .valid value ↔
      ∃ given, checked = .valid given ∧ check given = .valid value := by
  cases checked <;> simp [andThen]

end Checked

namespace Check

/-- The value of a field is its default or what its check makes of the value that is given. -/
theorem field_eq_valid {α : Type} {fields : Fields} {name : String} {check : Check α}
    {default value : α} (found : field fields name check default = .valid value) :
    value = default ∨ ∃ given, check given = .valid value := by
  unfold field at found
  split at found
  · exact .inr ⟨_, Checked.under_eq_valid.mp found⟩
  · cases found
    exact .inl rfl

/-- Whatever a list was accepted as, its members were accepted one by one. -/
theorem each_eq_valid {α : Type} {check : Check α} {place : Nat} {items : List Value}
    {values : List α} (found : each check place items = .valid values) {value : α}
    (member : value ∈ values) : ∃ item, check item = .valid value := by
  induction items generalizing place values with
  | nil =>
      cases found
      exact absurd member List.not_mem_nil
  | cons item rest ih =>
      obtain ⟨both, joined, rfl⟩ := Checked.map_eq_valid.mp found
      obtain ⟨first, later⟩ := Checked.join_eq_valid.mp joined
      rcases List.mem_cons.mp member with rfl | behind
      · exact ⟨item, Checked.under_eq_valid.mp first⟩
      · exact ih later behind

/-- Every element of a valid list is what the check makes of some element given. -/
theorem listOf_eq_valid {α : Type} {complaint : Complaint} {check : Check α} {given : Value}
    {values : List α} (found : listOf complaint check given = .valid values) {value : α}
    (member : value ∈ values) : ∃ item, check item = .valid value := by
  unfold listOf at found
  split at found
  · exact each_eq_valid found member
  · cases found

/-- A valid section was given as fields that its check accepts. -/
theorem sectionOf_eq_valid {α : Type} {name : String} {check : Fields → Checked α} {given : Value}
    {value : α} (found : sectionOf name check given = .valid value) :
    ∃ fields, check fields = .valid value := by
  unfold sectionOf at found
  split at found
  · exact ⟨_, found⟩
  · cases found

/-! ## Reading what is written -/

section Written

variable {α : Type} {check : Check α} {complaint : Complaint}

/-- A choice that is written by its name is read back. -/
theorem named_written {ofName? : String → Option α} {name : α → String}
    (reads : ∀ value, ofName? (name value) = some value) (value : α) :
    named complaint ofName? (.text (name value)) = .valid value := by
  rw [named, reads]

/-- Elements that are each read back as they were written are read back in their order, at whatever
place of a list they begin. -/
theorem each_written {write : α → Value} {values : List α}
    (reads : ∀ value ∈ values, check (write value) = .valid value) (place : Nat) :
    each check place (values.map write) = .valid values := by
  induction values generalizing place with
  | nil => rfl
  | cons value rest ih =>
      rw [List.map_cons, each, reads value List.mem_cons_self,
        ih fun later member => reads later (.tail _ member)]
      rfl

/-- A list is read back when its elements are. -/
theorem listOf_written {write : α → Value} {values : List α}
    (reads : ∀ value ∈ values, check (write value) = .valid value) :
    listOf complaint check (.list (values.map write)) = .valid values :=
  each_written reads 0

/-- An absent value is written as nothing and read back as absent, and a present one is read back
when its name is. -/
theorem optional_written {name : α → String}
    (reads : ∀ value, check (.text (name value)) = .valid value) (value : Option α) :
    optional check (.ofText? (value.map name)) = .valid value := by
  cases value with
  | none => rfl
  | some value =>
      change (check (.text (name value))).map some = _
      rw [reads]
      rfl

/-- A field that is there is read as its check reads it, and its default plays no part. -/
theorem field_written {fields : Fields} {name : String} {default value : α} {given : Value}
    (found : fields.get? name = some given) (reads : check given = .valid value) :
    field fields name check default = .valid value := by
  rw [field, found]
  exact Checked.under_eq_valid.mpr reads

end Written

end Check

end CodePrint
