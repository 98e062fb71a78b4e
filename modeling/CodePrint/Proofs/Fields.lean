import CodePrint.Settings.Merge

/-! # Named values

What is looked up in fields that were written to or merged. A mapping holds a key once; merged with
such a mapping, fields hold under every key what the two hold there.
-/

namespace CodePrint

namespace Fields

/-- Two keys are the same when they have one standard form. -/
theorem sameKey_iff {key other : Scalar} :
    key.sameKey other = true ↔ key.standard = other.standard :=
  beq_iff_eq

/-- A value that was put under a key is found there. -/
theorem get_put_self (key : Scalar) (value : Value) (fields : Fields) :
    (fields.put key value).get? key = some value := by
  induction fields with
  | nil => simp [put, get?, sameKey_iff]
  | cons field rest ih =>
      obtain ⟨other, old⟩ := field
      by_cases same : other.sameKey key
      · simp [put, get?, same]
      · simpa [put, get?, same] using ih

/-- Putting a value under a key leaves what every other key finds. -/
theorem get_put_of_ne {key name : Scalar} (different : key.sameKey name = false) (value : Value)
    (fields : Fields) : (fields.put key value).get? name = fields.get? name := by
  induction fields with
  | nil => simp [put, get?, different]
  | cons field rest ih =>
      obtain ⟨other, old⟩ := field
      by_cases same : other.sameKey key
      · -- The place that is written to is not the one that is looked up.
        have unrelated : other.sameKey name = false := by
          rw [Bool.eq_false_iff, ne_eq, sameKey_iff] at different ⊢
          rwa [sameKey_iff.mp same]
        simp [put, get?, same, unrelated]
      · by_cases found : other.sameKey name
        · simp [put, get?, same, found]
        · simpa [put, get?, same, found] using ih

/-- Keys that are the same find the same value. -/
theorem get_congr {key name : Scalar} (same : key.sameKey name = true) (fields : Fields) :
    fields.get? key = fields.get? name := by
  unfold get? Scalar.sameKey
  rw [sameKey_iff.mp same]

/-- A key finds the value put under a key that is the same, and else what it found before. -/
theorem get_put (key name : Scalar) (value : Value) (fields : Fields) :
    (fields.put key value).get? name =
      if key.sameKey name then some value else fields.get? name := by
  by_cases same : key.sameKey name = true
  · rw [if_pos same, ← get_congr same, get_put_self]
  · rw [if_neg same, get_put_of_ne (Bool.not_eq_true _ ▸ same)]

/-- A key is looked for in the first fields and then in the second. -/
theorem get_append (name : Scalar) (first second : Fields) :
    Fields.get? (first ++ second) name = (first.get? name).or (second.get? name) := by
  unfold get?
  rw [List.find?_append, Option.map_or]

/-- Of several values for a key the last one counts. -/
theorem get_putAll (name : Scalar) (fields updates : Fields) :
    (fields.putAll updates).get? name =
      (Fields.get? updates.reverse name).or (fields.get? name) := by
  induction updates generalizing fields with
  | nil => rfl
  | cons update rest ih =>
      obtain ⟨key, value⟩ := update
      have written : (fields.put key value).get? name =
          (Fields.get? [(key, value)] name).or (fields.get? name) := by
        rw [get_put]
        by_cases same : key.sameKey name = true <;> simp [get?, same]
      rw [List.reverse_cons, get_append, Option.or_assoc, ← written, ← ih]
      rfl

/-! ## Leaving a key out -/

private theorem sameKey_congr {key other : Scalar} (same : key.sameKey other = true)
    (name : Scalar) : key.sameKey name = other.sameKey name := by
  unfold Scalar.sameKey
  rw [sameKey_iff.mp same]

private theorem sameKey_comm (key other : Scalar) : key.sameKey other = other.sameKey key :=
  BEq.comm

private theorem get_cons (key name : Scalar) (value : Value) (rest : Fields) :
    Fields.get? ((key, value) :: rest) name =
      if key.sameKey name then some value else rest.get? name := by
  by_cases same : key.sameKey name = true <;> simp [get?, same]

/-- The fields without a key. -/
def erase (name : Scalar) (fields : Fields) : Fields :=
  fields.filter fun field => !field.1.sameKey name

/-- A first field with the key to erase goes. -/
theorem erase_cons_same {key name : Scalar} (same : key.sameKey name = true) (value : Value)
    (rest : Fields) : erase name ((key, value) :: rest) = rest.erase name :=
  List.filter_cons_of_neg (by simp [same])

/-- A first field with another key stays. -/
theorem erase_cons_other {key name : Scalar} (different : key.sameKey name = false) (value : Value)
    (rest : Fields) : erase name ((key, value) :: rest) = (key, value) :: rest.erase name :=
  List.filter_cons_of_pos (by simp [different])

/-- Erasing a key leaves what every other key finds. -/
theorem get_erase_of_ne {key name : Scalar} (different : key.sameKey name = false)
    (fields : Fields) : (fields.erase name).get? key = fields.get? key := by
  induction fields with
  | nil => rfl
  | cons field rest ih =>
      obtain ⟨other, value⟩ := field
      cases erased : other.sameKey name with
      | true =>
          have unrelated : other.sameKey key = false := by
            rw [sameKey_congr erased, sameKey_comm, different]
          rw [erase_cons_same erased, get_cons, unrelated, ih]
          rfl
      | false => rw [erase_cons_other erased, get_cons, get_cons, ih]

private theorem erase_put_same {key name : Scalar} (same : key.sameKey name = true) (value : Value)
    (fields : Fields) : (fields.put key value).erase name = fields.erase name := by
  induction fields with
  | nil => exact erase_cons_same same value []
  | cons field rest ih =>
      obtain ⟨other, old⟩ := field
      cases here : other.sameKey key with
      | true =>
          have erased : other.sameKey name = true := (sameKey_congr here name).trans same
          rw [put, if_pos here, erase_cons_same erased, erase_cons_same erased]
      | false =>
          have apart : other.sameKey name = false := by
            rw [sameKey_comm, ← sameKey_congr same, sameKey_comm, here]
          rw [put, if_neg (by simp [here]), erase_cons_other apart, erase_cons_other apart, ih]

private theorem erase_put_other {key name : Scalar} (different : key.sameKey name = false)
    (value : Value) (fields : Fields) :
    (fields.put key value).erase name = (fields.erase name).put key value := by
  induction fields with
  | nil => exact erase_cons_other different value []
  | cons field rest ih =>
      obtain ⟨other, old⟩ := field
      cases here : other.sameKey key with
      | true =>
          have apart : other.sameKey name = false := (sameKey_congr here name).trans different
          rw [put, if_pos here, erase_cons_other apart, erase_cons_other apart, put, if_pos here]
      | false =>
          rw [put, if_neg (by simp [here])]
          cases erased : other.sameKey name with
          | true => rw [erase_cons_same erased, erase_cons_same erased, ih]
          | false =>
              rw [erase_cons_other erased, erase_cons_other erased, put,
                if_neg (by simp [here]), ih]

/-- A key left out of both sides is left out of what they make together. -/
theorem erase_merge (name : Scalar) (fields updates : Fields) :
    (Fields.merge fields updates).erase name =
      Fields.merge (fields.erase name) (updates.erase name) := by
  induction updates generalizing fields with
  | nil => rw [show erase name [] = [] from rfl, merge, merge]
  | cons update rest ih =>
      obtain ⟨key, value⟩ := update
      rw [merge, ih]
      cases same : key.sameKey name with
      | true => rw [erase_put_same same, erase_cons_same same]
      | false =>
          rw [erase_put_other same, erase_cons_other same, merge, get_erase_of_ne same]

/-! ## Merging -/

/-- No key is there twice. -/
def Distinct (fields : Fields) : Prop :=
  fields.Pairwise fun field other => field.1.sameKey other.1 = false

/-- After a value is put, every field was there before or is that value under a key that is the
same. -/
theorem mem_put {key : Scalar} {value : Value} {fields : Fields} {field : Scalar × Value}
    (member : field ∈ fields.put key value) :
    field ∈ fields ∨ field.2 = value ∧ field.1.sameKey key = true := by
  induction fields with
  | nil =>
      rw [List.mem_singleton.mp member]
      exact .inr ⟨rfl, sameKey_iff.mpr rfl⟩
  | cons first rest ih =>
      obtain ⟨other, old⟩ := first
      rw [put] at member
      split at member
      · rcases List.mem_cons.mp member with rfl | later
        · exact .inr ⟨rfl, ‹_›⟩
        · exact .inl (List.mem_cons_of_mem _ later)
      · rcases List.mem_cons.mp member with rfl | later
        · exact .inl List.mem_cons_self
        · exact (ih later).imp_left (List.mem_cons_of_mem _)

/-- Putting a value keeps keys distinct: it replaces a field or comes under a new key. -/
theorem put_distinct {fields : Fields} (distinct : fields.Distinct) (key : Scalar)
    (value : Value) : (fields.put key value).Distinct := by
  induction fields with
  | nil => exact List.pairwise_singleton ..
  | cons first rest ih =>
      obtain ⟨other, old⟩ := first
      obtain ⟨apart, later⟩ := List.pairwise_cons.mp distinct
      rw [put]
      split
      · exact List.pairwise_cons.mpr ⟨apart, later⟩
      next different =>
        refine List.pairwise_cons.mpr ⟨fun field member => ?_, ih later⟩
        obtain old | ⟨-, same⟩ := mem_put member
        · exact apart field old
        · rw [sameKey_comm, sameKey_congr same, sameKey_comm]
          exact Bool.not_eq_true _ ▸ different

/-- Merging updates keeps keys distinct, whether those of the updates are or not. -/
theorem merge_distinct {fields : Fields} (distinct : fields.Distinct) (updates : Fields) :
    (Fields.merge fields updates).Distinct := by
  induction updates generalizing fields with
  | nil => rwa [merge]
  | cons update rest ih =>
      rw [merge]
      exact ih (put_distinct distinct ..)

/-- What a key finds is the value of a field with that key. -/
theorem mem_of_get {fields : Fields} {name : Scalar} {value : Value}
    (found : fields.get? name = some value) :
    ∃ key, (key, value) ∈ fields ∧ key.sameKey name = true := by
  obtain ⟨⟨key, held⟩, first, rfl⟩ := Option.map_eq_some_iff.mp found
  have same := List.find?_some first
  exact ⟨key, List.mem_of_find?_eq_some first, same⟩

private theorem get_eq_none {fields : Fields} {name : Scalar}
    (absent : ∀ field ∈ fields, field.1.sameKey name = false) : fields.get? name = none := by
  rw [get?, List.find?_eq_none.mpr fun field member => by simp [absent field member]]
  rfl

/-- What two sides make together holds under a key what the updates have there, put over what there
was. -/
theorem get_merge {updates : Fields} (distinct : updates.Distinct) (fields : Fields)
    (name : Scalar) :
    (Fields.merge fields updates).get? name =
      ((updates.get? name).map (·.over (fields.get? name))).or (fields.get? name) := by
  induction updates generalizing fields with
  | nil => rw [merge]; rfl
  | cons update rest ih =>
      obtain ⟨key, value⟩ := update
      obtain ⟨apart, later⟩ := List.pairwise_cons.mp distinct
      rw [merge, ih later, get_put, get_cons]
      cases same : key.sameKey name with
      | false => simp only [Bool.false_eq_true, if_false]
      | true =>
          have absent : Fields.get? rest name = none := get_eq_none fun field member => by
            rw [sameKey_comm, ← sameKey_congr same]
            exact apart field member
          rw [absent, get_congr same]
          rfl

end Fields

end CodePrint
