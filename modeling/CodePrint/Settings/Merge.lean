import CodePrint.Value

/-! # Merging settings

Settings from several places are merged key by key. Where both sides have a mapping under a key the
two are merged in turn; any other value is replaced.
-/

namespace CodePrint

mutual

/-- A value put over an older one. -/
def Value.over (old : Option Value) : Value → Value
  | .mapping updates =>
    match old with
    | some (.mapping fields) => .mapping (Fields.merge fields updates)
    | _ => .mapping updates
  | value => value

/-- The fields with updates merged into them, the updates winning. -/
def Fields.merge (fields : Fields) : (updates : List (Scalar × Value)) → Fields
  | [] => fields
  | (key, value) :: rest => Fields.merge (fields.put key (value.over (fields.get? key))) rest

end

end CodePrint
