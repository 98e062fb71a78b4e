import CodePrint.Value
import CodePrint.Yaml.Tag

/-! # Nodes of a YAML text

A node is what a part of a text is written as, before it is known what it stands for: a scalar with
or without quotes, a sequence, or a mapping with its pairs as they stand. A node may have a tag and
a name, and an alias stands for the node with its name. Aliases are replaced first; only then keys
are compared, and mappings are merged into others. A node that holds an alias of itself is refused.
-/

namespace CodePrint.Yaml

/-- A part of a YAML text. -/
inductive Node where
  | plain (text : List Char)
  | quoted (text : List Char)
  | sequence (items : List Node)
  | mapping (pairs : List (Node × Node))
  | tagged (tag : Tag) (node : Node)
  /-- A node that aliases may name. -/
  | anchored (name : String) (node : Node)
  | alias (name : String)
deriving Repr

/-- A node of which nothing is written. -/
def Node.empty : Node :=
  .plain []

/-- A node with a tag. A tag without a name takes the quotes off a scalar. -/
def Node.withTag (node : Node) : Tag → Node
  | .unspecific =>
    match node with
    | .quoted text => .plain text
    | node => node
  | tag => .tagged tag node

/-! ## Aliases -/

/-- The nodes that have names, by their names. -/
abbrev Anchors := List (String × Node)

mutual

/-- The node with every alias replaced by the node that it names, and all names up to the end of the
node. A name has to come before its aliases, and no name comes twice. -/
def Node.expand (anchors : Anchors) : Node → Except Refusal (Node × Anchors)
  | .plain text => .ok (.plain text, anchors)
  | .quoted text => .ok (.quoted text, anchors)
  | .sequence items => do
    let (items, anchors) ← expandItems anchors items
    return (.sequence items, anchors)
  | .mapping pairs => do
    let (pairs, anchors) ← expandPairs anchors pairs
    return (.mapping pairs, anchors)
  | .tagged tag node => do
    let (node, anchors) ← node.expand anchors
    return (.tagged tag node, anchors)
  | .anchored name node => do
    let (node, anchors) ← node.expand anchors
    if (anchors.lookup name).isSome then .error .malformed
    else return (node, (name, node) :: anchors)
  | .alias name =>
    match anchors.lookup name with
    | some node => .ok (node, anchors)
    | none => .error .malformed

/-- The items with every alias replaced, in order. -/
def expandItems (anchors : Anchors) : List Node → Except Refusal (List Node × Anchors)
  | [] => .ok ([], anchors)
  | item :: rest => do
    let (item, anchors) ← item.expand anchors
    let (rest, anchors) ← expandItems anchors rest
    return (item :: rest, anchors)

/-- The pairs with every alias replaced, in order, each key before its value. -/
def expandPairs (anchors : Anchors) :
    List (Node × Node) → Except Refusal (List (Node × Node) × Anchors)
  | [] => .ok ([], anchors)
  | (key, value) :: rest => do
    let (key, anchors) ← key.expand anchors
    let (value, anchors) ← value.expand anchors
    let (rest, anchors) ← expandPairs anchors rest
    return ((key, value) :: rest, anchors)

end

/-! ## Values -/

/-- The mark of a key under which other mappings are merged into a mapping. -/
def mergeMark : List Char :=
  ['<', '<']

/-- The mark of a key for a default; it stands for no value. -/
def defaultMark : List Char :=
  ['=']

namespace Node

/-- Whether a key has other mappings merged into its mapping. -/
def isMerge : Node → Bool
  | .plain text => text == mergeMark
  | .tagged tag _ => tag == .merge
  | _ => false

/-- Whether a key is that of a default. -/
def isDefault : Node → Bool
  | .plain text => text == defaultMark
  | .tagged tag _ => tag == .default
  | _ => false

end Node

mutual

/-- The text of a scalar, whatever its tag. That of a mapping is the text of its default. -/
def Node.scalarText : Node → Except Refusal (List Char)
  | .plain text | .quoted text => .ok text
  | .mapping pairs => defaultText pairs
  | .tagged _ node | .anchored _ node => node.scalarText
  | .sequence _ | .alias _ => .error .malformed

/-- The text of the first default among pairs. -/
def defaultText : List (Node × Node) → Except Refusal (List Char)
  | [] => .error .malformed
  | (key, node) :: rest => if key.isDefault then node.scalarText else defaultText rest

end

/-- A value as a key. A collection is no key. -/
def keyOf : Value → Except Refusal Scalar
  | .scalar key => .ok key
  | _ => .error .malformed

mutual

/-- The value that a node stands for. -/
def Node.value : Node → Except Refusal Value
  | .plain text =>
    if text = mergeMark ∨ text = defaultMark then .error .malformed
    else (plainScalar text).map .scalar
  | .quoted text => .ok (.text (String.ofList text))
  | .sequence items => (itemValues items).map .list
  | .mapping pairs => (pairValues [] [] pairs).map .mapping
  | .tagged .sequence (.sequence items) => (itemValues items).map .list
  | .tagged .mapping (.mapping pairs) => (pairValues [] [] pairs).map .mapping
  | .tagged tag node => do
    let text ← node.scalarText
    (tag.scalar text).map .scalar
  | .anchored _ node => node.value
  | .alias _ => .error .malformed

/-- The values of items. -/
def itemValues : List Node → Except Refusal (List Value)
  | [] => .ok []
  | item :: rest => do
    let value ← item.value
    let later ← itemValues rest
    return value :: later

/-- The fields that pairs make together with fields that are merged in and fields of their own; the
own ones win. -/
def pairValues (merged own : Fields) : List (Node × Node) → Except Refusal Fields
  | [] => .ok (merged.putAll own)
  | (key, node) :: rest =>
    if key.isMerge then do
      let fields ← node.fieldsToMerge
      pairValues (merged.putAll fields) own rest
    else do
      let key ←
        if key.isDefault then key.scalarText.map fun text => .text (String.ofList text)
        else key.value >>= keyOf
      let value ← node.value
      pairValues merged (own.put key value) rest

/-- The fields that a node brings into a mapping, whatever its tag: those of one mapping, or those
of a list of mappings of which the earlier win. -/
def Node.fieldsToMerge : Node → Except Refusal Fields
  | .mapping pairs => pairValues [] [] pairs
  | .sequence items => itemFields items
  | .tagged _ node | .anchored _ node => node.fieldsToMerge
  | .plain _ | .quoted _ | .alias _ => .error .malformed

/-- The fields of a mapping, whatever its tag. -/
def Node.ownFields : Node → Except Refusal Fields
  | .mapping pairs => pairValues [] [] pairs
  | .tagged _ node | .anchored _ node => node.ownFields
  | .plain _ | .quoted _ | .sequence _ | .alias _ => .error .malformed

/-- The fields of several mappings, of which the earlier win. -/
def itemFields : List Node → Except Refusal Fields
  | [] => .ok []
  | item :: rest => do
    let own ← item.ownFields
    let later ← itemFields rest
    return later.putAll own

end

end CodePrint.Yaml
