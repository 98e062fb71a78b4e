import CodePrint.Yaml.BlockText
import CodePrint.Yaml.Property

/-! # Reading YAML

A YAML text of one document is read into a node, and that into a value: block and flow collections,
plain, quoted and block scalars, names, aliases and tags, comments, and the directives and marks
around a document. A text that is not well formed is refused.

The reader descends into the text with a bound on its steps. No position is the start of more than a
few nested nodes before a character is used up, so a small multiple of the length is enough.
-/

namespace CodePrint.Yaml

/-- A scalar, an alias or the start of a flow collection is all that can stand inside a line. -/
inductive Opening where
  | sequence
  | mapping
  | quoted (quote : Char)
  | plain
  | alias

/-- What the text at a cursor opens. -/
def opening? (inFlow : Bool) (cursor : Cursor) : Option Opening :=
  if isDocumentEnd cursor then none
  else
    match cursor.rest with
    | '[' :: _ => some .sequence
    | '{' :: _ => some .mapping
    | '\'' :: _ => some (.quoted '\'')
    | '"' :: _ => some (.quoted '"')
    | '*' :: _ => some .alias
    | rest => if startsPlain inFlow rest then some .plain else none

/-- Whether nothing inside the line follows properties that end at `behind`, when the next token is
at `token`. Inside flow collections the node may stand on any line. -/
def isBare (inFlow : Bool) (behind token : Cursor) : Bool :=
  if inFlow then token.rest.head?.all fun c => c == ':' || c == ',' || c == ']' || c == '}'
  else token.line != behind.line || isDocumentEnd token || isColon false token ||
    startsBlockText token

section Nodes

variable (handles : Handles)

mutual

/-- A scalar, an alias or a flow collection at a cursor, with its properties. -/
def readFlow : (fuel : Nat) → Properties → (inFlow : Bool) → (least : Nat) → Cursor →
    Except Refusal (Node × Cursor)
  | 0, _, _, _, _ => .error .malformed
  | fuel + 1, given, inFlow, least, cursor =>
    if startsProperty cursor then do
      let (given, behind) ← given.read handles cursor
      let token := skipLayout behind
      if isBare inFlow behind token then return (← given.attach .empty, behind)
      else readFlow fuel given inFlow least token
    else
      match opening? inFlow cursor with
      | none => .error .malformed
      | some .sequence => do
        let (items, after) ← readItems fuel (skipLayout cursor.step)
        return (← given.attach (.sequence items), after)
      | some .mapping => do
        let (pairs, after) ← readPairs fuel (skipLayout cursor.step)
        return (← given.attach (.mapping pairs), after)
      | some (.quoted quote) => do
        let (text, after) ← readQuoted quote cursor.step
        return (← given.attach (.quoted text), after)
      | some .plain => do
        let (text, after) := readPlain inFlow least cursor
        return (← given.attach (.plain text), after)
      | some .alias => do
        let (name, after) ← readName cursor.step
        return (← given.attach (.alias name), after)

/-- What stands behind a question mark or a colon inside a flow collection; nothing where the next
part follows. -/
def readFlowPart : (fuel : Nat) → Cursor → Except Refusal (Node × Cursor)
  | 0, _ => .error .malformed
  | fuel + 1, cursor =>
    match cursor.rest with
    | ':' :: _ | ',' :: _ | ']' :: _ | '}' :: _ => .ok (.empty, cursor)
    | _ => readFlow fuel {} true 0 cursor

/-- A pair inside a flow collection, or a node alone, and the cursor at the next token. The colon of
an explicit key may stand on any line. -/
def readFlowPair : (fuel : Nat) → Cursor → Except Refusal ((Node × Option Node) × Cursor)
  | 0, _ => .error .malformed
  | fuel + 1, cursor => do
    let explicit := isQuestion true cursor
    let (key, after) ←
      if explicit then readFlowPart fuel (skipLayout cursor.step)
      else readFlow fuel {} true 0 cursor
    let following := skipLayout after
    if isKeyColon true cursor following || (explicit && isColon true following) then do
      let (value, after) ← readFlowPart fuel (skipLayout following.step)
      return ((key, some value), skipLayout after)
    else return ((key, if explicit then some .empty else none), following)

/-- The items of a flow sequence up to its bracket. An item may be a single pair. -/
def readItems : (fuel : Nat) → Cursor → Except Refusal (List Node × Cursor)
  | 0, _ => .error .malformed
  | fuel + 1, cursor =>
    match cursor.rest with
    | ']' :: _ => .ok ([], cursor.step)
    | _ => do
      let ((key, value?), following) ← readFlowPair fuel cursor
      let item :=
        match value? with
        | some value => .mapping [(key, value)]
        | none => key
      match following.rest with
      | ',' :: _ => do
        let (items, last) ← readItems fuel (skipLayout following.step)
        return (item :: items, last)
      | ']' :: _ => return ([item], following.step)
      | _ => .error .malformed

/-- The pairs of a flow mapping up to its brace. -/
def readPairs : (fuel : Nat) → Cursor → Except Refusal (List (Node × Node) × Cursor)
  | 0, _ => .error .malformed
  | fuel + 1, cursor =>
    match cursor.rest with
    | '}' :: _ => .ok ([], cursor.step)
    | _ => do
      let ((key, value?), following) ← readFlowPair fuel cursor
      let pair := (key, value?.getD .empty)
      match following.rest with
      | ',' :: _ => do
        let (pairs, last) ← readPairs fuel (skipLayout following.step)
        return (pair :: pairs, last)
      | '}' :: _ => return ([pair], following.step)
      | _ => .error .malformed

end

mutual

/-- The rest of a node at a token, behind the properties that are given. Where no block collection
may begin, the node is a scalar, an alias or a flow collection. Properties in front of a key on its
line are those of the key, all others are those of the whole node. -/
def readNode : (fuel : Nat) → Properties → (mayBlock mayAlign : Bool) → (least : Nat) → Cursor →
    Except Refusal (Node × Cursor)
  | 0, _, _, _, _, _ => .error .malformed
  | fuel + 1, given, mayBlock, mayAlign, least, cursor =>
    if isEntry cursor then
      if mayBlock then do
        let (items, after) ← readEntries fuel false cursor.column cursor
        return (← given.attach (.sequence items), after)
      else .error .malformed
    else if isQuestion false cursor then
      if mayBlock then do
        let (pairs, after) ← readFields fuel cursor.column cursor
        return (← given.attach (.mapping pairs), after)
      else .error .malformed
    else if startsBlockText cursor then do
      let (text, after) ← readBlockText least cursor
      return (← given.attach (.quoted text), after)
    else do
      let (first, after) ← readFlow handles fuel {} false least cursor
      let following := skipLayout after
      if isColon false following && following.line == cursor.line then
        if mayBlock && isKeyColon false cursor following then do
          let (pairs, after) ← readFields fuel cursor.column cursor
          return (← given.attach (.mapping pairs), after)
        else .error .malformed
      else if startsProperty cursor then do
        let (given, behind) ← given.read handles cursor
        readPart fuel given false mayAlign least behind
      else return (← given.attach first, after)

/-- The node behind a mark or behind properties, in a block collection whose parts stand in the
least column or behind it; nothing where the collection goes on. On the same line a block collection
may begin only where `mayBlock` says so, and a sequence may stand in the column before the least
only where `mayAlign` does. -/
def readPart : (fuel : Nat) → Properties → (mayBlock mayAlign : Bool) → (least : Nat) → Cursor →
    Except Refusal (Node × Cursor)
  | 0, _, _, _, _, _ => .error .malformed
  | fuel + 1, given, mayBlock, mayAlign, least, behind =>
    let token := skipLayout behind
    if isDocumentEnd token then do return (← given.attach .empty, behind)
    else if token.line == behind.line then readNode fuel given mayBlock mayAlign least token
    else if least ≤ token.column then readNode fuel given true mayAlign least token
    else if mayAlign && token.column + 1 == least && isEntry token then do
      let (items, after) ← readEntries fuel true token.column token
      return (← given.attach (.sequence items), after)
    else do return (← given.attach .empty, behind)

/-- The entries of a block sequence whose dashes stand in a column, from a dash on. A sequence in
the column of the keys around it ends at the next key. -/
def readEntries : (fuel : Nat) → (amongKeys : Bool) → (column : Nat) → Cursor →
    Except Refusal (List Node × Cursor)
  | 0, _, _, _ => .error .malformed
  | fuel + 1, amongKeys, column, cursor => do
    let (item, after) ← readPart fuel {} true false (column + 1) cursor.step
    let following := skipLayout after
    if isDocumentEnd following then return ([item], after)
    else if following.line == after.line then .error .malformed
    else if following.column < column then return ([item], after)
    else if column < following.column then .error .malformed
    else if isEntry following then do
      let (items, last) ← readEntries fuel amongKeys column following
      return (item :: items, last)
    else if amongKeys then return ([item], after)
    else .error .malformed

/-- A pair of a block mapping whose keys stand in a column. The value of an explicit key follows a
colon in the same column. -/
def readField : (fuel : Nat) → (column : Nat) → Cursor → Except Refusal ((Node × Node) × Cursor)
  | 0, _, _ => .error .malformed
  | fuel + 1, column, cursor =>
    if isQuestion false cursor then do
      let (key, after) ← readPart fuel {} true true (column + 1) cursor.step
      let following := skipLayout after
      if following.column == column && isColon false following then do
        let (value, after) ← readPart fuel {} true true (column + 1) following.step
        return ((key, value), after)
      else return ((key, .empty), after)
    else do
      let (key, after) ← readFlow handles fuel {} false (column + 1) cursor
      let following := skipLayout after
      if isKeyColon false cursor following then do
        let (value, after) ← readPart fuel {} false true (column + 1) following.step
        return ((key, value), after)
      else .error .malformed

/-- The pairs of a block mapping whose keys stand in a column, from a key on. -/
def readFields : (fuel : Nat) → (column : Nat) → Cursor →
    Except Refusal (List (Node × Node) × Cursor)
  | 0, _, _ => .error .malformed
  | fuel + 1, column, cursor => do
    let (pair, after) ← readField fuel column cursor
    let following := skipLayout after
    if isDocumentEnd following then return ([pair], after)
    else if following.line == after.line then .error .malformed
    else if following.column < column then return ([pair], after)
    else if column < following.column then .error .malformed
    else do
      let (pairs, last) ← readFields fuel column following
      return (pair :: pairs, last)

end

end Nodes

/-- A character that may stand in a text. -/
def isAllowed (c : Char) : Bool :=
  let code := c.toNat
  code == 0x09 || code == 0x0A || (0x20 ≤ code && code ≤ 0x7E) ||
    (0xA0 ≤ code && code ≤ 0xFFFD) || 0x10000 ≤ code

/-- The text with one character for every line end. -/
def unifyLineEnds : List Char → List Char
  | [] => []
  | '\r' :: '\n' :: rest => '\n' :: unifyLineEnds rest
  | c :: rest => (if c = '\r' ∨ c = '\u0085' then '\n' else c) :: unifyLineEnds rest

/-- Whether nothing but layout and end marks is left. -/
def isFinished (fuel : Nat) (cursor : Cursor) : Bool :=
  let token := skipLayout cursor
  match fuel with
  | 0 => token.rest.isEmpty
  | fuel + 1 => token.rest.isEmpty || (isMark "..." token && isFinished fuel (token.skip 3))

/-- The node of a document from its first token on. Directives need a mark behind them. -/
def readDocument (fuel : Nat) (cursor : Cursor) : Except Refusal (Node × Cursor) := do
  let (directives, token) ← Directives.read cursor
  let handles := directives.handles ++ Handles.standard
  if isMark "---" token then readPart handles fuel {} false false 0 (token.skip 3)
  else if token ≠ cursor ∨ isMark "..." token then throw .malformed
  else readNode handles fuel {} true false 0 token

/-- The node of a YAML text, if it is one document. A text without tokens is empty. -/
def readText (text : String) : Except Refusal Node :=
  let chars := unifyLineEnds text.toList
  if !chars.all isAllowed then .error .malformed
  else
    let chars := if chars.head? = some '\ufeff' then chars.drop 1 else chars
    let cursor := skipLayout ⟨chars, 0, 0⟩
    let fuel := 6 * chars.length + 6
    if cursor.rest.isEmpty then .ok .empty
    else do
      let (node, after) ← readDocument fuel cursor
      if isFinished fuel after then .ok node else .error .malformed

/-- The value of a YAML text. -/
def read (text : String) : Except Refusal Value := do
  let node ← readText text
  let (node, _) ← node.expand []
  node.value

end CodePrint.Yaml
