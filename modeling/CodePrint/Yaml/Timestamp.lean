import CodePrint.Json.Reader

/-! # Timestamps of YAML

A timestamp is a day, year first with two digits for the month and two for the day, or a day and a
time of it. With a time the month, the day and the hour may have one digit; a fraction of a second
and the distance from universal time may follow.
-/

namespace CodePrint.Yaml

/-- The number that so many digits at the start of a text write, and the rest. -/
def takeNumber? (least most : Nat) (text : List Char) : Option (Nat × List Char) :=
  let digits := (text.take most).takeWhile Char.isDigit
  if least ≤ digits.length then
    some (Json.decimalNumber digits, text.drop digits.length)
  else none

/-- The rest of a text that begins with a character. -/
def dropChar? (c : Char) : List Char → Option (List Char)
  | first :: rest => if first = c then some rest else none
  | [] => none

/-- The text without the spaces and tabs at its start. -/
def dropSpaces (text : List Char) : List Char :=
  text.dropWhile fun c => c == ' ' || c == '\t'

/-- A day whose month and day have at least so many digits, and the rest. -/
def readDay? (least : Nat) (text : List Char) : Option (CalendarDay × List Char) := do
  let (year, rest) ← takeNumber? 4 4 text
  let rest ← dropChar? '-' rest
  let (month, rest) ← takeNumber? least 2 rest
  let rest ← dropChar? '-' rest
  let (day, rest) ← takeNumber? least 2 rest
  return (⟨year, month, day⟩, rest)

/-- What follows the divider between a day and a time: a letter, or spaces. -/
def dropDivider? : List Char → Option (List Char)
  | 'T' :: rest | 't' :: rest => some rest
  | ' ' :: rest | '\t' :: rest => some (dropSpaces rest)
  | _ => none

/-- The millionths of a second that the digits behind a point write; further digits do not
count. -/
def microseconds (digits : List Char) : Nat :=
  Json.decimalNumber ((digits ++ List.replicate 6 '0').take 6)

/-- A time of a day, and the rest. -/
def readClock? (text : List Char) : Option (ClockTime × List Char) := do
  let (hour, rest) ← takeNumber? 1 2 text
  let rest ← dropChar? ':' rest
  let (minute, rest) ← takeNumber? 2 2 rest
  let rest ← dropChar? ':' rest
  let (second, rest) ← takeNumber? 2 2 rest
  let (fraction, rest) :=
    match rest with
    | '.' :: rest => rest.span Char.isDigit
    | rest => ([], rest)
  return (⟨hour, minute, second, microseconds fraction⟩, rest)

/-- A distance from universal time behind its sign: hours, and perhaps minutes, to the end of the
text. -/
def readDistance? (text : List Char) : Option Int := do
  let (hours, rest) ← takeNumber? 1 2 text
  match rest with
  | [] => return 60 * hours
  | _ =>
    let rest ← dropChar? ':' rest
    let (minutes, rest) ← takeNumber? 2 2 rest
    if rest.isEmpty then return 60 * hours + minutes else none

/-- The distance from universal time at the end of a timestamp, if it is given at all. -/
def readAhead? (text : List Char) : Option (Option Int) :=
  if text.isEmpty then some none
  else
    match dropSpaces text with
    | ['Z'] => some (some 0)
    | '+' :: rest => (readDistance? rest).map some
    | '-' :: rest => (readDistance? rest).map fun minutes => some (-minutes)
    | _ => none

/-- A time of a day, to the end of the text. -/
def readTime? (text : List Char) : Option Moment := do
  let (day, rest) ← readDay? 1 text
  let rest ← dropDivider? rest
  let (clock, rest) ← readClock? rest
  let ahead ← readAhead? rest
  return .time day clock ahead

/-- The moment that a text writes. The month and the day of a day by itself have at least so many
digits. -/
def moment? (least : Nat) (text : List Char) : Option Moment :=
  match readDay? least text with
  | some (day, []) => some (.day day)
  | _ => readTime? text

end CodePrint.Yaml
