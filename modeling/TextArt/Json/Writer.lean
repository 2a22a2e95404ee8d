import TextArt.Failure
import TextArt.Text.Digit

/-!
# Writing JSON

JSON text in ASCII, either on one line or with one item per line. Characters outside ASCII are
written by their UTF-16 code units.
-/

namespace TextArt.Json

open Text (isWritable)

/-- Numbers in JSON text have the fewest digits that read back. -/
def numbers : Decimal.Layout := ⟨-4, 16, 2, "NaN", "Infinity"⟩

/-- Four hexadecimal digits of a UTF-16 code unit, as an escape. -/
def unitEscape (n : Nat) : List CodePoint :=
  let digits := Nat.toDigits 16 n
  .char '\\' :: .char 'u'
    :: (List.replicate (4 - digits.length) '0' ++ digits).map CodePoint.char

/-- A character inside a string. -/
def escapeChar (c : CodePoint) : List CodePoint :=
  if c = '"' then ['\\', '"']
  else if c = '\\' then ['\\', '\\']
  else if c = '\n' then ['\\', 'n']
  else if c = '\r' then ['\\', 'r']
  else if c = '\t' then ['\\', 't']
  else if c = '\x0c' then ['\\', 'f']
  else if c = '\x08' then ['\\', 'b']
  else if ' ' ≤ c ∧ c ≤ '~' then [c]
  else if c.toNat < 0x10000 then unitEscape c.toNat
  else
    let n := c.toNat - 0x10000
    unitEscape (0xD800 + n / 0x400) ++ unitEscape (0xDC00 + n % 0x400)

/-- A string with its quotes. -/
def quote (s : Text) : List CodePoint := '"' :: (s.toList.flatMap escapeChar ++ [.char '"'])

/-- How the parts of lists and objects are set. -/
inductive Layout where
  /-- Everything on one line. -/
  | line
  /-- One item per line, indented by two blanks per level. -/
  | indented

/-- What stands before an item at the given depth. -/
def Layout.break (depth : Nat) : Layout → List CodePoint
  | line => []
  | indented => .char '\n' :: List.replicate (2 * depth) (.char ' ')

mutual

/-- A value whose own line is at the given depth. -/
def writeValue (layout : Layout) (depth : Nat) : Value → List CodePoint
  | .null => ("null" : Text).toList
  | .bool true => ("true" : Text).toList
  | .bool false => ("false" : Text).toList
  | .int n => (toString n : Text).toList
  | .float x => (numbers.write x : Text).toList
  | .str s => quote s
  | .list [] => [.char '[', .char ']']
  | .list (v :: rest) =>
    .char '[' :: layout.break (depth + 1) ++ writeValue layout (depth + 1) v
      ++ writeItems layout (depth + 1) rest ++ layout.break depth ++ [.char ']']
  | .object [] => [.char '\x7b', .char '\x7d']
  | .object ((name, v) :: rest) =>
    .char '\x7b' :: layout.break (depth + 1) ++ quote name ++ [.char ':', .char ' ']
      ++ writeValue layout (depth + 1) v
      ++ writeFields layout (depth + 1) rest ++ layout.break depth ++ [.char '\x7d']

/-- The items after the first one. -/
def writeItems (layout : Layout) (depth : Nat) : List Value → List CodePoint
  | [] => []
  | v :: rest =>
    .char ',' :: layout.break depth ++ writeValue layout depth v ++ writeItems layout depth rest

/-- The fields after the first one. -/
def writeFields (layout : Layout) (depth : Nat) : List (Text × Value) → List CodePoint
  | [] => []
  | (name, v) :: rest =>
    .char ',' :: layout.break depth ++ quote name ++ [.char ':', .char ' ']
      ++ writeValue layout depth v ++ writeFields layout depth rest

end

/-- The JSON text of a value. -/
def write (layout : Layout) (v : Value) : Text := Text.ofList (writeValue layout 0 v)

/-! ## What can be written -/

mutual

/-- Goes through a value as it is written, with room for the given number of lists and objects
inside each other: a list or object that there is no room for is one thing that stops the writer,
a whole number with too many digits the other. -/
def survey : Nat → Value → Outcome Unit
  | _, .int n => if isWritable n then .ok () else .error .badValue
  | 0, .list _ => .error .tooDeep
  | room + 1, .list items => surveyItems room items
  | 0, .object _ => .error .tooDeep
  | room + 1, .object fields => surveyFields room fields
  | _, _ => .ok ()

/-- Goes through the items of a list. -/
def surveyItems (room : Nat) : List Value → Outcome Unit
  | [] => .ok ()
  | v :: rest => do
    survey room v
    surveyItems room rest

/-- Goes through the fields of an object. -/
def surveyFields (room : Nat) : List (Text × Value) → Outcome Unit
  | [] => .ok ()
  | (_, v) :: rest => do
    survey room v
    surveyFields room rest

end

/-- The JSON text of a value, if it can be written. -/
def write? (room : Nat) (layout : Layout) (v : Value) : Outcome Text := do
  survey room v
  .ok (write layout v)

end TextArt.Json
