import TextArt.Binary64
import TextArt.Text.Digit
import TextArt.Value

/-!
# Reading JSON

A reader for JSON text that says where a text goes wrong. It reads the three names of numbers that
are not finite, keeps whole numbers apart from binary64 numbers, and lets the last of repeated names
win. Control characters are refused inside strings. Lists and objects inside each other take up
room, and there is only so much of it.

Each function takes the characters that are left and gives back what it read and the characters
after it. A fault remembers how many characters were left at the place it names, from which the
position is worked out once the length of the whole text is known.
-/

namespace TextArt.Json

open Text (digitsValue digitLimit hexValue?)

/-- Why a text is not JSON. -/
inductive Cause where
  /-- A value has to stand here. -/
  | value
  /-- A name has to stand here. -/
  | name
  /-- A colon has to stand here. -/
  | colon
  /-- A comma or a closing bracket has to stand here. -/
  | comma
  /-- A string is not closed. -/
  | unclosed
  /-- A control character inside a string. -/
  | control
  /-- No such escape. -/
  | escape
  /-- Not four hexadecimal digits. -/
  | unicodeEscape
  /-- Something follows the value. -/
  | extra
  /-- The text starts with a byte order mark. -/
  | mark
  /-- A whole number has more digits than are read. -/
  | tooManyDigits
  /-- There are more lists and objects inside each other than there is room for. -/
  | tooDeep
  deriving DecidableEq, Repr

/-- The wording of a cause. -/
def Cause.message : Cause → Text
  | value => "Expecting value"
  | name => "Expecting property name enclosed in double quotes"
  | colon => "Expecting ':' delimiter"
  | comma => "Expecting ',' delimiter"
  | unclosed => "Unterminated string starting at"
  | control => "Invalid control character at"
  | escape => "Invalid \\escape"
  | unicodeEscape => "Invalid \\uXXXX escape"
  | extra => "Extra data"
  | mark => "Unexpected UTF-8 BOM (decode using utf-8-sig)"
  | tooManyDigits => "Exceeds the limit for digits of a whole number"
  | tooDeep => "Nested too deeply"

/-- A fault, with the number of characters left at its place. -/
structure Fault where
  /-- What is wrong. -/
  cause : Cause
  /-- How many characters are left from the place on. -/
  left : Nat
  deriving DecidableEq, Repr

/-! ## Blanks, strings and numbers -/

/-- The four blank characters of JSON. -/
def isSpace (c : CodePoint) : Bool := c == ' ' || c == '\t' || c == '\n' || c == '\r'

/-- The characters after leading blanks. -/
def skip (s : List CodePoint) : List CodePoint := s.dropWhile isSpace

/-- Four hexadecimal digits. -/
def hex4? : List CodePoint → Option (Nat × List CodePoint)
  | a :: b :: c :: d :: rest =>
    match hexValue? a, hexValue? b, hexValue? c, hexValue? d with
    | some a, some b, some c, some d => some (((a * 16 + b) * 16 + c) * 16 + d, rest)
    | _, _, _, _ => none
  | _ => none

/-- The character of a short escape. -/
def shortEscape? : CodePoint → Option CodePoint
  | .char '"' => some '"'
  | .char '\\' => some '\\'
  | .char '/' => some '/'
  | .char 'b' => some '\x08'
  | .char 'f' => some '\x0c'
  | .char 'n' => some '\n'
  | .char 'r' => some '\r'
  | .char 't' => some '\t'
  | _ => none

/-- The code point of a four-digit escape and of the escape that completes a surrogate pair. -/
def pair? (high : Nat) (rest : List CodePoint) : Option (Nat × List CodePoint) :=
  if 0xD800 ≤ high ∧ high < 0xDC00 then
    match rest with
    | .char '\\' :: .char 'u' :: tail =>
      match hex4? tail with
      | some (low, after) =>
        if 0xDC00 ≤ low ∧ low < 0xE000 ∧ after ≠ [] then
          some (0x10000 + (high - 0xD800) * 0x400 + (low - 0xDC00), after)
        else none
      | none => none
    | _ => none
  else none

/-- The rest of a string after its opening quote; `start` is the number of characters left at that
quote. -/
def stringTail (start : Nat) : Nat → List CodePoint → Except Fault (List CodePoint × List CodePoint)
  | 0, _ => throw ⟨.unclosed, start⟩
  | _ + 1, [] => throw ⟨.unclosed, start⟩
  | fuel + 1, c :: rest =>
    if c = '"' then pure ([], rest)
    else if c = '\\' then
      match rest with
      | [] => throw ⟨.unclosed, start⟩
      | .char 'u' :: tail =>
        match hex4? tail with
        | none => throw ⟨.unicodeEscape, rest.length⟩
        | some (n, after) =>
          if after.isEmpty then throw ⟨.unicodeEscape, rest.length⟩
          else
            let (n, after) := (pair? n after).getD (n, after)
            do
              let (s, after) ← stringTail start fuel after
              pure (CodePoint.ofNat n :: s, after)
      | e :: tail =>
        match shortEscape? e with
        | none => throw ⟨.escape, rest.length + 1⟩
        | some d => do
          let (s, after) ← stringTail start fuel tail
          pure (d :: s, after)
    else if c.toNat < 0x20 then throw ⟨.control, rest.length + 1⟩
    else do
      let (s, after) ← stringTail start fuel rest
      pure (c :: s, after)

/-- A string, from the character after its opening quote. -/
def string (s : List CodePoint) : Except Fault (Text × List CodePoint) := do
  let (text, rest) ← stringTail (s.length + 1) (s.length + 1) s
  pure (Text.ofList text, rest)

/-- The longest run of digits at the start. -/
def digitRun (s : List CodePoint) : List CodePoint × List CodePoint := s.span CodePoint.isDigit

/-- A fraction: a point and at least one digit. -/
def fractionPart (s : List CodePoint) : List CodePoint × List CodePoint :=
  match s with
  | .char '.' :: rest => if (digitRun rest).1.isEmpty then ([], s) else digitRun rest
  | _ => ([], s)

/-- An exponent: a letter, a sign that may be left out, and at least one digit. -/
def exponentPart (s : List CodePoint) : Option Int × List CodePoint :=
  let signed (negative : Bool) (rest : List CodePoint) : Option Int × List CodePoint :=
    let (digits, after) := digitRun rest
    if digits.isEmpty then (none, s)
    else
      let n : Int := digitsValue digits
      (some (if negative then -n else n), after)
  let unsigned (rest : List CodePoint) : Option Int × List CodePoint :=
    match rest with
    | .char '-' :: tail => signed true tail
    | .char '+' :: tail => signed false tail
    | _ => signed false rest
  match s with
  | .char 'e' :: rest => unsigned rest
  | .char 'E' :: rest => unsigned rest
  | _ => (none, s)

/-- A number without its sign; nothing if no number stands here. -/
def unsignedNumber (negative : Bool) (s : List CodePoint) :
    Option (Except Cause Value × List CodePoint) :=
  let (run, _) := digitRun s
  match run with
  | [] => none
  | d :: more =>
    let whole := if d = '0' then [d] else d :: more
    let (part, rest) := fractionPart (s.drop whole.length)
    let (exponent, rest) := exponentPart rest
    if part.isEmpty && exponent.isNone then
      if digitLimit < whole.length then some (.error .tooManyDigits, rest)
      else
        let n : Int := digitsValue whole
        some (.ok (.int (if negative then -n else n)), rest)
    else
      let scale : Int := exponent.getD 0 - (part.length : Int)
      some (.ok (.float (Binary64.ofDecimal negative (digitsValue (whole ++ part)) scale)), rest)

/-- A number, from its first character. -/
def number (s : List CodePoint) : Except Fault (Value × List CodePoint) :=
  let read := match s with
    | .char '-' :: rest => unsignedNumber true rest
    | _ => unsignedNumber false s
  match read with
  | none => throw ⟨.value, s.length⟩
  | some (.error cause, rest) => throw ⟨cause, rest.length⟩
  | some (.ok v, rest) => pure (v, rest)

/-! ## Values -/

/-- Takes a word off the front, if it stands there. -/
def word? (w : Text) (s : List CodePoint) : Option (List CodePoint) :=
  if w.toList.isPrefixOf s then some (s.drop w.length) else none

/-- The words that are values. -/
def words : List (Text × Value) :=
  [("null", .null), ("true", .bool true), ("false", .bool false), ("NaN", .float Binary64.nan),
    ("Infinity", .float (1.0 / 0.0)), ("-Infinity", .float (-1.0 / 0.0))]

/-- A value that is neither a string nor a list nor an object. -/
def scalar (s : List CodePoint) : Except Fault (Value × List CodePoint) :=
  match words.findSome? fun (w, v) ↦ (word? w s).map fun rest ↦ (v, rest) with
  | some read => pure read
  | none => number s

mutual

/-- A value, from its first character, with room for the given number of lists and objects inside
each other. -/
def value (room : Nat) : Nat → List CodePoint → Except Fault (Value × List CodePoint)
  | 0, s => throw ⟨.value, s.length⟩
  | fuel + 1, s =>
    match s with
    | .char '"' :: rest => do
      let (text, rest) ← string rest
      pure (.str text, rest)
    | .char '[' :: rest =>
      if room = 0 then throw ⟨.tooDeep, s.length⟩
      else
        match skip rest with
        | .char ']' :: after => pure (.list [], after)
        | rest => do
          let (items, after) ← items (room - 1) fuel rest
          pure (.list items, after)
    | .char '\x7b' :: rest =>
      if room = 0 then throw ⟨.tooDeep, s.length⟩
      else
        match skip rest with
        | .char '\x7d' :: after => pure (.object [], after)
        | rest => do
          let (fields, after) ← members (room - 1) fuel rest
          pure (.object (Fields.ofList fields), after)
    | _ => scalar s

/-- The items of a list that is not empty, and its closing bracket. -/
def items (room : Nat) : Nat → List CodePoint → Except Fault (List Value × List CodePoint)
  | 0, s => throw ⟨.value, s.length⟩
  | fuel + 1, s => do
    let (v, rest) ← value room fuel s
    match skip rest with
    | .char ']' :: after => pure ([v], after)
    | .char ',' :: after =>
      let (more, after) ← items room fuel (skip after)
      pure (v :: more, after)
    | rest => throw ⟨.comma, rest.length⟩

/-- The fields of an object that is not empty, and its closing brace. -/
def members (room : Nat) :
    Nat → List CodePoint → Except Fault (List (Text × Value) × List CodePoint)
  | 0, s => throw ⟨.name, s.length⟩
  | fuel + 1, s =>
    match s with
    | .char '"' :: rest => do
      let (name, rest) ← string rest
      match skip rest with
      | .char ':' :: rest =>
        let (v, rest) ← value room fuel (skip rest)
        match skip rest with
        | .char '\x7d' :: after => pure ([(name, v)], after)
        | .char ',' :: after =>
          let (more, after) ← members room fuel (skip after)
          pure ((name, v) :: more, after)
        | rest => throw ⟨.comma, rest.length⟩
      | rest => throw ⟨.colon, rest.length⟩
    | rest => throw ⟨.name, rest.length⟩

end

/-- A whole text: one value between blanks. Every step of the reader uses up a character, so the
length of the text is fuel enough. -/
def document (room : Nat) (s : List CodePoint) : Except Fault Value := do
  let (v, rest) ← value room (2 * s.length + 2) (skip s)
  let rest := skip rest
  if rest.isEmpty then pure v else throw ⟨.extra, rest.length⟩

/-! ## Faults in words -/

/-- A place in a text: its line and column count from one, its offset from zero. -/
structure Place where
  /-- The line. -/
  line : Nat
  /-- The column within the line. -/
  column : Nat
  /-- The number of characters before it. -/
  offset : Nat
  deriving DecidableEq, Repr

/-- The place before which the given characters stand. -/
def Place.after (before : List CodePoint) : Place :=
  { line := before.count (.char '\n') + 1
    column := (before.reverse.takeWhile (· ≠ .char '\n')).length + 1
    offset := before.length }

/-- A fault in a given text, in words. -/
def Fault.message (fault : Fault) (text : List CodePoint) : Text :=
  let place := Place.after (text.take (text.length - fault.left))
  fault.cause.message ++ ": line " ++ toString place.line ++ " column " ++ toString place.column
    ++ " (char " ++ toString place.offset ++ ")"

/-- Reads a text that has been given as characters. A byte order mark is refused: it belongs to the
encoding, not to the text. -/
def read (room : Nat) (text : Text) : Except Fault Value :=
  let s := text.toList
  if s.head? = some (CodePoint.ofNat 0xFEFF) then throw ⟨.mark, s.length⟩ else document room s

end TextArt.Json
