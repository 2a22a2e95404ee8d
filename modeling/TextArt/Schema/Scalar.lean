import TextArt.Number.Reading
import TextArt.Schema.Check

/-!
# Checking numbers, truth values and texts

Checks of single values. They convert what can be read without loss: a text that holds a number, a
binary64 number that is whole, a number or word that says yes or no.
-/

namespace TextArt.Schema

/-! ## Numbers in texts -/

/-- What follows zeros and underscores at the start of a number, the last of which is given. It is
kept if no digit follows it. -/
def afterZeros? (last : CodePoint) : List CodePoint → Option (List CodePoint)
  | [] => some [last]
  | c :: rest =>
    if c = .char '0' ∨ c = .char '_' then afterZeros? c rest
    else if c = .char '.' then some (last :: c :: rest)
    else if c.isDigit ∨ c = .char '-' then some (c :: rest)
    else none

/-- A number without the zeros that it starts with. A minus sign may stand before the number or
after the zeros; anything else is refused. -/
def withoutZeros? : List CodePoint → Option (List CodePoint)
  | [] => none
  | c :: rest =>
    if c = .char '0' then afterZeros? c rest
    else if c.isDigit ∨ c = .char '-' then some (c :: rest)
    else none

/-- A number without a point and the zeros after it, of which there has to be one. -/
def withoutPart (s : List CodePoint) : List CodePoint :=
  let (whole, tail) := s.span (· ≠ .char '.')
  match tail with
  | _ :: d :: more => if (d :: more).all (· == .char '0') then whole else s
  | _ => s

/-- A text without its underscores, if it has some and each stands alone between two other
characters. -/
def withoutUnderscores? (s : List CodePoint) : Option (List CodePoint) :=
  let alone := (s.zip (s.drop 1)).all fun (c, d) ↦ c ≠ .char '_' || d ≠ .char '_'
  if s.contains (.char '_') && alone && s.head? ≠ some (.char '_') && s.getLast? ≠ some (.char '_')
  then some (s.filter (· ≠ .char '_'))
  else none

/-- A whole number in its plainest form: a minus sign that may be left out, and digits of which the
first is a zero only if it is the only one. -/
def plainInt (s : List CodePoint) : IntReading :=
  match (takeSign s).2 with
  | [] => .malformed
  | c :: rest => if c = .char '0' ∧ rest ≠ [] then .malformed else IntReading.ofChars s

/-- What a text comes to as a whole number. Blanks around it, a plus sign, zeros at its start, a
point with zeros and underscores are left out, in this order. -/
def readInt (s : Text) : IntReading :=
  let trimmed := Text.trimBy Text.isWhite s.toList
  let unsigned? := match trimmed with
    | .char '+' :: .char '-' :: _ => none
    | .char '+' :: rest => some rest
    | rest => some rest
  match unsigned?.bind withoutZeros? with
  | none => .malformed
  | some body =>
    let body := withoutPart body
    plainInt ((withoutUnderscores? body).getD body)

/-- What a text comes to as a binary64 number. Blanks around it or underscores in it are left out,
but not both. -/
def readFloat? (s : Text) : Option Float :=
  if s.contains (.char '_') then (withoutUnderscores? s.toList).bind floatOfChars?
  else floatOfChars? (Text.trimBy Text.isWhite s.toList)

/-! ## Numbers -/

/-- A whole number. -/
def anyInt (v : Value) : Checked Int :=
  let oversize := "Unable to parse input string as an integer, exceeded maximum size"
  match v with
  | .int n => .ok n
  | .bool b => .ok (if b then 1 else 0)
  | .float x =>
    match Binary64.unpack? x with
    | none => fail "Input should be a finite number"
    | some e =>
      if !e.isWhole then fail "Input should be a valid integer, got a number with a fractional part"
      else if twoPow 63 ≤ e.floor.natAbs then fail oversize
      else .ok e.floor
  | .str s => do
    match readInt (← decoded s) with
    | .number n => .ok n
    | .tooLong => fail oversize
    | .malformed => fail "Input should be a valid integer, unable to parse string as an integer"
  | _ => fail "Input should be a valid integer"

/-- The complaint about a number below a bound. -/
def belowMessage (least : Int) : Text :=
  "Input should be greater than or equal to " ++ toString least

/-- The complaint about a number above a bound. -/
def aboveMessage (most : Int) : Text :=
  "Input should be less than or equal to " ++ toString most

/-- A whole number that is not below a bound. -/
def AtLeast (least : Nat) : Type := { n : Nat // least ≤ n }

/-- A whole number of one or more. -/
abbrev Positive := AtLeast 1

/-- A whole number that is not below a bound. -/
def intFrom (least : Nat) (v : Value) : Checked (AtLeast least) := do
  let n ← anyInt v
  if h : least ≤ n.toNat ∧ 0 ≤ n then .ok ⟨n.toNat, h.1⟩ else fail (belowMessage least)

/-- A whole number between two bounds. -/
def intBetween (least most : Int) (v : Value) : Checked Int := do
  let n ← anyInt v
  if n < least then fail (belowMessage least)
  else if most < n then fail (aboveMessage most)
  else .ok n

/-- A binary64 number. -/
def anyFloat (v : Value) : Checked Float :=
  match v with
  | .float x => .ok x
  | .bool b => .ok (if b then 1 else 0)
  | .int n =>
    match Binary64.ofInt? n with
    | some x => .ok x
    | none => fail "Input should be a valid number"
  | .str s => do
    match readFloat? (← decoded s) with
    | some x => .ok x
    | none => fail "Input should be a valid number, unable to parse string as a number"
  | _ => fail "Input should be a valid number"

/-- A binary64 number from zero to one. -/
def unitFloat (v : Value) : Checked Float := do
  let x ← anyFloat v
  if ¬ x ≤ 1 then fail (aboveMessage 1)
  else if ¬ 0 ≤ x then fail (belowMessage 0)
  else .ok x

/-! ## Truth values -/

/-- The words that say yes, in small letters. -/
def yesWords : List String := ["1", "on", "t", "true", "y", "yes"]

/-- The words that say no, in small letters. -/
def noWords : List String := ["0", "off", "f", "false", "n", "no"]

/-- Whether a number fits in 64 bits. -/
def fits64 (n : Int) : Bool := decide (-(twoPow 63 : Int) ≤ n ∧ n < twoPow 63)

/-- A truth value. -/
def anyBool (v : Value) : Checked Bool :=
  let unclear : Checked Bool := fail "Input should be a valid boolean, unable to interpret input"
  let wrong : Checked Bool := fail "Input should be a valid boolean"
  let ofInt (n : Int) : Checked Bool :=
    if n = 0 then .ok false else if n = 1 then .ok true
    else if fits64 n then unclear else wrong
  match v with
  | .bool b => .ok b
  | .int n => ofInt n
  | .float x =>
    match Binary64.unpack? x with
    | some e => if e.isWhole then ofInt e.floor else wrong
    | none => wrong
  | .str s => do
    let s ← decoded s
    match asciiLower? s.toList with
    | some word =>
      if yesWords.contains word then .ok true
      else if noWords.contains word then .ok false
      else unclear
    | none => unclear
  | _ => wrong

/-! ## Texts -/

/-- A text. -/
def anyText (v : Value) : Checked Text :=
  match v with
  | .str s => .ok s
  | _ => fail "Input should be a valid string"

/-- A text of characters. -/
def plainText (v : Value) : Checked Text := do
  let s ← anyText v
  decoded s

/-- A text of one character or more. -/
def someText (v : Value) : Checked Text := do
  let s ← plainText v
  if s.isEmpty then fail "String should have at least 1 character" else .ok s

/-- A text of one character. -/
def oneChar (v : Value) : Checked Char := do
  let s ← plainText v
  match s.toList with
  | [] => fail "String should have at least 1 character"
  | [.char c] => .ok c
  | _ => fail "String should have at most 1 character"

/-- A text as complaints that quote it show it: three replacement characters, one for each byte,
stand for half of a surrogate pair. -/
def legible (s : Text) : Text :=
  .ofList (s.toList.flatMap fun
    | .char c => [.char c]
    | .half _ => List.replicate 3 (.char '\ufffd'))

/-- A value, or null. -/
def nullable {α : Type} (check : Value → Checked α) (v : Value) : Checked (Option α) :=
  match v with
  | .null => .ok none
  | v => (check v).map some

/-- Names between quotes, with commas and an "or" before the last one. -/
def alternatives (names : List Text) : Text :=
  let quoted : List Text := names.map fun n ↦ "'" ++ n ++ "'"
  match quoted.reverse with
  | [] => ""
  | [only] => only
  | last :: others => Text.intercalate ", " others.reverse ++ " or " ++ last

/-- One of some named things. -/
def oneOf {α : Type} (choices : List (Text × α)) (v : Value) : Checked α :=
  let wrong : Checked α := fail ("Input should be " ++ alternatives (choices.map Prod.fst))
  match v with
  | .str s => do
    match choices.lookup (← decoded s) with
    | some x => .ok x
    | none => wrong
  | _ => wrong

end TextArt.Schema
