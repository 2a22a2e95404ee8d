import TextArt.Binary64
import TextArt.Value

/-!
# Numbers of a document

Truth values, whole numbers and binary64 numbers mix in comparisons and sums. Comparisons are exact,
whatever the sizes; a sum with a binary64 number is a binary64 number. A NaN is in no order with
anything.
-/

namespace TextArt

/-- A number as a document gives it; truth values count as zero and one and keep their form. -/
inductive Number where
  /-- A truth value. -/
  | flag (b : Bool)
  /-- A whole number. -/
  | whole (n : Int)
  /-- A binary64 number. -/
  | real (x : Float)
  deriving Inhabited

namespace Number

/-- The number as a value. -/
def toValue : Number → Value
  | flag b => .bool b
  | whole n => .int n
  | real x => .float x

/-- The number that a value stands for, if it is one. -/
def ofValue? : Value → Option Number
  | .bool b => some (flag b)
  | .int n => some (whole n)
  | .float x => some (real x)
  | _ => none

@[simp] theorem ofValue?_toValue (n : Number) : ofValue? n.toValue = some n := by
  cases n <;> rfl

/-- The whole number that a truth value or a whole number stands for. -/
def int? : Number → Option Int
  | flag b => some (if b then 1 else 0)
  | whole n => some n
  | real _ => none

/-- The order of two numbers, or nothing if one of them is a NaN. -/
def compare? : Number → Number → Option Ordering
  | real x, real y =>
    if x < y then some .lt else if y < x then some .gt else if x == y then some .eq else none
  | real x, b => (compareInt? b x).map Ordering.swap
  | a, real y => compareInt? a y
  | a, b => some (compare (a.int?.getD 0) (b.int?.getD 0))
where
  /-- The order of a whole number and a binary64 number. -/
  compareInt? (a : Number) (x : Float) : Option Ordering :=
    match Binary64.unpack? x with
    | some e => some (Binary64.Exact.compareInt (a.int?.getD 0) e)
    | none => if x < 0 then some .gt else if 0 < x then some .lt else none

/-- Whether one number is below another. -/
def lt (a b : Number) : Bool := compare? a b == some .lt

/-- Whether one number is not above another. -/
def le (a b : Number) : Bool := compare? a b == some .lt || compare? a b == some .eq

/-- Whether two numbers are equal, whatever their forms. -/
def same (a b : Number) : Bool := compare? a b == some .eq

/-- The number as a double; whole numbers too large for one have none. -/
def toFloat? : Number → Option Float
  | real x => some x
  | n => Binary64.ofInt? (n.int?.getD 0)

/-- The sum of a whole number and a number. -/
def addInt (n : Int) : Number → Number
  | real x => real ((Binary64.ofInt? n).getD 0 + x)
  | m => whole (n + m.int?.getD 0)

/-- The difference of a whole number and a number. -/
def subFrom (n : Int) : Number → Number
  | real x => real ((Binary64.ofInt? n).getD 0 - x)
  | m => whole (n - m.int?.getD 0)

/-- The larger of two numbers, the first one unless the second is above it. -/
def max (a b : Number) : Number := if a.lt b then b else a

/-- The smaller of two numbers, the first one unless the second is below it. -/
def min (a b : Number) : Number := if b.lt a then b else a

end Number

namespace Value

/-- The number that a value stands for, if it is one. -/
def number? (v : Value) : Option Number := Number.ofValue? v

/-- Whether a value can name an entry of a table: lists and objects cannot. -/
def isName : Value → Bool
  | list _ => false
  | object _ => false
  | _ => true

/-- Whether two values name the same entry of a table. -/
def sameName (a b : Value) : Bool :=
  match a, b with
  | null, null => true
  | str s, str t => s == t
  | a, b =>
    match a.number?, b.number? with
    | some m, some n => m.same n
    | _, _ => false

end Value

end TextArt
