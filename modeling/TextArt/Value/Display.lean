import TextArt.Decimal.Layout
import TextArt.Number
import TextArt.Text.Quoted

/-!
# Values in messages

Messages show the values they complain about. A value is shown either *quoted*, as a document
author would recognise it, with text between quotes, or *plain*, with text as it is.
-/

namespace TextArt

/-- Numbers in messages have the fewest digits that read back, written out from `1e-4` up to, but
not including, `1e16`. -/
def messageNumbers : Decimal.Layout := ⟨-4, 16, 2, "nan", "inf"⟩

namespace Value

mutual

/-- The value with text between quotes. -/
def quoted : Value → Text
  | null => "None"
  | bool true => "True"
  | bool false => "False"
  | int n => toString n
  | float x => messageNumbers.write x
  | str s => Text.Quoted.encode s
  | list items => "[" ++ Text.intercalate ", " (quotedItems items) ++ "]"
  | object fields => "\x7b" ++ Text.intercalate ", " (quotedFields fields) ++ "\x7d"

/-- The items of a list with text between quotes. -/
def quotedItems : List Value → List Text
  | [] => []
  | v :: rest => quoted v :: quotedItems rest

/-- The fields of an object with text between quotes. -/
def quotedFields : List (Text × Value) → List Text
  | [] => []
  | (name, v) :: rest => (Text.Quoted.encode name ++ ": " ++ quoted v) :: quotedFields rest

end

/-- The value with text as it is. -/
def plain : Value → Text
  | str s => s
  | v => v.quoted

end Value

end TextArt
