import TextArt.Text.Basic

/-!
# Document values

The values that documents, settings and requests are made of. Numbers keep their form: a whole
number of any size, or a binary64 number. Objects keep the order of their fields.
-/

namespace TextArt

/-- A value of a document. -/
inductive Value where
  /-- The absent value. -/
  | null
  /-- A truth value. -/
  | bool (b : Bool)
  /-- A whole number of any size. -/
  | int (n : Int)
  /-- A binary64 number. -/
  | float (x : Float)
  /-- Text. -/
  | str (s : Text)
  /-- A list of values. -/
  | list (items : List Value)
  /-- An object; its fields are in order, and no name occurs twice. -/
  | object (fields : List (Text × Value))
  deriving Inhabited

/-- Named values in order. -/
abbrev Fields := List (Text × Value)

namespace Fields

/-- Replaces the field of that name in its place, or adds it at the end. -/
def put (fields : Fields) (name : Text) (value : Value) : Fields :=
  match fields with
  | [] => [(name, value)]
  | (n, v) :: rest => if n = name then (n, value) :: rest else (n, v) :: put rest name value

/-- Fields with every name once: a repeated name keeps its first place and its last value. -/
def ofList (pairs : List (Text × Value)) : Fields :=
  pairs.foldl (fun fields p ↦ put fields p.1 p.2) []

/-- The value of a field, absent fields counting as null. -/
def getD (fields : Fields) (name : Text) : Value := (fields.lookup name).getD .null

end Fields

namespace Value

/-- Whether a value counts as true: absent, zero and empty values do not. -/
def truthy : Value → Bool
  | null => false
  | bool b => b
  | int n => n != 0
  | float x => x != 0
  | str s => !s.isEmpty
  | list items => !items.isEmpty
  | object fields => !fields.isEmpty

/-- A value, or another one in place of a value that counts as false. -/
def orElse (v fallback : Value) : Value := if v.truthy then v else fallback

/-- Text, if the value is text. -/
def text? : Value → Option Text
  | str s => some s
  | _ => none

/-- The fields, if the value is an object. -/
def fields? : Value → Option Fields
  | object fields => some fields
  | _ => none

/-- A list of texts. -/
def strings (items : List Text) : Value := list (items.map str)

/-- Text, or null for nothing. -/
def ofText? : Option Text → Value
  | some s => str s
  | none => null

end Value

end TextArt
