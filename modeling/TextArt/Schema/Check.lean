import TextArt.Failure

/-!
# Checking documents

A check either gives a typed result or lists every problem it finds, each with the path that leads
to it. Records are checked field by field in a fixed order; after their fields come the names that
do not belong to them, in the order of the document.
-/

namespace TextArt.Schema

/-- What is wrong with a part of a document. -/
structure Problem where
  /-- The names and numbers that lead to the part, from the outside. -/
  path : List Text
  /-- What is wrong. -/
  message : Text
  deriving DecidableEq, Repr

/-- A problem in words. -/
def Problem.text (p : Problem) : Text :=
  (if p.path.isEmpty then ("<document>" : Text) else Text.intercalate "." p.path) ++
    ": " ++ p.message

/-- A result, or everything that is wrong. -/
abbrev Checked (α : Type) := Except (List Problem) α

/-- A single problem at the part itself. -/
def fail {α : Type} (message : Text) : Checked α := .error [⟨[], message⟩]

/-- The problems of a part, as seen from what holds it. -/
def under {α : Type} (segment : Text) (c : Checked α) : Checked α :=
  c.mapError fun problems ↦ problems.map fun p ↦ { p with path := segment :: p.path }

/-- Both results, or the problems of the first and then those of the second. -/
def both {α β : Type} (a : Checked α) (b : Checked β) : Checked (α × β) :=
  match a, b with
  | .ok x, .ok y => .ok (x, y)
  | .error p, .ok _ => .error p
  | .ok _, .error q => .error q
  | .error p, .error q => .error (p ++ q)

/-- All results of a list of checks, or the problems of all of them. -/
def every {α : Type} : List (Checked α) → Checked (List α)
  | [] => .ok []
  | c :: rest => (both c (every rest)).map fun (x, xs) ↦ x :: xs

/-! ## Records -/

/-- The name of a field in documents and a second spelling that is accepted for it. -/
structure Key where
  /-- The name in documents. -/
  wire : Text
  /-- The second spelling. -/
  plain : Text
  deriving DecidableEq, Repr

/-- A name with one spelling. -/
def Key.of (name : Text) : Key := ⟨name, name⟩

/-- The spelling that a document uses for a field, and its value; the name in documents counts if
both spellings occur. -/
def Key.find? (k : Key) (fields : Fields) : Option (Text × Value) :=
  match fields.lookup k.wire with
  | some v => some (k.wire, v)
  | none => (fields.lookup k.plain).map fun v ↦ (k.plain, v)

/-- The checked value of a field that has to be there. -/
def required {α : Type} (fields : Fields) (k : Key) (check : Value → Checked α) : Checked α :=
  match k.find? fields with
  | some (spelling, v) => under spelling (check v)
  | none => under k.wire (fail "Field required")

/-- The checked value of a field, or a default where there is none. -/
def optional {α : Type} (fields : Fields) (k : Key) (default : α) (check : Value → Checked α) :
    Checked α :=
  match k.find? fields with
  | some (spelling, v) => under spelling (check v)
  | none => .ok default

/-- A problem for every name that belongs to none of the fields. -/
def noOthers (fields : Fields) (keys : List Key) : Checked Unit :=
  let used := keys.filterMap fun k ↦ (k.find? fields).map Prod.fst
  match fields.filter fun f ↦ !used.contains f.1 with
  | [] => .ok ()
  | others => .error (others.map fun f ↦ ⟨[f.1], "Extra inputs are not permitted"⟩)

/-- The complaint about a text that would have to be read character by character, but holds a code
point that is no character. -/
def unreadable : Text :=
  "Input should be a valid string, unable to parse raw data as a unicode string"

/-- A text that has to be read character by character. -/
def decoded (s : Text) : Checked Text := if s.isEncodable then .ok s else fail unreadable

/-- The fields of a record, whose names have to be read. A name that cannot be read is the only
problem of its record. -/
def readable (fields : Fields) : Checked Fields :=
  if fields.all fun f ↦ f.1.isEncodable then .ok fields else fail unreadable

/-- The fields of a record of the given kind. -/
def record (kind : Text) (v : Value) : Checked Fields :=
  match v with
  | .object fields => readable fields
  | _ => fail ("Input should be a valid dictionary or instance of " ++ kind)

/-- The fields of an object whose names are free. -/
def anyObject (v : Value) : Checked Fields :=
  match v with
  | .object fields => .ok fields
  | _ => fail "Input should be a valid dictionary"

/-- The checked items of a list, the path of each being its number. -/
def listOf {α : Type} (check : Value → Checked α) (v : Value) : Checked (List α) :=
  match v with
  | .list items => every (items.zipIdx.map fun (item, i) ↦ under (toString i) (check item))
  | _ => fail "Input should be a valid list"

/-- The outcome of a check for a document of the given kind. -/
def Checked.outcome {α : Type} (subject : Text) (c : Checked α) : Outcome α :=
  c.mapError fun problems ↦ .invalidDocument subject (problems.map Problem.text)

end TextArt.Schema
