import TextArt.Fill.Request
import TextArt.Schema.Scalar

/-!
# Checked fills

The fill of a shape as documents give it: the name of a registered fill, and its parameters. The
parameters of the fills that come with the library are checked; those of other fills are passed on
as they are. Only parameters that are given are kept.
-/

namespace TextArt

open Schema

/-- A fill and its parameters, or none. -/
structure FillSpec where
  /-- The name of the fill. -/
  pattern : Option Text
  /-- The parameters, under the names that patterns use. -/
  params : Fields

namespace FillSpec

/-- A check whose result goes back into a document. -/
def valued {α : Type} (toValue : α → Value) (check : Value → Checked α) (v : Value) :
    Checked Value :=
  (check v).map toValue

/-- A character as a value. -/
def charValue (c : CodePoint) : Value := .str (Text.singleton c)

/-- A value or null as a value. -/
def orNull {α : Type} (toValue : α → Value) : Option α → Value
  | some x => toValue x
  | none => .null

/-- A character. -/
def charField (name : Text) : Key × (Value → Checked Value) :=
  (.of name, valued (fun c : Char ↦ charValue c) oneChar)

/-- The parameters that a fill of the library has in documents, and how each is checked. -/
def fields? (name : Text) : Option (List (Key × (Value → Checked Value))) :=
  match name.toString? with
  | some "solid" => some [charField "char"]
  | some "dots" => some [
      charField "char",
      (.of "density", valued Value.float unitFloat),
      (.of "seed", valued (orNull Value.int) (nullable anyInt))]
  | some "gradient" => some [
      (.of "direction", valued Value.str (oneOf
        [("horizontal", "horizontal"), ("vertical", "vertical"), ("radial", "radial")])),
      (⟨"densityString", "density_string"⟩, valued (orNull Value.str) (nullable someText)),
      (.of "reverse", valued Value.bool anyBool)]
  | some "diagonal" => some [charField "char"]
  | some "crosshatch" => some [charField "forward", charField "back"]
  | _ => none

/-- The given parameters among some fields, each under its second spelling. -/
def given (params : Fields) (fields : List (Key × (Value → Checked Value))) : Checked Fields := do
  let params ← readable params
  let (found, _) ← both (every (fields.map fun (k, check) ↦
      optional params k none fun v ↦ (check v).map fun v ↦ some (k.plain, v)))
    (noOthers params (fields.map Prod.fst))
  .ok (found.filterMap id)

/-- Checks a fill and its parameters. -/
def check (registry : FillRegistry) (pattern : Option Text) (params : Fields) :
    Checked FillSpec :=
  match pattern with
  | none =>
    if params.isEmpty then .ok ⟨none, []⟩
    else fail "Value error, fillParams given without a fillPattern"
  | some name =>
    if (registry.find? name).isNone then
      fail (legible ("Value error, Unknown fill pattern: " ++ name ++ ". Available: "
        ++ Text.intercalate ", " registry.names))
    else
      match fields? name with
      | none => .ok ⟨some name, params⟩
      | some fields => (given params fields).map fun params ↦ ⟨some name, params⟩

/-- Applies the fill, if there is one. -/
def apply (registry : FillRegistry) (settings : FillSettings) (spec : FillSpec) (g : Grid) :
    Outcome Grid :=
  match spec.pattern with
  | none => .ok g
  | some name =>
    if name.isEmpty then .ok g else registry.apply settings (.str name) g spec.params

/-- The fields of a document that name the fill. -/
def dump (spec : FillSpec) : Fields :=
  [("fillPattern", .ofText? spec.pattern), ("fillParams", .object spec.params)]

end FillSpec

end TextArt
