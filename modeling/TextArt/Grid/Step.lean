import TextArt.Grid.Request
import TextArt.Number.Reading

/-!
# Steps in one line

A transform step can be written as `KIND:VALUE`: `rotate:90`, `mirror:horizontal`, `scale:0.5`. The
value is everything after the first colon. Reading a step settles its kind and the form of its
value; whether the value is one that the transform has is found out when the step is carried out.
-/

namespace TextArt

/-- A step as it is written. -/
inductive WrittenStep where
  /-- A turn by a number of degrees. -/
  | rotate (degrees : Int)
  /-- A reflection along an axis. -/
  | mirror (axis : Text)
  /-- A change of size by a factor. -/
  | scale (factor : Float)

namespace WrittenStep

/-- Reads a step. -/
def read (text : Text) : Outcome WrittenStep :=
  let (kind, tail) := text.toList.span (· ≠ .char ':')
  let value := tail.drop 1
  if value.isEmpty then .error (.badStepForm text)
  else
    match (Text.ofList kind).toString? with
    | some "rotate" =>
      match readWhole value with
      | .number n => .ok (rotate n)
      | _ => .error (.badStepValue text)
    | some "scale" =>
      match readReal? value with
      | some x => .ok (scale x)
      | none => .error (.badStepValue text)
    | some "mirror" => .ok (mirror (Text.ofList value))
    | _ => .error (.unknownTransform (.str (.ofList kind)))

/-- The transform of a step, if it has one. -/
def transform : WrittenStep → Outcome Transform
  | rotate degrees => (Rotation.ofRequest (.int degrees)).map .rotate
  | mirror axis => (Axis.ofRequest (.str axis)).map .mirror
  | scale factor => (Scaling.ofRequest (.float factor)).map .scale

/-- A step as a document gives it. -/
def toValue : WrittenStep → Value
  | rotate degrees =>
    .object [("type", .str "rotate"), ("params", .object [("degrees", .int degrees)])]
  | mirror axis => .object [("type", .str "mirror"), ("params", .object [("axis", .str axis)])]
  | scale factor =>
    .object [("type", .str "scale"), ("params", .object [("factor", .float factor)])]

end WrittenStep

/-- Carries out steps in order; the first one that cannot be read or carried out is the fault. -/
def Grid.applySteps (g : Grid) (steps : List Text) : Outcome Grid :=
  steps.foldlM (fun g text ↦ do
    let step ← WrittenStep.read text
    let t ← step.transform
    .ok (g.apply t)) g

end TextArt
