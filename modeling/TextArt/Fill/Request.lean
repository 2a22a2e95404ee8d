import TextArt.Fill.Pattern
import TextArt.Request.Paint
import TextArt.Text.LetterCase

/-!
# Requests to fill

Reads the parameters of a fill from named values and applies it. A parameter may be left out, and
each pattern has its own defaults.
-/

namespace TextArt

/-- What fills depend on besides their parameters: the settings, and the random words that a fill
without a seed starts from. -/
structure FillSettings extends RenderSettings where
  /-- The random words. -/
  entropy : List UInt32

/-- The settings of a user who has changed nothing, with the given random words. -/
def FillSettings.standardFrom (entropy : List UInt32) : FillSettings :=
  ⟨Settings.standard.render, entropy⟩

namespace Pattern

/-- The names of the parameters of a pattern. -/
def parameters : Pattern → List Text
  | solid => ["char"]
  | dots => ["char", "density", "seed"]
  | gradient => ["direction", "density_string", "reverse"]
  | diagonal => ["char"]
  | crosshatch => ["forward", "back"]
  | edges => ["char"]

/-- Whether a pattern takes a parameter; the edges take any and use only their character. -/
def takes : Pattern → Text → Bool
  | edges, _ => true
  | p, name => p.parameters.contains name

/-- The characters of a ramp, each as a text. A ramp that is no text has one for each of its
parts, the first character of the part's text. -/
def rampOf (v : Value) : Outcome (List Text) :=
  match v with
  | .str s => .ok (s.toList.map Text.singleton)
  | v => do
    let parts ← v.parts
    match parts.mapM Value.scalarText? with
    | some texts => .ok (texts.map fun t ↦ Text.ofList (t.toList.take 1))
    | none => .error .badValue

/-- Whether both numbers are written as binary64 numbers once they stand together. -/
def commonForm : Value → Value → Value × Value
  | .float x, .int n => (.float x, .float (floatOfInt n))
  | .int n, .float y => (.float (floatOfInt n), .float y)
  | .bool b, .int n => (.int (if b then 1 else 0), .int n)
  | .int n, .bool b => (.int n, .int (if b then 1 else 0))
  | .float x, .bool b => (.float x, .float (if b then 1 else 0))
  | .bool b, .float y => (.float (if b then 1 else 0), .float y)
  | a, b => (a, b)

/-- The words that dots start from: those of the seed that is given, or of the one in the settings,
or else the random ones. -/
def dotSeed (settings : FillSettings) (given : Value) : Outcome (List UInt32) :=
  match given with
  | .null =>
    match settings.dotsSeed with
    | some n => Scatter.seedOfInt n
    | none => .ok settings.entropy
  | v => Scatter.seedOf v

/-- Dots of a density. -/
def requestDots (settings : FillSettings) (g : Grid) (density seed char : Value) :
    Outcome Grid := do
  let limit ← density.number
  if (Number.real 0).le limit && limit.le (.real 1) then
    let words ← dotSeed settings seed
    g.requestInk (dotMask g.width (Scatter.field words g.width g.height) limit) char
  else .error (.badDensity density)

/-- The ramp of a gradient: the one that is given, or else the one in the settings. -/
def rampOr (settings : FillSettings) (given : Value) : Value :=
  match given with
  | .null => .str settings.densityRamp
  | v => v

/-- A gradient in a direction. -/
def requestGradient (settings : FillSettings) (g : Grid) (ramp direction reverse : Value) :
    Outcome Grid :=
  let ramp := rampOr settings ramp
  if ramp.truthy then
    match direction.text?.bind Direction.ofName? with
    | none => .error (.unknownDirection direction)
    | some way => do
      let chars ← rampOf ramp
      paintGradient g chars way reverse.truthy
  else .error (.emptyRamp ramp)

/-- Two texts in turn. -/
def requestCrosshatch (g : Grid) (forward back : Value) : Outcome Grid :=
  let (forward, back) := commonForm forward back
  match forward.scalarText?, back.scalarText? with
  | some forward, some back => paintCrosshatch g forward back
  | _, _ => .error .badValue

/-- The first and the last row; the character is looked at only if there is something to paint. -/
def requestEdges (g : Grid) (char : Value) : Outcome Grid :=
  let mask := edgeMask g.height
  if g.selectedCount mask = 0 then .ok g
  else do
    let c ← char.cell
    .ok (g.paintChar mask c)

/-- Paints a grid with a pattern; the parameters are among those the pattern takes. -/
def paint (settings : FillSettings) (g : Grid) (params : Fields) : Pattern → Outcome Grid
  | solid => g.requestInk (fun _ _ ↦ true) (params.argument "char" (.str "*"))
  | dots =>
    requestDots settings g (params.argument "density" (.float 1)) (params.argument "seed" .null)
      (params.argument "char" (.str "."))
  | gradient =>
    requestGradient settings g (params.argument "density_string" .null)
      (params.argument "direction" (.str "horizontal")) (params.argument "reverse" (.bool false))
  | diagonal => g.requestInk oddCell (params.argument "char" (.str "/"))
  | crosshatch =>
    requestCrosshatch g (params.argument "forward" (.str "/")) (params.argument "back" (.str "\\"))
  | edges => requestEdges g (params.argument "char" (.str "+"))

end Pattern

namespace Fill

/-- Applies a fill to a grid; the parameters have the names that the pattern uses. -/
def apply (settings : FillSettings) (fill : Fill) (g : Grid) (params : Fields) : Outcome Grid :=
  if params.any (fun p ↦ p.1 == "grid" || !fill.pattern.takes p.1) then .error .wrongType
  else fill.pattern.paint settings g params

end Fill

/-! ## Fills by name -/

/-- Fills by name, in the order in which the names were first used. -/
structure FillRegistry where
  /-- The names and their fills. -/
  entries : List (Text × Fill)

namespace FillRegistry

/-- A registry without fills. -/
def empty : FillRegistry := ⟨[]⟩

/-- Replaces the fill of a name in its place, or adds it at the end. -/
def insert (entries : List (Text × Fill)) (name : Text) (fill : Fill) :
    List (Text × Fill) :=
  match entries with
  | [] => [(name, fill)]
  | e :: rest => if e.1 = name then (name, fill) :: rest else e :: insert rest name fill

/-- Registers a fill under a name, or under its own if the name is empty; one of them has to be
there. -/
def register (r : FillRegistry) (fill : Fill) (name : Text) : Outcome FillRegistry :=
  let key := if name.isEmpty then fill.name else name
  if key.isEmpty then .error .namelessFill else .ok ⟨insert r.entries key fill⟩

/-- The registry with the fills of the library. -/
def standard : FillRegistry := ⟨Fill.standard.map fun f ↦ (f.name, f)⟩

/-- All names, in order. -/
def names (r : FillRegistry) : List Text := r.entries.map Prod.fst

/-- The fill of a name. -/
def find? (r : FillRegistry) (name : Text) : Option Fill := r.entries.lookup name

/-- The fill of a name that a request gives. -/
def get (r : FillRegistry) (name : Value) : Outcome Fill :=
  if name.isName then
    match name.text?.bind r.find? with
    | some fill => .ok fill
    | none => .error (.unknownFill name r.names)
  else .error .wrongType

/-- A parameter name with underscores in place of capitals: every capital after the first character
gets one before it, and all letters become small. -/
def snakeCase (name : Text) : Text :=
  match name.toList with
  | [] => ""
  | c :: rest =>
    Text.lower (Text.ofList (c :: rest.flatMap fun c ↦
      if .char 'A' ≤ c ∧ c ≤ .char 'Z' then [.char '_', c] else [c]))

/-- Parameters under the names that patterns use. -/
def converted (params : Fields) : Fields := Fields.ofList (params.map fun p ↦ (snakeCase p.1, p.2))

/-- Applies a named fill to a grid. Parameter names may have capitals in place of underscores; a
name that the fill does not take is refused, and so is the grid as a parameter. -/
def apply (r : FillRegistry) (settings : FillSettings) (name : Value) (g : Grid)
    (params : Fields) : Outcome Grid :=
  if params.any (fun p ↦ p.1 == "grid" || p.1 == "name") then .error .wrongType
  else do
    let fill ← r.get name
    let params := converted params
    if (params.lookup ("grid" : Text)).isSome then .error (.repeatedParameter name "grid" params)
    else
      match params.find? fun p ↦ !fill.pattern.takes p.1 with
      | some (unknown, _) => .error (.unexpectedParameter name unknown params)
      | none => fill.pattern.paint settings g params

end FillRegistry

end TextArt
