import TextArt.CommandLine.Invocation
import TextArt.Console.Notice
import TextArt.Console.Table
import TextArt.Export.Files
import TextArt.Export.Html
import TextArt.Export.Record
import TextArt.Grid.Step
import TextArt.Recipe.Composition
import TextArt.Recipe.Run

/-!
# Carrying out invocations

An invocation makes a drawing, shows it and saves it, in this order: what has been shown stays shown
when saving fails. Failures that are the user's to mend become an error message and the status 1;
all others are handed on. How the console reads the markup of notices is a parameter of a run.
-/

namespace TextArt.CommandLine

/-! ## What a run depends on and what it leaves -/

/-- What makes a run different from all others. -/
structure Stamp where
  /-- The time of records. -/
  time : Text
  /-- What makes names unique. -/
  unique : Text
  deriving Repr

/-- What a run depends on besides files. -/
structure Environment where
  /-- The settings, the fills and the random words. -/
  context : Script.Context
  /-- The time, and what makes names unique. -/
  stamp : Stamp
  /-- How many lists and objects of JSON inside each other there is room for. -/
  room : Nat
  /-- What the console shows of a notice in its markup; nothing if it refuses the markup. -/
  markup : Text → Option Text

/-- What has been written so far. -/
structure Session where
  /-- What has been written to the console. -/
  output : Text
  /-- What has been noted besides. -/
  notices : Text
  /-- The files. -/
  store : FileStore

/-- A part of a run; what it has written stays when it fails. -/
abbrev Action := ExceptT Failure (StateM Session)

/-- What a run leaves besides files. -/
structure Report where
  /-- The status with which it ends. -/
  status : Nat
  /-- What it writes to the console. -/
  output : Text
  /-- What it notes besides. -/
  notices : Text
  deriving DecidableEq, Repr

/-- What the console shows of what a run writes to it. -/
def Report.screen (r : Report) : Text := Console.shown r.output

/-- Writes a text to the console and ends the line. The console takes nothing of a text that cannot
be encoded. -/
def showText (text : Text) : Action Unit :=
  if text.isEncodable then modify fun s ↦ { s with output := s.output ++ text ++ "\n" }
  else throw .unencodable

/-- A text with an escape in the place of every code point that is no character. -/
def escaped (text : Text) : Text :=
  .ofList (text.toList.flatMap fun c ↦
    match c with
    | .char c => [.char c]
    | half => .char '\\' :: .char 'u' :: Text.Quoted.hexDigits 4 half.toNat)

/-- Notes a line. -/
def note (line : Text) : Action Unit :=
  modify fun s ↦ { s with notices := s.notices ++ escaped line ++ "\n" }

/-! ## Making drawings -/

/-- A drawing and what its record says about it. -/
structure Drawing where
  /-- The drawing. -/
  grid : Grid
  /-- The metadata of its record. -/
  about : Fields
  /-- The shapes that were placed on it. -/
  layers : List (Layer Grid)

/-- A whole number that may be left out, as a value. -/
def optionalInt (n : Option Int) : Value := (n.map Value.int).getD .null

/-- A text that is given and not empty. -/
def someText? (s : Option Text) : Option Text := s.filter fun s ↦ !s.isEmpty

/-- The shapes that are drawn on demand, with the sizes that each of them has. -/
def shapeSizes (sizes : Sizes) : List (Text × Fields) :=
  [("rectangle", [("width", optionalInt sizes.width), ("height", optionalInt sizes.height)]),
    ("circle", [("radius", optionalInt sizes.radius)]),
    ("polygon", [("sides", optionalInt sizes.sides), ("radius", optionalInt sizes.radius)])]

/-- Draws and fills a shape. Only a gradient has a direction. -/
def drawShape (context : Script.Context) (shape : Text) (sizes : Sizes) (filled : Bool)
    (char fill : Option Text) (direction : Text) : Outcome Drawing := do
  let shapes := shapeSizes sizes
  match shapes.lookup shape with
  | none => .error (.unknownShape (.str shape) (shapes.map Prod.fst))
  | some given =>
    let char := (someText? char).getD context.settings.render.defaultChar
    let ink : Fields := [("filled", .bool filled), ("char", .str char)]
    let params ← ShapeParams.ofUser shape (given ++ ink)
    let drawn ← params.draw
    let filled ← match someText? fill with
      | none => .ok drawn
      | some name =>
        let given : Fields := if name = "gradient" then [("direction", .str direction)] else []
        context.fills.apply (context.fillSettings 0) (.str name) drawn given
    .ok ⟨filled, [("shape", .str shape), ("params", .object params.dump)], []⟩

/-- Draws a text, with another character and in the middle of a width on demand. -/
def drawBanner (text : Text) (char : Option Text) (width : Option Int) : Outcome Drawing := do
  let drawn ← Shape.requestBanner .standard (.str text)
  let inked ← match someText? char with
    | none => .ok drawn
    | some char => do
      let cell ← (Value.str char).cell
      .ok ((Grid.blank drawn.width drawn.height drawn.width_pos drawn.height_pos).overlay drawn
        0 0 (some cell) true)
  let placed := match width with
    | none => inked
    | some n => if n = 0 then inked else inked.centerHorizontally n
  .ok ⟨placed, [("shape", .str "text"), ("text", .str text)], []⟩

/-- Makes the drawing of a work, with room for the given number of lists and objects of a document
inside each other. -/
def Work.make (context : Script.Context) (room : Nat) (store : FileStore) :
    Work → Outcome Drawing
  | draw shape sizes filled char fill direction =>
    drawShape context shape sizes filled char fill direction
  | banner text char width => drawBanner text char width
  | transform source steps => do
    let loaded ← store.loadGrid source
    let g ← loaded.applySteps steps
    .ok ⟨g, [("source", .str source.text), ("steps", .strings steps)], []⟩
  | recipe document => do
    let text ← store.loadDocument document
    let r ← Recipe.parse context.fills (.text room text)
    let result ← (r.run context).mapError Recipe.Halt.cause
    .ok ⟨result.output, [("recipe", .str document.text), ("output", .str r.output)], []⟩
  | compose document _ => do
    let text ← store.loadDocument document
    let c ← Composition.parse context.fills (.text room text)
    let canvas ← c.draw context
    .ok ⟨canvas.canvas, [("recipe", .str document.text)], canvas.layers⟩

/-! ## Showing and saving -/

/-- The text of a drawing in the format of the given name. -/
def Drawing.render (d : Drawing) (room : Nat) (format time : Text) : Outcome Text :=
  match format.toString? with
  | some "json" => d.grid.toJson room d.about time
  | some "html" => .ok d.grid.toHtml
  | some "text" => .ok d.grid.toText
  | _ => .error (.unknownFormat format)

/-- The pause of the given length in seconds. -/
def seconds (milliseconds : Int) : Outcome Float :=
  let x := floatOfRatio milliseconds 1000
  if x.isInf then .error .overflow else .ok x

/-- Shows a grid row by row. -/
def animate (settings : RenderSettings) (g : Grid) : Action Unit := do
  let delay ← (seconds settings.streamDelayMs : Outcome Float)
  let events ← (g.delayedStream (.float delay) (g.height + 1) : Outcome (List StreamEvent))
  for event in events do
    match event with
    | .row _ text _ => showText text
    | .complete _ => pure ()

/-- What the console shows of a text in markup. -/
def Environment.shownText (env : Environment) (markup : Text) : Outcome Text :=
  match env.markup markup with
  | some s => .ok s
  | none => .error (.badMarkup markup)

/-- Saves a text and notes where. -/
def saveText (env : Environment) (file : Path) (text : Text) (append : Bool) : Action Unit := do
  let s ← get
  let (outcome, store) :=
    s.store.save env.context.settings.files env.stamp.unique file.text text append
  set { s with store }
  let path ← outcome
  let shown ← env.shownText ("Saved " ++ path.text)
  for line in Console.wrap Console.columns shown do
    note line

/-- Shows a drawing and saves it on demand. -/
def emit (env : Environment) (sink : Sink) (d : Drawing) : Action Unit := do
  let text ← d.render env.room sink.format env.stamp.time
  if sink.animate && sink.format == "text" then animate env.context.settings.render d.grid
  else showText text
  match sink.file with
  | none => pure ()
  | some file => saveText env file text sink.append

/-! ## Tables -/

/-- Shows a table, whose cells are in markup. -/
def showTable (env : Environment) (t : Console.Table) : Action Unit := do
  let rows ← (t.rows.mapM (·.mapM env.shownText) : Outcome (List (List Text)))
  for line in { t with rows := rows }.lines do
    showText line

/-- The table of the shapes on a canvas. -/
def layerTable (layers : List (Layer Grid)) : Console.Table where
  title := "Layers"
  columns := [⟨"#", .right⟩, ⟨"Size", .left⟩, ⟨"Anchor", .left⟩, ⟨"Origin (row, col)", .left⟩]
  rows := layers.zipIdx.map fun (l, i) ↦
    [toString i, toString l.shape.width ++ "x" ++ toString l.shape.height, l.anchor.name,
      "(" ++ l.row.toValue.plain ++ ", " ++ l.col.toValue.plain ++ ")"]

/-- Whether the origin of a layer has no more digits than are written. -/
def isListed (l : Layer Grid) : Bool :=
  [l.row, l.col].all fun n ↦ (n.int?.map Text.isWritable).getD true

/-- Shows the table of the shapes on a canvas, if it can be written. -/
def showLayers (env : Environment) (layers : List (Layer Grid)) : Action Unit :=
  if layers.all isListed then showTable env (layerTable layers) else throw .badValue

/-- The table of all fills. -/
def fillTable (fills : FillRegistry) : Console.Table where
  title := "Fill patterns"
  columns := [⟨"Name", .left⟩, ⟨"Description", .left⟩]
  rows := fills.entries.map fun (name, fill) ↦ [name, fill.description]


/-! ## Running -/

/-- How the commands are used. -/
def usage : Text := Text.intercalate "\n"
  ["draw --shape SHAPE [--width N] [--height N] [--radius N] [--sides N] [--filled]",
    "     [--char C] [--fill-pattern NAME] [--direction NAME]",
    "banner TEXT [--char C] [--width N]",
    "transform FILE --step KIND:VALUE ...",
    "recipe FILE",
    "compose FILE [--layers]",
    "decorators",
    "Drawings take [--output FILE] [--append] [--animate] [--format text|json|html] [--verbose]"]

/-- Makes the drawing of a work, shows it and saves it. -/
def Work.perform (env : Environment) (w : Work) (sink : Sink) : Action Unit := do
  let s ← get
  let d ← w.make env.context env.room s.store
  emit env sink d
  match w with
  | compose _ true => showLayers env d.layers
  | _ => pure ()

/-- Looks a path of the command line up before anything else is done. What it leads to, if
anything, has to be readable. -/
def checkPath (store : FileStore) (p : Path) : Outcome Unit :=
  match store.locate p with
  | .error .unencodable => .error .unencodable
  | .error .nul => .error .badValue
  | .error _ => .ok ()
  | .ok l =>
    if (store.lookup? l).isSome && !store.allows l .read then .error (.notReadable p.text)
    else .ok ()

/-- Carries out an invocation whose paths have been looked up. -/
def Invocation.act (env : Environment) : Invocation → Action Unit
  | work w sink _ => w.perform env sink
  | fills => showTable env (fillTable env.context.fills)
  | help => showText usage

/-- Carries out an invocation. -/
def Invocation.perform (env : Environment) (i : Invocation) : Action Unit := do
  let s ← get
  let _ ← (i.paths.mapM (checkPath s.store) : Outcome (List Unit))
  i.act env

/-- Carries out an invocation and reports on it. A path that may not be read makes the command line
one that cannot be used. -/
def Invocation.run (env : Environment) (store : FileStore) (i : Invocation) :
    Outcome Report × FileStore :=
  let (outcome, s) := (i.perform env).run.run ⟨"", "", store⟩
  match outcome with
  | .ok () => (.ok ⟨0, s.output, s.notices⟩, s.store)
  | .error (.notReadable p) =>
    (.ok ⟨2, s.output, s.notices ++ escaped (Failure.notReadable p).message ++ "\n"⟩, s.store)
  | .error f =>
    if f.isReported then
      match env.markup (Console.escape ("Error: " ++ f.message)) with
      | some shown => (.ok ⟨1, s.output, s.notices ++ escaped shown ++ "\n"⟩, s.store)
      | none => (.error (.badMarkup f.message), s.store)
    else (.error f, s.store)

end TextArt.CommandLine
