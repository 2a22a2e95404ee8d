import TextArt.CommandLine.Words
import TextArt.Path

/-!
# Invocations

An invocation is a command line that makes sense: the name of a command and what the command needs,
each in its type. Whether shapes, fills and files exist is found out when it is carried out.
-/

namespace TextArt.CommandLine

/-- What is done with a drawing. -/
structure Sink where
  /-- The file that it is saved to, if any. -/
  file : Option Path
  /-- Whether it follows what the file holds. -/
  append : Bool
  /-- Whether it is shown row by row. -/
  animate : Bool
  /-- The name of the format in which it is shown and saved. -/
  format : Text
  deriving Repr

/-- Sizes that shapes may need. -/
structure Sizes where
  /-- The number of columns. -/
  width : Option Int
  /-- The number of rows. -/
  height : Option Int
  /-- The radius. -/
  radius : Option Int
  /-- The number of sides. -/
  sides : Option Int
  deriving Repr

/-- How a drawing is come by. -/
inductive Work where
  /-- A shape is drawn and filled. -/
  | draw (shape : Text) (sizes : Sizes) (filled : Bool) (char fill : Option Text)
    (direction : Text)
  /-- A text is drawn. -/
  | banner (text : Text) (char : Option Text) (width : Option Int)
  /-- A drawing is loaded and transformed. -/
  | transform (source : Path) (steps : List Text)
  /-- A recipe is run. -/
  | recipe (document : Path)
  /-- A composition is drawn, and its layers are listed on demand. -/
  | compose (document : Path) (layers : Bool)
  deriving Repr

/-- What a command line asks for. -/
inductive Invocation where
  /-- A drawing. -/
  | work (w : Work) (sink : Sink) (verbose : Bool)
  /-- The list of fills. -/
  | fills
  /-- How the commands are used. -/
  | help
  deriving Repr

/-- The documents that a work reads. -/
def Work.documents : Work → List Path
  | transform source _ => [source]
  | recipe document => [document]
  | compose document _ => [document]
  | _ => []

/-- The paths that an invocation names. -/
def Invocation.paths : Invocation → List Path
  | work w sink _ => w.documents ++ sink.file.toList
  | _ => []

/-! ## Options -/

/-- An option without a letter that takes a value. -/
def valued (name : Text) : Switch := ⟨name, none, true⟩

/-- An option without a letter that takes no value. -/
def plain (name : Text) : Switch := ⟨name, none, false⟩

/-- The option that asks how a command is used. -/
def helpSwitch : Switch := plain "help"

/-- The options of every command that makes a drawing. -/
def sinkSwitches : List Switch :=
  [⟨"output", some (.char 'o'), true⟩, plain "append", plain "animate",
    ⟨"format", some (.char 'f'), true⟩, ⟨"verbose", some (.char 'v'), false⟩, helpSwitch]

/-- The option for the character of a drawing. -/
def charSwitch : Switch := ⟨"char", some (.char 'c'), true⟩

/-- The options of a command besides those of every drawing. -/
def ownSwitches (command : String) : List Switch :=
  match command with
  | "draw" =>
    [⟨"shape", some (.char 's'), true⟩, valued "width", valued "height", valued "radius",
      valued "sides", plain "filled", charSwitch, ⟨"fill-pattern", some (.char 'p'), true⟩,
      valued "direction"]
  | "banner" => [charSwitch, valued "width"]
  | "transform" => [valued "step"]
  | "compose" => [plain "layers"]
  | _ => []

/-! ## Reading -/

/-- The sink that options describe. -/
def Words.sink (w : Words) : Sink where
  file := (w.value? "output").map Path.ofText
  append := w.has "append"
  animate := w.has "animate"
  format := (w.value? "format").getD "text"

/-- The only operand, if there is just one. -/
def Words.operand? (w : Words) : Option Text :=
  match w.operands with
  | [operand] => some operand
  | _ => none

/-- The work that the words after a command describe, if they make sense. -/
def Words.work? (w : Words) (command : String) : Option Work :=
  match command with
  | "draw" => do
    let shape ← w.value? "shape"
    let width ← w.whole? "width"
    let height ← w.whole? "height"
    let radius ← w.whole? "radius"
    let sides ← w.whole? "sides"
    if w.operands.isEmpty then
      some (.draw shape ⟨width, height, radius, sides⟩ (w.has "filled") (w.value? "char")
        (w.value? "fill-pattern") ((w.value? "direction").getD "horizontal"))
    else none
  | "banner" => do
    let text ← w.operand?
    let width ← w.whole? "width"
    some (.banner text (w.value? "char") width)
  | "transform" => do
    let source ← w.operand?
    let steps := w.values "step"
    if steps.isEmpty then none else some (.transform (.ofText source) steps)
  | "recipe" => w.operand?.map fun path ↦ .recipe (.ofText path)
  | "compose" => w.operand?.map fun path ↦ .compose (.ofText path) (w.has "layers")
  | _ => none

namespace Invocation

/-- The commands that make a drawing. -/
def workCommands : List String := ["draw", "banner", "transform", "recipe", "compose"]

/-- Reads a command and the words after it. -/
def readCommand? (command : String) (words : List Text) : Option Invocation :=
  if workCommands.contains command then do
    let w ← Words.read? (ownSwitches command ++ sinkSwitches) words
    if w.has "help" then some .help
    else
      let work ← w.work? command
      some (.work work w.sink (w.has "verbose"))
  else if command = "decorators" then do
    let w ← Words.read? [helpSwitch] words
    if w.has "help" then some .help
    else if w.operands.isEmpty then some .fills
    else none
  else none

/-- Reads a command line; nothing if it makes no sense. -/
def read? : List Text → Option Invocation
  | [] => none
  | first :: rest =>
    let (command?, words) := if first = "--" then (rest.head?, rest.drop 1) else (some first, rest)
    match command?.bind Text.toString? with
    | none => none
    | some command =>
      if first = "--help" then some .help else readCommand? command words

end Invocation

end TextArt.CommandLine
