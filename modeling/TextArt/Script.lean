import TextArt.Composite
import TextArt.Export.Record
import TextArt.Fill.Request
import TextArt.Shape.Request
import TextArt.Stream

/-!
# Scripts

A script is a list of commands on named grids. The workspace keeps every grid that has been made as
a numbered piece, and names lead to numbers: two names may lead to the same piece, a composite
remembers the numbers of the pieces that were placed on it, and a stream reads its piece as it is
when a row is asked for.

A command that fails changes nothing.
-/

namespace TextArt.Script

/-! ## Workspaces -/

/-- A grid of a workspace. -/
inductive Piece where
  /-- A grid. -/
  | plain (grid : Grid)
  /-- A canvas with a log of the pieces placed on it. -/
  | composite (canvas : Composite Nat)

/-- The grid of a piece as it looks now. -/
def Piece.grid : Piece → Grid
  | plain g => g
  | composite c => c.canvas

/-- The piece with another grid of the same size in its place; the log stays. -/
def Piece.withGrid (p : Piece) (g : Grid) : Piece :=
  match p with
  | plain _ => plain g
  | composite c => composite { c with canvas := g }

/-- What a script works on. -/
structure Workspace where
  /-- All pieces, in the order in which they were made. -/
  pieces : List Piece
  /-- The names of pieces, the latest use of a name first. -/
  names : List (Text × Nat)
  /-- The streams under way: the piece of each, and how far it is. -/
  streams : List (Text × Nat × StreamState)

namespace Workspace

/-- A workspace without pieces. -/
def empty : Workspace := ⟨[], [], []⟩

/-- The number and the piece of a name. -/
def find? (w : Workspace) (name : Text) : Option (Nat × Piece) := do
  let i ← w.names.lookup name
  let p ← w.pieces[i]?
  some (i, p)

/-- Gives a name to a piece. -/
def bind (w : Workspace) (name : Option Text) (i : Nat) : Workspace :=
  match name with
  | some name => { w with names := (name, i) :: w.names }
  | none => w

/-- Adds a piece and gives it a name. -/
def add (w : Workspace) (name : Option Text) (p : Piece) : Workspace :=
  ({ w with pieces := w.pieces ++ [p] } : Workspace).bind name w.pieces.length

/-- Puts a piece in the place of another. -/
def replace (w : Workspace) (i : Nat) (p : Piece) : Workspace :=
  { w with pieces := w.pieces.set i p }

end Workspace

/-! ## Commands -/

/-- One command. -/
structure Command where
  /-- What to do. -/
  action : String
  /-- The name of the grid to do it with. -/
  target : Option Text
  /-- The name for what is made. -/
  name : Option Text
  /-- Whether a canvas with a log is to be made. -/
  composite : Bool
  /-- The other arguments. -/
  arguments : Fields

/-- What a command answers. -/
inductive Result where
  /-- A value. -/
  | value (v : Value)
  /-- A new grid. -/
  | made (p : Piece)
  /-- The grid that the command was given. -/
  | itself
  /-- A box around a drawing. -/
  | bounds (b : Grid.Bounds)
  /-- The log of a canvas, with the pieces as they look now. -/
  | layers (log : List (Layer Piece))
  /-- All events of a stream, and how many they are. -/
  | rows (events : List StreamEvent)
  /-- Some events of a stream. -/
  | events (events : List StreamEvent)
  /-- The next event of a stream. -/
  | event (e : Option StreamEvent)

/-- Why a command is turned down. -/
inductive Trouble where
  /-- No grid has this name. -/
  | unknownName
  /-- The operation fails. -/
  | failed (cause : Failure)

/-- What a command does. -/
inductive Effect where
  /-- It only answers. -/
  | answer (r : Result)
  /-- It makes a piece. -/
  | make (p : Piece)
  /-- It changes its piece. -/
  | change (p : Piece) (r : Result)
  /-- It starts a stream of its piece. -/
  | start

/-- What commands depend on besides the workspace. -/
structure Context where
  /-- The settings. -/
  settings : Settings
  /-- The fills. -/
  fills : FillRegistry
  /-- The random words that fills without a seed start from, by the number of the command. -/
  entropy : Nat → List UInt32

namespace Context

/-- The settings and fills of a user who has changed nothing, with the given random words. -/
def standardFrom (entropy : Nat → List UInt32) : Context := ⟨.standard, .standard, entropy⟩

/-- The settings and fills of a user who has changed nothing, with the same random words for all
fills. -/
def standard : Context := standardFrom fun _ ↦ [0]

/-- What a fill depends on in the command of the given number. -/
def fillSettings (c : Context) (i : Nat) : FillSettings :=
  { c.settings.render with entropy := c.entropy i }

/-- What the commands after the first depend on. -/
def later (c : Context) : Context := { c with entropy := fun i ↦ c.entropy (i + 1) }

end Context

/-- The outcome of an operation as that of a command. -/
def lift {α : Type} (o : Outcome α) : Except Trouble α := o.mapError .failed

/-- The piece that an argument names. -/
def pieceOf (w : Workspace) (arguments : Fields) (key : Text) : Except Trouble (Nat × Piece) :=
  match arguments.lookup key with
  | some (.str name) =>
    match w.find? name with
    | some found => .ok found
    | none => .error .unknownName
  | some _ => .error .unknownName
  | none => .error (.failed .wrongType)

/-! ## Making grids -/

/-- The glyphs that an argument lists, pairs of a character and its rows. -/
def glyphsOf (v : Value) : Outcome GlyphMap :=
  match v with
  | .null => .ok .standard
  | .list items => do
    let pairs ← items.mapM fun item ↦
      match item with
      | .list [.str char, .list rows] =>
        match rows.mapM Value.text? with
        | some rows => .ok (char, rows)
        | none => .error .wrongType
      | _ => (.error .wrongType : Outcome (Text × List Text))
    GlyphMap.ofList pairs
  | _ => .error .wrongType

/-- The grid that an action makes out of nothing, and whether it is always a plain one; nothing if
the action is not of this kind. -/
def construct? (action : String) (arguments : Fields) : Option (Outcome (Grid × Bool)) :=
  let canBeCanvas (o : Outcome Grid) : Option (Outcome (Grid × Bool)) := some (o.map (·, false))
  match action with
  | "new" | "from_dimensions" => canBeCanvas do
    arguments.accept ["width", "height"] []
    Grid.requestNew (arguments.argument "width" .null) (arguments.argument "height" .null)
  | "from_string" => canBeCanvas do
    arguments.accept ["content"] []
    Grid.requestText (arguments.argument "content" .null)
  | "generate" => some do
    arguments.accept ["shape", "params"] []
    let shape := arguments.argument "shape" .null
    let g ← Shape.request shape (arguments.argument "params" .null)
    .ok (g, shape.text? == some ShapeKind.text.name)
  | "generate_circle" => canBeCanvas (Shape.requestCircle arguments)
  | "generate_rectangle" => canBeCanvas (Shape.requestRectangle arguments)
  | "generate_polygon" => canBeCanvas (Shape.requestPolygon arguments)
  | "create_text" => some do
    arguments.accept ["text"] ["glyphs"]
    let glyphs ← glyphsOf (arguments.argument "glyphs" .null)
    let g ← Shape.requestBanner glyphs (arguments.argument "text" .null)
    .ok (g, true)
  | _ => none

/-! ## Asking about grids -/

/-- A list of numbers. -/
def numbers (ns : List Int) : Value := .list (ns.map .int)

/-- What an action that changes nothing answers about a grid; nothing if the action is not of this
kind. -/
def query? (g : Grid) (action : String) (arguments : Fields) : Option (Outcome Result) :=
  let answer (o : Outcome Value) : Option (Outcome Result) := some (o.map .value)
  let plainly (v : Value) : Option (Outcome Result) := answer do
    arguments.accept [] []
    .ok v
  match action with
  | "in_bounds" => answer do
    arguments.accept ["row", "col"] []
    let b ← g.requestInBounds (arguments.argument "row" .null) (arguments.argument "col" .null)
    .ok (.bool b)
  | "get" => answer do
    arguments.accept ["row", "col"] []
    let c ← g.requestCell (arguments.argument "row" .null) (arguments.argument "col" .null)
    .ok (.ofText? c)
  | "has_row" => answer do
    arguments.accept ["row"] []
    let b ← g.requestHasRow (arguments.argument "row" .null)
    .ok (.bool b)
  | "row_string" => answer do
    arguments.accept ["row"] []
    let s ← g.requestRowText (arguments.argument "row" .null)
    .ok (.ofText? s)
  | "rows" => plainly (.strings g.lines)
  | "to_string" | "str" => plainly (.str g.toText)
  | "to_list" => plainly g.toRows
  | "get_bounds" => plainly (numbers [g.width, g.height])
  | "get_center_point" => plainly (numbers [g.center.1, g.center.2])
  | "get_content_bounds" => some do
    arguments.accept [] []
    match g.contentBounds? with
    | some b => .ok (.bounds b)
    | none => .ok (.value .null)
  | "eq_value" => answer do
    arguments.accept ["value"] []
    .ok (.bool false)
  | "hash" => some (.error .wrongType)
  | "stream_rows" => some do
    arguments.accept [] []
    .ok (.rows g.stream)
  | "stream_delayed" => some do
    arguments.accept [] ["delay", "take"]
    let count := match arguments.argument "take" .null with
      | .int n => (max n 1).toNat
      | _ => g.height + 1
    let events ← g.delayedStream (arguments.argument "delay" (.float 0.05)) count
    .ok (.events events)
  | _ => none

/-- The plain grid that an action makes of another; nothing if the action is not of this kind. -/
def derive? (g : Grid) (action : String) (arguments : Fields) : Option (Outcome Grid) :=
  match action with
  | "copy" => some do
    arguments.accept [] []
    .ok g
  | "rotate" => some do
    arguments.accept ["degrees"] []
    let turn ← Rotation.ofRequest (arguments.argument "degrees" .null)
    .ok (g.rotate turn)
  | "mirror" => some do
    arguments.accept ["axis"] []
    let axis ← Axis.ofRequest (arguments.argument "axis" .null)
    .ok (g.mirror axis)
  | "scale" => some do
    arguments.accept ["factor"] []
    let size ← Scaling.ofRequest (arguments.argument "factor" .null)
    .ok (g.scale size)
  | "apply_transformation" => some do
    arguments.accept ["kind"] ["params"]
    let t ← Transform.ofRequest (arguments.argument "kind" .null)
      (arguments.argument "params" .null)
    .ok (g.apply t)
  | "transform" => some do
    arguments.accept ["steps"] []
    g.requestTransform (arguments.argument "steps" .null)
  | "clip" => some do
    arguments.accept ["start_row", "end_row", "start_col", "end_col"] []
    g.requestClip (arguments.argument "start_row" .null) (arguments.argument "end_row" .null)
      (arguments.argument "start_col" .null) (arguments.argument "end_col" .null)
  | "center_horizontally" => some do
    arguments.accept ["target_width"] []
    g.requestCenter (arguments.argument "target_width" .null)
  | _ => none

/-! ## Changing grids -/

/-- What a grid looks like after an action that writes on it, and what the action answers; nothing
if the action is not of this kind. -/
def write? (context : Context) (g : Grid) (action : String) (arguments : Fields) :
    Option (Outcome (Grid × Result)) :=
  let silent (o : Outcome Grid) : Option (Outcome (Grid × Result)) :=
    some (o.map (·, .value .null))
  match action with
  | "set" => silent do
    arguments.accept ["row", "col", "char"] []
    g.requestSet (arguments.argument "row" .null) (arguments.argument "col" .null)
      (arguments.argument "char" .null)
  | "set_row" => silent do
    arguments.accept ["row", "char"] []
    g.requestSetRow (arguments.argument "row" .null) (arguments.argument "char" .null)
  | "draw_line" => silent do
    arguments.accept ["start", "end"] ["char"]
    g.requestLine (arguments.argument "start" .null) (arguments.argument "end" .null)
      (arguments.argument "char" Shape.defaultChar)
  | "paint_blanks" => some do
    arguments.accept ["values"] ["mask"]
    let (painted, n) ←
      g.requestPaint (arguments.argument "values" .null) (arguments.argument "mask" .null)
    .ok (painted, .value (.int n))
  | "fill" => some do
    arguments.accept ["name"] ["params"]
    let params ← (arguments.argument "params" (.object [])).arguments
    let painted ←
      context.fills.apply (context.fillSettings 0) (arguments.argument "name" .null) g params
    .ok (painted, .itself)
  | _ => none

/-- What an action with a second grid does; nothing if the action is not of this kind. -/
def combine? (w : Workspace) (p : Piece) (action : String) (arguments : Fields) :
    Option (Except Trouble Effect) :=
  let joined (join : Grid → Grid → Outcome Grid) : Option (Except Trouble Effect) := some do
    let (_, other) ← pieceOf w arguments "other"
    let g ← lift do
      arguments.accept ["other"] []
      join p.grid other.grid
    .ok (.make (.plain g))
  let stamped : Option (Except Trouble Effect) := some do
    let (_, source) ← pieceOf w arguments "source"
    let g ← lift do
      arguments.accept ["source"] ["row", "col", "char", "transparent"]
      p.grid.requestOverlay source.grid (arguments.argument "row" (.int 0))
        (arguments.argument "col" (.int 0)) (arguments.argument "char" .null)
        (arguments.argument "transparent" (.bool true))
    .ok (.change (p.withGrid g) .itself)
  match action with
  | "right_append" => joined Grid.rightAppend
  | "top_append" => joined Grid.topAppend
  | "bottom_append" => joined Grid.bottomAppend
  | "overlay" | "place_at" => stamped
  | "eq" => some do
    let (_, other) ← pieceOf w arguments "other"
    lift (arguments.accept ["other"] [])
    .ok (.answer (.value (.bool (decide (p.grid = other.grid)))))
  | "anchor_origin" => some do
    match p with
    | .plain _ => .error (.failed .missingPart)
    | .composite c =>
      let (_, shape) ← pieceOf w arguments "shape"
      let (row, col) ← lift do
        arguments.accept ["shape", "anchor"] ["offset_row", "offset_col"]
        let anchor ← Anchor.ofRequest (arguments.argument "anchor" .null)
        anchor.requestOrigin c.canvas shape.grid (arguments.argument "offset_row" (.int 0))
          (arguments.argument "offset_col" (.int 0))
      .ok (.answer (.value (.list [row, col])))
  | "add_shape" => some do
    match p with
    | .plain _ => .error (.failed .missingPart)
    | .composite c =>
      let (i, shape) ← pieceOf w arguments "shape"
      let c ← lift do
        arguments.accept ["shape"] ["anchor", "offset_row", "offset_col", "char"]
        c.requestShape i shape.grid (arguments.argument "anchor" (.str "center"))
          (arguments.argument "offset_row" (.int 0)) (arguments.argument "offset_col" (.int 0))
          (arguments.argument "char" .null)
      .ok (.change (.composite c) .itself)
  | "layers" => some do
    match p with
    | .plain _ => .error (.failed .missingPart)
    | .composite c =>
      .ok (.answer (.layers (c.layers.map fun layer ↦
        { layer with shape := (w.pieces[layer.shape]?).getD (.plain .single) })))
  | "repr" =>
    let kind := match p with
      | .plain _ => "Grid"
      | .composite _ => "CompositeGrid"
    some (.ok (.answer (.value (.str (kind ++ "(width=" ++ toString p.grid.width ++ ", height="
      ++ toString p.grid.height ++ ")")))))
  | "stream_open" => some (.ok .start)
  | _ => none

/-- What a command does with its piece. -/
def perform (context : Context) (w : Workspace) (p : Piece) (action : String)
    (arguments : Fields) : Except Trouble Effect :=
  match query? p.grid action arguments with
  | some o => (lift o).map .answer
  | none =>
    match derive? p.grid action arguments with
    | some o => (lift o).map fun g ↦ .make (.plain g)
    | none =>
      match write? context p.grid action arguments with
      | some o => (lift o).map fun (g, r) ↦ .change (p.withGrid g) r
      | none => (combine? w p action arguments).getD (.error (.failed .missingPart))

/-! ## Running -/

/-- The answer to a command, and the lines of its grid after an action that writes. -/
structure Reply where
  /-- The answer. -/
  answer : Except Trouble Result
  /-- The lines of the grid. -/
  state : Option (List Text)

/-- The actions that write on their grid. -/
def writingActions : List String :=
  ["set", "set_row", "paint_blanks", "draw_line", "overlay", "place_at", "add_shape", "fill"]

/-- The next event of a named stream. -/
def nextEvent (w : Workspace) (arguments : Fields) : Except Trouble Result × Workspace :=
  match arguments.lookup ("stream" : Text) with
  | some (.str name) =>
    match w.streams.lookup name with
    | some (i, s) =>
      let g := ((w.pieces[i]?).map Piece.grid).getD .single
      let (event, s) := s.next g
      (.ok (.event event), { w with streams := (name, i, s) :: w.streams })
    | none => (.error .unknownName, w)
  | _ => (.error .unknownName, w)

/-- Carries out a command on its piece. -/
def act (context : Context) (w : Workspace) (i : Nat) (p : Piece) (c : Command) :
    Except Trouble Result × Workspace :=
  match perform context w p c.action c.arguments with
  | .error trouble => (.error trouble, w)
  | .ok (.answer r) => (.ok r, w)
  | .ok (.make made) => (.ok (.made made), w.add c.name made)
  | .ok (.change changed r) => (.ok r, (w.replace i changed).bind c.name i)
  | .ok .start =>
    (.ok (.value .null), { w with streams := ((c.name.getD ""), i, .fresh) :: w.streams })

/-- Carries out a command. -/
def step (context : Context) (w : Workspace) (c : Command) : Except Trouble Result × Workspace :=
  match construct? c.action c.arguments with
  | some (.error cause) => (.error (.failed cause), w)
  | some (.ok (g, alwaysPlain)) =>
    let p : Piece := if c.composite && !alwaysPlain then .composite (.ofGrid g) else .plain g
    (.ok (.made p), w.add c.name p)
  | none =>
    if c.action = "stream_next" then nextEvent w c.arguments
    else
      match c.target.bind w.find? with
      | none => (.error .unknownName, w)
      | some (i, p) => act context w i p c

/-- The lines that a reply shows after a command. -/
def stateAfter (w : Workspace) (c : Command) : Option (List Text) :=
  if writingActions.contains c.action then
    (c.target.bind w.find?).map fun (_, p) ↦ p.grid.lines
  else none

/-- Carries out the commands of a script in order, each with random words of its own. -/
def run (context : Context) (w : Workspace) : List Command → List Reply
  | [] => []
  | c :: rest =>
    let (answer, w) := step context w c
    ⟨answer, stateAfter w c⟩ :: run context.later w rest

end TextArt.Script
