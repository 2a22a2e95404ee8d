import TextArt.Script

/-!
# Commands write by write

A command works on its piece in steps: it looks at its arguments and at the piece, it may find
fault with them at any point, and it writes. `Work` is a sequence of such steps in which everything
that has been written stays when a later step fails. The operations below do their checks and their
writes one after the other in that way, lines point by point and each character checked again for
every point, and `carryOut` keeps what a failed command has written.

`TextArt.Script.step` instead decides what a command comes to before it changes anything. That both
are the same is shown in `TextArt.Proofs.Script.AllOrNothing`.
-/

namespace TextArt.Script

/-- Steps on a piece. What they have written stays when a later step fails. -/
abbrev Work := EStateM Trouble Piece

namespace Work

/-! ## Steps -/

/-- A step that only answers, or fails. -/
def ask {α : Type} (o : Except Trouble α) : Work α :=
  match o with
  | .ok a => pure a
  | .error t => throw t

/-- A step that finds fault or not. -/
def demand {α : Type} (o : Outcome α) : Work α := ask (lift o)

/-- Looks at the grid of the piece. -/
def grid : Work Grid := do return (← get).grid

/-- Writes on the grid of the piece. -/
def write (f : Grid → Grid) : Work Unit := modify fun p ↦ p.withGrid (f p.grid)

/-- What has been written is not taken back when the next step fails. -/
theorem run_write_throw (f : Grid → Grid) (t : Trouble) (p : Piece) :
    (do write f; throw t : Work Unit).run p = .error t (p.withGrid (f p.grid)) := rfl

/-- Adds a layer to the log of a canvas. -/
def log (layer : Layer Nat) : Work Unit := modify fun p ↦
  match p with
  | .plain g => .plain g
  | .composite c => .composite { c with layers := c.layers ++ [layer] }

/-! ## Cells and rows -/

/-- Writes one cell, or all cells that the position means. -/
def set (row col char : Value) : Work Unit := do
  let cell ← demand char.cell
  let g ← grid
  if ← demand (g.requestInBounds row col) then
    let place ← demand (g.place row col)
    write fun g ↦ g.setPlace cell place

/-- Writes the same character at some points. -/
def setEach (char : Value) : List Point → Work Unit
  | [] => pure ()
  | p :: rest => do
    set (.int p.1) (.int p.2) char
    setEach char rest

/-- Fills a row, or all cells that the row means. -/
def setRow (row char : Value) : Work Unit := do
  let cell ← demand char.cell
  let g ← grid
  if ← demand (g.requestHasRow row) then
    let place ← demand (Grid.rowPlace row)
    write fun g ↦ g.setPlace cell place

/-! ## Painting -/

/-- Paints the chosen blank cells with a text each, if every text is one character. -/
def paintEach (chosen : Nat → Nat → Bool) (ink : Nat → Nat → Text) : Work Unit := do
  let g ← grid
  match g.badInk? chosen ink with
  | some text => throw (.failed (.badCharacter (.str text)))
  | none =>
    write fun g ↦ g.mapCells fun row col old ↦
      if old == Cell.blank && chosen row col then
        (singleChar? (withoutFinalNuls (ink row col))).getD old
      else old

/-- Paints the chosen blank cells. -/
def paintInk (chosen : Nat → Nat → Bool) (values : Value) : Work Unit := do
  match ← demand values.ink with
  | .uniform text =>
    let cell ← demand (Value.str text).cell
    write fun g ↦ g.paintChar chosen cell
  | .table texts =>
    let g ← grid
    if texts.fits g then paintEach chosen fun row col ↦ (texts.get? row col).getD ""
    else throw (.failed .badIndex)

/-- The places that a mask chooses, all of them without a mask. -/
def chosenBy (mask : Option (Matrix Bool)) : Nat → Nat → Bool :=
  match mask with
  | some m => m.chooses
  | none => fun _ _ ↦ true

/-- Paints the blank cells that a mask chooses, and says how many they were. -/
def paintBlanks (values mask : Value) : Work Nat := do
  let mask ← demand mask.mask
  let g ← grid
  if (mask.map fun m ↦ m.stretches g).getD true then
    paintInk (chosenBy mask) values
    return g.selectedCount (chosenBy mask)
  else throw (.failed .badValue)

/-! ## Lines -/

/-- A whole number as a double. -/
def double (n : Int) : Outcome Float :=
  match Binary64.ofInt? n with
  | some x => .ok x
  | none => .error .overflow

/-- Draws some points of a line, each one rounded when its turn comes. -/
def lineFrom (char : Value) (rowStep colStep : Float) : Nat → Float → Float → Work Unit
  | 0, _, _ => pure ()
  | n + 1, row, col => do
    let r ← demand (Number.real row).roundHalfUp
    let c ← demand (Number.real col).roundHalfUp
    set (.int r) (.int c) char
    lineFrom char rowStep colStep n (row + rowStep) (col + colStep)

/-- Draws a line. -/
def drawLine (start finish char : Value) : Work Unit := do
  let _ ← demand char.cell
  let start ← demand (Grid.point start)
  let finish ← demand (Grid.point finish)
  let down := finish.1 - start.1
  let across := finish.2 - start.2
  let steps := max down.natAbs across.natAbs
  if steps = 0 then pure ()
  else
    let row ← demand (double start.1)
    let col ← demand (double start.2)
    lineFrom char (floatOfRatio down steps) (floatOfRatio across steps) (steps + 1) row col

/-! ## Stamping -/

/-- Stamps a grid. -/
def overlay (source : Work Grid) (row col char transparent : Value) : Work Unit := do
  let cell ← demand (Grid.optionalCell char)
  let r ← demand row.number
  let c ← demand col.number
  let s ← source
  match r.int?, c.int? with
  | some r, some c => write fun g ↦ g.overlay s r c cell transparent.truthy
  | _, _ =>
    let g ← grid
    if Grid.misses r s.height g.height || Grid.misses c s.width g.width then pure ()
    else throw (.failed .wrongType)

/-- Places a shape, and logs the layer once the shape has been stamped. -/
def addShape (mark : Nat) (shape : Work Grid) (anchor offsetRow offsetCol char : Value) :
    Work Unit := do
  let place ← demand (Anchor.ofRequest anchor)
  let canvas ← grid
  let s ← shape
  let origin ← demand (place.requestOrigin canvas s offsetRow offsetCol)
  overlay shape origin.1 origin.2 char (.bool true)
  let cell ← demand (Grid.optionalCell char)
  let down ← demand offsetRow.number
  let across ← demand offsetCol.number
  let row ← demand origin.1.number
  let col ← demand origin.2.number
  log ⟨mark, place, down, across, cell, row, col⟩

/-! ## Filling -/

/-- Dots of a density. -/
def paintDots (settings : FillSettings) (density seed char : Value) : Work Unit := do
  let limit ← demand density.number
  if (Number.real 0).le limit && limit.le (.real 1) then
    let words ← demand (Pattern.dotSeed settings seed)
    let g ← grid
    paintInk (Pattern.dotMask g.width (Scatter.field words g.width g.height) limit) char
  else throw (.failed (.badDensity density))

/-- A gradient in a direction. -/
def paintGradient (settings : FillSettings) (ramp direction reverse : Value) : Work Unit := do
  let ramp := Pattern.rampOr settings ramp
  if ramp.truthy then
    match direction.text?.bind Pattern.Direction.ofName? with
    | none => throw (.failed (.unknownDirection direction))
    | some way =>
      let chars ← demand (Pattern.rampOf ramp)
      let g ← grid
      paintEach (fun _ _ ↦ true) (Pattern.gradientInk g chars way reverse.truthy)
  else throw (.failed (.emptyRamp ramp))

/-- Two texts in turn. -/
def paintCrosshatch (forward back : Value) : Work Unit := do
  let (forward, back) := Pattern.commonForm forward back
  match forward.scalarText?, back.scalarText? with
  | some forward, some back =>
    paintEach (fun _ _ ↦ true) fun row col ↦ if Pattern.oddCell row col then forward else back
  | _, _ => throw (.failed .badValue)

/-- The blank cells of the first and the last row, one after the other. -/
def paintEdges (char : Value) : Work Unit := do
  let g ← grid
  setEach char <| (g.places.filter fun p ↦ g.selected (Pattern.edgeMask g.height) p.1 p.2).map
    fun p ↦ ((p.1 : Int), (p.2 : Int))

/-- Paints with a pattern. -/
def paint (settings : FillSettings) (params : Fields) : Pattern → Work Unit
  | .solid => paintInk (fun _ _ ↦ true) (params.argument "char" (.str "*"))
  | .dots =>
    paintDots settings (params.argument "density" (.float 1)) (params.argument "seed" .null)
      (params.argument "char" (.str "."))
  | .gradient =>
    paintGradient settings (params.argument "density_string" .null)
      (params.argument "direction" (.str "horizontal")) (params.argument "reverse" (.bool false))
  | .diagonal => paintInk Pattern.oddCell (params.argument "char" (.str "/"))
  | .crosshatch =>
    paintCrosshatch (params.argument "forward" (.str "/")) (params.argument "back" (.str "\\"))
  | .edges => paintEdges (params.argument "char" (.str "+"))

/-- The pattern of a named fill and its parameters under the names that the pattern uses. -/
def choose (fills : FillRegistry) (name : Value) (params : Fields) :
    Outcome (Pattern × Fields) :=
  if params.any (fun p ↦ p.1 == "grid" || p.1 == "name") then .error .wrongType
  else do
    let fill ← fills.get name
    let params := FillRegistry.converted params
    if (params.lookup ("grid" : Text)).isSome then .error (.repeatedParameter name "grid" params)
    else
      match params.find? fun p ↦ !fill.pattern.takes p.1 with
      | some (unknown, _) => .error (.unexpectedParameter name unknown params)
      | none => .ok (fill.pattern, params)

/-- Fills with a named fill. -/
def fill (context : Context) (name params : Value) : Work Unit := do
  let params ← demand params.arguments
  let (pattern, params) ← demand (choose context.fills name params)
  paint (context.fillSettings 0) params pattern

/-! ## Commands -/

/-- The grid of a piece, which may be the one that is worked on. -/
def source (i j : Nat) (q : Piece) : Work Grid := if j = i then grid else pure q.grid

/-- Stamps the piece that an argument names onto the `i`-th one. -/
def stamp (w : Workspace) (i : Nat) (arguments : Fields) : Work Result := do
  let (j, q) ← ask (pieceOf w arguments "source")
  demand (arguments.accept ["source"] ["row", "col", "char", "transparent"])
  overlay (source i j q) (arguments.argument "row" (.int 0)) (arguments.argument "col" (.int 0))
    (arguments.argument "char" .null) (arguments.argument "transparent" (.bool true))
  return .itself

/-- Places the piece that an argument names on the `i`-th one, which has to be a canvas. -/
def place (w : Workspace) (i : Nat) (arguments : Fields) : Work Result := do
  match ← get with
  | .plain _ => throw (.failed .missingPart)
  | .composite _ =>
    let (j, q) ← ask (pieceOf w arguments "shape")
    demand (arguments.accept ["shape"] ["anchor", "offset_row", "offset_col", "char"])
    addShape j (source i j q) (arguments.argument "anchor" (.str "center"))
      (arguments.argument "offset_row" (.int 0)) (arguments.argument "offset_col" (.int 0))
      (arguments.argument "char" .null)
    return .itself

/-- What an action does with the `i`-th piece. -/
def command (context : Context) (w : Workspace) (i : Nat) (action : String) (arguments : Fields) :
    Work Result :=
  match action with
  | "set" => do
    demand (arguments.accept ["row", "col", "char"] [])
    set (arguments.argument "row" .null) (arguments.argument "col" .null)
      (arguments.argument "char" .null)
    return .value .null
  | "set_row" => do
    demand (arguments.accept ["row", "char"] [])
    setRow (arguments.argument "row" .null) (arguments.argument "char" .null)
    return .value .null
  | "draw_line" => do
    demand (arguments.accept ["start", "end"] ["char"])
    drawLine (arguments.argument "start" .null) (arguments.argument "end" .null)
      (arguments.argument "char" Shape.defaultChar)
    return .value .null
  | "paint_blanks" => do
    demand (arguments.accept ["values"] ["mask"])
    let n ← paintBlanks (arguments.argument "values" .null) (arguments.argument "mask" .null)
    return .value (.int n)
  | "fill" => do
    demand (arguments.accept ["name"] ["params"])
    fill context (arguments.argument "name" .null) (arguments.argument "params" (.object []))
    return .itself
  | "overlay" | "place_at" => stamp w i arguments
  | "add_shape" => place w i arguments
  | _ => throw (.failed .missingPart)

end Work

/-- Carries out a command that writes, step by step. Whatever it has written is there afterwards,
also if it has failed. -/
def carryOut (context : Context) (w : Workspace) (c : Command) :
    Except Trouble Result × Workspace :=
  match c.target.bind w.find? with
  | none => (.error .unknownName, w)
  | some (i, p) =>
    match (Work.command context w i c.action c.arguments).run p with
    | .ok r q => (.ok r, (w.replace i q).bind c.name i)
    | .error t q => (.error t, w.replace i q)

end TextArt.Script
