import TextArt.Recipe.Run

/-!
# Running documents as they are

A recipe document can be run without being checked. Its operations are then taken as they come: a
field is looked at when it is needed, a missing field or a value of the wrong kind stops the run
there, and what an operation does not need is never looked at.
-/

namespace TextArt.Recipe.Document

/-- The operations of a document, and the name of its output. The operations are under `recipe`, or
under `operations` if there is no such field. -/
def unpack (document : Value) : Outcome (List Value × Value) :=
  match document with
  | .object fields =>
    let operations := Fields.argument fields "recipe" (Fields.argument fields "operations" .null)
    match operations with
    | .null => .error .noOperations
    | v => do
      let operations ← v.parts
      .ok (operations, Fields.argument fields "output" (.str ""))
  | _ => .error .missingPart

/-- The grid that a field of an operation refers to. -/
def gridOf (table : SymbolTable) (index : Nat) (operation : Text) (op : Value)
    (field : Text) : Outcome (Value × Grid) := do
  let name ← op.need field
  let g ← lookup table name index operation
  .ok (name, g)

/-- Draws and fills a shape. -/
def generate (context : Context) (index : Nat) (op : Value) : Outcome Grid := do
  let shape ← op.need "shape"
  let params ← op.ask "params" .null
  let drawn ← Shape.request shape (params.orElse (.object []))
  let pattern ← op.ask "fillPattern" .null
  if pattern.truthy then
    let params ← op.ask "fillParams" .null
    let params ← (params.orElse (.object [])).arguments
    context.fills.apply (context.fillSettings index) pattern drawn params
  else .ok drawn

/-- Stamps one grid onto another, which stays in the table as it is afterwards. -/
def overlay (table : SymbolTable) (index : Nat) (op : Value) : Outcome (SymbolTable × Grid) := do
  let (name, target) ← gridOf table index "overlay" op "target"
  let (_, source) ← gridOf table index "overlay" op "source"
  let position ← op.ask "position" .null
  let position := position.orElse (.object [])
  let row ← position.ask "row" (.int 0)
  let col ← position.ask "col" (.int 0)
  let char ← op.ask "char" .null
  let transparent ← op.ask "transparent" (.bool true)
  let stamped ← target.requestOverlay source row col char transparent
  .ok (table.put name stamped, stamped)

/-- Cuts a region out. -/
def clip (table : SymbolTable) (index : Nat) (op : Value) : Outcome Grid := do
  let (_, source) ← gridOf table index "clip" op "source"
  let bounds ← op.need "bounds"
  let startRow ← bounds.need "startRow"
  let endRow ← bounds.need "endRow"
  let startCol ← bounds.need "startCol"
  let endCol ← bounds.need "endCol"
  source.requestClip startRow endRow startCol endCol

/-- Turns, mirrors or scales. -/
def transform (table : SymbolTable) (index : Nat) (op : Value) : Outcome Grid := do
  let (_, source) ← gridOf table index "transform" op "source"
  let kind ← op.need "type"
  let params ← op.ask "params" .null
  let step ← Transform.ofRequest kind params
  .ok (source.apply step)

/-- Sets one grid above or below another. -/
def append (join : Grid → Grid → Outcome Grid) (operation : Text) (table : SymbolTable)
    (index : Nat) (op : Value) : Outcome Grid := do
  let (_, target) ← gridOf table index operation op "target"
  let (_, source) ← gridOf table index operation op "source"
  join target source

/-- Pads a grid on both sides. -/
def center (table : SymbolTable) (index : Nat) (op : Value) : Outcome Grid := do
  let (_, source) ← gridOf table index "centerHorizontally" op "source"
  let width ← op.need "targetWidth"
  source.requestCenter width

/-- The table after an operation of the given name has found its grids, and the grid it makes;
nothing if there is no such operation. -/
def perform? (context : Context) (table : SymbolTable) (index : Nat) (operation : Text)
    (op : Value) : Option (Outcome (SymbolTable × Grid)) :=
  let made (o : Outcome Grid) : Option (Outcome (SymbolTable × Grid)) := some (o.map (table, ·))
  match operation.toString? with
  | some "generate" => made (generate context index op)
  | some "overlay" => some (overlay table index op)
  | some "clip" => made (clip table index op)
  | some "transform" => made (transform table index op)
  | some "topAppend" => made (append Grid.topAppend "topAppend" table index op)
  | some "bottomAppend" => made (append Grid.bottomAppend "bottomAppend" table index op)
  | some "centerHorizontally" => made (center table index op)
  | _ => none

/-- The table after an operation. A name that cannot be a name is noticed only when the grid is to
be stored. -/
def step (context : Context) (table : SymbolTable) (index : Nat) (op : Value) :
    Except Halt SymbolTable :=
  let halt (cause : Failure) : Except Halt SymbolTable := .error ⟨cause, table⟩
  match op.ask "operation" .null with
  | .error cause => halt cause
  | .ok kind =>
    if !kind.isName then halt .wrongType
    else
      match kind.text? with
      | none => halt (.unsupportedOperation kind index)
      | some operation =>
        match perform? context table index operation op with
        | none => halt (.unsupportedOperation kind index)
        | some outcome =>
          match op.need "storeAs" with
          | .error cause => halt cause
          | .ok store =>
            match outcome with
            | .error cause => halt cause
            | .ok (table, g) =>
              if store.isName then .ok (table.put store g) else .error ⟨.wrongType, table⟩

/-- The table after some operations, the first of which has the given number. -/
def runFrom (context : Context) (table : SymbolTable) (index : Nat) :
    List Value → Except Halt SymbolTable
  | [] => .ok table
  | op :: rest => do
    let table ← step context table index op
    runFrom context table (index + 1) rest

/-- Runs a document. The prior table is cleared once the operations have been found. -/
def run (context : Context) (prior : SymbolTable) (document : Value) : Except Halt Result :=
  match unpack document with
  | .error cause => .error ⟨cause, prior⟩
  | .ok (operations, output) => do
    let table ← runFrom context [] 0 operations
    finish table output operations.length

end TextArt.Recipe.Document
