import TextArt.Recipe.Basic
import TextArt.Script

/-!
# Running recipes

A run goes through the operations in order and keeps the grids they make in a symbol table. It stops
at the first operation that fails; the table then holds what was stored before.

`Recipe.run` runs a checked recipe. Documents that have not been checked are run by
`TextArt.Recipe.Document`.
-/

namespace TextArt

/-- Grids by name, in the order in which the names were first used. -/
abbrev SymbolTable := List (Value × Grid)

namespace SymbolTable

/-- The grid of a name. -/
def find? (table : SymbolTable) (name : Value) : Option Grid :=
  (List.find? (fun entry ↦ entry.1.sameName name) table).map Prod.snd

/-- Replaces the grid of a name in its place, or adds it at the end. -/
def put (table : SymbolTable) (name : Value) (g : Grid) : SymbolTable :=
  match table with
  | [] => [(name, g)]
  | entry :: rest =>
    if entry.1.sameName name then (entry.1, g) :: rest else entry :: put rest name g

end SymbolTable

namespace Recipe

/-- What runs depend on besides the recipe. -/
abbrev Context := Script.Context

/-- A run that came to its end. -/
structure Result where
  /-- The grid that the recipe declares as its output. -/
  output : Grid
  /-- How many operations there were. -/
  operations : Nat
  /-- All grids that were stored. -/
  symbols : SymbolTable

/-- A run that stopped. -/
structure Halt where
  /-- Why. -/
  cause : Failure
  /-- The grids that had been stored. -/
  symbols : SymbolTable

/-- The grid that an operation refers to. -/
def lookup (table : SymbolTable) (name : Value) (index : Nat) (operation : Text) :
    Outcome Grid :=
  if name.isName then
    match table.find? name with
    | some g => .ok g
    | none => .error (.unknownGrid name index operation)
  else .error .wrongType

/-- The table after an operation has found its grids, and the grid it makes. Only stamping changes
the table by itself: the stamped target stays in its place, and what is made is a copy. -/
def Action.perform (context : Context) (table : SymbolTable) (index : Nat) (action : Action) :
    Outcome (SymbolTable × Grid) :=
  let grid (name : Text) : Outcome Grid := lookup table (.str name) index action.name
  match action with
  | generate shape fill => do
    let drawn ← shape.draw
    let filled ← fill.apply context.fills (context.fillSettings index) drawn
    .ok (table, filled)
  | overlay target source row col transparent char => do
    let t ← grid target
    let s ← grid source
    let stamped := t.overlay s row col (char.map .char) transparent
    .ok (table.put (.str target) stamped, stamped)
  | clip source startRow endRow startCol endCol => do
    let s ← grid source
    .ok (table, s.clip startRow endRow startCol endCol)
  | transform source step => do
    let s ← grid source
    .ok (table, s.apply step)
  | topAppend target source => do
    let t ← grid target
    let s ← grid source
    let joined ← t.topAppend s
    .ok (table, joined)
  | bottomAppend target source => do
    let t ← grid target
    let s ← grid source
    let joined ← t.bottomAppend s
    .ok (table, joined)
  | centerHorizontally source targetWidth => do
    let s ← grid source
    .ok (table, s.centerHorizontally targetWidth.val)

/-- The table after some operations, the first of which has the given number. -/
def runFrom (context : Context) (table : SymbolTable) (index : Nat) :
    List Operation → Except Halt SymbolTable
  | [] => .ok table
  | o :: rest =>
    match o.action.perform context table index with
    | .error cause => .error ⟨cause, table⟩
    | .ok (table, g) => runFrom context (table.put (.str o.storeAs) g) (index + 1) rest

/-- The result of a run that has left a table. -/
def finish (table : SymbolTable) (output : Value) (operations : Nat) : Except Halt Result :=
  if output.isName then
    match table.find? output with
    | some g => .ok ⟨g, operations, table⟩
    | none => .error ⟨.outputMissing output, table⟩
  else .error ⟨.wrongType, table⟩

/-- Runs a checked recipe. -/
def run (context : Context) (r : Recipe) : Except Halt Result := do
  let table ← runFrom context [] 0 r.operations
  finish table (.str r.output) r.operations.length

end Recipe

end TextArt
