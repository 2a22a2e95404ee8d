import TextArt.Json.Encoding
import TextArt.Recipe.Operation

/-!
# Recipes

A recipe is a list of operations and the name of the grid to give back. `Recipe.parse` checks a
document and `Recipe.dump` spells a recipe out again.
-/

namespace TextArt

open Schema

/-- A checked recipe. -/
structure Recipe where
  /-- The operations, in order. -/
  operations : List Recipe.Operation
  /-- The name of the grid to give back. -/
  output : Text

namespace Recipe

/-- The field of the operations. -/
def operationsKey : Key := ⟨"recipe", "operations"⟩

/-- Checks a list of operations, of which there has to be one. -/
def checkOperations (registry : FillRegistry) (v : Value) : Checked (List Operation) := do
  let operations ← listOf (checkOperation registry) v
  if operations.isEmpty then fail "List should have at least 1 item after validation, not 0"
  else .ok operations

/-- Checks a recipe document. -/
def check (registry : FillRegistry) (v : Value) : Checked Recipe := do
  let fields ← record "Recipe" v
  let (operations, output, _) ←
    both (required fields operationsKey (checkOperations registry)) <|
    both (required fields (.of "output") someText) <|
    noOthers fields [operationsKey, .of "output"]
  .ok ⟨operations, output⟩

/-- Reads and checks a recipe document. -/
def parse (registry : FillRegistry) (source : Json.Source) : Outcome Recipe := do
  let v ← source.load "recipe"
  (check registry v).outcome "recipe"

/-- A recipe as a document gives it, all its fields spelled out. -/
def dump (r : Recipe) : Value :=
  .object [("recipe", .list (r.operations.map Operation.dump)), ("output", .str r.output)]

end Recipe

end TextArt
