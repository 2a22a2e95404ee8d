import TextArt.Proofs.Fill.Steady
import TextArt.Proofs.Outcome
import TextArt.Proofs.Recipe.SymbolTable

/-!
# Checked recipes step by step

What one operation of a checked recipe does to a table whose grids are known, and how a run goes on
after it.
-/

namespace TextArt.Recipe

variable {context : Context} {table mid : SymbolTable} {index : Nat} {g : Grid} {cause : Failure}

/-! ## References -/

theorem lookup_str (table : SymbolTable) (name : Text) (index : Nat) (operation : Text) :
    lookup table (.str name) index operation =
      match table.find? (.str name) with
      | some g => .ok g
      | none => .error (.unknownGrid (.str name) index operation) := rfl

theorem lookup_of_find? {name operation : Text} (h : table.find? (.str name) = some g) :
    lookup table (.str name) index operation = .ok g := by
  rw [lookup_str, h]

theorem lookup_of_find?_none {name operation : Text} (h : table.find? (.str name) = none) :
    lookup table (.str name) index operation =
      .error (.unknownGrid (.str name) index operation) := by
  rw [lookup_str, h]

/-! ## Operations -/

theorem perform_generate (shape : ShapeParams) (fill : FillSpec) :
    (Action.generate shape fill).perform context table index =
      (shape.draw >>= fill.apply context.fills (context.fillSettings index)).map (table, ·) := by
  rw [Action.perform]
  cases shape.draw with
  | error cause => rfl
  | ok drawn =>
    rw [ok_bind, ok_bind]
    cases fill.apply context.fills (context.fillSettings index) drawn <;> rfl

theorem perform_overlay {target source : Text} {row col : Int} {transparent : Bool}
    {char : Option Char} {t s : Grid} (ht : table.find? (.str target) = some t)
    (hs : table.find? (.str source) = some s) :
    (Action.overlay target source row col transparent char).perform context table index =
      .ok (table.put (.str target) (t.overlay s row col (char.map .char) transparent),
        t.overlay s row col (char.map .char) transparent) := by
  rw [Action.perform]
  dsimp only
  rw [lookup_of_find? ht, lookup_of_find? hs]
  rfl

/-! ## Runs -/

theorem runFrom_cons_of_ok {o : Operation} (rest : List Operation)
    (h : o.action.perform context table index = .ok (mid, g)) :
    runFrom context table index (o :: rest) =
      runFrom context (mid.put (.str o.storeAs) g) (index + 1) rest := by
  rw [runFrom, h]

theorem runFrom_cons_of_error {o : Operation} (rest : List Operation)
    (h : o.action.perform context table index = .error cause) :
    runFrom context table index (o :: rest) = .error ⟨cause, table⟩ := by
  rw [runFrom, h]

/-- The table with what an operation has made, or its halt. -/
def stored (table : SymbolTable) (name : Text) :
    Outcome (SymbolTable × Grid) → Except Halt SymbolTable
  | .error cause => .error ⟨cause, table⟩
  | .ok (after, g) => .ok (after.put (.str name) g)

theorem runFrom_cons_eq_stored (o : Operation) (rest : List Operation) :
    runFrom context table index (o :: rest) =
      stored table o.storeAs (o.action.perform context table index) >>= fun after ↦
        runFrom context after (index + 1) rest := by
  cases hperform : o.action.perform context table index with
  | error cause => rw [runFrom_cons_of_error rest hperform]; rfl
  | ok made => rw [runFrom_cons_of_ok rest hperform]; rfl

/-- The operations after a prefix go on with the table that the prefix has left. -/
theorem runFrom_append {after : SymbolTable} {first : List Operation} (more : List Operation)
    (h : runFrom context table index first = .ok after) :
    runFrom context table index (first ++ more) =
      runFrom context after (index + first.length) more := by
  induction first generalizing table index with
  | nil =>
    obtain rfl := Except.ok.inj h
    rfl
  | cons o rest ih =>
    cases hperform : o.action.perform context table index with
    | error cause =>
      rw [runFrom_cons_of_error rest hperform] at h
      cases h
    | ok pair =>
      rw [runFrom_cons_of_ok rest hperform] at h
      rw [List.cons_append, runFrom_cons_of_ok (rest ++ more) hperform, ih h, List.length_cons,
        Nat.add_assoc, Nat.add_comm 1]

/-! ## Random words -/

/-- The action's fill, if it has one, paints the same from all random words. -/
def Action.Steady (registry : FillRegistry) (settings : RenderSettings) : Action → Prop
  | .generate _ fill => fill.Steady registry settings
  | _ => True

private theorem perform_eq_of_steady {action : Action}
    (h : action.Steady context.fills context.settings.render) (words words' : Nat → List UInt32) :
    action.perform { context with entropy := words } table index =
      action.perform { context with entropy := words' } table index := by
  cases action with
  | generate shape fill =>
    have hfill := FillSpec.apply_eq_of_steady h (words index) (words' index)
    simp only [Action.perform, Script.Context.fillSettings, hfill]
  | _ => rfl

private theorem runFrom_eq_of_steady {operations : List Operation}
    (h : ∀ o ∈ operations, o.action.Steady context.fills context.settings.render)
    (words words' : Nat → List UInt32) :
    runFrom { context with entropy := words } table index operations =
      runFrom { context with entropy := words' } table index operations := by
  induction operations generalizing table index with
  | nil => rfl
  | cons o rest ih =>
    rw [runFrom, runFrom, perform_eq_of_steady (h o List.mem_cons_self) words words']
    split
    · rfl
    · exact ih fun o ho ↦ h o (List.mem_cons_of_mem _ ho)

/-- A recipe with steady fills runs the same from all random words. -/
theorem run_eq_of_steady {r : Recipe}
    (h : ∀ o ∈ r.operations, o.action.Steady context.fills context.settings.render)
    (words words' : Nat → List UInt32) :
    run { context with entropy := words } r = run { context with entropy := words' } r := by
  rw [run, run, runFrom_eq_of_steady h words words']

end TextArt.Recipe
