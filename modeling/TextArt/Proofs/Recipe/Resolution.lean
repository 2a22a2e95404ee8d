import Mathlib.Algebra.Ring.Nat
import TextArt.Proofs.Fill.Checked
import TextArt.Proofs.Recipe.Checked
import TextArt.Proofs.Recipe.Run
import TextArt.Proofs.Shape
import TextArt.Recipe.Basic

/-!
# What can stop a checked recipe

A recipe that has passed its check can stop for three reasons only: an operation refers to a grid
that nothing before it has stored, a polygon has more sides than a double can count, or nothing has
stored the output. Everything else that can go wrong in an operation is ruled out, partly by the
check and partly by what the operations before have left in the table: all grids in it are legible,
so that setting one above another always works.

That is the invariant of a run, `Sound`. `perform_of_resolved` and its companions say what one
operation does to a sound table, one case for each kind of operation; `runFrom_of_resolved` and
`run_of_perform_error` go on to whole runs.
-/

namespace TextArt.Recipe

open Schema

/-! ## References -/

/-- The names of the grids that an action needs, in the order in which they are looked up. -/
def Action.references : Action → List Text
  | .generate .. => []
  | .overlay target source .. => [target, source]
  | .clip source .. => [source]
  | .transform source _ => [source]
  | .topAppend target source => [target, source]
  | .bottomAppend target source => [target, source]
  | .centerHorizontally source _ => [source]

/-- Whether the shape of an action can be drawn. -/
def Action.drawable : Action → Bool
  | .generate shape _ => shape.drawable
  | _ => true

/-- The names under which the first operations store. -/
def storedBefore (operations : List Operation) (i : Nat) : List Text :=
  (operations.take i).map Operation.storeAs

/-- The first name of an action that is not stored. -/
def missing? (stored : List Text) (a : Action) : Option Text :=
  a.references.find? fun name ↦ !stored.contains name

/-- Nothing is in the way of an action: all its grids are stored, and its shape can be drawn. -/
structure Resolved (stored : List Text) (a : Action) : Prop where
  /-- Its grids are stored. -/
  references : ∀ name ∈ a.references, name ∈ stored
  /-- Its shape can be drawn. -/
  drawable : a.drawable = true

private theorem missing?_eq_none {stored : List Text} {a : Action} :
    missing? stored a = none ↔ ∀ name ∈ a.references, name ∈ stored := by
  rw [missing?, List.find?_eq_none]
  simp

/-- The characters that an action supplies are legible, and its seed is not negative. -/
def Action.Legible : Action → Prop
  | .generate shape fill => (∀ c ∈ shape.char?, Cell.Legible c) ∧ fill.Legible
  | .overlay _ _ _ _ _ char => ∀ c ∈ char, Cell.Legible c
  | _ => True

/-! ## Sound tables -/

variable {context : Context} {entropy : Nat → List UInt32} {table : SymbolTable}
  {stored : List Text} {index : Nat}

/-- A table that holds legible grids under just the given names. -/
structure Sound (stored : List Text) (table : SymbolTable) : Prop where
  /-- The names are those that have been stored under. -/
  names : ∃ names, table.HasNames names ∧ ∀ s, s ∈ names ↔ s ∈ stored
  /-- All grids are legible. -/
  legible : ∀ s g, table.find? (.str s) = some g → g.Legible

namespace Sound

theorem nil : Sound [] [] := ⟨⟨[], .nil, fun _ ↦ Iff.rfl⟩, fun _ _ h ↦ by cases h⟩

theorem find? (h : Sound stored table) {s : Text} (hs : s ∈ stored) :
    ∃ g, table.find? (.str s) = some g ∧ g.Legible := by
  obtain ⟨names, hnames, hiff⟩ := h.names
  obtain ⟨g, hg⟩ := hnames.exists_find? ((hiff s).2 hs)
  exact ⟨g, hg, h.legible s g hg⟩

theorem find?_eq_none (h : Sound stored table) {s : Text} (hs : s ∉ stored) :
    table.find? (.str s) = none := by
  obtain ⟨names, hnames, hiff⟩ := h.names
  exact hnames.find?_eq_none fun hmem ↦ hs ((hiff s).1 hmem)

theorem legible_put (h : Sound stored table) (s : Text) {g : Grid} (hg : g.Legible) (t : Text)
    (g' : Grid) (hfound : SymbolTable.find? (table.put (.str s) g) (.str t) = some g') :
    g'.Legible := by
  by_cases hts : t = s
  · rw [hts, SymbolTable.find?_put_self] at hfound
    rw [← Option.some.inj hfound]
    exact hg
  · rw [SymbolTable.find?_put_str_of_ne hts] at hfound
    exact h.legible t g' hfound

private theorem put (h : Sound stored table) (s : Text) {g : Grid} (hg : g.Legible) :
    Sound (stored ++ [s]) (table.put (.str s) g) := by
  obtain ⟨names, hnames, hiff⟩ := h.names
  refine ⟨⟨_, hnames.put s g, fun t ↦ ?_⟩, h.legible_put s hg⟩
  rw [SymbolTable.mem_addName, hiff, List.mem_append, List.mem_singleton]

private theorem put_of_mem (h : Sound stored table) {s : Text} (hs : s ∈ stored) {g : Grid}
    (hg : g.Legible) : Sound stored (table.put (.str s) g) := by
  obtain ⟨names, hnames, hiff⟩ := h.names
  refine ⟨⟨_, hnames.put s g, fun t ↦ ?_⟩, h.legible_put s hg⟩
  rw [SymbolTable.addName_of_mem ((hiff s).2 hs), hiff]

theorem lookup_of_mem (h : Sound stored table) {s : Text} (hs : s ∈ stored) (index : Nat)
    (operation : Text) :
    ∃ g, lookup table (.str s) index operation = .ok g ∧ g.Legible := by
  obtain ⟨g, hg, hlegible⟩ := h.find? hs
  exact ⟨g, lookup_of_find? hg, hlegible⟩

theorem lookup_of_not_mem (h : Sound stored table) {s : Text} (hs : s ∉ stored) (index : Nat)
    (operation : Text) :
    lookup table (.str s) index operation = .error (.unknownGrid (.str s) index operation) :=
  lookup_of_find?_none (h.find?_eq_none hs)

end Sound

/-! ## One operation -/

private theorem lookup_pair_of_missing (hsound : Sound stored table) {target source name : Text}
    (h : [target, source].find? (fun name ↦ !stored.contains name) = some name) (index : Nat)
    (operation : Text) {α : Type} (f : Grid → Grid → Outcome α) :
    (lookup table (.str target) index operation >>= fun t ↦
        lookup table (.str source) index operation >>= f t) =
      .error (.unknownGrid (.str name) index operation) := by
  by_cases ht : target ∈ stored
  · obtain ⟨t, htarget, -⟩ := hsound.lookup_of_mem ht index operation
    have hname : [source].find? (fun name ↦ !stored.contains name) = some name := by
      rwa [List.find?_cons_of_neg (by simpa using ht)] at h
    have hs : name ∉ stored := by simpa using List.find?_some hname
    obtain rfl : name = source := by simpa using List.mem_of_find?_eq_some hname
    rw [htarget, ok_bind, hsound.lookup_of_not_mem hs, error_bind]
  · rw [List.find?_cons_of_pos (by simpa using ht)] at h
    obtain rfl := Option.some.inj h
    rw [hsound.lookup_of_not_mem ht, error_bind]

private theorem lookup_single_of_missing (hsound : Sound stored table) {source name : Text}
    (h : [source].find? (fun name ↦ !stored.contains name) = some name) (index : Nat)
    (operation : Text) {α : Type} (f : Grid → Outcome α) :
    (lookup table (.str source) index operation >>= f) =
      .error (.unknownGrid (.str name) index operation) := by
  have hs : name ∉ stored := by simpa using List.find?_some h
  obtain rfl : name = source := by simpa using List.mem_of_find?_eq_some h
  rw [hsound.lookup_of_not_mem hs, error_bind]

private theorem perform_of_missing (hsound : Sound stored table) (index : Nat) {a : Action}
    {name : Text} (h : missing? stored a = some name) :
    a.perform context table index = .error (.unknownGrid (.str name) index a.name) := by
  cases a with
  | generate => cases h
  | overlay => exact lookup_pair_of_missing hsound h index _ _
  | clip => exact lookup_single_of_missing hsound h index _ _
  | transform => exact lookup_single_of_missing hsound h index _ _
  | topAppend => exact lookup_pair_of_missing hsound h index _ _
  | bottomAppend => exact lookup_pair_of_missing hsound h index _ _
  | centerHorizontally => exact lookup_single_of_missing hsound h index _ _

theorem perform_of_not_drawable (table : SymbolTable) (index : Nat) {a : Action}
    (h : a.drawable = false) : a.perform context table index = .error .overflow := by
  cases a with
  | generate shape fill =>
    rw [perform_generate, ShapeParams.draw_of_not_drawable h]
    rfl
  | _ => cases h

/-- An action has made a legible grid, and the table it leaves is sound. -/
def Makes (stored : List Text) (outcome : Outcome (SymbolTable × Grid)) : Prop :=
  ∃ mid g, outcome = .ok (mid, g) ∧ Sound stored mid ∧ g.Legible

private theorem makes_of_single (hsound : Sound stored table) {source : Text} (hs : source ∈ stored)
    (index : Nat) (operation : Text) {make : Grid → Grid}
    (hmake : ∀ s : Grid, s.Legible → (make s).Legible) :
    Makes stored (do
      let s ← lookup table (.str source) index operation
      .ok (table, make s)) := by
  obtain ⟨s, hsource, hlegible⟩ := hsound.lookup_of_mem hs index operation
  rw [hsource]
  exact ⟨table, make s, rfl, hsound, hmake s hlegible⟩

private theorem makes_of_pair (hsound : Sound stored table) {target source : Text}
    (ht : target ∈ stored)
    (hs : source ∈ stored) (index : Nat) (operation : Text) {join : Grid → Grid → Outcome Grid}
    (hjoin : ∀ t s : Grid, t.Legible → s.Legible → ∃ g, join t s = .ok g ∧ g.Legible) :
    Makes stored (do
      let t ← lookup table (.str target) index operation
      let s ← lookup table (.str source) index operation
      let joined ← join t s
      .ok (table, joined)) := by
  obtain ⟨t, htarget, htl⟩ := hsound.lookup_of_mem ht index operation
  obtain ⟨s, hsource, hsl⟩ := hsound.lookup_of_mem hs index operation
  obtain ⟨g, hg, hlegible⟩ := hjoin t s htl hsl
  rw [htarget, hsource, ok_bind, ok_bind, hg]
  exact ⟨table, g, rfl, hsound, hlegible⟩

/-- **One operation.** An action with nothing in its way makes a legible grid and leaves a sound
table. -/
theorem perform_of_resolved (hsound : Sound stored table) (index : Nat) {a : Action}
    (hresolved : Resolved stored a) (hlegible : a.Legible) (hfill : a.FillChecked .standard) :
    Makes stored (a.perform (.standardFrom entropy) table index) := by
  have hstored := hresolved.references
  cases a with
  | generate shape fill =>
    obtain ⟨drawn, hdraw, hdrawn⟩ := ShapeParams.draw_legible hresolved.drawable hlegible.1
    obtain ⟨pattern, params, hcheck⟩ := hfill
    have hsettings : (Script.Context.fillSettings (.standardFrom entropy) index).toRenderSettings =
        Settings.standard.render := rfl
    obtain ⟨filled, happly, hfilled⟩ := FillSpec.apply_legible hsettings hcheck hlegible.2 drawn
    refine ⟨table, filled, ?_, hsound, hfilled hdrawn⟩
    rw [perform_generate, hdraw, ok_bind]
    exact congrArg _ happly
  | overlay target source row col transparent char =>
    have ht : target ∈ stored := hstored target (by simp [Action.references])
    have hs : source ∈ stored := hstored source (by simp [Action.references])
    obtain ⟨t, htarget, htl⟩ := hsound.find? ht
    obtain ⟨s, hsource, hsl⟩ := hsound.find? hs
    have hchar : ∀ c ∈ char.map CodePoint.char, Cell.Legible c := by
      intro c hc
      obtain ⟨d, hd, rfl⟩ := Option.mem_map.1 hc
      exact hlegible d hd
    have hstamped := Grid.legible_overlay htl hsl row col hchar transparent
    exact ⟨_, _, perform_overlay htarget hsource, hsound.put_of_mem ht hstamped, hstamped⟩
  | clip source startRow endRow startCol endCol =>
    exact makes_of_single hsound (hstored source (by simp [Action.references])) index _
      fun _ hg ↦ Grid.legible_clip hg startRow endRow startCol endCol
  | transform source step =>
    exact makes_of_single hsound (hstored source (by simp [Action.references])) index _
      fun _ hg ↦ Grid.legible_apply hg step
  | topAppend target source =>
    exact makes_of_pair hsound (hstored target (by simp [Action.references]))
      (hstored source (by simp [Action.references])) index _ fun _ _ ↦ Grid.topAppend_legible
  | bottomAppend target source =>
    exact makes_of_pair hsound (hstored target (by simp [Action.references]))
      (hstored source (by simp [Action.references])) index _ fun _ _ ↦ Grid.bottomAppend_legible
  | centerHorizontally source targetWidth =>
    exact makes_of_single hsound (hstored source (by simp [Action.references])) index _
      fun _ hg ↦ Grid.legible_centerHorizontally hg targetWidth.val

/-! ## Runs -/

/-- Nothing is in the way of any operation when it is reached. -/
def AllResolved (operations : List Operation) : Prop :=
  ∀ i, ∀ hi : i < operations.length,
    Resolved (storedBefore operations i) operations[i].action

private theorem storedBefore_cons (o : Operation) (rest : List Operation) (i : Nat) :
    storedBefore (o :: rest) (i + 1) = o.storeAs :: storedBefore rest i := rfl

/-- **Runs.** Operations with nothing in their way all succeed, and the table stays sound. -/
theorem runFrom_of_resolved {operations : List Operation} (hsound : Sound stored table)
    (hlegible : ∀ o ∈ operations, o.action.Legible)
    (hfill : ∀ o ∈ operations, o.action.FillChecked .standard)
    (hresolved : ∀ i, ∀ hi : i < operations.length,
      Resolved (stored ++ storedBefore operations i) operations[i].action) :
    ∃ after, runFrom (.standardFrom entropy) table index operations = .ok after ∧
      Sound (stored ++ operations.map Operation.storeAs) after := by
  -- every operation stores one more name, and the table stays sound for all of them
  induction operations generalizing table stored index with
  | nil => exact ⟨table, rfl, by rwa [List.map_nil, List.append_nil]⟩
  | cons o rest ih =>
    have hfirst : Resolved stored o.action := by
      have h := hresolved 0 (Nat.zero_lt_succ _)
      rwa [storedBefore, List.take_zero, List.map_nil, List.append_nil] at h
    obtain ⟨mid, g, hperform, hmid, hg⟩ :=
      perform_of_resolved hsound index hfirst (hlegible o List.mem_cons_self)
        (hfill o List.mem_cons_self)
    have hrest (i : Nat) (hi : i < rest.length) :
        Resolved (stored ++ [o.storeAs] ++ storedBefore rest i) rest[i].action := by
      have h := hresolved (i + 1) (Nat.succ_lt_succ hi)
      rwa [storedBefore_cons, List.append_cons] at h
    obtain ⟨after, hafter, hsound'⟩ :=
      ih (hmid.put o.storeAs hg) (fun o' ho ↦ hlegible o' (List.mem_cons_of_mem o ho))
        (fun o' ho ↦ hfill o' (List.mem_cons_of_mem o ho)) hrest
    refine ⟨after, ?_, ?_⟩
    · rw [runFrom_cons_of_ok rest hperform, hafter]
    · rwa [List.map_cons, List.append_cons]

/-- Unless nothing is in the way of any operation, there is a first one that something is in the
way of. -/
theorem exists_first_fault {operations : List Operation} (h : ¬AllResolved operations) :
    ∃ i, ∃ hi : i < operations.length,
      ¬Resolved (storedBefore operations i) operations[i].action ∧
      ∀ j, ∀ hj : j < operations.length, j < i →
        Resolved (storedBefore operations j) operations[j].action := by
  -- a fault that is not the first has another one before it
  obtain ⟨i, hfault⟩ := Classical.not_forall.1 h
  induction i using Nat.strongRecOn with
  | ind i ih =>
    obtain ⟨hi, hfault⟩ := Classical.not_forall.1 hfault
    by_cases hbefore : ∀ j, ∀ hj : j < operations.length, j < i →
        Resolved (storedBefore operations j) operations[j].action
    · exact ⟨i, hi, hfault, hbefore⟩
    · obtain ⟨j, hj⟩ := Classical.not_forall.1 hbefore
      obtain ⟨hj, hji⟩ := Classical.not_forall.1 hj
      obtain ⟨hji, hfault⟩ := Classical.not_imp.1 hji
      exact ih j hji fun h ↦ hfault (h hj)

/-- Something is in the way of an action if one of its grids is missing or its shape cannot be
drawn. -/
theorem not_resolved {stored : List Text} {a : Action} (h : ¬Resolved stored a) :
    (∃ name, missing? stored a = some name) ∨ missing? stored a = none ∧ a.drawable = false := by
  cases hmissing : missing? stored a with
  | some name => exact .inl ⟨name, rfl⟩
  | none =>
    refine .inr ⟨rfl, Bool.eq_false_iff.2 fun hdrawable ↦ h ⟨?_, hdrawable⟩⟩
    exact missing?_eq_none.1 hmissing

section Checked

variable {r : Recipe} (hlegible : ∀ o ∈ r.operations, o.action.Legible)
  (hfill : ∀ o ∈ r.operations, o.action.FillChecked .standard)

include hlegible hfill

private theorem exists_table_before (i : Nat)
    (hbefore : ∀ j, ∀ hj : j < r.operations.length, j < i →
      Resolved (storedBefore r.operations j) r.operations[j].action) :
    ∃ before, runFrom (.standardFrom entropy) [] 0 (r.operations.take i) = .ok before ∧
      Sound (storedBefore r.operations i) before := by
  refine runFrom_of_resolved Sound.nil (fun o ho ↦ hlegible o (List.mem_of_mem_take ho))
    (fun o ho ↦ hfill o (List.mem_of_mem_take ho)) fun j hj ↦ ?_
  obtain ⟨hji, hj⟩ := Nat.lt_min.1 (List.length_take ▸ hj)
  have h := hbefore j hj hji
  rwa [List.nil_append, List.getElem_take, storedBefore, List.take_take,
    Nat.min_eq_left (Nat.le_of_lt hji)]

theorem run_of_perform_error {i : Nat} (hi : i < r.operations.length)
    (hbefore : ∀ j, ∀ hj : j < r.operations.length, j < i →
      Resolved (storedBefore r.operations j) r.operations[j].action) {cause : Failure}
    (hfail : ∀ table, Sound (storedBefore r.operations i) table →
      r.operations[i].action.perform (.standardFrom entropy) table i = .error cause) :
    ∃ symbols, run (.standardFrom entropy) r = .error ⟨cause, symbols⟩ := by
  obtain ⟨before, hrun, hsound⟩ := exists_table_before hlegible hfill i hbefore
  have hsplit :
      r.operations = r.operations.take i ++ r.operations[i] :: r.operations.drop (i + 1) := by
    rw [← List.drop_eq_getElem_cons hi, List.take_append_drop]
  have hlength : (r.operations.take i).length = i := List.length_take_of_le (Nat.le_of_lt hi)
  refine ⟨before, ?_⟩
  rw [run, hsplit, runFrom_append _ hrun, hlength, Nat.zero_add,
    runFrom_cons_of_error _ (hfail before hsound), error_bind]

theorem run_of_missing {i : Nat} (hi : i < r.operations.length)
    (hbefore : ∀ j, ∀ hj : j < r.operations.length, j < i →
      Resolved (storedBefore r.operations j) r.operations[j].action) {name : Text}
    (hname : missing? (storedBefore r.operations i) r.operations[i].action = some name) :
    ∃ symbols, run (.standardFrom entropy) r =
      .error ⟨.unknownGrid (.str name) i r.operations[i].action.name, symbols⟩ :=
  run_of_perform_error hlegible hfill hi hbefore fun _ hsound ↦ perform_of_missing hsound i hname

theorem run_of_not_drawable {i : Nat} (hi : i < r.operations.length)
    (hbefore : ∀ j, ∀ hj : j < r.operations.length, j < i →
      Resolved (storedBefore r.operations j) r.operations[j].action)
    (hdrawable : r.operations[i].action.drawable = false) :
    ∃ symbols, run (.standardFrom entropy) r = .error ⟨.overflow, symbols⟩ :=
  run_of_perform_error hlegible hfill hi hbefore fun table _ ↦
    perform_of_not_drawable table i hdrawable

theorem run_of_allResolved (hresolved : AllResolved r.operations) :
    (r.output ∈ r.operations.map Operation.storeAs →
      ∃ result, run (.standardFrom entropy) r = .ok result) ∧
    (r.output ∉ r.operations.map Operation.storeAs →
      ∃ symbols, run (.standardFrom entropy) r =
        .error ⟨.outputMissing (.str r.output), symbols⟩) := by
  obtain ⟨after, hrun, hsound⟩ : ∃ after,
      runFrom (.standardFrom entropy) [] 0 r.operations = .ok after ∧
        Sound ([] ++ r.operations.map Operation.storeAs) after :=
    runFrom_of_resolved Sound.nil hlegible hfill fun i hi ↦ by simpa using hresolved i hi
  rw [List.nil_append] at hsound
  rw [run, hrun, ok_bind, finish, Value.isName_str, if_pos rfl]
  constructor
  · intro hout
    obtain ⟨g, hg, -⟩ := hsound.find? hout
    rw [hg]
    exact ⟨_, rfl⟩
  · intro hout
    rw [hsound.find?_eq_none hout]
    exact ⟨_, rfl⟩

private theorem resolved_of_run_eq_ok {result : Result}
    (hrun : run (.standardFrom entropy) r = .ok result) :
    AllResolved r.operations ∧ r.output ∈ r.operations.map Operation.storeAs := by
  have hnot {cause : Failure} :
      ¬ ∃ symbols, run (.standardFrom entropy) r = .error ⟨cause, symbols⟩ := by
    rintro ⟨symbols, hhalt⟩
    rw [hrun] at hhalt
    cases hhalt
  by_cases hresolved : AllResolved r.operations
  · refine ⟨hresolved, Classical.not_not.1 fun hout ↦ ?_⟩
    exact hnot ((run_of_allResolved hlegible hfill hresolved).2 hout)
  · obtain ⟨i, hi, hfault, hbefore⟩ := exists_first_fault hresolved
    rcases not_resolved hfault with ⟨name, hname⟩ | ⟨-, hdrawable⟩
    · exact absurd (run_of_missing hlegible hfill hi hbefore hname) hnot
    · exact absurd (run_of_not_drawable hlegible hfill hi hbefore hdrawable) hnot

end Checked

/-- Draws a single cell, and then stamps a grid that is not stored onto it. -/
def strayStamp : Recipe where
  operations := [⟨.generate (.rectangle ⟨1, by decide⟩ ⟨1, by decide⟩ '*' false) ⟨none, []⟩, "a"⟩,
    ⟨.overlay "a" "b" 0 0 true none, "c"⟩]
  output := "c"

/-- Draws a polygon with `10 ^ 309` sides. -/
def countlessSides : Operation where
  action := .generate (.polygon ⟨(10 ^ 103) ^ 3, by decide⟩ ⟨1, by decide⟩ false '*') ⟨none, []⟩
  storeAs := "p"

end TextArt.Recipe
