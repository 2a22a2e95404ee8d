import TextArt.Proofs.Outcome
import Mathlib.Computability.Primrec.List
import TextArt.Proofs.Recipe.SymbolTable
import TextArt.Recipe.Document

/-!
# Failing operations leave the table alone

A document that is run as it is can fail at any operation and at any point of it: a field may be
missing, a value may be of the wrong kind, a grid may not be stored, a fill may turn its parameters
down. Whatever the reason, the table is then the one that the operations before have left.

The only way to break this would be a name that no grid can be stored under: stamping changes its
target first, and the name is looked at afterwards. So the names that operations store under have to
be texts, as far as they are given; every other field may be missing or hold anything.

The argument is in two parts. One operation either leaves its table as it was or changes just the
slots it names (`step_error_symbols`, `step_ok_frame`); a run is then cut at the operation that
fails (`runFrom_error_cut`).
-/

namespace TextArt

namespace Recipe.Document

variable {context : Context} {table after : SymbolTable} {index : Nat} {op : Value} {halt : Halt}

/-- The name that an operation stores under is a text, if there is one. -/
def StoresUnderText (op : Value) : Prop :=
  ∀ store, op.need "storeAs" = .ok store → ∃ s, store = .str s

/-- Whether an operation stamps. -/
def Stamps (op : Value) : Prop := op.ask "operation" .null = .ok (.str "overlay")

/-- The slots that an operation may change: the one that it stores under and, if it stamps, the one
of its target. -/
def Writes (op name : Value) : Prop :=
  op.need "storeAs" = .ok name ∨ Stamps op ∧ op.need "target" = .ok name

/-! ## One operation -/

private theorem perform?_cases {operation : Text} {outcome : Outcome (SymbolTable × Grid)}
    (h : perform? context table index operation op = some outcome) :
    (operation = "overlay" ∧ outcome = overlay table index op) ∨
      operation ≠ "overlay" ∧ ∃ made : Outcome Grid, outcome = made.map (table, ·) := by
  unfold perform? at h
  split at h <;> simp only [Option.some.injEq, reduceCtorEq] at h
  case h_2 hname => exact .inl ⟨Text.toString?_eq_some.1 hname, h.symm⟩
  all_goals
    next hname =>
    refine .inr ⟨?_, _, h.symm⟩
    rintro rfl
    simp at hname

private theorem gridOf_eq_ok {operation field : Text} {name : Value} {g : Grid}
    (h : gridOf table index operation op field = .ok (name, g)) :
    op.need field = .ok name ∧ table.find? name = some g := by
  obtain ⟨v, hv, h⟩ := bind_eq_ok.1 h
  obtain ⟨g', hg, h⟩ := bind_eq_ok.1 h
  obtain ⟨rfl, rfl⟩ := Prod.mk.inj (Except.ok.inj h)
  refine ⟨hv, ?_⟩
  unfold lookup at hg
  split at hg
  · split at hg
    · next hfound =>
      cases hg
      exact hfound
    · cases hg
  · cases hg

private theorem overlay_eq_ok {mid : SymbolTable} {g : Grid}
    (h : overlay table index op = .ok (mid, g)) :
    ∃ target old, op.need "target" = .ok target ∧ table.find? target = some old ∧
      mid = table.put target g := by
  obtain ⟨⟨target, old⟩, htarget, h⟩ := bind_eq_ok.1 h
  obtain ⟨hneed, hfound⟩ := gridOf_eq_ok htarget
  -- the rest reads the source, the place and the character, and ends in the pair
  obtain ⟨⟨_, source⟩, -, h⟩ := bind_eq_ok.1 h
  obtain ⟨position, -, h⟩ := bind_eq_ok.1 h
  obtain ⟨row, -, h⟩ := bind_eq_ok.1 h
  obtain ⟨col, -, h⟩ := bind_eq_ok.1 h
  obtain ⟨char, -, h⟩ := bind_eq_ok.1 h
  obtain ⟨transparent, -, h⟩ := bind_eq_ok.1 h
  obtain ⟨stamped, -, h⟩ := bind_eq_ok.1 h
  obtain ⟨rfl, rfl⟩ := Prod.mk.inj (Except.ok.inj h)
  exact ⟨target, old, hneed, hfound, rfl⟩

/-- **What a step does.** It stops with a table as it was, or it has found its grids, made a grid
and come to store it. -/
theorem step_cases (hstore : StoresUnderText op) :
    (∃ cause, step context table index op = .error ⟨cause, table⟩) ∨
      ∃ operation s mid g, op.ask "operation" .null = .ok (.str operation) ∧
        op.need "storeAs" = .ok (.str s) ∧
        perform? context table index operation op = some (.ok (mid, g)) ∧
        step context table index op = .ok (mid.put (.str s) g) := by
  unfold step
  cases hkind : op.ask "operation" .null with
  | error cause => exact .inl ⟨cause, rfl⟩
  | ok kind =>
    dsimp only
    cases hname : kind.isName with
    | false => exact .inl ⟨.wrongType, rfl⟩
    | true =>
      cases htext : kind.text? with
      | none => exact .inl ⟨_, rfl⟩
      | some operation =>
        obtain rfl : kind = .str operation := by
          cases kind <;> simp [Value.text?] at htext
          rw [htext]
        dsimp only
        cases houtcome : perform? context table index operation op with
        | none => exact .inl ⟨_, rfl⟩
        | some outcome =>
          cases hneed : op.need "storeAs" with
          | error cause => exact .inl ⟨cause, rfl⟩
          | ok store =>
            obtain ⟨s, rfl⟩ := hstore store hneed
            cases outcome with
            | error cause => exact .inl ⟨cause, rfl⟩
            | ok pair => exact .inr ⟨operation, s, pair.1, pair.2, rfl, rfl, houtcome, rfl⟩

private theorem step_error_symbols (hstore : StoresUnderText op)
    (h : step context table index op = .error halt) : halt.symbols = table := by
  rcases @step_cases context table index op hstore with
    ⟨cause, hstep⟩ | ⟨_, _, _, _, -, -, -, hstep⟩
  · rw [hstep] at h
    cases h
    rfl
  · rw [hstep] at h
    cases h

/-- The effect of an operation that has stored a grid under a name. -/
structure Frame (op : Value) (before after : SymbolTable) (s : Text) (g : Grid) : Prop where
  /-- The operation gives the name. -/
  store : op.need "storeAs" = .ok (.str s)
  /-- The slot of that name holds the grid. -/
  stored : after.find? (.str s) = some g
  /-- If the operation stamps, the slot of its target holds an equal grid. -/
  target : Stamps op → ∃ t, op.need "target" = .ok (.str t) ∧ after.find? (.str t) = some g
  /-- Every slot that the operation does not write is as it was. -/
  others : ∀ name, ¬ Writes op name → after.find? name = before.find? name
  /-- The names keep their order; a new one comes last. -/
  names : ∀ names, before.HasNames names → after.HasNames (SymbolTable.addName names s)

private theorem frame_of_overlay {names : List Text} {s : Text} {mid : SymbolTable} {g : Grid}
    (hnames : table.HasNames names) (hstamps : Stamps op) (hneed : op.need "storeAs" = .ok (.str s))
    (h : overlay table index op = .ok (mid, g)) :
    Frame op table (mid.put (.str s) g) s g := by
  obtain ⟨target, old, htarget, hfound, rfl⟩ := overlay_eq_ok h
  -- the target is in the table, so its name is a text that is in use
  obtain ⟨t, ht, rfl⟩ := hnames.eq_str_of_find? hfound
  refine ⟨hneed, SymbolTable.find?_put_self _ _ _, fun _ ↦ ⟨t, htarget, ?_⟩, ?_, ?_⟩
  · by_cases hts : t = s
    · rw [hts, SymbolTable.find?_put_self]
    · rw [SymbolTable.find?_put_str_of_ne hts, SymbolTable.find?_put_self]
  · intro name hname
    have hs : name ≠ .str s := fun heq ↦ hname (.inl (heq ▸ hneed))
    have ht' : name ≠ .str t := fun heq ↦ hname (.inr ⟨hstamps, heq ▸ htarget⟩)
    rw [SymbolTable.find?_put_of_ne hs, SymbolTable.find?_put_of_ne ht']
  · intro names' hnames'
    have hmem : t ∈ names' := by
      rw [← hnames'.isSome_find?_str, hfound]
      rfl
    have hput := (hnames'.put t g).put s g
    rwa [SymbolTable.addName_of_mem hmem] at hput

private theorem frame_of_made {s : Text} (hother : ¬ Stamps op)
    (hneed : op.need "storeAs" = .ok (.str s)) (g : Grid) :
    Frame op table (table.put (.str s) g) s g := by
  refine ⟨hneed, SymbolTable.find?_put_self _ _ _, fun hstamps ↦ absurd hstamps hother, ?_, ?_⟩
  · intro name hname
    have hs : name ≠ .str s := fun heq ↦ hname (.inl (heq ▸ hneed))
    exact SymbolTable.find?_put_of_ne hs _ _
  · intro names hnames
    exact hnames.put s g

theorem step_ok_frame {names : List Text} (hnames : table.HasNames names)
    (hstore : StoresUnderText op) (h : step context table index op = .ok after) :
    ∃ s g, Frame op table after s g := by
  rcases @step_cases context table index op hstore with
    ⟨cause, hstep⟩ | ⟨operation, s, mid, g, hkind, hneed, hperform, hstep⟩
  · rw [hstep] at h
    cases h
  obtain rfl : mid.put (.str s) g = after := Except.ok.inj (hstep.symm.trans h)
  refine ⟨s, g, ?_⟩
  rcases perform?_cases hperform with ⟨rfl, houtcome⟩ | ⟨hother, made, houtcome⟩
  · exact frame_of_overlay hnames hkind hneed houtcome.symm
  · have hstamps : ¬ Stamps op := by
      intro hstamps
      rw [Stamps, hkind] at hstamps
      cases hstamps
      exact hother rfl
    cases made with
    | error cause => cases houtcome
    | ok g' =>
      obtain ⟨rfl, rfl⟩ := Prod.mk.inj (Except.ok.inj houtcome)
      exact frame_of_made hstamps hneed g

/-! ## A run -/

theorem runFrom_cons (op : Value) (rest : List Value) :
    runFrom context table index (op :: rest) =
      (step context table index op >>= fun next ↦ runFrom context next (index + 1) rest) := rfl

/-- The operations after a prefix go on with the table that the prefix has left. -/
theorem runFrom_append (first more : List Value) :
    runFrom context table index (first ++ more) =
      (runFrom context table index first >>= fun next ↦
        runFrom context next (index + first.length) more) := by
  induction first generalizing table index with
  | nil => rfl
  | cons op rest ih =>
    rw [List.cons_append, runFrom_cons, runFrom_cons]
    cases step context table index op with
    | error halt => rfl
    | ok next =>
      rw [ok_bind, ok_bind, ih, List.length_cons, Nat.add_assoc, Nat.add_comm 1]

private theorem runFrom_hasNames {operations : List Value} {names : List Text}
    (hnames : table.HasNames names) (hstore : ∀ op ∈ operations, StoresUnderText op)
    (h : runFrom context table index operations = .ok after) :
    ∃ names', after.HasNames names' := by
  induction operations generalizing table index names with
  | nil =>
    obtain rfl := Except.ok.inj h
    exact ⟨names, hnames⟩
  | cons op rest ih =>
    rw [runFrom_cons] at h
    obtain ⟨next, hstep, hrest⟩ := bind_eq_ok.1 h
    obtain ⟨s, g, hframe⟩ := step_ok_frame hnames (hstore op List.mem_cons_self) hstep
    exact ih (hframe.names names hnames) (fun o ho ↦ hstore o (List.mem_cons_of_mem _ ho)) hrest

/-- A run that fails can be cut at the operation that fails: the operations before it have left the
table that the run stops with. -/
theorem runFrom_error_cut {operations : List Value}
    (hstore : ∀ op ∈ operations, StoresUnderText op)
    (h : runFrom context table index operations = .error halt) :
    ∃ i, ∃ hi : i < operations.length,
      runFrom context table index (operations.take i) = .ok halt.symbols ∧
        step context halt.symbols (index + i) operations[i] = .error halt := by
  induction operations generalizing table index with
  | nil => cases h
  | cons op rest ih =>
    rw [runFrom_cons] at h
    rcases bind_eq_error.1 h with hstep | ⟨next, hstep, hrest⟩
    · -- the first operation fails, and nothing comes before the cut
      have hsymbols := step_error_symbols (hstore op List.mem_cons_self) hstep
      refine ⟨0, Nat.zero_lt_succ _, ?_, ?_⟩
      · rw [hsymbols]
        rfl
      · rw [hsymbols]
        exact hstep
    · -- a later one fails, and the cut moves on by one
      obtain ⟨i, hi, hprefix, hfail⟩ := ih (fun o ho ↦ hstore o (List.mem_cons_of_mem _ ho)) hrest
      refine ⟨i + 1, Nat.succ_lt_succ hi, ?_, ?_⟩
      · rw [List.take_succ_cons, runFrom_cons, hstep]
        exact hprefix
      · rw [Nat.add_right_comm] at hfail
        exact hfail

private theorem runFrom_split {operations : List Value} {i : Nat} (hi : i < operations.length) :
    runFrom context table index operations =
      (runFrom context table index (operations.take i) >>= fun before ↦
        step context before (index + i) operations[i] >>= fun next ↦
          runFrom context next (index + i + 1) (operations.drop (i + 1))) := by
  have h := @runFrom_append context table index (operations.take i) (operations.drop i)
  rw [List.take_append_drop, List.drop_eq_getElem_cons hi,
    List.length_take_of_le (Nat.le_of_lt hi)] at h
  exact h

private theorem finish_error_symbols {output : Value} {operations : Nat}
    (h : finish table output operations = .error halt) : halt.symbols = table := by
  unfold finish at h
  split at h
  · split at h
    · cases h
    · cases h
      rfl
  · cases h
    rfl

/-- **Atomicity.** The operations of a document are found, and the names under which they store are
texts. Then the run fails exactly if, for some `i`, the first `i` operations run to their end on the
empty table and the next one fails with the table that they have left, or all operations run to
their end and the output is not in the table that they have left. So nothing of the failing
operation, of later ones or of the prior table is ever to be seen.

An operation that succeeds changes its own slot and, if it stamps, that of its target, to one
grid. -/
theorem run_error_iff_cut (prior : SymbolTable) {document output : Value}
    {operations : List Value} (hfound : unpack document = .ok (operations, output))
    (hstore : ∀ op ∈ operations, StoresUnderText op) :
    (∀ halt, run context prior document = .error halt ↔
      (∃ i, ∃ hi : i < operations.length,
        runFrom context [] 0 (operations.take i) = .ok halt.symbols ∧
          step context halt.symbols i operations[i] = .error halt) ∨
      runFrom context [] 0 operations = .ok halt.symbols ∧
        finish halt.symbols output operations.length = .error halt) ∧
    ∀ i, ∀ hi : i < operations.length, ∀ before after,
      runFrom context [] 0 (operations.take i) = .ok before →
      step context before i operations[i] = .ok after →
        runFrom context [] 0 (operations.take (i + 1)) = .ok after ∧
          ∃ s g, Frame operations[i] before after s g := by
  constructor
  · intro halt
    unfold run
    rw [hfound]
    dsimp only
    rw [bind_eq_error]
    constructor
    · rintro (h | ⟨table, h, hfinish⟩)
      · obtain ⟨i, hi, hprefix, hfail⟩ := runFrom_error_cut hstore h
        rw [Nat.zero_add] at hfail
        exact .inl ⟨i, hi, hprefix, hfail⟩
      · obtain rfl := finish_error_symbols hfinish
        exact .inr ⟨h, hfinish⟩
    · rintro (⟨i, hi, hprefix, hfail⟩ | ⟨h, hfinish⟩)
      · left
        rw [runFrom_split hi, hprefix, ok_bind, Nat.zero_add, hfail, error_bind]
      · exact .inr ⟨_, h, hfinish⟩
  · intro i hi before after hprefix hstep
    constructor
    · rw [List.take_succ_eq_append_getElem hi, runFrom_append, hprefix, ok_bind,
        List.length_take_of_le (Nat.le_of_lt hi), Nat.zero_add, runFrom_cons, hstep]
      rfl
    · obtain ⟨names, hnames⟩ := runFrom_hasNames SymbolTable.HasNames.nil
        (fun o ho ↦ hstore o (List.mem_of_mem_take ho)) hprefix
      exact step_ok_frame hnames (hstore _ (List.getElem_mem hi)) hstep

/-- Draws a single cell and then stamps a grid that is not stored onto it. -/
def danglingStamp : List Value :=
  [.object [("operation", .str "generate"), ("shape", .str "rectangle"),
      ("params", .object [("width", .int 1), ("height", .int 1)]), ("storeAs", .str "a")],
    .object [("operation", .str "overlay"), ("target", .str "a"), ("source", .str "b"),
      ("storeAs", .str "c")]]

/-- The second operation fails; the cell of the first one is there, the prior grid is not. -/
theorem danglingStamp_run :
    run .standard [(.str "z", .single)]
        (.object [("recipe", .list danglingStamp), ("output", .str "c")]) =
      .error ⟨.unknownGrid (.str "b") 1 "overlay",
        [(.str "a", Rectangle.draw 1 1 Nat.one_pos Nat.one_pos false '*')]⟩ := by
  have hstore : ∀ op ∈ danglingStamp, StoresUnderText op := by
    simp [danglingStamp, StoresUnderText, Value.need, List.lookup]
  refine ((run_error_iff_cut _ rfl hstore).1 _).2 (.inl ⟨1, by decide, ?_, ?_⟩)
  · rfl
  · rfl

end Recipe.Document

end TextArt
