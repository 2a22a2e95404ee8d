import Mathlib.Data.List.Basic
import TextArt.Proofs.Outcome
import TextArt.Request.Paint

/-!
# Tables of texts and of flags

A request gives texts and flags as lists of rows. Texts have the size of the grid. Flags may also
be a single row or a single column, which is then repeated over the grid; `Grid.Stretched` says
shape by shape which cells are chosen by them. The two main statements are that such tables are read
as what they are: `Value.ink_texts` for texts and `Grid.MaskedBy.read` for flags.
-/

namespace TextArt

/-- The entry of some rows at a place. -/
def entryAt? {α : Type} (rows : List (List α)) (row col : Nat) : Option α :=
  (rows[row]?).bind (·[col]?)

theorem mem_of_entryAt? {α : Type} {rows : List (List α)} {row col : Nat} {a : α}
    (h : entryAt? rows row col = some a) : ∃ r ∈ rows, a ∈ r := by
  obtain ⟨r, hr, ha⟩ := Option.bind_eq_some_iff.1 h
  exact ⟨r, List.mem_of_getElem? hr, List.mem_of_getElem? ha⟩

namespace Grid

variable {g : Grid} {α : Type} {rows : List (List α)}

/-- There is an entry for each cell of the grid, and no other. -/
structure Tiled (g : Grid) (rows : List (List α)) : Prop where
  /-- There are as many rows. -/
  height : rows.length = g.height
  /-- Each of them is as long. -/
  width : ∀ r ∈ rows, r.length = g.width

theorem Tiled.exists_entry (h : g.Tiled rows) {row col : Nat} (hr : row < g.height)
    (hc : col < g.width) : ∃ a, entryAt? rows row col = some a := by
  have hrow : row < rows.length := h.height ▸ hr
  have hcol : col < rows[row].length := (h.width _ (List.getElem_mem hrow)) ▸ hc
  refine ⟨rows[row][col], ?_⟩
  rw [entryAt?, List.getElem?_eq_getElem hrow, Option.bind_some, List.getElem?_eq_getElem hcol]

/-- Rows of flags that can be stretched over the grid, and what they choose then. -/
inductive Stretched (g : Grid) : List (List Bool) → (Nat → Nat → Bool) → Prop where
  /-- Every cell has a flag of its own. -/
  | cells {rows : List (List Bool)} (h : g.Tiled rows) :
    Stretched g rows fun row col ↦ (entryAt? rows row col).getD false
  /-- Every column has a flag. -/
  | row {flags : List Bool} (h : flags.length = g.width) :
    Stretched g [flags] fun _ col ↦ (flags[col]?).getD false
  /-- Every row has a flag. -/
  | column {flags : List Bool} (h : flags.length = g.height) :
    Stretched g (flags.map fun flag ↦ [flag]) fun row _ ↦ (flags[row]?).getD false
  /-- All cells have the same flag. -/
  | single (flag : Bool) : Stretched g [[flag]] fun _ _ ↦ flag

/-- What a value chooses of a grid as a mask: everything if it is absent, and else what its flags
choose. A single row may be given by itself. -/
inductive MaskedBy (g : Grid) : Value → (Nat → Nat → Bool) → Prop where
  /-- There is no mask. -/
  | absent : MaskedBy g .null fun _ _ ↦ true
  /-- A list of rows. -/
  | rows {flags : List (List Bool)} {chosen : Nat → Nat → Bool} (h : g.Stretched flags chosen) :
    MaskedBy g (.list (flags.map fun r ↦ .list (r.map .bool))) chosen
  /-- A row by itself. -/
  | line {flags : List Bool} {chosen : Nat → Nat → Bool} (h : g.Stretched [flags] chosen) :
    MaskedBy g (.list (flags.map .bool)) chosen

end Grid

/-! ## Reading tables -/

namespace Matrix

variable {α : Type} {rows : List (List α)}

theorem ofRows?_of_length {width : Nat} (hne : rows ≠ []) (h : ∀ r ∈ rows, r.length = width) :
    ofRows? rows = some ⟨rows.length, width, (rows.map List.toArray).toArray⟩ := by
  obtain ⟨first, rest, rfl⟩ := List.exists_cons_of_ne_nil hne
  obtain rfl := h first List.mem_cons_self
  have hall : ((first :: rest).all fun r ↦ r.length == first.length) = true := by
    simpa using fun r hr ↦ h r (List.mem_cons_of_mem _ hr)
  exact if_pos hall

theorem get?_mk (height width row col : Nat) :
    (⟨height, width, (rows.map List.toArray).toArray⟩ : Matrix α).get? row col =
      entryAt? rows row col := by
  simp only [get?, entryAt?, List.getElem?_toArray, List.getElem?_map]
  cases rows[row]? <;> simp

end Matrix

namespace Value

theorem items?_rows {α : Type} (f : α → Value) (rows : List (List α)) :
    (rows.map fun r ↦ Value.list (r.map f)).mapM items? = some (rows.map (·.map f)) := by
  rw [List.mapM_map]
  exact List.mapM_pure

/-- A table of texts is read as an ink with the text of each place. -/
theorem ink_texts {g : Grid} {rows : List (List Text)} (h : g.Tiled rows) :
    ∃ texts : Matrix Text, (Value.list (rows.map fun r ↦ .list (r.map .str))).ink =
        .ok (.table texts) ∧
      texts.fits g = true ∧ ∀ row col, texts.get? row col = entryAt? rows row col := by
  have hne : rows ≠ [] := by
    rintro rfl
    exact Nat.ne_of_lt g.height_pos h.height
  have htexts : (rows.map (·.map Value.str)).mapM (·.mapM scalarText?) = some rows := by
    rw [List.mapM_map]
    have hrow : ((fun items : List Value ↦ items.mapM scalarText?) ∘ fun r : List Text ↦
        r.map Value.str) = fun r ↦ pure r := by
      funext r
      rw [Function.comp_apply, List.mapM_map]
      exact List.mapM_pure.trans (congrArg some (List.map_id r))
    rw [hrow]
    exact List.mapM_pure.trans (congrArg some (List.map_id rows))
  refine ⟨⟨rows.length, g.width, (rows.map List.toArray).toArray⟩, ?_, ?_, ?_⟩
  · rw [ink, items?_rows]
    dsimp only
    rw [htexts]
    dsimp only
    rw [Matrix.ofRows?_of_length hne h.width]
  · simp [Matrix.fits, h.height]
  · exact fun row col ↦ Matrix.get?_mk _ _ _ _

theorem map_truthy_bool (flags : List Bool) : (flags.map bool).map truthy = flags := by
  rw [List.map_map]
  exact List.map_id flags

theorem mask_rows {flags : List (List Bool)} {width : Nat} (hne : flags ≠ [])
    (h : ∀ r ∈ flags, r.length = width) :
    (Value.list (flags.map fun r ↦ .list (r.map .bool))).mask =
      .ok (some ⟨flags.length, width, (flags.map List.toArray).toArray⟩) := by
  have htruthy : (flags.map (·.map Value.bool)).map (·.map truthy) = flags := by
    rw [List.map_map]
    exact (List.map_congr_left fun r _ ↦ map_truthy_bool r).trans (List.map_id flags)
  rw [mask, items?_rows]
  dsimp only
  rw [htruthy, Matrix.ofRows?_of_length hne h]

private theorem mask_line {flags : List Bool} (hne : flags ≠ []) :
    (Value.list (flags.map .bool)).mask =
      (Value.list ([flags].map fun r ↦ .list (r.map .bool))).mask := by
  obtain ⟨first, rest, rfl⟩ := List.exists_cons_of_ne_nil hne
  have hitems : ((first :: rest).map Value.bool).mapM items? = none := rfl
  have hany : (((first :: rest).map Value.bool).any fun v ↦ (items? v).isSome) = false := by
    simp [items?]
  rw [mask, hitems]
  dsimp only
  rw [hany, if_neg Bool.false_ne_true, mask_rows (List.cons_ne_nil _ _) fun r hr ↦
    congrArg List.length (List.mem_singleton.1 hr),
    Matrix.ofRows?_of_length (List.cons_ne_nil _ _) fun r hr ↦
      congrArg List.length (List.mem_singleton.1 hr), map_truthy_bool]

end Value

namespace Grid

variable {g : Grid}

/-- Flags that are stretched are read with their only row for all rows, and their only column for
all columns. -/
theorem read_flags {flags : List (List Bool)} {width : Nat} (hne : flags ≠ [])
    (hrows : ∀ r ∈ flags, r.length = width) (hheight : flags.length = g.height ∨ flags.length = 1)
    (hwidth : width = g.width ∨ width = 1) : ∃ m : Matrix Bool,
      (Value.list (flags.map fun r ↦ .list (r.map .bool))).mask = .ok (some m) ∧
      m.stretches g = true ∧ ∀ row col, m.chooses row col =
        (entryAt? flags (if flags.length = 1 then 0 else row)
          (if width = 1 then 0 else col)).getD false := by
  refine ⟨_, Value.mask_rows hne hrows, ?_, fun row col ↦ ?_⟩
  · simpa [Matrix.stretches] using ⟨hheight, hwidth⟩
  · rw [Matrix.chooses, Matrix.get?_mk]

private theorem Stretched.read {flags : List (List Bool)} {chosen : Nat → Nat → Bool}
    (h : g.Stretched flags chosen) : ∃ m : Matrix Bool,
      (Value.list (flags.map fun r ↦ .list (r.map .bool))).mask = .ok (some m) ∧
      m.stretches g = true ∧ ∀ row col, row < g.height → col < g.width →
        m.chooses row col = chosen row col := by
  cases h with
  | cells h =>
    have hne : flags ≠ [] := by
      rintro rfl
      exact Nat.ne_of_lt g.height_pos h.height
    obtain ⟨m, hm, hstretches, hchooses⟩ := read_flags hne h.width (.inl h.height) (.inl rfl)
    refine ⟨m, hm, hstretches, fun row col hr hc ↦ ?_⟩
    -- a single row is the row of every cell, and a single column its column
    have hrow : (if flags.length = 1 then 0 else row) = row := by
      have := h.height
      split <;> omega
    have hcol : (if g.width = 1 then 0 else col) = col := by split <;> omega
    rw [hchooses, hrow, hcol]
  | @row flags h =>
    obtain ⟨m, hm, hstretches, hchooses⟩ := read_flags (g := g) (List.cons_ne_nil flags [])
      (fun r hr ↦ congrArg List.length (List.mem_singleton.1 hr)) (.inr rfl) (.inl h)
    refine ⟨m, hm, hstretches, fun row col hr hc ↦ ?_⟩
    have hcol : (if flags.length = 1 then 0 else col) = col := by split <;> omega
    rw [hchooses, hcol]
    rfl
  | @column flags h =>
    have hne : (flags.map fun flag ↦ [flag]) ≠ [] := by
      intro hnil
      rw [List.map_eq_nil_iff.1 hnil] at h
      exact Nat.ne_of_lt g.height_pos h
    have hsingle : ∀ r ∈ flags.map fun flag ↦ [flag], r.length = 1 := by
      intro r hr
      obtain ⟨flag, -, rfl⟩ := List.mem_map.1 hr
      rfl
    obtain ⟨m, hm, hstretches, hchooses⟩ :=
      read_flags hne hsingle (.inl ((List.length_map _).trans h)) (.inr rfl)
    refine ⟨m, hm, hstretches, fun row col hr hc ↦ ?_⟩
    have hrow : (if (flags.map fun flag ↦ [flag]).length = 1 then 0 else row) = row := by
      rw [List.length_map]
      split <;> omega
    rw [hchooses, hrow, if_pos rfl, entryAt?, List.getElem?_map]
    cases hflag : flags[row]? <;> simp [hflag]
  | single flag =>
    obtain ⟨m, hm, hstretches, hchooses⟩ := read_flags (g := g) (List.cons_ne_nil [flag] [])
      (fun r hr ↦ congrArg List.length (List.mem_singleton.1 hr)) (.inr rfl) (.inr rfl)
    exact ⟨m, hm, hstretches, fun row col _ _ ↦ hchooses row col⟩

private theorem Stretched.ne_nil {flags : List (List Bool)} {chosen : Nat → Nat → Bool}
    (h : g.Stretched flags chosen) {r : List Bool} (hr : r ∈ flags) : r ≠ [] := by
  have hwidth := g.width_pos
  refine List.ne_nil_of_length_pos ?_
  cases h with
  | cells h => rwa [h.width r hr]
  | row h => rwa [List.mem_singleton.1 hr, h]
  | column h =>
    obtain ⟨flag, -, rfl⟩ := List.mem_map.1 hr
    exact Nat.one_pos
  | single flag =>
    rw [List.mem_singleton.1 hr]
    exact Nat.one_pos

/-- **Masks.** A value that masks a grid is read as a mask that fits it and chooses the same
cells. -/
theorem MaskedBy.read {v : Value} {chosen : Nat → Nat → Bool} (h : g.MaskedBy v chosen) :
    ∃ mask : Option (Matrix Bool), v.mask = .ok mask ∧
      (mask.map fun m ↦ m.stretches g).getD true = true ∧
      ∀ row col, row < g.height → col < g.width →
        (mask.elim (fun _ _ ↦ true) Matrix.chooses) row col = chosen row col := by
  cases h with
  | absent => exact ⟨none, rfl, rfl, fun _ _ _ _ ↦ rfl⟩
  | rows h =>
    obtain ⟨m, hm, hstretches, hchooses⟩ := h.read
    exact ⟨some m, hm, hstretches, hchooses⟩
  | @line flags _ h =>
    obtain ⟨m, hm, hstretches, hchooses⟩ := h.read
    exact ⟨some m, (Value.mask_line (h.ne_nil List.mem_cons_self)).trans hm, hstretches, hchooses⟩

end Grid

end TextArt
