import TextArt.Recipe.Run

/-!
# Tables of named grids

Checked recipes store under texts only, and so do documents that are run as they are as long as
their names are texts. A text names the same entry as no other value, so a table that is written
under texts behaves like a function: writing one slot leaves every other slot alone, and the names
keep the order in which they were first used.
-/

namespace TextArt

namespace Value

/-! ## Texts as names -/

theorem sameName_str_left {s : Text} {v : Value} :
    (Value.str s).sameName v = true ↔ v = .str s := by
  cases v with
  | str t =>
    rw [sameName, beq_iff_eq, str.injEq]
    exact eq_comm
  | _ => simp [sameName, number?, Number.ofValue?]

private theorem sameName_str_right {s : Text} {v : Value} :
    v.sameName (.str s) = true ↔ v = .str s := by
  cases v <;> simp [sameName, number?, Number.ofValue?]

@[simp] theorem isName_str (s : Text) : (Value.str s).isName = true := rfl

end Value

namespace SymbolTable

/-! ## Slots -/

@[simp] theorem find?_nil (v : Value) : find? [] v = none := rfl

theorem find?_cons (e : Value × Grid) (table : SymbolTable) (v : Value) :
    find? (e :: table) v = if e.1.sameName v then some e.2 else find? table v := by
  rw [find?, List.find?_cons]
  cases h : e.1.sameName v <;> simp [find?]

theorem put_cons (e : Value × Grid) (table : SymbolTable) (name : Value) (g : Grid) :
    put (e :: table) name g =
      if e.1.sameName name then (e.1, g) :: table else e :: table.put name g := rfl

@[simp] theorem find?_put_self (table : SymbolTable) (s : Text) (g : Grid) :
    (table.put (.str s) g).find? (.str s) = some g := by
  induction table with
  | nil => simp [put, find?_cons, Value.sameName_str_left]
  | cons e rest ih =>
    rw [put_cons]
    by_cases h : e.1.sameName (.str s) = true
    · rw [if_pos h, find?_cons, if_pos h]
    · rw [if_neg h, find?_cons, if_neg h, ih]

/-- Writing under a text changes no other slot. -/
theorem find?_put_of_ne {s : Text} {v : Value} (h : v ≠ .str s) (table : SymbolTable) (g : Grid) :
    (table.put (.str s) g).find? v = table.find? v := by
  have hs : (Value.str s).sameName v = false := by
    rw [← Bool.not_eq_true, Value.sameName_str_left]
    exact h
  induction table with
  | nil => simp [put, find?_cons, hs]
  | cons e rest ih =>
    rw [put_cons]
    by_cases he : e.1.sameName (.str s) = true
    · obtain ⟨name, old⟩ := e
      obtain rfl := Value.sameName_str_right.1 he
      rw [if_pos he, find?_cons, find?_cons, hs, if_neg Bool.false_ne_true,
        if_neg Bool.false_ne_true]
    · rw [if_neg he, find?_cons, find?_cons, ih]

theorem find?_put_str_of_ne {s t : Text} (h : t ≠ s) (table : SymbolTable) (g : Grid) :
    (table.put (.str s) g).find? (.str t) = table.find? (.str t) :=
  find?_put_of_ne (by simpa using h) table g

/-! ## Names in order -/

/-- The table has exactly these texts as its names, in this order. -/
def HasNames (table : SymbolTable) (names : List Text) : Prop :=
  table.map Prod.fst = names.map Value.str

/-- The names after one more has been used: a name keeps the place of its first use. -/
def addName (names : List Text) (s : Text) : List Text :=
  if s ∈ names then names else names ++ [s]

theorem mem_addName {names : List Text} {s t : Text} :
    t ∈ addName names s ↔ t ∈ names ∨ t = s := by
  unfold addName
  split
  · constructor
    · exact Or.inl
    · rintro (h | rfl)
      · exact h
      · assumption
  · simp

theorem addName_of_mem {names : List Text} {s : Text} (h : s ∈ names) :
    addName names s = names := if_pos h

namespace HasNames

variable {table : SymbolTable} {names : List Text}

theorem nil : HasNames [] [] := rfl

theorem isSome_find? (h : table.HasNames names) (v : Value) :
    (table.find? v).isSome ↔ ∃ s ∈ names, v = .str s := by
  induction table generalizing names with
  | nil =>
    obtain rfl : names = [] := by simpa [HasNames, eq_comm] using h
    simp
  | cons e rest ih =>
    cases names with
    | nil => simp [HasNames] at h
    | cons s names =>
      obtain ⟨hs, hrest⟩ := List.cons.inj h
      rw [find?_cons, hs]
      by_cases hv : (Value.str s).sameName v = true
      · rw [if_pos hv, Value.sameName_str_left.1 hv]
        simp
      · have hne : v ≠ .str s := fun heq ↦ hv (Value.sameName_str_left.2 heq)
        rw [if_neg hv, ih hrest]
        simp [hne]

theorem isSome_find?_str (h : table.HasNames names) (s : Text) :
    (table.find? (.str s)).isSome ↔ s ∈ names := by
  rw [h.isSome_find?]
  simp

theorem find?_eq_none (h : table.HasNames names) {s : Text} (hs : s ∉ names) :
    table.find? (.str s) = none := by
  rw [← Option.isNone_iff_eq_none, ← Option.not_isSome, Bool.not_eq_true', ← Bool.not_eq_true,
    h.isSome_find?_str]
  exact hs

theorem exists_find? (h : table.HasNames names) {s : Text} (hs : s ∈ names) :
    ∃ g, table.find? (.str s) = some g :=
  Option.isSome_iff_exists.1 ((h.isSome_find?_str s).2 hs)

/-- Only texts name entries of the table. -/
theorem eq_str_of_find? (h : table.HasNames names) {v : Value} {g : Grid}
    (hv : table.find? v = some g) : ∃ s ∈ names, v = .str s :=
  (h.isSome_find? v).1 (by rw [hv]; rfl)

theorem put (h : table.HasNames names) (s : Text) (g : Grid) :
    HasNames (table.put (.str s) g) (addName names s) := by
  induction table generalizing names with
  | nil =>
    obtain rfl : names = [] := by simpa [HasNames, eq_comm] using h
    rfl
  | cons e rest ih =>
    cases names with
    | nil => simp [HasNames] at h
    | cons t names =>
      obtain ⟨ht, hrest⟩ := List.cons.inj h
      rw [put_cons, ht]
      by_cases hts : (Value.str t).sameName (.str s) = true
      · obtain rfl : s = t := by simpa using Value.sameName_str_left.1 hts
        rw [if_pos hts, addName_of_mem List.mem_cons_self]
        exact List.cons_eq_cons.2 ⟨rfl, hrest⟩
      · have hne : s ≠ t := by
          rintro rfl
          exact hts (Value.sameName_str_left.2 rfl)
        rw [if_neg hts]
        have hadd : addName (t :: names) s = t :: addName names s := by
          unfold addName
          by_cases hmem : s ∈ names <;> simp [hmem, hne]
        rw [hadd]
        exact List.cons_eq_cons.2 ⟨ht, ih hrest⟩

end HasNames

end SymbolTable

end TextArt
