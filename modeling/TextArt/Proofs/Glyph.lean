import TextArt.Proofs.Fields
import TextArt.Proofs.Grid.Text
import TextArt.Proofs.Outcome
import TextArt.Recipe.ShapeParams

/-!
# Banners of checked texts

The characters that a checked text may have are just those that the glyphs of the library cover, so
a banner of such a text can always be drawn. `HasGlyphs` ties a text to its glyphs.
-/

namespace TextArt

/-! ## Glyphs -/

theorem toNat_lt_of_isTextChar {c : CodePoint} (h : isTextChar c = true) : c.toNat < 91 := by
  unfold isTextChar at h
  rw [Bool.or_eq_true, Bool.or_eq_true, decide_eq_true_eq, decide_eq_true_eq,
    List.contains_iff_mem] at h
  rcases h with (⟨-, h⟩ | ⟨-, h⟩) | h
  · exact Nat.lt_succ_of_le h
  · exact Nat.lt_of_le_of_lt h (by decide)
  · have hsigns : ((" !?.-+:" : Text).toList.all fun c ↦ decide (c.toNat < 91)) = true := by decide
    exact of_decide_eq_true (List.all_eq_true.1 hsigns c h)

namespace GlyphMap

/-- Every row of a glyph of the library is legible. -/
theorem standard_rows_legible : ∀ e ∈ standard.entries,
    (∃ l ∈ e.2, l.toList ≠ []) ∧ ∀ l ∈ e.2, ∀ c ∈ l.toList, Cell.Legible c := by
  have hinked : (standard.entries.all fun e ↦ e.2.any fun l ↦ !l.toList.isEmpty) = true := by
    decide +kernel
  have hlegible : (standard.entries.all fun e ↦ e.2.all fun l ↦
      l.toList.all fun c ↦ decide (Cell.Legible c)) = true := by
    decide +kernel
  intro e he
  constructor
  · obtain ⟨l, hl, hne⟩ := List.any_eq_true.1 (List.all_eq_true.1 hinked e he)
    exact ⟨l, hl, by simpa using hne⟩
  · intro l hl
    exact Cell.legible_of_all (List.all_eq_true.1 (List.all_eq_true.1 hlegible e he) l hl)

private theorem standard_length : ∀ e ∈ standard.entries, e.2.length = glyphHeight := by
  decide +kernel

private theorem standard_covers : ∀ n < 91, isTextChar (CodePoint.ofNat n) = true →
    (standard.entries.lookup (Text.singleton (CodePoint.ofNat n))).isSome = true := by
  decide +kernel

private theorem standard_supports {c : CodePoint} (h : isTextChar c = true) :
    standard.supports (Text.singleton c) = true := by
  have hcovers := standard_covers c.toNat (toNat_lt_of_isTextChar h)
  rw [CodePoint.ofNat_toNat] at hcovers
  rw [supports, rows?, Option.isSome_or, hcovers h, Bool.true_or]

variable {m : GlyphMap}

theorem mem_entries_of_rows? {char : Text} {rows : List Text} (h : m.rows? char = some rows) :
    ∃ key, (key, rows) ∈ m.entries := by
  rw [rows?, Option.or_eq_some_iff] at h
  rcases h with h | ⟨-, h⟩
  · exact ⟨_, mem_of_lookup h⟩
  · exact ⟨_, mem_of_lookup h⟩

/-- The glyphs of the library. -/
theorem standard_glyph {char : Text} (h : standard.supports char = true) :
    ∃ g, standard.glyph char = .ok g ∧ g.Legible ∧ g.height = glyphHeight := by
  obtain ⟨rows, hrows⟩ := Option.isSome_iff_exists.1 h
  obtain ⟨key, hmem⟩ := mem_entries_of_rows? hrows
  obtain ⟨hink, hlegible⟩ := standard_rows_legible _ hmem
  obtain ⟨g, hg, -, hheight, -⟩ :=
    Grid.ofLines_eq_ok (fun l hl hbreak ↦ (hlegible l hl _ hbreak).2 rfl) hink
  obtain ⟨g', hg', hgl⟩ := Grid.ofLines_legible hlegible hink
  obtain rfl := Except.ok.inj (hg.symm.trans hg')
  refine ⟨g, ?_, hgl, hheight.trans (standard_length _ hmem)⟩
  rw [glyph, hrows]
  exact hg

/-! ## Glyphs of texts -/

/-- The glyphs of some characters, one for each. -/
def HasGlyphs (m : GlyphMap) (chars : List CodePoint) (glyphs : List Grid) : Prop :=
  chars.map (fun c ↦ m.glyph (Text.singleton c)) = glyphs.map Except.ok

private theorem HasGlyphs.length_eq {chars : List CodePoint} {glyphs : List Grid}
    (h : m.HasGlyphs chars glyphs) : chars.length = glyphs.length := by
  simpa using congrArg List.length h

theorem HasGlyphs.mapM {chars : List CodePoint} {glyphs : List Grid}
    (h : m.HasGlyphs chars glyphs) :
    (chars.map Text.singleton).mapM m.glyph = .ok glyphs := by
  induction chars generalizing glyphs with
  | nil =>
    obtain rfl := List.map_eq_nil_iff.1 (Eq.symm h)
    rfl
  | cons c rest ih =>
    cases glyphs with
    | nil => cases h
    | cons g glyphs =>
      obtain ⟨hg, hrest⟩ := List.cons.inj h
      have hg : m.glyph (Text.singleton c) = .ok g := hg
      rw [List.map_cons, List.mapM_cons, hg, ok_bind, ih hrest]
      rfl

theorem standard_hasGlyphs {chars : List CodePoint}
    (h : ∀ c ∈ chars, standard.supports (Text.singleton c) = true) :
    ∃ glyphs, standard.HasGlyphs chars glyphs ∧
      ∀ g ∈ glyphs, g.Legible ∧ g.height = glyphHeight := by
  induction chars with
  | nil => exact ⟨[], rfl, fun _ hg ↦ absurd hg List.not_mem_nil⟩
  | cons c rest ih =>
    obtain ⟨g, hg, hgood⟩ := standard_glyph (h c List.mem_cons_self)
    obtain ⟨glyphs, hglyphs, hall⟩ := ih fun d hd ↦ h d (List.mem_cons_of_mem _ hd)
    refine ⟨g :: glyphs, ?_, List.forall_mem_cons.2 ⟨hgood, hall⟩⟩
    rw [HasGlyphs, List.map_cons, hg, List.map_cons, ← hglyphs]

/-- **Banners.** A checked text can be drawn. -/
theorem standard_banner_legible (content : GlyphText) :
    ∃ g, standard.banner (content.val.toList.map Text.singleton) = .ok g ∧ g.Legible := by
  obtain ⟨hne, hall⟩ := content.property
  obtain ⟨glyphs, hglyphs, hgood⟩ :=
    standard_hasGlyphs fun c hc ↦ standard_supports (List.all_eq_true.1 hall c hc)
  cases glyphs with
  | nil =>
    have hempty := List.length_eq_zero_iff.1 hglyphs.length_eq
    exact absurd (Text.toList_eq_nil_iff.1 hempty) (Text.isEmpty_eq_false_iff.1 hne)
  | cons first rest =>
    rw [banner, hglyphs.mapM, ok_bind]
    exact Grid.foldlM_rightAppend_legible (hgood first List.mem_cons_self).1
      fun g hg ↦ (hgood g (List.mem_cons_of_mem _ hg)).1

end GlyphMap

end TextArt
