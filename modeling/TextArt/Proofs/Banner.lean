import TextArt.Proofs.Glyph
import TextArt.Proofs.Grid.Join

/-!
# Banners glyph by glyph

A banner is folded together from the left, each glyph through the text of its rows. Since setting
grids side by side is associative, the fold can be taken apart anywhere: the glyphs stand in the
banner one after the other (`ShowsGlyphs`), and the banner of a text is that of its first part with
that of the rest to the right.

All glyphs are looked up before the first two are joined, so the first character without a glyph is
the one that is reported.
-/

namespace TextArt

namespace Grid

/-! ## Grids in a row -/

/-- Grids side by side, with a blank column between any two of them. -/
def inRow (first : Grid) (rest : List Grid) : Grid := rest.foldl beside first

/-- The column at which a grid in a row begins. -/
def offset (grids : List Grid) (k : Nat) : Nat := ((grids.take k).map width).sum + k

private theorem inRow_beside (left next : Grid) (more : List Grid) :
    inRow (left.beside next) more = left.beside (inRow next more) := by
  induction more generalizing next with
  | nil => rfl
  | cons g more ih => exact (congrArg (inRow · more) (beside_assoc left next g)).trans (ih _)

theorem inRow_append (first : Grid) (rest : List Grid) (next : Grid) (more : List Grid) :
    inRow first (rest ++ next :: more) = (inRow first rest).beside (inRow next more) := by
  rw [← inRow_beside, inRow, inRow, inRow, List.foldl_append, List.foldl_cons]

theorem inRow_cons (first next : Grid) (rest : List Grid) :
    inRow first (next :: rest) = first.beside (inRow next rest) :=
  inRow_append first [] next rest

private theorem foldlM_rightAppend_eq {first : Grid} {rest : List Grid}
    (h : ∀ g ∈ first :: rest, g.Legible) :
    rest.foldlM rightAppend first = .ok (inRow first rest) ∧ (inRow first rest).Legible := by
  induction rest generalizing first with
  | nil => exact ⟨rfl, h first List.mem_cons_self⟩
  | cons next rest ih =>
    obtain ⟨hfirst, hnext, hrest⟩ := List.forall_mem_cons.1 h |>.imp_right List.forall_mem_cons.1
    rw [List.foldlM_cons, rightAppend_eq hfirst hnext]
    exact ih (List.forall_mem_cons.2 ⟨legible_beside hfirst hnext, hrest⟩)

private theorem height_inRow {first : Grid} {rest : List Grid} {n : Nat}
    (h : ∀ g ∈ first :: rest, g.height = n) : (inRow first rest).height = n := by
  induction rest generalizing first with
  | nil => exact h first List.mem_cons_self
  | cons next rest ih =>
    rw [inRow_cons, height_beside, h first List.mem_cons_self,
      ih fun g hg ↦ h g (List.mem_cons_of_mem _ hg), Nat.max_self]

private theorem width_inRow (first : Grid) (rest : List Grid) :
    (inRow first rest).width = ((first :: rest).map width).sum + rest.length := by
  induction rest generalizing first with
  | nil => simp [inRow]
  | cons next rest ih =>
    rw [inRow_cons, width_beside, ih, List.map_cons (a := first), List.sum_cons, List.length_cons]
    omega

theorem offset_succ (first : Grid) (rest : List Grid) (k : Nat) :
    offset (first :: rest) (k + 1) = first.width + 1 + offset rest k := by
  rw [offset, offset, List.take_succ_cons, List.map_cons, List.sum_cons]
  omega

private theorem cellAt_inRow {first : Grid} {rest : List Grid} {k : Nat} {g : Grid}
    (hk : (first :: rest)[k]? = some g) (i : Nat) {j : Nat} (hj : j < g.width) :
    (inRow first rest).cellAt i (offset (first :: rest) k + j) = g.cellAt i j := by
  induction rest generalizing first k with
  | nil =>
    cases k with
    | zero =>
      obtain rfl := Option.some.inj hk
      exact congrArg (first.cellAt i) (by simp [offset])
    | succ k => cases hk
  | cons next rest ih =>
    rw [inRow_cons, cellAt_beside]
    cases k with
    | zero =>
      obtain rfl := Option.some.inj hk
      have hoffset : offset (first :: next :: rest) 0 + j = j := by simp [offset]
      rw [hoffset, if_pos hj]
    | succ k =>
      rw [offset_succ, if_neg (by omega), if_neg (by omega)]
      refine .trans (congrArg _ (by omega)) (ih hk)

private theorem cellAt_inRow_gap {first : Grid} {rest : List Grid} {k : Nat} (hk : k < rest.length)
    (i : Nat) :
    (inRow first rest).cellAt i (offset (first :: rest) (k + 1) - 1) = Cell.blank := by
  induction rest generalizing first k with
  | nil => cases hk
  | cons next rest ih =>
    rw [inRow_cons, cellAt_beside, offset_succ]
    cases k with
    | zero =>
      have hoffset : first.width + 1 + offset (next :: rest) 0 - 1 = first.width := by
        simp [offset]
      rw [hoffset, if_neg (Nat.lt_irrefl _), if_pos rfl]
    | succ k =>
      have hpos : 0 < offset (next :: rest) (k + 1) := by
        rw [offset]
        omega
      rw [if_neg (by omega), if_neg (by omega)]
      exact .trans (congrArg _ (by omega)) (ih (Nat.lt_of_succ_lt_succ hk))

/-- The grid shows glyphs side by side, with a blank column between any two of them. -/
structure ShowsGlyphs (g : Grid) (glyphs : List Grid) : Prop where
  /-- The grid is as high as a glyph. -/
  height : g.height = glyphHeight
  /-- All glyphs and the columns between them are as wide as the grid. -/
  width : g.width = (glyphs.map Grid.width).sum + (glyphs.length - 1)
  /-- A glyph begins at its offset. -/
  glyph : ∀ k glyph, glyphs[k]? = some glyph → glyph.height = glyphHeight ∧
    ∀ i j, j < glyph.width → g.cellAt i (offset glyphs k + j) = glyph.cellAt i j
  /-- There is a blank column before every glyph but the first. -/
  gap : ∀ k i, k + 1 < glyphs.length → g.cellAt i (offset glyphs (k + 1) - 1) = Cell.blank

private theorem showsGlyphs_inRow {first : Grid} {rest : List Grid}
    (h : ∀ g ∈ first :: rest, g.height = glyphHeight) :
    (inRow first rest).ShowsGlyphs (first :: rest) where
  height := height_inRow h
  width := width_inRow first rest
  glyph _ glyph hk := ⟨h glyph (List.mem_of_getElem? hk), fun i _ hj ↦ cellAt_inRow hk i hj⟩
  gap _ i hk := cellAt_inRow_gap (Nat.lt_of_succ_lt_succ hk) i

end Grid

namespace GlyphMap

/-! ## Looking glyphs up -/

/-- The first character of a text that has no glyph. -/
def missing? (m : GlyphMap) (text : Text) : Option CodePoint :=
  text.toList.find? fun c ↦ !m.supports (Text.singleton c)

private theorem HasGlyphs.append {m : GlyphMap} {chars more : List CodePoint}
    {glyphs others : List Grid} (h : m.HasGlyphs chars glyphs) (hmore : m.HasGlyphs more others) :
    m.HasGlyphs (chars ++ more) (glyphs ++ others) := by
  rw [HasGlyphs, List.map_append, List.map_append, h, hmore]

private theorem HasGlyphs.unique {m : GlyphMap} {chars : List CodePoint} {glyphs others : List Grid}
    (h : m.HasGlyphs chars glyphs) (h' : m.HasGlyphs chars others) : glyphs = others :=
  List.map_injective_iff.2 (fun _ _ ↦ Except.ok.inj) (h.symm.trans h')

private theorem mapM_glyph_of_find? {chars : List CodePoint} {c : CodePoint}
    (h : chars.find? (fun c ↦ !standard.supports (Text.singleton c)) = some c) :
    (chars.map Text.singleton).mapM standard.glyph =
      .error (.noGlyph (Text.singleton c)) := by
  induction chars with
  | nil => cases h
  | cons d rest ih =>
    rw [List.map_cons, List.mapM_cons]
    cases hd : standard.supports (Text.singleton d) with
    | true =>
      rw [List.find?_cons, hd] at h
      obtain ⟨g, hg, -⟩ := standard_glyph hd
      rw [hg, ok_bind, ih h]
      rfl
    | false =>
      rw [List.find?_cons, hd] at h
      obtain rfl := Option.some.inj h
      have hrows : standard.rows? (Text.singleton d) = none := by
        rwa [supports, Option.isSome_eq_false_iff, Option.isNone_iff_eq_none] at hd
      rw [glyph, hrows]
      rfl

/-! ## The banner of a text -/

theorem requestBanner_of_supported {text : Text} (hne : text ≠ "")
    (h : ∀ c ∈ text.toList, standard.supports (Text.singleton c) = true) :
    ∃ first rest, standard.HasGlyphs text.toList (first :: rest) ∧
      (∀ g ∈ first :: rest, g.height = glyphHeight) ∧ (Grid.inRow first rest).Legible ∧
      Shape.requestBanner .standard (.str text) = .ok (Grid.inRow first rest) := by
  obtain ⟨glyphs, hglyphs, hall⟩ := standard_hasGlyphs h
  cases glyphs with
  | nil =>
    rw [HasGlyphs, List.map_nil, List.map_eq_nil_iff, Text.toList_eq_nil_iff] at hglyphs
    exact absurd hglyphs hne
  | cons first rest =>
    obtain ⟨hjoined, hlegible⟩ := Grid.foldlM_rightAppend_eq fun g hg ↦ (hall g hg).1
    refine ⟨first, rest, hglyphs, fun g hg ↦ (hall g hg).2, hlegible, ?_⟩
    rw [Shape.requestBanner_text standard (Text.isEmpty_eq_false_iff.2 hne), banner, hglyphs.mapM,
      ok_bind]
    exact hjoined

private theorem requestBanner_append {left right : Text} (hleft : left ≠ "") (hright : right ≠ "")
    (h : ∀ c ∈ (left ++ right).toList, standard.supports (Text.singleton c) = true) :
    ∃ l r, Shape.requestBanner .standard (.str left) = .ok l ∧
      Shape.requestBanner .standard (.str right) = .ok r ∧
      l.rightAppend r = Shape.requestBanner .standard (.str (left ++ right)) := by
  rw [Text.toList_append] at h
  obtain ⟨first, rest, hl, -, hllegible, hldrawn⟩ := requestBanner_of_supported hleft
    fun c hc ↦ h c (List.mem_append_left _ hc)
  obtain ⟨next, more, hr, -, hrlegible, hrdrawn⟩ := requestBanner_of_supported hright
    fun c hc ↦ h c (List.mem_append_right _ hc)
  have hne : left ++ right ≠ "" := fun hempty ↦ hleft (Text.append_eq_empty_iff.1 hempty).1
  obtain ⟨first', rest', hboth, -, -, hdrawn⟩ :=
    requestBanner_of_supported hne (by rwa [Text.toList_append])
  rw [Text.toList_append] at hboth
  obtain ⟨rfl, rfl⟩ := List.cons.inj (hboth.unique (hl.append hr))
  refine ⟨_, _, hldrawn, hrdrawn, ?_⟩
  rw [Grid.rightAppend_eq hllegible hrlegible, ← Grid.inRow_append]
  exact hdrawn.symm

/-- **Banners.** A text all of whose characters have glyphs is drawn as these glyphs side by side,
and may be drawn in two parts; of any other text the first character without a glyph is
reported. -/
theorem requestBanner_standard (text : Text) (hne : text ≠ "") :
    (standard.missing? text = none →
      ∃ g, Shape.requestBanner .standard (.str text) = .ok g ∧
        (∃ glyphs, standard.HasGlyphs text.toList glyphs ∧ g.ShowsGlyphs glyphs) ∧
        ∀ left right : Text, left ≠ "" → right ≠ "" → text = left ++ right →
          ∃ l r, Shape.requestBanner .standard (.str left) = .ok l ∧
            Shape.requestBanner .standard (.str right) = .ok r ∧ l.rightAppend r = .ok g) ∧
    ∀ c, standard.missing? text = some c →
      Shape.requestBanner .standard (.str text) = .error (.noGlyph (Text.singleton c)) := by
  constructor
  · intro hnone
    have hall : ∀ c ∈ text.toList, standard.supports (Text.singleton c) = true := by
      simpa [missing?] using hnone
    obtain ⟨first, rest, hglyphs, hheight, -, hdrawn⟩ := requestBanner_of_supported hne hall
    refine ⟨_, hdrawn, ⟨_, hglyphs, Grid.showsGlyphs_inRow hheight⟩, ?_⟩
    rintro left right hleft hright rfl
    rw [← hdrawn]
    exact requestBanner_append hleft hright hall
  · intro c hc
    rw [Shape.requestBanner_text standard (Text.isEmpty_eq_false_iff.2 hne), banner,
      mapM_glyph_of_find? hc]
    rfl

/-- A capital letter, a small one and a sign, drawn at once and in parts; and a text with two
characters that have no glyphs. -/
theorem greeting_requestBanner :
    (("Hi!" : Text) ≠ "" ∧ standard.missing? "Hi!" = none ∧
      ∃ g, Shape.requestBanner .standard (.str "Hi!") = .ok g ∧ g.height = 5 ∧ g.width = 13 ∧
        g.cellAt 0 12 = '*' ∧
        ∃ l r, Shape.requestBanner .standard (.str "H") = .ok l ∧
          Shape.requestBanner .standard (.str "i!") = .ok r ∧ l.rightAppend r = .ok g) ∧
    (("a#b~" : Text) ≠ "" ∧ standard.missing? "a#b~" = some '#' ∧
      Shape.requestBanner .standard (.str "a#b~") = .error (.noGlyph "#")) := by
  have hnone : standard.missing? "Hi!" = none := by decide +kernel
  have hsome : standard.missing? "a#b~" = some '#' := by decide +kernel
  obtain ⟨g, hg, ⟨glyphs, hglyphs, hshows⟩, hsplit⟩ :=
    (requestBanner_standard "Hi!" (by decide)).1 hnone
  have hbad := (requestBanner_standard "a#b~" (by decide)).2 '#' hsome
  have hdrawn : (Shape.requestBanner .standard (.str "Hi!")).toOption.map
      (fun g ↦ (g.width, g.cellAt 0 12)) = some (13, .char '*') := by
    decide +kernel
  rw [hg] at hdrawn
  obtain ⟨hwidth, hcell⟩ := Prod.mk.inj (Option.some.inj hdrawn)
  exact ⟨⟨by decide, hnone, g, hg, hshows.height, hwidth, hcell,
    hsplit "H" "i!" (by decide) (by decide) (by decide)⟩, by decide, hsome, hbad⟩

end GlyphMap

end TextArt
