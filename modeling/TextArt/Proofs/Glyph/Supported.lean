import TextArt.Proofs.Glyph
import TextArt.Proofs.Grid.ReadBack

/-!
# What a glyph map supports

A glyph map is made of any rows, as long as every glyph is given in five of them. That is all that
is asked for: what the rows hold is looked at when the glyph is drawn, through the text of the rows.
Line feeds in a row are more rows then, and rows without a character besides them are no grid at
all. So a character that is supported has a grid of five rows just if its rows hold a character and
no line feed (`GlyphMap.draws_iff`); the rows are the last ones given for it or else for its upper
case (`GlyphMap.rows?_of_ofList`).
-/

namespace TextArt

namespace Grid

/-! ## Lines with line feeds in them -/

/-- The number of line feeds inside some lines. -/
def feeds (lines : List Text) : Nat := (lines.flatMap Text.toList).count (.char '\n')

/-- Some line holds a character that is no line feed. -/
def HasText (lines : List Text) : Prop := ∃ l ∈ lines, ∃ c ∈ l.toList, c ≠ '\n'

private theorem feeds_eq_zero_iff {lines : List Text} :
    feeds lines = 0 ↔ ∀ l ∈ lines, CodePoint.char '\n' ∉ l.toList := by
  rw [feeds, List.count_eq_zero, List.mem_flatMap]
  exact ⟨fun h l hl hfeed ↦ h ⟨l, hl, hfeed⟩, fun h ⟨l, hl, hfeed⟩ ↦ h l hl hfeed⟩

private theorem length_rowsOf (text : List CodePoint) :
    (rowsOf text).length = text.count (.char '\n') + 1 := by
  have hplain : (rowsOf text).flatten.count (.char '\n') = 0 := by
    rw [List.count_eq_zero, List.mem_flatten]
    rintro ⟨row, hrow, hfeed⟩
    exact (mem_of_mem_rowsOf hrow hfeed).2 rfl
  have hcount := Text.count_intercalate_succ (List.splitOn_ne_nil (.char '\n') text) (.char '\n')
  rw [List.intercalate_splitOn, ← rowsOf, hplain] at hcount
  exact hcount.symm

private theorem exists_row_ne_nil_iff {text : List CodePoint} :
    (∃ row ∈ rowsOf text, row ≠ []) ↔ ∃ c ∈ text, c ≠ '\n' := by
  constructor
  · rintro ⟨row, hrow, hne⟩
    obtain ⟨c, hc⟩ := List.exists_mem_of_ne_nil row hne
    exact ⟨c, mem_of_mem_rowsOf hrow hc⟩
  · rintro ⟨c, hc, hne⟩
    rw [← @List.intercalate_splitOn _ text _ _ '\n'] at hc
    rcases Text.mem_of_mem_intercalate hc with hfeed | ⟨row, hrow, hc⟩
    · exact absurd (List.mem_singleton.1 hfeed) hne
    · exact ⟨row, hrow, List.ne_nil_of_mem hc⟩

theorem hasText_iff {lines : List Text} :
    HasText lines ↔ ∃ row ∈ rowsOf (Text.intercalate "\n" lines).toList, row ≠ [] := by
  rw [exists_row_ne_nil_iff, Text.toList_intercalate]
  constructor
  · rintro ⟨l, hl, c, hc, hne⟩
    exact ⟨c, Text.mem_intercalate_of_mem (List.mem_map_of_mem hl) hc, hne⟩
  · rintro ⟨c, hc, hne⟩
    rcases Text.mem_of_mem_intercalate hc with hfeed | ⟨chars, hchars, hc⟩
    · exact absurd (List.mem_singleton.1 hfeed) hne
    · obtain ⟨l, hl, rfl⟩ := List.mem_map.1 hchars
      exact ⟨l, hl, c, hc, hne⟩

/-- **Reading any lines.** Lines with some text make a grid of as many rows as they and the line
feeds inside them start. -/
theorem ofLines_of_hasText {lines : List Text} (h : HasText lines) :
    ∃ g, ofLines lines = .ok g ∧ g.height = lines.length + feeds lines := by
  obtain ⟨g, hg, -, hheight, -⟩ := ofRows?_eq_some (hasText_iff.1 h)
  obtain ⟨l, hl, -⟩ := h
  refine ⟨g, ofText_eq_ok.2 hg, ?_⟩
  have hne : lines.map Text.toList ≠ [] := List.ne_nil_of_mem (List.mem_map_of_mem hl)
  have hcount := Text.count_intercalate_succ hne '\n'
  rw [List.length_map, ← List.flatMap_def] at hcount
  rw [hheight, length_rowsOf, Text.toList_intercalate]
  exact hcount

theorem ofLines_of_not_hasText {lines : List Text} (h : ¬ HasText lines) :
    ofLines lines = .error (.emptyContent (Text.intercalate "\n" lines)) := by
  have hempty : ∀ row ∈ rowsOf (Text.intercalate "\n" lines).toList, row = [] := fun row hrow ↦
    Decidable.byContradiction fun hne ↦ h (hasText_iff.2 ⟨row, hrow, hne⟩)
  have hwidth : maxLength (rowsOf (Text.intercalate "\n" lines).toList) = 0 :=
    Nat.le_zero.1 (maxLength_le fun row hrow ↦ by rw [hempty row hrow]; exact Nat.le_refl 0)
  have hnone : ofText? (Text.intercalate "\n" lines) = none :=
    dif_neg fun hpos ↦ absurd hwidth (Nat.ne_of_gt hpos.1)
  rw [ofLines, ofText, hnone]

end Grid

namespace GlyphMap

variable {glyphs : List (Text × List Text)} {m : GlyphMap} {char : Text}

/-! ## Looking up what was given -/

private theorem lookup_put (entries : List (Text × List Text)) (char : Text) (rows : List Text)
    (key : Text) :
    (put entries char rows).lookup key = if key = char then some rows else entries.lookup key := by
  induction entries with
  | nil => rw [put, lookup_cons_ite]
  | cons e rest ih =>
    rw [put]
    split
    · next heq => rw [lookup_cons_ite, lookup_cons_ite, heq]; split <;> rfl
    · next hne =>
      rw [lookup_cons_ite, lookup_cons_ite, ih]
      by_cases hkey : key = e.1
      · rw [if_pos hkey, if_pos hkey, if_neg fun h ↦ hne (hkey.symm.trans h)]
      · rw [if_neg hkey, if_neg hkey]

private theorem lookup_foldl_put (glyphs entries : List (Text × List Text)) (key : Text) :
    (glyphs.foldl (fun m g ↦ put m g.1 g.2) entries).lookup key =
      (glyphs.reverse.lookup key).or (entries.lookup key) := by
  induction glyphs generalizing entries with
  | nil => rfl
  | cons g rest ih =>
    rw [List.foldl_cons, ih, List.reverse_cons, List.lookup_append, lookup_put, lookup_cons_ite,
      Option.or_assoc]
    split <;> rfl

theorem ofList_eq_ok (h : ofList glyphs = .ok m) :
    m.entries = glyphs.foldl (fun m g ↦ put m g.1 g.2) [] ∧
      ∀ e ∈ m.entries, e.2.length = glyphHeight := by
  unfold ofList at h
  dsimp only at h
  split at h
  · cases h
  · next hfind =>
    obtain rfl := Except.ok.inj h
    refine ⟨rfl, fun e he ↦ ?_⟩
    simpa using List.find?_eq_none.1 hfind e he

private theorem rows?_of_ofList (h : ofList glyphs = .ok m) (char : Text) :
    m.rows? char = (glyphs.reverse.lookup char).or (glyphs.reverse.lookup (Text.upper char)) := by
  rw [rows?, (ofList_eq_ok h).1, lookup_foldl_put, lookup_foldl_put, List.lookup_nil,
    List.lookup_nil, Option.or_none, Option.or_none]

theorem length_of_rows? (h : ofList glyphs = .ok m) {rows : List Text}
    (hrows : m.rows? char = some rows) : rows.length = glyphHeight := by
  obtain ⟨key, hmem⟩ := mem_entries_of_rows? hrows
  exact (ofList_eq_ok h).2 _ hmem

/-! ## Drawing what is supported -/

/-- The character is drawn as the map promises: it is supported if it has a grid, which is five rows
high, and reported as unknown if it is not. -/
structure Draws (m : GlyphMap) (char : Text) : Prop where
  /-- To be supported is to have a grid. -/
  supported : m.supports char = true ↔ ∃ g, m.glyph char = .ok g
  /-- The grid has five rows. -/
  height : ∀ g, m.glyph char = .ok g → g.height = glyphHeight
  /-- What is not supported is reported. -/
  unsupported : m.supports char = false → m.glyph char = .error (.noGlyph char)

theorem glyph_of_rows? {rows : List Text} (h : m.rows? char = some rows) :
    m.supports char = true ∧ m.glyph char = Grid.ofLines rows := by
  rw [supports, glyph, h]
  exact ⟨rfl, rfl⟩

theorem glyph_of_unsupported (h : m.supports char = false) :
    m.glyph char = .error (.noGlyph char) := by
  rw [supports, Option.isSome_eq_false_iff, Option.isNone_iff_eq_none] at h
  rw [glyph, h]

theorem draws_iff (h : ofList glyphs = .ok m) :
    m.Draws char ↔
      ∀ rows, m.rows? char = some rows →
        Grid.HasText rows ∧ ∀ l ∈ rows, CodePoint.char '\n' ∉ l.toList := by
  cases hrows : m.rows? char with
  | none =>
    have hno : m.supports char = false := by rw [supports, hrows]; rfl
    refine iff_of_true ⟨?_, ?_, glyph_of_unsupported⟩ fun rows h ↦ by cases h
    all_goals
      rw [glyph_of_unsupported hno]
    · simp [hno]
    · simp
  | some rows =>
    obtain ⟨hyes, hglyph⟩ := glyph_of_rows? hrows
    have hlength := length_of_rows? h hrows
    constructor
    · rintro ⟨hsupported, hheight, -⟩ _ ⟨⟩
      have htext : Grid.HasText rows := by
        obtain ⟨g, hg⟩ := hsupported.1 hyes
        refine Classical.byContradiction fun hno ↦ ?_
        rw [hglyph, Grid.ofLines_of_not_hasText hno] at hg
        cases hg
      obtain ⟨g, hg, htall⟩ := Grid.ofLines_of_hasText htext
      have hfive := hheight g (hglyph.trans hg)
      exact ⟨htext, Grid.feeds_eq_zero_iff.1 (by omega)⟩
    · intro hgood
      obtain ⟨htext, hplain⟩ := hgood rows rfl
      obtain ⟨g, hg, htall⟩ := Grid.ofLines_of_hasText htext
      rw [Grid.feeds_eq_zero_iff.2 hplain, Nat.add_zero, hlength] at htall
      refine ⟨iff_of_true hyes ⟨g, hglyph.trans hg⟩, fun g' hg' ↦ ?_, fun hno ↦ ?_⟩
      · obtain rfl := Except.ok.inj ((hglyph.trans hg).symm.trans hg')
        exact htall
      · rw [hyes] at hno
        cases hno

/-- **Glyphs of accepted maps.** The rows of a character are the last ones given for it or for its
upper case, five of them; a character without rows is reported. Rows with some text are drawn, with
one more row for each line feed inside of them, and rows without text are refused. So a map keeps
its promise on a character just if the rows for it, if there are any, hold text and no line feed. -/
theorem glyph_of_ofList (h : ofList glyphs = .ok m) (char : Text) :
    m.rows? char =
        (glyphs.reverse.lookup char).or (glyphs.reverse.lookup (Text.upper char)) ∧
      (m.rows? char = none →
        m.supports char = false ∧ m.glyph char = .error (.noGlyph char)) ∧
      (∀ rows, m.rows? char = some rows →
        m.supports char = true ∧ rows.length = glyphHeight ∧
          (Grid.HasText rows →
            ∃ g, m.glyph char = .ok g ∧ g.height = glyphHeight + Grid.feeds rows) ∧
          (¬ Grid.HasText rows →
            m.glyph char = .error (.emptyContent (Text.intercalate "\n" rows)))) ∧
      (m.Draws char ↔
        ∀ rows, m.rows? char = some rows →
          Grid.HasText rows ∧ ∀ l ∈ rows, CodePoint.char '\n' ∉ l.toList) := by
  refine ⟨rows?_of_ofList h char, fun hnone ↦ ?_, fun rows hrows ↦ ?_, draws_iff h⟩
  · have hno : m.supports char = false := by rw [supports, hnone]; rfl
    exact ⟨hno, glyph_of_unsupported hno⟩
  · obtain ⟨hyes, hglyph⟩ := glyph_of_rows? hrows
    have hlength := length_of_rows? h hrows
    refine ⟨hyes, hlength, fun htext ↦ ?_, fun hno ↦ ?_⟩
    · obtain ⟨g, hg, htall⟩ := Grid.ofLines_of_hasText htext
      exact ⟨g, hglyph.trans hg, by rw [htall, hlength]⟩
    · rw [hglyph, Grid.ofLines_of_not_hasText hno]

/-- Five rows without a character. -/
def emptyRows : List Text := ["", "", "", "", ""]

/-- Five rows, one of them with a line feed. -/
def fedRows : List Text := ["a\nb", "", "", "", "c"]

/-- Five rows as they should be. -/
def goodRows : List Text := ["x", "x", "x", "x", "x"]

/-- A font of three glyphs: one without a character, one with a line feed in a row, and one as it
should be. -/
def font : List (Text × List Text) := [("E", emptyRows), ("N", fedRows), ("X", goodRows)]

theorem ofList_font : ofList font = .ok ⟨font⟩ := rfl

/-- The font is accepted, but two of the characters that it supports are not drawn in five rows. -/
theorem font_not_draws :
    ofList font = .ok ⟨font⟩ ∧ ¬ GlyphMap.Draws ⟨font⟩ "E" ∧ ¬ GlyphMap.Draws ⟨font⟩ "N" := by
  refine ⟨ofList_font, fun h ↦ ?_, fun h ↦ ?_⟩
  · obtain ⟨l, hl, c, hc, -⟩ := ((draws_iff ofList_font).1 h emptyRows (by decide)).1
    have hempty : ∀ l ∈ emptyRows, l.toList = [] := by decide
    rw [hempty l hl] at hc
    cases hc
  · have hplain := ((draws_iff ofList_font).1 h fedRows (by decide)).2
    exact hplain "a\nb" List.mem_cons_self (by decide)

/-- The small letter is drawn as the capital one, in six rows; nothing comes of the glyph without a
character, and what is not in the font is reported. -/
theorem font_glyph :
    ofList font = .ok ⟨font⟩ ∧
      (∃ g, GlyphMap.glyph ⟨font⟩ "n" = .ok g ∧ g.height = 6) ∧
      GlyphMap.glyph ⟨font⟩ "E" = .error (.emptyContent "\n\n\n\n") ∧
      GlyphMap.glyph ⟨font⟩ "~" = .error (.noGlyph "~") ∧ GlyphMap.Draws ⟨font⟩ "X" := by
  refine ⟨ofList_font, ?_, ?_, ?_, ?_⟩
  · obtain ⟨-, -, hrows, -⟩ := glyph_of_ofList ofList_font "n"
    obtain ⟨-, -, hdrawn, -⟩ := hrows fedRows (by decide +kernel)
    exact hdrawn ⟨"a\nb", List.mem_cons_self, .char 'a', by decide, by decide⟩
  · obtain ⟨-, -, hrows, -⟩ := glyph_of_ofList ofList_font "E"
    obtain ⟨-, -, -, hrefused⟩ := hrows emptyRows (by decide)
    refine hrefused fun ⟨l, hl, c, hc, _⟩ ↦ ?_
    have hempty : ∀ l ∈ emptyRows, l.toList = [] := by decide
    rw [hempty l hl] at hc
    cases hc
  · exact ((glyph_of_ofList ofList_font "~").2.1 (by decide +kernel)).2
  · refine (glyph_of_ofList ofList_font "X").2.2.2.2 fun rows hrows ↦ ?_
    have hx : GlyphMap.rows? ⟨font⟩ "X" = some goodRows := by decide
    obtain rfl := Option.some.inj (hx.symm.trans hrows)
    exact ⟨⟨"x", List.mem_cons_self, .char 'x', by decide, by decide⟩, by decide⟩

end GlyphMap

end TextArt
