import TextArt.Proofs.Grid.ReadBack
import TextArt.Proofs.Request.Texts
import TextArt.Proofs.Shape
import TextArt.Shape.Request

/-!
# Requested shapes are legible

A shape that is drawn at a request has the character of the request, blanks, or the characters of
glyphs. Glyphs are read from text, so all that they must not have is hidden characters.
-/

namespace TextArt

open Cell (Legible)

/-! ## Glyphs -/

namespace GlyphMap

/-- No glyph of the map has a hidden character. -/
def Shown (m : GlyphMap) : Prop := ∀ e ∈ m.entries, ∀ l ∈ e.2, Cell.hidden ∉ l.toList

theorem standard_shown : standard.Shown := fun e he l hl hc ↦
  ((standard_rows_legible e he).2 l hl _ hc).1 rfl

variable {m : GlyphMap}

private theorem legible_of_glyph (hm : m.Shown) {char : Text} {g : Grid}
    (h : m.glyph char = .ok g) :
    g.Legible := by
  unfold glyph at h
  split at h
  · cases h
  · next rows hrows =>
    obtain ⟨key, hkey⟩ := mem_entries_of_rows? hrows
    exact Grid.legible_of_ofText (Grid.hidden_not_mem_intercalate (hm _ hkey)) h

private theorem mem_put {entries : List (Text × List Text)} {char : Text} {rows : List Text}
    {e : Text × List Text} (h : e ∈ put entries char rows) :
    e ∈ entries ∨ e = (char, rows) := by
  induction entries with
  | nil => exact .inr (List.mem_singleton.1 h)
  | cons d rest ih =>
    rw [put] at h
    split at h
    · rcases List.mem_cons.1 h with h | h
      · exact .inr h
      · exact .inl (List.mem_cons_of_mem _ h)
    · rcases List.mem_cons.1 h with h | h
      · exact .inl (h ▸ List.mem_cons_self)
      · exact (ih h).imp_left (List.mem_cons_of_mem _)

/-- A map has no rows but those it is made of. -/
theorem shown_of_ofList {glyphs : List (Text × List Text)} (h : ofList glyphs = .ok m)
    (hglyphs : ∀ e ∈ glyphs, ∀ l ∈ e.2, Cell.hidden ∉ l.toList) : m.Shown := by
  have hfold : ∀ (glyphs entries : List (Text × List Text)) (e),
      e ∈ glyphs.foldl (fun m g ↦ put m g.1 g.2) entries → e ∈ entries ∨ e ∈ glyphs := by
    intro glyphs
    induction glyphs with
    | nil => exact fun entries e he ↦ .inl he
    | cons d rest ih =>
      intro entries e he
      rcases ih _ e he with he | he
      · rcases mem_put he with he | rfl
        · exact .inl he
        · exact .inr List.mem_cons_self
      · exact .inr (List.mem_cons_of_mem _ he)
  unfold ofList at h
  dsimp only at h
  split at h
  · cases h
  · obtain rfl := Except.ok.inj h
    exact fun e he ↦ hglyphs e ((hfold glyphs [] e he).resolve_left List.not_mem_nil)

end GlyphMap

/-! ## Shapes -/

namespace Shape

variable {params : Fields} {g : Grid}

theorem legible_of_argument_char (h : ∀ v, (("char" : Text), v) ∈ params → v.WrittenIn Legible)
    {c : Cell} (hc : (params.argument "char" defaultChar).cell = .ok c) : c.Legible :=
  Value.legible_of_cell hc
    (Fields.writtenIn_argument h (.singleton (show Legible (.char '*') by decide)))

theorem legible_of_requestBanner {glyphs : GlyphMap} (hglyphs : glyphs.Shown) {text : Value}
    (h : requestBanner glyphs text = .ok g) : g.Legible := by
  unfold requestBanner at h
  split at h
  · obtain ⟨parts, -, h⟩ := bind_eq_ok.1 h
    obtain ⟨drawn, hdrawn, h⟩ := bind_eq_ok.1 h
    have hlegible : ∀ glyph ∈ drawn, glyph.Legible := by
      intro glyph hglyph
      obtain ⟨part, -, hpart⟩ := exists_of_mem_mapM_ok hdrawn hglyph
      split at hpart
      · exact GlyphMap.legible_of_glyph hglyphs hpart
      · cases hpart
    split at h
    · cases h
    · next first rest =>
      obtain ⟨joined, hjoined, hl⟩ := Grid.foldlM_rightAppend_legible
        (hlegible first List.mem_cons_self) fun o ho ↦ hlegible o (List.mem_cons_of_mem _ ho)
      obtain rfl := Except.ok.inj (hjoined.symm.trans h)
      exact hl
  · cases h

private theorem legible_of_requestText (h : requestText params = .ok g) : g.Legible := by
  obtain ⟨_, -, h⟩ := bind_eq_ok.1 h
  dsimp only at h
  split at h
  · exact legible_of_requestBanner GlyphMap.standard_shown h
  · split at h
    · obtain ⟨_, -, h⟩ := bind_eq_ok.1 h
      cases h
    · cases h

variable (hchar : ∀ v, (("char" : Text), v) ∈ params → v.WrittenIn Legible)
include hchar

theorem legible_of_requestCircle (h : requestCircle params = .ok g) : g.Legible := by
  obtain ⟨_, -, h⟩ := bind_eq_ok.1 h
  obtain ⟨c, hc, h⟩ := bind_eq_ok.1 h
  obtain ⟨radius, -, h⟩ := bind_eq_ok.1 h
  obtain rfl := Except.ok.inj h
  exact Circle.legible_draw _ _ (legible_of_argument_char hchar hc)

theorem legible_of_requestRectangle (h : requestRectangle params = .ok g) : g.Legible := by
  obtain ⟨_, -, h⟩ := bind_eq_ok.1 h
  obtain ⟨canvas, -, h⟩ := bind_eq_ok.1 h
  obtain ⟨c, hc, h⟩ := bind_eq_ok.1 h
  obtain rfl := Except.ok.inj h
  exact Rectangle.legible_draw _ _ _ _ _ (legible_of_argument_char hchar hc)

theorem legible_of_requestPolygon (h : requestPolygon params = .ok g) : g.Legible := by
  obtain ⟨_, -, h⟩ := bind_eq_ok.1 h
  obtain ⟨c, hc, h⟩ := bind_eq_ok.1 h
  obtain ⟨sides, -, h⟩ := bind_eq_ok.1 h
  split at h
  · cases h
  · obtain ⟨radius, -, h⟩ := bind_eq_ok.1 h
    split at h
    · unfold Polygon.attempt at h
      split at h
      · obtain rfl := Except.ok.inj h
        exact Polygon.legible_draw _ _ _ (legible_of_argument_char hchar hc)
      · cases h
    · cases h

theorem legible_of_requestKind {kind : ShapeKind} (h : requestKind kind params = .ok g) :
    g.Legible := by
  cases kind with
  | circle => exact legible_of_requestCircle hchar h
  | rectangle => exact legible_of_requestRectangle hchar h
  | polygon => exact legible_of_requestPolygon hchar h
  | text => exact legible_of_requestText h

end Shape

end TextArt
