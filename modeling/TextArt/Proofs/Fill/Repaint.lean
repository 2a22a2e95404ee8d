import TextArt.Proofs.Outcome
import TextArt.Recipe.FillSpec

/-!
# Fills keep what is drawn

Whatever the parameters of a fill are, a grid that comes out of it has the size of the one that went
in and differs from it only in cells that were blank. All patterns paint through `Grid.paintChar`
and `Grid.paintEach`, so the fact is proved for those two and handed up: to a pattern, to a
registered fill, and to the fill of a checked document.
-/

namespace TextArt

namespace Grid

variable {g g' : Grid}

/-- One grid comes out of another by painting some of its blank cells. -/
structure Repaints (g g' : Grid) : Prop where
  /-- The width stays. -/
  width : g'.width = g.width
  /-- The height stays. -/
  height : g'.height = g.height
  /-- Drawn cells stay as they are. -/
  drawn : ∀ row col, row < g.height → col < g.width → g.cellAt row col ≠ Cell.blank →
    g'.cellAt row col = g.cellAt row col

theorem Repaints.refl (g : Grid) : g.Repaints g := ⟨rfl, rfl, fun _ _ _ _ _ ↦ rfl⟩

theorem repaints_mapCells (g : Grid) {f : Nat → Nat → Cell → Cell}
    (hf : ∀ row col old, old ≠ Cell.blank → f row col old = old) : g.Repaints (g.mapCells f) := by
  refine ⟨rfl, rfl, fun row col hr hc hdrawn ↦ ?_⟩
  rw [cellAt_mapCells g f hr hc, hf row col _ hdrawn]

theorem repaints_paintChar (g : Grid) (mask : Nat → Nat → Bool) (c : Cell) :
    g.Repaints (g.paintChar mask c) := by
  refine repaints_mapCells g fun row col old hold ↦ ?_
  rw [if_neg]
  simp [hold]

theorem repaints_of_paintEach {mask : Nat → Nat → Bool} {ink : Nat → Nat → Text}
    (h : g.paintEach mask ink = .ok g') : g.Repaints g' := by
  unfold paintEach at h
  split at h
  · cases h
  · obtain rfl := Except.ok.inj h
    refine repaints_mapCells g fun row col old hold ↦ ?_
    rw [if_neg]
    simp [hold]

theorem repaints_of_requestInk {chosen : Nat → Nat → Bool} {values : Value}
    (h : g.requestInk chosen values = .ok g') : g.Repaints g' := by
  obtain ⟨ink, -, h⟩ := bind_eq_ok.1 h
  cases ink with
  | uniform text =>
    obtain ⟨c, -, h⟩ := bind_eq_ok.1 h
    obtain rfl := Except.ok.inj h
    exact repaints_paintChar g chosen c
  | table texts =>
    dsimp only at h
    split at h
    · exact repaints_of_paintEach h
    · cases h

private theorem repaints_of_paintBlanks {ink : Ink} {mask : Option (Matrix Bool)}
    {painted : Grid × Nat} (h : g.paintBlanks ink mask = .ok painted) : g.Repaints painted.1 := by
  unfold paintBlanks at h
  split at h
  · cases ink with
    | uniform text =>
      obtain ⟨c, -, h⟩ := bind_eq_ok.1 h
      obtain rfl := Except.ok.inj h
      exact repaints_paintChar g _ c
    | table texts =>
      dsimp only at h
      split at h
      · obtain ⟨out, hout, h⟩ := bind_eq_ok.1 h
        obtain rfl := Except.ok.inj h
        exact repaints_of_paintEach hout
      · cases h
  · cases h

theorem repaints_of_requestPaint {values mask : Value} {painted : Grid × Nat}
    (h : g.requestPaint values mask = .ok painted) : g.Repaints painted.1 := by
  obtain ⟨mask, -, h⟩ := bind_eq_ok.1 h
  split at h
  · obtain ⟨ink, -, h⟩ := bind_eq_ok.1 h
    exact repaints_of_paintBlanks h
  · cases h

end Grid

open Grid

variable {settings : FillSettings} {g g' : Grid}

namespace Pattern

private theorem repaints_of_requestDots {density seed char : Value}
    (h : requestDots settings g density seed char = .ok g') : g.Repaints g' := by
  obtain ⟨limit, -, h⟩ := bind_eq_ok.1 h
  split at h
  · obtain ⟨words, -, h⟩ := bind_eq_ok.1 h
    exact repaints_of_requestInk h
  · cases h

private theorem repaints_of_requestGradient {ramp direction reverse : Value}
    (h : requestGradient settings g ramp direction reverse = .ok g') : g.Repaints g' := by
  unfold requestGradient at h
  dsimp only at h
  split at h
  · split at h
    · cases h
    · obtain ⟨chars, -, h⟩ := bind_eq_ok.1 h
      exact repaints_of_paintEach h
  · cases h

private theorem repaints_of_requestCrosshatch {forward back : Value}
    (h : requestCrosshatch g forward back = .ok g') : g.Repaints g' := by
  unfold requestCrosshatch at h
  dsimp only at h
  split at h
  · exact repaints_of_paintEach h
  · cases h

private theorem repaints_of_requestEdges {char : Value} (h : requestEdges g char = .ok g') :
    g.Repaints g' := by
  unfold requestEdges at h
  dsimp only at h
  split at h
  · obtain rfl := Except.ok.inj h
    exact .refl g
  · obtain ⟨c, -, h⟩ := bind_eq_ok.1 h
    obtain rfl := Except.ok.inj h
    exact repaints_paintChar g _ c

private theorem repaints_of_paint {p : Pattern} {params : Fields}
    (h : p.paint settings g params = .ok g') : g.Repaints g' := by
  cases p with
  | solid => exact repaints_of_requestInk h
  | dots => exact repaints_of_requestDots h
  | gradient => exact repaints_of_requestGradient h
  | diagonal => exact repaints_of_requestInk h
  | crosshatch => exact repaints_of_requestCrosshatch h
  | edges => exact repaints_of_requestEdges h

end Pattern

theorem FillRegistry.repaints_of_apply {r : FillRegistry} {name : Value} {params : Fields}
    (h : r.apply settings name g params = .ok g') : g.Repaints g' := by
  unfold apply at h
  split at h
  · cases h
  · obtain ⟨fill, -, h⟩ := bind_eq_ok.1 h
    dsimp only at h
    split at h
    · cases h
    · split at h
      · cases h
      · exact Pattern.repaints_of_paint h

theorem FillSpec.repaints_of_apply {r : FillRegistry} {spec : FillSpec}
    (h : spec.apply r settings g = .ok g') : g.Repaints g' := by
  unfold apply at h
  split at h
  · obtain rfl := Except.ok.inj h
    exact .refl g
  · split at h
    · obtain rfl := Except.ok.inj h
      exact .refl g
    · exact FillRegistry.repaints_of_apply h

end TextArt
