import TextArt.Proofs.Fill.Checked
import TextArt.Proofs.Fill.Scatter
import TextArt.Proofs.Grid.Painting

/-!
# Fills exhaust the blanks

Fills are applied one after the other, each with its own parameters. However long the sequence is,
its result is a repainting of the grid that it started from. A fill whose mask takes every cell and
whose characters are not blank leaves nothing to paint: then all fills after it can only fail or
change nothing. The patterns for which that is so are those of `Pattern.Covers`; gradients may have
blanks in their ramps, and the others leave cells out.
-/

namespace TextArt

/-! ## Characters that are not blank -/

/-- No text of the ink has a blank in it. -/
def Ink.Visible : Ink → Prop
  | .uniform text => Cell.blank ∉ text.toList
  | .table texts => ∀ row col text, texts.get? row col = some text → Cell.blank ∉ text.toList

namespace Value

/-- As an ink, the value has no blank in it. -/
def VisibleInk (v : Value) : Prop := ∀ ink, v.ink = .ok ink → ink.Visible

/-- As a text, the value has no blank in it. -/
def VisibleText (v : Value) : Prop := ∀ s, v.scalarText? = some s → Cell.blank ∉ s.toList

end Value

/-- The fill of a pattern takes every cell and has no blank among its characters. -/
def Pattern.Covers (params : Fields) : Pattern → Prop
  | solid => (params.argument "char" (.str "*")).VisibleInk
  | dots =>
    (∃ density, (params.argument "density" (.float 1)).number = .ok density ∧
      density.same (.whole 1) = true) ∧ (params.argument "char" (.str ".")).VisibleInk
  | crosshatch =>
    let (forward, back) :=
      commonForm (params.argument "forward" (.str "/")) (params.argument "back" (.str "\\"))
    forward.VisibleText ∧ back.VisibleText
  | gradient | diagonal | edges => False

variable {settings : FillSettings} {g g' : Grid} {params : Fields}

namespace Grid

theorem full_of_requestInk {chosen : Nat → Nat → Bool} {values : Value}
    (hchosen : ∀ row col, row < g.height → col < g.width → chosen row col = true)
    (hvalues : values.VisibleInk) (h : g.requestInk chosen values = .ok g') : g'.Full := by
  obtain ⟨ink, hink, h⟩ := bind_eq_ok.1 h
  have hvisible := hvalues ink hink
  cases ink with
  | uniform text =>
    obtain ⟨c, hc, h⟩ := bind_eq_ok.1 h
    obtain rfl := Except.ok.inj h
    refine full_paintChar ?_ hchosen
    rintro rfl
    exact hvisible (Value.mem_of_cell hc)
  | table texts =>
    dsimp only at h
    split at h
    · refine full_of_paintEach hchosen (fun row col ↦ ?_) h
      cases htext : texts.get? row col with
      | none => exact List.not_mem_nil
      | some text => exact hvisible row col text htext
    · cases h

end Grid

namespace Pattern

private theorem full_of_requestCrosshatch {forward back : Value}
    (hforward : (commonForm forward back).1.VisibleText)
    (hback : (commonForm forward back).2.VisibleText)
    (h : requestCrosshatch g forward back = .ok g') : g'.Full := by
  unfold requestCrosshatch at h
  dsimp only at h
  split at h
  · next f b hf hb =>
    refine Grid.full_of_paintEach (fun _ _ _ _ ↦ rfl) (fun row col ↦ ?_) h
    split
    · exact hforward f hf
    · exact hback b hb
  · cases h

private theorem full_of_requestDots {density seed char : Value} {limit : Number}
    (hlimit : density.number = .ok limit) (hone : limit.same (.whole 1) = true)
    (hchar : char.VisibleInk) (h : requestDots settings g density seed char = .ok g') :
    g'.Full := by
  rw [requestDots, hlimit, ok_bind] at h
  split at h
  · obtain ⟨words, -, h⟩ := bind_eq_ok.1 h
    exact Grid.full_of_requestInk (fun _ _ hr hc ↦ dotMask_of_same_one hone words hr hc) hchar h
  · cases h

private theorem full_of_paint {p : Pattern} (hcovers : p.Covers params)
    (h : p.paint settings g params = .ok g') : g'.Full := by
  cases p with
  | solid => exact Grid.full_of_requestInk (fun _ _ _ _ ↦ rfl) hcovers h
  | dots =>
    obtain ⟨⟨density, hdensity, hone⟩, hchar⟩ := hcovers
    exact full_of_requestDots hdensity hone hchar h
  | crosshatch => exact full_of_requestCrosshatch hcovers.1 hcovers.2 h
  | gradient => exact hcovers.elim
  | diagonal => exact hcovers.elim
  | edges => exact hcovers.elim

end Pattern

/-! ## One fill after the other -/

/-- A fill by name, with its parameters and the settings it is applied under. -/
structure FillCall where
  /-- The settings. -/
  settings : FillSettings
  /-- The name of the fill. -/
  name : Value
  /-- The parameters. -/
  params : Fields

namespace FillRegistry

variable {r : FillRegistry}

/-- Applies a fill as it is called. -/
def call (r : FillRegistry) (g : Grid) (c : FillCall) : Outcome Grid :=
  r.apply c.settings c.name g c.params

/-- Applies fills one after the other, up to the first that fails. -/
def callAll (r : FillRegistry) (g : Grid) (calls : List FillCall) : Outcome Grid :=
  calls.foldlM r.call g

private theorem repaints_of_callAll {calls : List FillCall} (h : r.callAll g calls = .ok g') :
    g.Repaints g' := by
  -- each fill repaints what the one before it has left
  induction calls generalizing g with
  | nil =>
    obtain rfl := Except.ok.inj h
    exact .refl g
  | cons c rest ih =>
    rw [callAll, List.foldlM_cons] at h
    obtain ⟨middle, hcall, hrest⟩ := bind_eq_ok.1 h
    exact (repaints_of_apply hcall).trans (ih hrest)

private theorem full_of_call {c : FillCall} {fill : Fill} (hfill : r.get c.name = .ok fill)
    (hcovers : fill.pattern.Covers (converted c.params)) (h : r.call g c = .ok g') : g'.Full := by
  unfold call apply at h
  split at h
  · cases h
  · rw [hfill, ok_bind] at h
    dsimp only at h
    split at h
    · cases h
    · split at h
      · cases h
      · exact Pattern.full_of_paint hcovers h

/-- **Exhaustion.** Fills never change what is drawn, in whatever sequence they are applied. After
one that covers the grid no cell is blank, and whatever succeeds after it changes nothing. -/
theorem repaints_and_exhausts (r : FillRegistry) :
    (∀ calls g g', r.callAll g calls = .ok g' → g.Repaints g') ∧
      ∀ c fill g g', r.get c.name = .ok fill → fill.pattern.Covers (converted c.params) →
        r.call g c = .ok g' →
          g'.Full ∧ ∀ calls g'', r.callAll g' calls = .ok g'' → g'' = g' := by
  refine ⟨fun calls g g' h ↦ repaints_of_callAll h, fun c fill g g' hfill hcovers h ↦ ?_⟩
  have hfull := full_of_call hfill hcovers h
  exact ⟨hfull, fun calls g'' h' ↦ (repaints_of_callAll h').eq_of_full hfull⟩

/-- Dots of density one under the standard settings. -/
def everyDot : FillCall :=
  ⟨⟨Settings.standard.render, []⟩, .str "dots", [("density", .int 1), ("char", .str "o")]⟩

private theorem everyDot_covers : Pattern.dots.Covers (converted everyDot.params) := by
  refine ⟨⟨.whole 1, rfl, rfl⟩, ?_⟩
  intro ink hink
  obtain rfl := Except.ok.inj hink
  change CodePoint.char ' ' ∉ ("o" : Text).toList
  decide

/-- Dots on a row with one drawn cell: the row is full, and stays as it is. -/
theorem everyDot_exhausts :
    ∃ g g' : Grid, Grid.ofText? "+  " = some g ∧ Grid.ofText? "+oo" = some g' ∧
      standard.call g everyDot = .ok g' ∧ g.Repaints g' ∧ g'.Full ∧
      ∀ calls g'', standard.callAll g' calls = .ok g'' → g'' = g' := by
  obtain ⟨hrepaints, hexhausts⟩ := repaints_and_exhausts standard
  have hdrawn : ((Grid.ofText? "+  ").map fun g ↦ (standard.call g everyDot).toOption) =
      some (Grid.ofText? "+oo") := by decide +kernel
  obtain ⟨g, hg, hdots⟩ := Option.map_eq_some_iff.1 hdrawn
  obtain ⟨g', hg'⟩ := Option.isSome_iff_exists.1 (show (Grid.ofText? "+oo").isSome by decide)
  have hcall : standard.call g everyDot = .ok g' := toOption_eq_some.1 (hdots.trans hg')
  have hsteps : standard.callAll g [everyDot] = .ok g' := by
    rw [callAll, List.foldlM_cons, hcall]
    rfl
  obtain ⟨hfull, hlater⟩ := hexhausts everyDot _ g g' rfl everyDot_covers hcall
  exact ⟨g, g', hg, hg', hcall, hrepaints [everyDot] g g' hsteps, hfull, hlater⟩

end FillRegistry

end TextArt
