import TextArt.Proofs.Fill.Checked
import TextArt.Proofs.Fill.Scatter
import TextArt.Proofs.Grid.Painting

/-!
# Fills that need no random words

Dots without a seed start from random words, so what they paint may differ from run to run. A fill
is steady if that cannot be seen: it is of another pattern, or it has a seed, or the settings have
one, or the density is zero or one, where dots take no cell or all of them. What a steady fill makes
of a grid is the same whatever the random words are (`FillSpec.apply_eq_of_steady`).
-/

namespace TextArt

namespace Grid

variable {g : Grid} {chosen chosen' : Nat → Nat → Bool}

private theorem findSome?_congr {α β : Type} {f f' : α → Option β} {xs : List α}
    (h : ∀ x ∈ xs, f x = f' x) : xs.findSome? f = xs.findSome? f' := by
  induction xs with
  | nil => rfl
  | cons x rest ih =>
    rw [List.findSome?_cons, List.findSome?_cons, h x List.mem_cons_self,
      ih fun y hy ↦ h y (List.mem_cons_of_mem x hy)]

/-- Of a mask, only what it says about the cells of the grid counts. -/
theorem requestInk_congr
    (h : ∀ row col, row < g.height → col < g.width → chosen row col = chosen' row col)
    (values : Value) : g.requestInk chosen values = g.requestInk chosen' values := by
  have hmap (f : Bool → Nat → Nat → Cell → Cell) :
      g.mapCells (fun row col ↦ f (chosen row col) row col) =
        g.mapCells fun row col ↦ f (chosen' row col) row col := by
    refine ext_cellAt rfl rfl fun row col hr hc ↦ ?_
    rw [cellAt_mapCells g _ hr hc, cellAt_mapCells g _ hr hc, h row col hr hc]
  have hpaint (c : Cell) : g.paintChar chosen c = g.paintChar chosen' c :=
    hmap fun b _ _ old ↦ if old == Cell.blank && b then c else old
  have hbad (ink : Nat → Nat → Text) : g.badInk? chosen ink = g.badInk? chosen' ink := by
    refine findSome?_congr fun p hp ↦ ?_
    obtain ⟨hr, hc⟩ := mem_places.1 hp
    rw [selected, selected, h p.1 p.2 hr hc]
  have heach (ink : Nat → Nat → Text) : g.paintEach chosen ink = g.paintEach chosen' ink := by
    rw [paintEach, paintEach, hbad]
    rw [hmap fun b row col old ↦
      if old == Cell.blank && b then (singleChar? (withoutFinalNuls (ink row col))).getD old
      else old]
  rw [requestInk, requestInk]
  simp only [hpaint, heach]

end Grid

namespace Pattern

/-- What a pattern paints with these parameters does not depend on random words. -/
def Steady (settings : RenderSettings) (params : Fields) : Pattern → Prop
  | dots =>
    params.argument "seed" .null ≠ .null ∨ settings.dotsSeed ≠ none ∨
      ∀ d, (params.argument "density" (.float 1)).number = .ok d →
        d.same (.whole 0) = true ∨ d.same (.whole 1) = true
  | _ => True

variable {settings : RenderSettings} {words words' : List UInt32}

private theorem dotSeed_eq {seed : Value} (h : seed ≠ .null ∨ settings.dotsSeed ≠ none) :
    dotSeed ⟨settings, words⟩ seed = dotSeed ⟨settings, words'⟩ seed := by
  unfold dotSeed
  split
  · cases hset : settings.dotsSeed with
    | none => exact (h.elim (· rfl) (· hset)).elim
    | some n => rfl
  · rfl

private theorem requestDots_eq_of_same (g : Grid) {density : Value}
    (h : ∀ d, density.number = .ok d → d.same (.whole 0) = true ∨ d.same (.whole 1) = true)
    (seed char : Value) :
    requestDots ⟨settings, words⟩ g density seed char =
      requestDots ⟨settings, words'⟩ g density seed char := by
  by_cases hseed : seed ≠ .null ∨ settings.dotsSeed ≠ none
  · rw [requestDots, requestDots, dotSeed_eq hseed]
  · obtain ⟨hnull, hnone⟩ := not_or.1 hseed
    obtain rfl := not_not.1 hnull
    rw [requestDots, requestDots]
    cases hdensity : density.number with
    | error cause => rfl
    | ok d =>
      rw [ok_bind, ok_bind, dotSeed, dotSeed, not_not.1 hnone, ok_bind, ok_bind]
      -- either way the mask is the same for all numbers that can be drawn
      rw [Grid.requestInk_congr fun row col hr hc ↦ ?_]
      rcases h d hdensity with hzero | hone
      · rw [dotMask_of_same_zero hzero words hr hc, dotMask_of_same_zero hzero words' hr hc]
      · rw [dotMask_of_same_one hone words hr hc, dotMask_of_same_one hone words' hr hc]

private theorem paint_eq_of_steady {params : Fields} {p : Pattern} (h : p.Steady settings params)
    (words words' : List UInt32) (g : Grid) :
    p.paint ⟨settings, words⟩ g params = p.paint ⟨settings, words'⟩ g params := by
  cases p with
  | dots =>
    rw [paint, paint]
    rcases h with hseed | hset | hsame
    · rw [requestDots, requestDots, dotSeed_eq (.inl hseed)]
    · rw [requestDots, requestDots, dotSeed_eq (.inr hset)]
    · exact requestDots_eq_of_same g hsame _ _
  | _ => rfl

end Pattern

private theorem FillRegistry.apply_eq_of_steady {registry : FillRegistry}
    {settings : RenderSettings} {name : Text} {params : Fields}
    (h : ∀ fill, registry.find? name = some fill → fill.pattern.Steady settings (converted params))
    (words words' : List UInt32) (g : Grid) :
    registry.apply ⟨settings, words⟩ (.str name) g params =
      registry.apply ⟨settings, words'⟩ (.str name) g params := by
  unfold apply
  cases hget : registry.get (.str name) with
  | error cause => rfl
  | ok fill =>
    have hpaint := Pattern.paint_eq_of_steady (h fill (get_eq_ok.1 hget)) words words' g
    dsimp only [ok_bind]
    rw [hpaint]

/-- A checked fill is of a pattern that is steady with its parameters. -/
def FillSpec.Steady (registry : FillRegistry) (settings : RenderSettings) (spec : FillSpec) :
    Prop :=
  ∀ name fill, spec.pattern = some name → registry.find? name = some fill →
    fill.pattern.Steady settings (FillRegistry.converted spec.params)

/-- **Steady fills.** What a steady fill makes of a grid is the same for all random words. -/
theorem FillSpec.apply_eq_of_steady {registry : FillRegistry} {settings : RenderSettings}
    {spec : FillSpec} (h : spec.Steady registry settings) (words words' : List UInt32)
    (g : Grid) :
    spec.apply registry ⟨settings, words⟩ g = spec.apply registry ⟨settings, words'⟩ g := by
  unfold apply
  cases hpattern : spec.pattern with
  | none => rfl
  | some name =>
    dsimp only
    split
    · rfl
    · exact registry.apply_eq_of_steady (fun fill hfind ↦ h name fill hpattern hfind) words words' g

end TextArt
