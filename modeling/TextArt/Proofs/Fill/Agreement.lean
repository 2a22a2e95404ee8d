import TextArt.Proofs.Fill.Calls

/-!
# Fills that come to the same

The cells that a diagonal fill leaves out are those that a crosshatch gives its second character, so
a solid fill after it completes the crosshatch. And a gradient along a ramp of a single character,
however often it is repeated, has that character everywhere: whatever the ratio of a cell is, it is
read as a place on the ramp.
-/

namespace TextArt

open Pattern (oddCell)

namespace Pattern

private theorem gradientInk_replicate (g : Grid) {n : Nat} (hn : 0 < n) (c : CodePoint)
    (direction : Direction) (reverse : Bool) :
    gradientInk g ((List.replicate n c).map Text.singleton) direction reverse =
      fun _ _ ↦ Text.singleton c := by
  have hne : List.replicate n c ≠ [] := by simpa using Nat.ne_of_gt hn
  funext row col
  obtain ⟨d, hd, hink⟩ := gradientInk_of_chars g hne direction reverse row col
  rw [hink, List.eq_of_mem_replicate hd]

end Pattern

namespace FillRegistry

variable (settings : FillSettings) (g : Grid)

private theorem callAll_diagonal_solid {a : CodePoint} (ha : a ≠ Cell.blank) (b : CodePoint) :
    standard.callAll g [.diagonal settings a, .solid settings b] =
      .ok (g.fillBlanks fun row col ↦ if oddCell row col then a else b) := by
  rw [callAll, List.foldlM_cons, call_diagonal, ok_bind, List.foldlM_cons, call_solid, ok_bind,
    List.foldlM_nil, Grid.fillBlanks_fillBlanks]
  refine congrArg (fun ink ↦ Except.ok (g.fillBlanks ink)) ?_
  funext row col
  cases oddCell row col with
  | true => exact if_neg ha
  | false => exact if_pos rfl

private theorem call_gradient_replicate {c : CodePoint} (hc : c ≠ Cell.hidden) {n : Nat}
    (hn : 0 < n)
    {ramp : Value} (hramp : Pattern.rampOr settings ramp = .str (Text.ofList (.replicate n c)))
    {direction : Text} {way : Pattern.Direction}
    (hdirection : Pattern.Direction.ofName? direction = some way) (reverse : Value) :
    standard.call g (.gradient settings ramp direction reverse) =
      .ok (g.fillBlanks fun _ _ ↦ c) := by
  have htruthy : (Value.str (Text.ofList (.replicate n c))).truthy = true := by
    rw [Value.truthy, Text.isEmpty, Text.toList_ofList, Bool.not_eq_true',
      List.isEmpty_eq_false_iff]
    exact fun h ↦ Nat.ne_of_gt hn (List.replicate_eq_nil_iff c |>.1 h)
  have hchars : Pattern.rampOf (.str (Text.ofList (.replicate n c))) =
      .ok ((List.replicate n c).map Text.singleton) := by
    rw [Pattern.rampOf, Text.toList_ofList]
  rw [call_gradient, Pattern.requestGradient, hramp, if_pos htruthy, Value.text?,
    Option.bind_some, hdirection]
  dsimp only
  rw [hchars, ok_bind, Pattern.paintGradient, Pattern.gradientInk_replicate g hn c]
  exact g.paintEach_singleton fun _ _ ↦ hc

/-- **Fills agree where they overlap.** A diagonal fill and then a solid one give the grid that a
crosshatch of their characters gives, and a gradient along a ramp of one character gives the grid
that a solid fill with it gives, in every direction and either way round. -/
theorem fills_agree :
    (∀ a b : CodePoint, a ≠ Cell.hidden → b ≠ Cell.hidden → a ≠ Cell.blank →
      ∃ g', standard.callAll g [.diagonal settings a, .solid settings b] = .ok g' ∧
        standard.call g (.crosshatch settings a b) = .ok g' ∧
        g' = g.fillBlanks fun row col ↦ if oddCell row col then a else b) ∧
    ∀ (c : CodePoint) (n : Nat) (ramp : Value) (direction : Text) (reverse : Value),
      c ≠ Cell.hidden → 0 < n →
      Pattern.rampOr settings ramp = .str (Text.ofList (.replicate n c)) →
      (Pattern.Direction.ofName? direction).isSome →
      ∃ g', standard.call g (.gradient settings ramp direction reverse) = .ok g' ∧
        standard.call g (.solid settings c) = .ok g' ∧ g' = g.fillBlanks fun _ _ ↦ c := by
  constructor
  · intro a b ha hb hvisible
    exact ⟨_, callAll_diagonal_solid settings g hvisible b, call_crosshatch settings g ha hb, rfl⟩
  · intro c n ramp direction reverse hc hn hramp hdirection
    obtain ⟨way, hway⟩ := Option.isSome_iff_exists.1 hdirection
    exact ⟨_, call_gradient_replicate settings g hc hn hramp hway reverse, call_solid settings g c,
      rfl⟩

/-- The settings of a user who has changed nothing, without random words. -/
def seedless : FillSettings := .standardFrom []

/-- On a row with one drawn cell: a crosshatch made of two fills, and a reversed radial gradient
that is a solid fill. -/
theorem fills_agree_on_row :
    ∃ g crossed covered : Grid, Grid.ofText? "+  " = some g ∧
      Grid.ofText? "+xo" = some crossed ∧ Grid.ofText? "+oo" = some covered ∧
      standard.callAll g [.diagonal seedless 'x', .solid seedless 'o'] = .ok crossed ∧
      standard.call g (.crosshatch seedless 'x' 'o') = .ok crossed ∧
      standard.call g (.gradient seedless (.str "ooo") "radial" (.bool true)) = .ok covered ∧
      standard.call g (.solid seedless 'o') = .ok covered := by
  obtain ⟨g, hg⟩ := Option.isSome_iff_exists.1 (show (Grid.ofText? "+  ").isSome by decide)
  obtain ⟨hcross, hgradient⟩ := fills_agree seedless g
  obtain ⟨crossed, hboth, hcrossed, hcells⟩ :=
    hcross 'x' 'o' (by decide) (by decide) (by decide)
  obtain ⟨covered, hshaded, hcovered, hcells'⟩ := hgradient 'o' 3 (.str "ooo") "radial" (.bool true)
    (by decide) (by decide) rfl (by decide)
  have hx : (Grid.ofText? "+  ").map (fun g ↦ g.fillBlanks fun row col ↦
      if oddCell row col then .char 'x' else .char 'o') = Grid.ofText? "+xo" := by decide +kernel
  have ho : (Grid.ofText? "+  ").map (fun g ↦ g.fillBlanks fun _ _ ↦ .char 'o') =
      Grid.ofText? "+oo" := by decide +kernel
  rw [hg, Option.map_some, ← hcells] at hx
  rw [hg, Option.map_some, ← hcells'] at ho
  exact ⟨g, crossed, covered, hg, hx.symm, ho.symm, hboth, hcrossed, hshaded, hcovered⟩

end FillRegistry

end TextArt
