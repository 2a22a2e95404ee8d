import TextArt.Proofs.Fields
import TextArt.Proofs.Request.Paint

/-!
# Fills with legible parameters

A fill paints with the characters of its parameters, with its own default or with the ramp of the
settings. If all of these are legible, a legible grid stays legible, whatever else the parameters
are: this is about fills that may still fail, with values that nothing has checked.
-/

namespace TextArt

open Cell (Legible)

variable {settings : FillSettings} {g g' : Grid} {params : Fields}

namespace Pattern

/-! ## The patterns -/

private theorem legible_of_requestDots {density seed char : Value} (hg : g.Legible)
    (hchar : char.WrittenIn Legible) (h : requestDots settings g density seed char = .ok g') :
    g'.Legible := by
  obtain ⟨limit, -, h⟩ := bind_eq_ok.1 h
  split at h
  · obtain ⟨words, -, h⟩ := bind_eq_ok.1 h
    exact Grid.legible_of_requestInk hg hchar h
  · cases h

private theorem legible_of_rampOf {v : Value} {ramp : List Text} (hv : v.WrittenIn Legible)
    (h : rampOf v = .ok ramp) : ∀ s ∈ ramp, Text.Legible s := by
  unfold rampOf at h
  split at h
  · obtain rfl := Except.ok.inj h
    intro s hs
    obtain ⟨c, hc, rfl⟩ := List.mem_map.1 hs
    exact (Value.WrittenIn.singleton (hv.chars c hc)).chars
  · obtain ⟨parts, hparts, h⟩ := bind_eq_ok.1 h
    split at h
    · next texts htexts =>
      obtain rfl := Except.ok.inj h
      intro s hs
      obtain ⟨t, ht, rfl⟩ := List.mem_map.1 hs
      obtain ⟨part, hpart, htext⟩ := exists_of_mem_mapM_some htexts ht
      have hlegible := Value.legible_scalarText? htext (hv.parts hparts part hpart)
      exact Text.legible_ofList fun c hc ↦ hlegible c (List.mem_of_mem_take hc)
    · cases h

private theorem legible_of_paintGradient {ramp : List Text} {direction : Direction} {reverse : Bool}
    (hg : g.Legible) (hramp : ∀ s ∈ ramp, Text.Legible s)
    (h : paintGradient g ramp direction reverse = .ok g') : g'.Legible := by
  refine Grid.legible_of_paintEach hg (fun row col ↦ ?_) h
  unfold gradientInk
  dsimp only
  split
  all_goals
    generalize rampIndex ramp.length _ = i
    cases htext : ramp[i]? with
    | none => exact fun c hc ↦ absurd hc (by simp)
    | some s => exact hramp s (List.mem_of_getElem? htext)

private theorem legible_of_requestGradient {ramp direction reverse : Value} (hg : g.Legible)
    (hsettings : Text.Legible settings.densityRamp) (hramp : ramp.WrittenIn Legible)
    (h : requestGradient settings g ramp direction reverse = .ok g') : g'.Legible := by
  have hor : (rampOr settings ramp).WrittenIn Legible := by
    unfold rampOr
    split
    · exact .str hsettings
    · exact hramp
  unfold requestGradient at h
  dsimp only at h
  split at h
  · split at h
    · cases h
    · obtain ⟨chars, hchars, h⟩ := bind_eq_ok.1 h
      exact legible_of_paintGradient hg (legible_of_rampOf hor hchars) h
  · cases h

private theorem writtenIn_commonForm {P : CodePoint → Prop} {a b : Value} (ha : a.WrittenIn P)
    (hb : b.WrittenIn P) : (commonForm a b).1.WrittenIn P ∧ (commonForm a b).2.WrittenIn P := by
  unfold commonForm
  split
  case h_7 => exact ⟨ha, hb⟩
  all_goals constructor <;> constructor

private theorem legible_of_requestCrosshatch {forward back : Value} (hg : g.Legible)
    (hforward : forward.WrittenIn Legible) (hback : back.WrittenIn Legible)
    (h : requestCrosshatch g forward back = .ok g') : g'.Legible := by
  obtain ⟨hf, hb⟩ := writtenIn_commonForm hforward hback
  unfold requestCrosshatch at h
  dsimp only at h
  split at h
  · next f b hf' hb' =>
    refine Grid.legible_of_paintEach hg (fun row col ↦ ?_) h
    split
    · exact Value.legible_scalarText? hf' hf
    · exact Value.legible_scalarText? hb' hb
  · cases h

private theorem legible_of_requestEdges {char : Value} (hg : g.Legible)
    (hchar : char.WrittenIn Legible) (h : requestEdges g char = .ok g') : g'.Legible := by
  unfold requestEdges at h
  dsimp only at h
  split at h
  · obtain rfl := Except.ok.inj h
    exact hg
  · obtain ⟨c, hc, h⟩ := bind_eq_ok.1 h
    obtain rfl := Except.ok.inj h
    exact Grid.legible_paintChar hg _ (Value.legible_of_cell hc hchar)

private theorem legible_of_paint {p : Pattern} (hg : g.Legible)
    (hsettings : Text.Legible settings.densityRamp) (hparams : ∀ q ∈ params, q.2.WrittenIn Legible)
    (h : p.paint settings g params = .ok g') : g'.Legible := by
  have hchar (c : CodePoint) (name : Text) (hc : Legible c) :
      (params.argument name (.str (Text.singleton c))).WrittenIn Legible :=
    Fields.writtenIn_argument (fun v hv ↦ hparams _ hv) (.singleton hc)
  cases p with
  | solid => exact Grid.legible_of_requestInk hg (hchar '*' "char" (by decide)) h
  | dots => exact legible_of_requestDots hg (hchar '.' "char" (by decide)) h
  | gradient =>
    exact legible_of_requestGradient hg hsettings
      (Fields.writtenIn_argument (fun v hv ↦ hparams _ hv) .null) h
  | diagonal => exact Grid.legible_of_requestInk hg (hchar '/' "char" (by decide)) h
  | crosshatch =>
    exact legible_of_requestCrosshatch hg (hchar '/' "forward" (by decide))
      (hchar '\\' "back" (by decide)) h
  | edges => exact legible_of_requestEdges hg (hchar '+' "char" (by decide)) h

end Pattern

/-! ## Fills by name -/

/-- **Fills keep grids legible.** The fill of any name, with legible parameters. -/
theorem FillRegistry.legible_of_apply {r : FillRegistry} {name : Value} (hg : g.Legible)
    (hsettings : Text.Legible settings.densityRamp) (hparams : ∀ q ∈ params, q.2.WrittenIn Legible)
    (h : r.apply settings name g params = .ok g') : g'.Legible := by
  have hconverted : ∀ q ∈ converted params, q.2.WrittenIn Legible := by
    intro q hq
    obtain ⟨p, hp, rfl⟩ := List.mem_map.1 (Fields.mem_ofList hq)
    exact hparams p hp
  unfold apply at h
  split at h
  · cases h
  · obtain ⟨fill, -, h⟩ := bind_eq_ok.1 h
    dsimp only at h
    split at h
    · cases h
    · split at h
      · cases h
      · exact Pattern.legible_of_paint hg hsettings hconverted h

end TextArt
