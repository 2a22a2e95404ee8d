import TextArt.Proofs.Schema
import TextArt.Settings.Environment

/-!
# Settings in their bounds

The checks of the settings are made before anything is drawn. Whatever the environment and the
settings file say, the settings that come of them are in the bounds that drawing relies on.
-/

namespace TextArt

open Schema

/-- The pause is short and not negative, and the ramp of gradients has a character. -/
structure RenderSettings.InBounds (r : RenderSettings) : Prop where
  /-- The ramp has a character. -/
  ramp : r.densityRamp.isEmpty = false
  /-- The pause is not negative. -/
  delay_nonneg : 0 ≤ r.streamDelayMs
  /-- The pause is short. -/
  delay_le : r.streamDelayMs ≤ 5000

namespace Settings

private theorem intBetween_eq_ok {least most n : Int} {v : Value}
    (h : intBetween least most v = .ok n) :
    least ≤ n ∧ n ≤ most := by
  obtain ⟨m, -, h⟩ := bind_eq_ok.1 h
  split at h
  · cases h
  next hleast =>
  split at h
  · cases h
  next hmost =>
  obtain rfl := Except.ok.inj h
  exact ⟨Int.not_lt.1 hleast, Int.not_lt.1 hmost⟩

private theorem inBounds_of_checkRender {fields : Fields} {r : RenderSettings}
    (h : checkRender fields = .ok r) : r.InBounds := by
  obtain ⟨⟨char, delay, ramp, seed⟩, hboth, h⟩ := bind_eq_ok.1 h
  obtain rfl := Except.ok.inj h
  obtain ⟨-, hboth⟩ := both_eq_ok.1 hboth
  obtain ⟨hdelay, hboth⟩ := both_eq_ok.1 hboth
  obtain ⟨hramp, -⟩ := both_eq_ok.1 hboth
  have hbounds : 0 ≤ delay ∧ delay ≤ 5000 := by
    rcases optional_eq_ok.1 hdelay with ⟨-, rfl⟩ | ⟨_, v, -, hv⟩
    · decide
    · exact intBetween_eq_ok hv
  have hne : ramp.isEmpty = false := by
    rcases optional_eq_ok.1 hramp with ⟨-, rfl⟩ | ⟨_, v, -, hv⟩
    · decide
    · exact (someText_eq_ok.1 hv).2.2
  exact ⟨hne, hbounds.1, hbounds.2⟩

private theorem group_eq_ok {α : Type} {room : Nat} {value : Text → Option Text}
    {name kind start : Text} {names : List Text} {check : Fields → Checked α} {a : α}
    (h : group room value name kind start names check = .ok (.ok a)) :
    ∃ fields, check fields = .ok a := by
  have halone : ∀ {object : Fields}, (((check (given value start names object)).mapError
      Trouble.refused).map Except.ok : Except Trouble (Checked α)) = .ok (.ok a) →
        ∃ fields, check fields = .ok a := by
    intro object h
    obtain ⟨a', ha', heq⟩ := map_eq_ok.1 h
    obtain rfl := Except.ok.inj heq
    exact ⟨_, mapError_eq_ok.1 ha'⟩
  unfold group at h
  dsimp only at h
  split at h
  · exact halone h
  · split at h
    · cases h
    · exact halone h
    · exact ⟨_, under_eq_ok.1 (Except.ok.inj h)⟩
    · have hfail := under_eq_ok.1 (Except.ok.inj h)
      cases hfail

/-- **Settings.** The settings that an environment and a settings file give are in their bounds. -/
theorem inBounds_of_read {room : Nat} {environment : List (Text × Text)} {file : Option Text}
    {settings : Settings} (h : read room environment file = .ok settings) :
    settings.render.InBounds := by
  obtain ⟨render, hrender, h⟩ := bind_eq_ok.1 h
  obtain ⟨files, -, h⟩ := bind_eq_ok.1 h
  dsimp only at h
  split at h
  · next r f l hboth =>
    obtain rfl := Except.ok.inj h
    obtain ⟨rfl, -⟩ := both_eq_ok.1 hboth
    obtain ⟨fields, hfields⟩ := group_eq_ok hrender
    exact inBounds_of_checkRender hfields
  · cases h

end Settings

end TextArt
