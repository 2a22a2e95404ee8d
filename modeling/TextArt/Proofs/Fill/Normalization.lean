import TextArt.Proofs.Wire.Fill

/-!
# Checked fills pass their check unchanged

The parameters that the check of a fill gives are under second spellings, in the order of the
fields, and each is a value that its own check takes as it is (`Settles`). So the check finds in
them just what it has made (`given_given`). The parameters of fills that are not of the library are
not checked at all, and stay for that reason.
-/

namespace TextArt

open Schema

/-- What a check makes of a value, it takes and leaves as it is. -/
def Schema.Settles (check : Value → Checked Value) : Prop :=
  ∀ v w, check v = .ok w → check w = .ok w

namespace FillSpec

/-! ## Values -/

private theorem settles_of_eq {check : Value → Checked Value} (h : ∀ v w, check v = .ok w → v = w) :
    Settles check := by
  intro v w hw
  obtain rfl := h v w hw
  exact hw

theorem settles_valued {α : Type} {toValue : α → Value} {check : Value → Checked α}
    (h : ∀ v x, check v = .ok x → check (toValue x) = .ok x) : Settles (valued toValue check) := by
  intro v w hw
  obtain ⟨x, hx, rfl⟩ := map_eq_ok.1 hw
  rw [valued, h v x hx, map_ok]

private theorem settles_density : Settles (valued Value.float unitFloat) := by
  refine settles_valued ?_
  intro v x hx
  -- the bounds are asked of the double and not of what it has been read from
  obtain ⟨y, -, hbounds⟩ := bind_eq_ok.1 hx
  have hy : y = x := by
    split at hbounds
    · cases hbounds
    · split at hbounds
      · cases hbounds
      · exact Except.ok.inj hbounds
  subst hy
  exact bind_eq_ok.2 ⟨y, rfl, hbounds⟩

private theorem settles_seed : Settles (valued (orNull Value.int) (nullable anyInt)) := by
  refine settles_valued ?_
  intro v seed hseed
  rcases nullable_eq_ok.1 hseed with ⟨-, rfl⟩ | ⟨-, n, -, rfl⟩
  · rfl
  · rfl

private theorem settles_reverse : Settles (valued Value.bool anyBool) :=
  settles_valued fun _ _ _ ↦ rfl

private theorem settles_of_fields? {name : Text} {fields : FieldChecks}
    (h : fields? name = some fields) : ∀ f ∈ fields, Settles f.2 := by
  have hchar (name : Text) : Settles (charField name).2 :=
    settles_of_eq fun _ _ hw ↦ eq_of_charField hw
  have hdirection := settles_of_eq fun _ _ hw ↦ eq_of_direction hw
  have hramp := settles_of_eq fun _ _ hw ↦ eq_of_ramp hw
  unfold fields? at h
  split at h
  case h_6 => cases h
  all_goals
    obtain rfl := Option.some.inj h
    simp only [List.forall_mem_cons, List.not_mem_nil, false_imp_iff, implies_true, and_true]
  · exact hchar "char"
  · exact ⟨hchar "char", settles_density, settles_seed⟩
  · exact ⟨hdirection, hramp, settles_reverse⟩
  · exact hchar "char"
  · exact ⟨hchar "forward", hchar "back"⟩

/-! ## Parameters -/

private theorem given_of_checks {fields : FieldChecks} {params : Fields}
    {found : List (Option (Text × Value))} (hreadable : Readable params)
    (hothers : noOthers params (fields.map Prod.fst) = .ok ())
    (hfound : fields.map (checkOne params) = found.map .ok) :
    given params fields = .ok (found.filterMap id) :=
  readable_bind_eq_ok.2 ⟨hreadable,
    map_eq_ok.2 ⟨(found, ()), both_eq_ok.2 ⟨every_eq_ok.2 hfound, hothers⟩, rfl⟩⟩

section Given

variable {fields : FieldChecks} {params checked : Fields} (htidy : Tidy fields)
  (h : given params fields = .ok checked)

include htidy h

theorem nodup_of_given : (checked.map Prod.fst).Nodup := htidy.distinct.sublist (sublist_of_given h)

private theorem lookup_of_given {f : Key × (Value → Checked Value)} (hf : f ∈ fields) {w : Value} :
    checked.lookup f.1.plain = some w ↔ Found params f w := by
  rw [Fields.lookup_eq_some_iff_mem (nodup_of_given htidy h), mem_of_given h]
  constructor
  · rintro ⟨f', hf', hplain, hfound⟩
    obtain rfl := eq_of_nodup_map htidy.distinct hf' hf hplain
    exact hfound
  · intro hfound
    exact ⟨f, hf, rfl, hfound⟩

theorem find?_of_given {f : Key × (Value → Checked Value)} (hf : f ∈ fields) :
    f.1.find? checked = (checked.lookup f.1.plain).map (f.1.plain, ·) := by
  unfold Key.find?
  split
  · next v hwire =>
    -- a second spelling leads to itself, so the one that is found here is that of the field
    obtain ⟨f', hf', hplain, -⟩ := (mem_of_given h).1 (mem_of_lookup hwire)
    have hsame : f.1.wire = f.1.plain := by
      rw [← htidy.wire f hf, ← hplain, htidy.plain f' hf']
    rw [← hsame, hwire]
    rfl
  · rfl

private theorem readable_of_given : Readable checked := by
  intro p hp
  obtain ⟨f, hf, hplain, -⟩ := (mem_of_given h).1 hp
  rw [← hplain]
  exact htidy.readable f hf

private theorem noOthers_of_given : noOthers checked (fields.map Prod.fst) = .ok () := by
  refine noOthers_eq_ok.2 ?_
  intro p hp
  obtain ⟨f, hf, hplain, -⟩ := (mem_of_given h).1 hp
  refine ⟨f.1, List.mem_map_of_mem hf, p.2, ?_⟩
  have hlookup := (Fields.lookup_eq_some_iff_mem (nodup_of_given htidy h)).2 hp
  rw [find?_of_given htidy h hf, hplain, hlookup]
  rfl

private theorem checkOne_of_given {f : Key × (Value → Checked Value)} (hf : f ∈ fields)
    (hsettles : Settles f.2) {o : Option (Text × Value)} (ho : checkOne params f = .ok o) :
    checkOne checked f = .ok o := by
  rcases optional_eq_ok.1 ho with ⟨hnone, rfl⟩ | ⟨spelling, v, hfind, hcheck⟩
  · have hlookup : checked.lookup f.1.plain = none := by
      rw [Option.eq_none_iff_forall_ne_some]
      intro w hw
      obtain ⟨_, _, hfind, -⟩ := (lookup_of_given htidy h hf).1 hw
      rw [hnone] at hfind
      cases hfind
    refine optional_eq_ok.2 (.inl ⟨?_, rfl⟩)
    rw [find?_of_given htidy h hf, hlookup]
    rfl
  · obtain ⟨w, hw, rfl⟩ := map_eq_ok.1 hcheck
    have hlookup := (lookup_of_given htidy h hf).2 ⟨spelling, v, hfind, hw⟩
    refine optional_eq_ok.2 (.inr ⟨f.1.plain, w, ?_, ?_⟩)
    · rw [find?_of_given htidy h hf, hlookup]
      rfl
    · rw [hsettles v w hw, map_ok]

private theorem given_given (hsettles : ∀ f ∈ fields, Settles f.2) :
    given checked fields = .ok checked := by
  obtain ⟨-, found, hfound, hchecked⟩ := given_eq_ok h
  subst hchecked
  refine given_of_checks (readable_of_given htidy h) (noOthers_of_given htidy h) ?_
  rw [← hfound]
  refine List.map_congr_left ?_
  intro f hf
  obtain ⟨o, -, ho⟩ := List.mem_map.1 (hfound ▸ List.mem_map_of_mem hf : checkOne params f ∈ _)
  rw [← ho]
  exact checkOne_of_given htidy h hf (hsettles f hf) ho.symm

end Given

/-- **Checked fills.** The check of a fill takes its own result, and leaves it as it is. -/
theorem check_self {registry : FillRegistry} {pattern : Option Text} {params : Fields}
    {spec : FillSpec} (h : check registry pattern params = .ok spec) :
    check registry spec.pattern spec.params = .ok spec := by
  have hagain := h
  unfold check at h
  split at h
  · split at h
    · obtain rfl := Except.ok.inj h
      rfl
    · cases h
  · next name =>
    split at h
    · cases h
    · next hregistered =>
      split at h
      · obtain rfl := Except.ok.inj h
        exact hagain
      · next fields hfields =>
        obtain ⟨checked, hgiven, rfl⟩ := map_eq_ok.1 h
        have hself := given_given (tidy_of_fields? hfields) hgiven (settles_of_fields? hfields)
        unfold check
        dsimp only
        rw [if_neg hregistered, hfields]
        dsimp only
        rw [hself, map_ok]

end FillSpec

end TextArt
