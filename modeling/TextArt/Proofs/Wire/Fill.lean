import TextArt.Proofs.Fill.Checked
import TextArt.Proofs.Wire.Fields

/-!
# Filling with parameters in wire form

The check of a fill puts its parameters under the names that patterns use, leaves out what is not
given and turns a density into a double. A pattern cannot tell the difference: it looks its
parameters up by their names, and a density that is a whole number can only be zero or one.

The fills of other users may have the name of one in the library and not take its parameters. Such
a fill refuses both, though it may name another parameter first.
-/

namespace TextArt

open Schema

/-! ## Parameters as given and as checked -/

/-- A density and the double that the check makes of it. -/
def SameDensity (v w : Value) : Prop := v = .int 0 ∧ w = .float 0 ∨ v = .int 1 ∧ w = .float 1

/-- A parameter and what the check makes of it. -/
def Converts (name : Text) (v w : Value) : Prop := v = w ∨ name = "density" ∧ SameDensity v w

/-- The same parameters in some order, as given and as checked. -/
def Fields.Agree (given checked : Fields) : Prop :=
  ∀ name, Option.Rel (Converts name) (given.lookup name) (checked.lookup name)

namespace Fields.Agree

variable {given checked : Fields}

private theorem argument (h : given.Agree checked) {name : Text} (hname : name ≠ "density")
    (default : Value) : given.argument name default = checked.argument name default := by
  have hrel := h name
  rw [Fields.argument, Fields.argument]
  generalize given.lookup name = v at hrel ⊢
  generalize checked.lookup name = w at hrel ⊢
  cases hrel with
  | none => rfl
  | some hconverts =>
    rcases hconverts with rfl | ⟨hdensity, -⟩
    · rfl
    · exact absurd hdensity hname

private theorem density (h : given.Agree checked) (default : Value) :
    Converts "density" (given.argument "density" default)
      (checked.argument "density" default) := by
  have hrel := h "density"
  rw [Fields.argument, Fields.argument]
  generalize given.lookup ("density" : Text) = v at hrel ⊢
  generalize checked.lookup ("density" : Text) = w at hrel ⊢
  cases hrel with
  | none => exact .inl rfl
  | some hconverts => exact hconverts

private theorem isSome_lookup (h : given.Agree checked) (name : Text) :
    (given.lookup name).isSome = (checked.lookup name).isSome := by
  have hrel := h name
  generalize given.lookup name = v at hrel ⊢
  generalize checked.lookup name = w at hrel ⊢
  cases hrel <;> rfl

end Fields.Agree

/-! ## Patterns -/

namespace Pattern

variable {given checked : Fields}

private theorem dotMask_congr {m n : Number}
    (h : ∀ y : Float, (Number.real y).lt m = (Number.real y).lt n)
    (width : Nat) (field : Array Float) : dotMask width field m = dotMask width field n := by
  funext row col
  unfold dotMask
  split
  · exact h _
  · rfl

private theorem requestDots_congr (settings : FillSettings) (g : Grid) {v w : Value} {m n : Number}
    (hv : v.number = .ok m) (hw : w.number = .ok n)
    (hm : ((Number.real 0).le m && m.le (.real 1)) = true)
    (hn : ((Number.real 0).le n && n.le (.real 1)) = true)
    (h : ∀ y : Float, (Number.real y).lt m = (Number.real y).lt n) (seed char : Value) :
    requestDots settings g v seed char = requestDots settings g w seed char := by
  rw [requestDots, requestDots, hv, hw, ok_bind, ok_bind, if_pos hm, if_pos hn]
  simp only [dotMask_congr h]

private theorem requestDots_of_sameDensity (settings : FillSettings) (g : Grid) {v w : Value}
    (h : SameDensity v w) (seed char : Value) :
    requestDots settings g v seed char = requestDots settings g w seed char := by
  rcases h with ⟨rfl, rfl⟩ | ⟨rfl, rfl⟩
  · refine requestDots_congr settings g (m := .whole 0) (n := .real 0) rfl rfl
      (by decide +kernel) (by decide +kernel) (fun y ↦ ?_) seed char
    rw [Number.lt, Number.lt, Number.compare?_real_whole_zero, Number.compare?_real]
  · refine requestDots_congr settings g (m := .whole 1) (n := .real 1) rfl rfl
      (by decide +kernel) (by decide +kernel) (fun y ↦ ?_) seed char
    rw [Number.lt, Number.lt, Number.compare?_real_whole_one, Number.compare?_real]

/-- **Patterns.** A pattern paints alike with parameters that agree. -/
theorem paint_of_agree (settings : FillSettings) (g : Grid) (h : given.Agree checked)
    (pattern : Pattern) : pattern.paint settings g given = pattern.paint settings g checked := by
  -- dots alone have a density
  have hargument (name : Text) (hname : name ≠ "density") := h.argument hname
  cases pattern with
  | solid => rw [paint, paint, hargument "char" (by decide)]
  | dots =>
    rw [paint, paint, hargument "seed" (by decide), hargument "char" (by decide)]
    rcases h.density (.float 1) with heq | ⟨-, hsame⟩
    · rw [heq]
    · exact requestDots_of_sameDensity settings g hsame _ _
  | gradient =>
    rw [paint, paint, hargument "density_string" (by decide), hargument "direction" (by decide),
      hargument "reverse" (by decide)]
  | diagonal => rw [paint, paint, hargument "char" (by decide)]
  | crosshatch =>
    rw [paint, paint, hargument "forward" (by decide), hargument "back" (by decide)]
  | edges => rw [paint, paint, hargument "char" (by decide)]

end Pattern

/-! ## The check -/

namespace FillSpec

open FillRegistry (snakeCase converted)

/-- The names that a fill itself uses. -/
def ownNames : List Text := ["grid", "name"]

/-- The spellings of the parameters of a fill all lead to their second ones, which are different
from each other and from the names that a fill itself uses. -/
structure Tidy (fields : FieldChecks) : Prop where
  /-- The spelling of documents leads to the second one. -/
  wire : ∀ f ∈ fields, snakeCase f.1.wire = f.1.plain
  /-- The second spelling leads to itself. -/
  plain : ∀ f ∈ fields, snakeCase f.1.plain = f.1.plain
  /-- No two parameters have the same second spelling. -/
  distinct : (fields.map fun f ↦ f.1.plain).Nodup
  /-- No parameter has one of the names that a fill itself uses. -/
  foreign : ∀ f ∈ fields, ∀ name ∈ ownNames, f.1.wire ≠ name ∧ f.1.plain ≠ name
  /-- The second spellings can be read. -/
  readable : ∀ f ∈ fields, f.1.plain.isEncodable = true
  /-- Both spellings have the same type. -/
  type : ∀ f ∈ fields, FieldType.of? f.1.wire = FieldType.of? f.1.plain

theorem tidy_of_fields? {name : Text} {fields : FieldChecks} (h : fields? name = some fields) :
    Tidy fields := by
  have hplain := plain_of_fields? h
  unfold fields? at h
  split at h
  case h_6 => cases h
  all_goals
    obtain rfl := Option.some.inj h
    refine ⟨?_, fun f hf ↦ (hplain f hf).1, ?_, ?_, ?_, ?_⟩
    all_goals
      simp only [charField, Key.of, List.forall_mem_cons, List.map_cons, List.map_nil]
      decide +kernel

theorem find?_cases {params : Fields} {k : Key} {spelling : Text} {v : Value}
    (h : k.find? params = some (spelling, v)) :
    (spelling = k.wire ∨ spelling = k.plain) ∧ (spelling, v) ∈ params := by
  rcases Fields.lookup_of_find? h with ⟨rfl, hwire⟩ | ⟨rfl, -, hplain⟩
  · exact ⟨.inl rfl, mem_of_lookup hwire⟩
  · exact ⟨.inr rfl, mem_of_lookup hplain⟩

section Tidy

variable {fields : FieldChecks} {params checked : Fields} (htidy : Tidy fields)

include htidy

theorem snakeCase_of_spelled {f : Key × (Value → Checked Value)} (hf : f ∈ fields)
    {spelling : Text} (h : spelling = f.1.wire ∨ spelling = f.1.plain) :
    snakeCase spelling = f.1.plain := by
  rcases h with rfl | rfl
  · exact htidy.wire f hf
  · exact htidy.plain f hf

theorem snakeCase_of_find? {f : Key × (Value → Checked Value)} (hf : f ∈ fields)
    {spelling : Text} {v : Value} (h : f.1.find? params = some (spelling, v)) :
    snakeCase spelling = f.1.plain :=
  snakeCase_of_spelled htidy hf (find?_cases h).1

section Spelled

variable (hspelled : ∀ p ∈ params, ∃ f ∈ fields, p.1 = f.1.wire ∨ p.1 = f.1.plain)

include hspelled

theorem exists_plain_of_mem_converted {p : Text × Value} (hp : p ∈ converted params) :
    ∃ f ∈ fields, f.1.plain = p.1 := by
  obtain ⟨q, hq, rfl⟩ := List.mem_map.1 (Fields.mem_ofList hp)
  obtain ⟨f, hf, hspelling⟩ := hspelled q hq
  exact ⟨f, hf, (snakeCase_of_spelled htidy hf hspelling).symm⟩

private theorem apply_of_spelled (registry : FillRegistry) (settings : FillSettings) (name : Value)
    (g : Grid) : registry.apply settings name g params =
      registry.get name >>= FillRegistry.paintTaken settings name g (converted params) := by
  refine FillRegistry.apply_of_foreign settings name g (fun p hp ↦ ?_) fun p hp ↦ ?_
  · obtain ⟨f, hf, hspelling⟩ := hspelled p hp
    have hgrid := htidy.foreign f hf "grid" (by decide)
    have hname := htidy.foreign f hf "name" (by decide)
    rcases hspelling with hspelling | hspelling <;> rw [hspelling]
    · exact ⟨hgrid.1, hname.1⟩
    · exact ⟨hgrid.2, hname.2⟩
  · obtain ⟨f, hf, hplain⟩ := exists_plain_of_mem_converted htidy hspelled hp
    rw [← hplain]
    exact (htidy.foreign f hf "grid" (by decide)).2

end Spelled

variable (hnodup : (params.map Prod.fst).Nodup)
  (hknown : ∀ p ∈ params, ∃ f ∈ fields, ∃ v, f.1.find? params = some (p.1, v))

include hnodup hknown

private theorem nodup_converted :
    ((params.map fun p ↦ (snakeCase p.1, p.2)).map Prod.fst).Nodup := by
  rw [List.map_map]
  refine List.pairwise_map.2 ((List.pairwise_map.1 hnodup).imp_of_mem ?_)
  intro p q hp hq hne hsnake
  obtain ⟨f, hf, v, hfind⟩ := hknown p hp
  obtain ⟨f', hf', v', hfind'⟩ := hknown q hq
  have hplain : f.1.plain = f'.1.plain := by
    rw [← snakeCase_of_find? htidy hf hfind, ← snakeCase_of_find? htidy hf' hfind']
    exact hsnake
  -- the check finds a parameter under one spelling, so both names are that one
  obtain rfl := eq_of_nodup_map htidy.distinct hf hf' hplain
  rw [hfind] at hfind'
  exact hne (Prod.mk.inj (Option.some.inj hfind')).1

private theorem lookup_converted {name : Text} {v : Value} :
    (converted params).lookup name = some v ↔ ∃ f ∈ fields, f.1.plain = name ∧
      ∃ spelling, f.1.find? params = some (spelling, v) := by
  have hconverted := nodup_converted htidy hnodup hknown
  rw [converted, Fields.ofList_eq_self hconverted, Fields.lookup_eq_some_iff_mem hconverted,
    List.mem_map]
  constructor
  · rintro ⟨p, hp, hpair⟩
    obtain ⟨rfl, rfl⟩ := Prod.mk.inj hpair
    obtain ⟨f, hf, v, hfind⟩ := hknown p hp
    obtain rfl := Fields.eq_of_mem_of_mem hnodup hp (find?_cases hfind).2
    exact ⟨f, hf, (snakeCase_of_find? htidy hf hfind).symm, p.1, hfind⟩
  · rintro ⟨f, hf, rfl, spelling, hfind⟩
    exact ⟨(spelling, v), (find?_cases hfind).2,
      Prod.ext (snakeCase_of_find? htidy hf hfind) rfl⟩

end Tidy

/-! ## Values -/

theorem eq_of_charField {v w : Value}
    (h : valued (fun c ↦ charValue (.char c)) oneChar v = .ok w) : v = w := by
  obtain ⟨c, hc, rfl⟩ := map_eq_ok.1 h
  exact oneChar_eq_ok.1 hc

private theorem sameDensity_of_check {v w : Value} (hv : FieldType.number.holds v = true)
    (h : valued Value.float unitFloat v = .ok w) : v = w ∨ SameDensity v w := by
  obtain ⟨x, hx, rfl⟩ := map_eq_ok.1 h
  obtain ⟨y, hy, hbounds⟩ := bind_eq_ok.1 hx
  split at hbounds
  · cases hbounds
  · next hhigh =>
    split at hbounds
    · cases hbounds
    · next hlow =>
      obtain rfl := Except.ok.inj hbounds
      cases v with
      | float z => exact .inl (congrArg _ (Except.ok.inj hy))
      | int n =>
        unfold anyFloat at hy
        dsimp only at hy
        split at hy
        · next hofInt =>
          obtain rfl := Except.ok.inj hy
          rcases Number.eq_of_ofInt?_between hofInt (Classical.not_not.1 hlow)
            (Classical.not_not.1 hhigh) with ⟨rfl, rfl⟩ | ⟨rfl, rfl⟩
          · exact .inr (.inl ⟨rfl, rfl⟩)
          · exact .inr (.inr ⟨rfl, rfl⟩)
        · cases hy
      | _ => cases hv

private theorem eq_of_seed {v w : Value} (hv : FieldType.wholeOrNull.holds v = true)
    (h : valued (orNull Value.int) (nullable anyInt) v = .ok w) : v = w := by
  obtain ⟨seed, hseed, rfl⟩ := map_eq_ok.1 h
  rcases nullable_eq_ok.1 hseed with ⟨rfl, rfl⟩ | ⟨-, n, hn, rfl⟩
  · rfl
  · cases v with
    | int m => exact congrArg _ (Except.ok.inj hn)
    | null => cases hn
    | _ => cases hv

theorem eq_of_ramp {v w : Value}
    (h : valued (orNull Value.str) (nullable someText) v = .ok w) : v = w := by
  obtain ⟨ramp, hramp, rfl⟩ := map_eq_ok.1 h
  rcases nullable_eq_ok.1 hramp with ⟨rfl, rfl⟩ | ⟨-, s, hs, rfl⟩
  · rfl
  · exact (someText_eq_ok.1 hs).1

theorem eq_of_direction {v w : Value} (h : valued Value.str (oneOf
    [(("horizontal" : Text), ("horizontal" : Text)), ("vertical", "vertical"),
      ("radial", "radial")]) v = .ok w) :
    v = w := by
  obtain ⟨s, hs, rfl⟩ := map_eq_ok.1 h
  obtain ⟨t, rfl, ht⟩ := oneOf_eq_ok.1 hs
  have hmem := mem_of_lookup ht.2
  simp only [List.mem_cons, List.not_mem_nil, or_false, Prod.mk.injEq] at hmem
  rcases hmem with ⟨rfl, rfl⟩ | ⟨rfl, rfl⟩ | ⟨rfl, rfl⟩ <;> rfl

private theorem eq_of_reverse {v w : Value} (hv : FieldType.flag.holds v = true)
    (h : valued Value.bool anyBool v = .ok w) : v = w := by
  obtain ⟨b, hb, rfl⟩ := map_eq_ok.1 h
  exact FieldType.anyBool_of_holds hv hb

/-- **Values.** What the check makes of a parameter in wire form differs from it in the form of a
density at most. -/
theorem converts_of_check {name : Text} {fields : FieldChecks} (h : fields? name = some fields)
    {f : Key × (Value → Checked Value)} (hf : f ∈ fields) {v w : Value}
    (hv : ∀ t ∈ FieldType.of? f.1.plain, t.holds v = true) (hw : f.2 v = .ok w) :
    Converts f.1.plain v w := by
  unfold fields? at h
  split at h
  case h_6 => cases h
  all_goals
    obtain rfl := Option.some.inj h
    simp only [List.mem_cons, List.not_mem_nil, or_false] at hf
  · obtain rfl := hf
    exact .inl (eq_of_charField hw)
  · rcases hf with rfl | rfl | rfl
    · exact .inl (eq_of_charField hw)
    · exact (sameDensity_of_check (hv _ rfl) hw).imp_right fun h ↦ ⟨rfl, h⟩
    · exact .inl (eq_of_seed (hv _ rfl) hw)
  · rcases hf with rfl | rfl | rfl
    · exact .inl (eq_of_direction hw)
    · exact .inl (eq_of_ramp hw)
    · exact .inl (eq_of_reverse (hv _ rfl) hw)
  · obtain rfl := hf
    exact .inl (eq_of_charField hw)
  · rcases hf with rfl | rfl
    · exact .inl (eq_of_charField hw)
    · exact .inl (eq_of_charField hw)

/-- Converting adds nothing to parameters that have been checked. -/
theorem converted_of_given {name : Text} {fields : FieldChecks} {params checked : Fields}
    (hname : fields? name = some fields) (h : given params fields = .ok checked) :
    converted checked = checked := by
  have htidy := tidy_of_fields? hname
  have hmap : checked.map (fun p ↦ (snakeCase p.1, p.2)) = checked := by
    refine (List.map_congr_left fun p hp ↦ ?_).trans (List.map_id checked)
    obtain ⟨f, hf, hplain, -⟩ := (mem_of_given h).1 hp
    have hsnake : snakeCase p.1 = p.1 := by rw [← hplain, htidy.plain f hf]
    exact Prod.ext hsnake rfl
  rw [converted, hmap, Fields.ofList_eq_self (htidy.distinct.sublist (sublist_of_given h))]

private theorem agree_of_given {name : Text} {fields : FieldChecks} {params checked : Fields}
    (hname : fields? name = some fields) (hnodup : (params.map Prod.fst).Nodup)
    (htyped : params.Typed) (h : given params fields = .ok checked) :
    (converted params).Agree (converted checked) := by
  have htidy := tidy_of_fields? hname
  have hknown := known_of_given h
  have hnodup' : (checked.map Prod.fst).Nodup := htidy.distinct.sublist (sublist_of_given h)
  have hfound : ∀ n w, checked.lookup n = some w ↔ ∃ f ∈ fields, f.1.plain = n ∧
      Found params f w := by
    intro n w
    rw [Fields.lookup_eq_some_iff_mem hnodup', mem_of_given h]
  rw [converted_of_given hname h]
  intro n
  cases hgiven : (converted params).lookup n with
  | none =>
    cases hchecked : checked.lookup n with
    | none => exact .none
    | some w =>
      obtain ⟨f, hf, hplain, spelling, v, hfind, -⟩ := (hfound n w).1 hchecked
      rw [(lookup_converted htidy hnodup hknown).2 ⟨f, hf, hplain, spelling, hfind⟩] at hgiven
      cases hgiven
  | some v =>
    obtain ⟨f, hf, rfl, spelling, hfind⟩ := (lookup_converted htidy hnodup hknown).1 hgiven
    obtain ⟨w, hw⟩ := check_of_given h hf hfind
    rw [(hfound f.1.plain w).2 ⟨f, hf, rfl, spelling, v, hfind, hw⟩]
    refine .some (converts_of_check hname hf (fun t ht ↦ ?_) hw)
    obtain ⟨hspelling, hv⟩ := find?_cases hfind
    refine htyped _ hv t ?_
    rcases hspelling with rfl | rfl
    · rwa [htidy.type f hf]
    · exact ht

end FillSpec

/-! ## Applying -/

namespace FillRegistry

/-- Every fill that has the name of one in the library takes the parameters that the library checks
for it. -/
def TakesChecked (registry : FillRegistry) : Prop :=
  ∀ name fields fill, FillSpec.fields? name = some fields → registry.find? name = some fill →
    ∀ f ∈ fields, fill.pattern.takes f.1.plain = true

/-- Two refusals of the same parameters by a fill that has the name of one in the library and does
not take its parameters. They may name different parameters. -/
inductive RefusedAlike (registry : FillRegistry) : Failure → Failure → Prop where
  /-- Both name the same fill and give parameters that agree. -/
  | intro {name : Text} {parameter parameter' : Text} {given checked : Fields}
    (hnot : ¬registry.TakesChecked) (hagree : given.Agree checked) :
    RefusedAlike registry (.unexpectedParameter (.str name) parameter given)
      (.unexpectedParameter (.str name) parameter' checked)

/-- Two outcomes agree if they are equal or refuse the same parameters. -/
def Agrees {α : Type} (registry : FillRegistry) (a b : Outcome α) : Prop :=
  a = b ∨ ∃ c c', RefusedAlike registry c c' ∧ a = .error c ∧ b = .error c'

theorem Agrees.refl {α : Type} (registry : FillRegistry) (a : Outcome α) :
    registry.Agrees a a := .inl rfl

/-- Agreement is kept by what comes after. -/
theorem Agrees.map {α β : Type} {registry : FillRegistry} {a b : Outcome α}
    (h : registry.Agrees a b) (f : α → β) : registry.Agrees (a.map f) (b.map f) := by
  rcases h with rfl | ⟨c, c', halike, rfl, rfl⟩
  · exact .refl registry _
  · exact .inr ⟨c, c', halike, rfl, rfl⟩

variable {registry : FillRegistry} {name : Text} {params : Fields}

private theorem find?_takes_eq_none {pattern : Pattern} {converted : Fields} :
    converted.find? (fun p ↦ !pattern.takes p.1) = none ↔
      ∀ name, (converted.lookup name).isSome → pattern.takes name = true := by
  rw [List.find?_eq_none]
  constructor
  · intro h name hname
    obtain ⟨v, hv⟩ := Option.isSome_iff_exists.1 hname
    simpa using h (name, v) (mem_of_lookup hv)
  · intro h p hp
    have hsome : (converted.lookup p.1).isSome :=
      List.lookup_isSome_iff.2 ⟨p, hp, by simp⟩
    simp [h p.1 hsome]

private theorem paintTaken_of_agree {given checked : Fields} (hagree : given.Agree checked)
    {fill : Fill} (hrefuse : ∀ p ∈ given, fill.pattern.takes p.1 = false → ¬registry.TakesChecked)
    (settings : FillSettings) (g : Grid) :
    registry.Agrees (paintTaken settings (.str name) g given fill)
      (paintTaken settings (.str name) g checked fill) := by
  unfold paintTaken
  cases hgiven : given.find? fun p ↦ !fill.pattern.takes p.1 with
  | none =>
    have htakes := find?_takes_eq_none.1 hgiven
    have hchecked : checked.find? (fun p ↦ !fill.pattern.takes p.1) = none :=
      find?_takes_eq_none.2 fun n hn ↦ htakes n (by rwa [hagree.isSome_lookup])
    rw [hchecked]
    exact .inl (Pattern.paint_of_agree settings g hagree fill.pattern)
  | some p =>
    cases hchecked : checked.find? fun p ↦ !fill.pattern.takes p.1 with
    | none =>
      -- a fill that takes the checked parameters takes the given ones
      have htakes := find?_takes_eq_none.1 hchecked
      rw [find?_takes_eq_none.2 fun n hn ↦ htakes n (by rwa [← hagree.isSome_lookup])] at hgiven
      cases hgiven
    | some q =>
      have hnot : fill.pattern.takes p.1 = false := by simpa using List.find?_some hgiven
      have hp := List.mem_of_find?_eq_some hgiven
      exact .inr ⟨_, _, .intro (hrefuse p hp hnot) hagree, rfl, rfl⟩

/-- **Fills.** A fill does the same with parameters in wire form as with what their check makes of
them. -/
theorem apply_of_check {spec : FillSpec}
    (hcheck : FillSpec.check registry (some name) params = .ok spec)
    (hnodup : (params.map Prod.fst).Nodup)
    (htyped : (FillSpec.fields? name).isSome → params.Typed) (settings : FillSettings)
    (g : Grid) : spec.pattern = some name ∧
      registry.Agrees (registry.apply settings (.str name) g params)
        (registry.apply settings (.str name) g spec.params) := by
  unfold FillSpec.check at hcheck
  dsimp only at hcheck
  split at hcheck
  · cases hcheck
  split at hcheck
  · -- not a fill of the library: the parameters are passed on
    obtain rfl := Except.ok.inj hcheck
    exact ⟨rfl, .refl registry _⟩
  next fields hfields =>
    obtain ⟨checked, hgiven, rfl⟩ := map_eq_ok.1 hcheck
    refine ⟨rfl, ?_⟩
    have htidy := FillSpec.tidy_of_fields? hfields
    have hagree := FillSpec.agree_of_given hfields hnodup (htyped (by rw [hfields]; rfl)) hgiven
    have hspelled (p : Text × Value) (hp : p ∈ params) :
        ∃ f ∈ fields, p.1 = f.1.wire ∨ p.1 = f.1.plain := by
      obtain ⟨f, hf, v, hfind⟩ := FillSpec.known_of_given hgiven p hp
      exact ⟨f, hf, (FillSpec.find?_cases hfind).1⟩
    have hspelled' (p : Text × Value) (hp : p ∈ checked) :
        ∃ f ∈ fields, p.1 = f.1.wire ∨ p.1 = f.1.plain := by
      obtain ⟨f, hf, hplain, -⟩ := (FillSpec.mem_of_given hgiven).1 hp
      exact ⟨f, hf, .inr hplain.symm⟩
    rw [FillSpec.apply_of_spelled htidy hspelled, FillSpec.apply_of_spelled htidy hspelled']
    cases hget : registry.get (.str name) with
    | error cause => exact .refl registry _
    | ok fill =>
      rw [ok_bind, ok_bind]
      refine paintTaken_of_agree hagree (fun p hp hnot htakes ↦ ?_) settings g
      obtain ⟨f, hf, hplain⟩ := FillSpec.exists_plain_of_mem_converted htidy hspelled hp
      rw [← hplain, htakes name fields fill hfields (get_eq_ok.1 hget) f hf] at hnot
      cases hnot

end FillRegistry

end TextArt
