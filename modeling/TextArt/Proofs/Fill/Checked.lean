import TextArt.Proofs.Fields
import TextArt.Proofs.Grid.Legible
import TextArt.Proofs.Number
import TextArt.Proofs.Schema
import TextArt.Recipe.FillSpec

/-!
# Checked fills succeed

A fill that comes with the library and has passed its check can be applied to every grid. The check
looks at each parameter by itself: what it lets through is a character, a density from zero to one,
a seed, a direction or a ramp, and these are just what the patterns can work with. Two things are
left to the characters and the settings: an ink must not be hidden, or there is nothing to paint
with, and a seed must not be negative.
-/

namespace TextArt

open Schema

/-! ## Inks -/

theorem singleChar?_withoutFinalNuls {c : CodePoint} (hc : c ≠ Cell.hidden) :
    singleChar? (withoutFinalNuls (Text.singleton c)) = some c := by
  rw [singleChar?, withoutFinalNuls, Text.toList_singleton, Text.toList_ofList]
  have hnul : decide (c = '\x00') = false := decide_eq_false hc
  rw [List.reverse_singleton, List.dropWhile_cons, hnul, if_neg Bool.false_ne_true,
    List.reverse_singleton]

namespace Grid

theorem paintEach_legible (g : Grid) {mask : Nat → Nat → Bool} {ink : Nat → Nat → Text}
    (hink : ∀ row col, ∃ c, ink row col = Text.singleton c ∧ Cell.Legible c) :
    ∃ g', g.paintEach mask ink = .ok g' ∧ (g.Legible → g'.Legible) := by
  have hchar : ∀ row col, ∃ c, singleChar? (withoutFinalNuls (ink row col)) = some c ∧
      Cell.Legible c := by
    intro row col
    obtain ⟨c, hc, hlegible⟩ := hink row col
    exact ⟨c, by rw [hc, singleChar?_withoutFinalNuls hlegible.1], hlegible⟩
  have hbad : g.badInk? mask ink = none := by
    rw [badInk?, List.findSome?_eq_none_iff]
    intro p _
    obtain ⟨c, hc, -⟩ := hchar p.1 p.2
    simp [hc]
  refine ⟨_, by rw [paintEach, hbad], fun hg ↦ legible_mapCells hg fun row col old hold ↦ ?_⟩
  split
  · obtain ⟨c, hc, hlegible⟩ := hchar row col
    rw [hc]
    exact hlegible
  · exact hold

theorem requestInk_charValue (g : Grid) (chosen : Nat → Nat → Bool) (c : CodePoint) :
    g.requestInk chosen (FillSpec.charValue c) = .ok (g.paintChar chosen c) := by
  rw [requestInk, FillSpec.charValue, Value.ink, ok_bind]
  dsimp only
  rw [Value.cell_singleton]
  rfl

theorem requestInk_legible (g : Grid) (chosen : Nat → Nat → Bool) {c : CodePoint}
    (hc : Cell.Legible c) :
    ∃ g', g.requestInk chosen (FillSpec.charValue c) = .ok g' ∧ (g.Legible → g'.Legible) := by
  refine ⟨_, requestInk_charValue g chosen c, fun hg ↦ ?_⟩
  refine legible_mapCells hg fun row col old hold ↦ ?_
  split
  · exact hc
  · exact hold

end Grid

/-! ## Patterns -/

namespace Pattern

open FillSpec (charValue)

private theorem rampIndex_lt {length : Nat} (h : 0 < length) (ratio : Float) :
    rampIndex length ratio < length := by
  unfold rampIndex
  dsimp only
  omega

/-- A gradient has a character of its ramp for every cell. -/
theorem gradientInk_of_chars (g : Grid) {ramp : List CodePoint} (hne : ramp ≠ [])
    (direction : Direction) (reverse : Bool) (row col : Nat) :
    ∃ c ∈ ramp, gradientInk g (ramp.map Text.singleton) direction reverse row col =
      Text.singleton c := by
  unfold gradientInk
  dsimp only
  generalize hratio : (if reverse then 1 - direction.ratio g row col
    else direction.ratio g row col) = ratio
  have hlt : rampIndex (ramp.map Text.singleton).length ratio < ramp.length := by
    rw [List.length_map]
    exact rampIndex_lt (List.length_pos_iff.2 hne) ratio
  refine ⟨ramp[rampIndex (ramp.map Text.singleton).length ratio], List.getElem_mem _, ?_⟩
  rw [List.getElem?_map, List.getElem?_eq_getElem hlt]
  rfl

private theorem paintGradient_legible (g : Grid) {ramp : List CodePoint} (hne : ramp ≠ [])
    (hramp : ∀ c ∈ ramp, Cell.Legible c) (direction : Direction) (reverse : Bool) :
    ∃ g', paintGradient g (ramp.map Text.singleton) direction reverse = .ok g' ∧
      (g.Legible → g'.Legible) := by
  refine Grid.paintEach_legible g ?_
  intro row col
  obtain ⟨c, hc, hink⟩ := gradientInk_of_chars g hne direction reverse row col
  exact ⟨c, hink, hramp c hc⟩

private theorem requestGradient_legible (settings : FillSettings) (g : Grid)
    {ramp direction : Value}
    {s : Text} (hramp : rampOr settings ramp = .str s) (hne : s.isEmpty = false)
    (hlegible : ∀ c ∈ s.toList, Cell.Legible c)
    (hdirection : (direction.text?.bind Direction.ofName?).isSome) (reverse : Value) :
    ∃ g', requestGradient settings g ramp direction reverse = .ok g' ∧
      (g.Legible → g'.Legible) := by
  obtain ⟨way, hway⟩ := Option.isSome_iff_exists.1 hdirection
  have htruthy : (Value.str s).truthy = true := by rw [Value.truthy, hne]; rfl
  rw [requestGradient, hramp, if_pos htruthy, hway]
  have hchars : s.toList ≠ [] := Text.toList_eq_nil_iff.not.2 (Text.isEmpty_eq_false_iff.1 hne)
  exact paintGradient_legible g hchars hlegible way reverse.truthy

theorem requestCrosshatch_charValue (g : Grid) (forward back : CodePoint) :
    requestCrosshatch g (charValue forward) (charValue back) =
      g.paintEach (fun _ _ ↦ true) fun row col ↦
        Text.singleton (if oddCell row col then forward else back) := by
  simp only [apply_ite Text.singleton]
  rfl

private theorem requestCrosshatch_legible (g : Grid) {forward back : CodePoint}
    (hf : Cell.Legible forward) (hb : Cell.Legible back) :
    ∃ g', requestCrosshatch g (charValue forward) (charValue back) = .ok g' ∧
      (g.Legible → g'.Legible) := by
  refine Grid.paintEach_legible g fun row col ↦ ?_
  cases oddCell row col with
  | true => exact ⟨forward, rfl, hf⟩
  | false => exact ⟨back, rfl, hb⟩

/-- Dots of a density can fail over their seed only. -/
theorem requestDots_of_number (settings : FillSettings) (g : Grid) {density : Value}
    {limit : Number} (hlimit : density.number = .ok limit)
    (hlow : (Number.real 0).le limit = true) (hhigh : limit.le (.real 1) = true) (seed : Value)
    (c : CodePoint) : requestDots settings g density seed (charValue c) =
      (dotSeed settings seed).map fun words ↦
        g.paintChar (dotMask g.width (Scatter.field words g.width g.height) limit) c := by
  rw [requestDots, hlimit, ok_bind, hlow, hhigh, Bool.and_self, if_pos rfl, map_eq_bind]
  simp only [Grid.requestInk_charValue]

theorem requestDots_of_density (settings : FillSettings) (g : Grid) {x : Float} (hlow : 0 ≤ x)
    (hhigh : x ≤ 1) (seed : Value) (c : CodePoint) :
    requestDots settings g (.float x) seed (charValue c) =
      (dotSeed settings seed).map fun words ↦
        g.paintChar (dotMask g.width (Scatter.field words g.width g.height) (.real x)) c := by
  refine requestDots_of_number settings g rfl ?_ ?_ seed c
  · rw [Number.le_real, decide_eq_true hlow]
  · rw [Number.le_real, decide_eq_true hhigh]

private theorem requestDots_legible (settings : FillSettings) (g : Grid) {x : Float} (hlow : 0 ≤ x)
    (hhigh : x ≤ 1) {seed : Value} {words : List UInt32} (hseed : dotSeed settings seed = .ok words)
    {c : CodePoint} (hc : Cell.Legible c) :
    ∃ g', requestDots settings g (.float x) seed (charValue c) = .ok g' ∧
      (g.Legible → g'.Legible) := by
  rw [requestDots_of_density settings g hlow hhigh, hseed, map_ok]
  have hpainted := g.requestInk_legible
    (dotMask g.width (Scatter.field words g.width g.height) (.real x)) hc
  rwa [Grid.requestInk_charValue] at hpainted

end Pattern

/-! ## Fills by name -/

namespace FillRegistry

variable {registry : FillRegistry}

theorem get_eq_ok {name : Text} {fill : Fill} :
    registry.get (.str name) = .ok fill ↔ registry.find? name = some fill := by
  have hname : (Value.str name).isName = true := rfl
  rw [get, if_pos hname, Value.text?, Option.bind_some]
  cases registry.find? name <;> simp

/-- Paints with parameters that have the names that patterns use, or refuses the first that the
pattern does not take. -/
def paintTaken (settings : FillSettings) (name : Value) (g : Grid) (params : Fields)
    (fill : Fill) : Outcome Grid :=
  match params.find? fun p ↦ !fill.pattern.takes p.1 with
  | some (unknown, _) => .error (.unexpectedParameter name unknown params)
  | none => fill.pattern.paint settings g params

/-- Parameters that do not get in the way of those of applying itself reach the fill. -/
theorem apply_of_foreign (settings : FillSettings) (name : Value) (g : Grid) {params : Fields}
    (hown : ∀ p ∈ params, p.1 ≠ "grid" ∧ p.1 ≠ "name")
    (hgrid : ∀ p ∈ converted params, p.1 ≠ "grid") :
    registry.apply settings name g params =
      registry.get name >>= paintTaken settings name g (converted params) := by
  have hany : (params.any fun p ↦ p.1 == "grid" || p.1 == "name") = false := by
    rw [List.any_eq_false]
    intro p hp
    simp [(hown p hp).1, (hown p hp).2]
  have hlookup : (converted params).lookup ("grid" : Text) = none := by
    rw [List.lookup_eq_none_iff]
    intro p hp
    simpa using (hgrid p hp).symm
  rw [apply, hany, if_neg Bool.false_ne_true]
  congr 1
  funext fill
  dsimp only
  rw [hlookup]
  rfl

/-- A fill that takes all its parameters paints with them. -/
theorem apply_of_taken (settings : FillSettings) {name : Text} {fill : Fill}
    (hfill : registry.find? name = some fill) (g : Grid) {params : Fields}
    (hown : ∀ p ∈ params, p.1 ≠ "grid" ∧ p.1 ≠ "name")
    (htaken : ∀ p ∈ converted params, p.1 ≠ "grid" ∧ fill.pattern.takes p.1 = true) :
    registry.apply settings (.str name) g params =
      fill.pattern.paint settings g (converted params) := by
  have hunknown : (converted params).find? (fun p ↦ !fill.pattern.takes p.1) = none := by
    rw [List.find?_eq_none]
    intro p hp
    simp [(htaken p hp).2]
  rw [apply_of_foreign settings (.str name) g hown fun p hp ↦ (htaken p hp).1,
    get_eq_ok.2 hfill, ok_bind, paintTaken, hunknown]

end FillRegistry

/-! ## Checked parameters -/

namespace FillSpec

/-- The parameters of a fill, and how each is checked. -/
abbrev FieldChecks := List (Key × (Value → Checked Value))

/-- A parameter that the check has found under a spelling, and what it has made of it. -/
def Found (params : Fields) (f : Key × (Value → Checked Value)) (w : Value) : Prop :=
  ∃ spelling v, f.1.find? params = some (spelling, v) ∧ f.2 v = .ok w

/-- The check of one parameter, which may be left out. -/
def checkOne (params : Fields) (f : Key × (Value → Checked Value)) :
    Checked (Option (Text × Value)) :=
  optional params f.1 none fun v ↦ (f.2 v).map fun v ↦ some (f.1.plain, v)

private theorem checkOne_eq_ok {params : Fields} {f : Key × (Value → Checked Value)}
    {o : Option (Text × Value)} (h : checkOne params f = .ok o) (name : Text) (w : Value) :
    o = some (name, w) ↔ f.1.plain = name ∧ Found params f w := by
  rcases optional_eq_ok.1 h with ⟨hnone, rfl⟩ | ⟨spelling, v, hfind, hcheck⟩
  · simp [Found, hnone]
  · obtain ⟨w', hw', rfl⟩ := map_eq_ok.1 hcheck
    have hfound : Found params f w ↔ w' = w := by
      constructor
      · rintro ⟨_, v', hfind', hw⟩
        rw [hfind] at hfind'
        obtain ⟨-, rfl⟩ := Prod.mk.inj (Option.some.inj hfind')
        exact Except.ok.inj (hw'.symm.trans hw)
      · rintro rfl
        exact ⟨spelling, v, hfind, hw'⟩
    rw [hfound, Option.some.injEq, Prod.mk.injEq]

theorem filterMap_of_checks {fields : FieldChecks} {params : Fields}
    {found : List (Option (Text × Value))} (h : fields.map (checkOne params) = found.map .ok) :
    ((found.filterMap id).map Prod.fst).Sublist (fields.map fun f ↦ f.1.plain) ∧
      ∀ name w, (name, w) ∈ found.filterMap id ↔
        ∃ f ∈ fields, f.1.plain = name ∧ Found params f w := by
  -- every field gives one entry or none, in order
  induction fields generalizing found with
  | nil =>
    obtain rfl := List.map_eq_nil_iff.1 h.symm
    exact ⟨List.Sublist.slnil, by simp⟩
  | cons f rest ih =>
    obtain ⟨o, found, rfl⟩ : ∃ o found', found = o :: found' := by
      cases found with
      | nil => cases h
      | cons o found' => exact ⟨o, found', rfl⟩
    obtain ⟨ho, hrest⟩ := List.cons.inj h
    obtain ⟨hsublist, hmem⟩ := ih hrest
    have hiff := checkOne_eq_ok ho
    constructor
    · cases o with
      | none => exact hsublist.cons _
      | some p =>
        obtain ⟨hname, -⟩ := (hiff p.1 p.2).1 rfl
        rw [List.map_cons, hname]
        exact hsublist.cons_cons _
    · intro name w
      rw [List.mem_filterMap]
      simp only [List.mem_cons, id_eq, or_and_right, exists_or, exists_eq_left, hiff,
        ← hmem name w, List.mem_filterMap]

section Given

variable {fields : FieldChecks} {params checked : Fields}

theorem given_eq_ok (h : given params fields = .ok checked) :
    noOthers params (fields.map Prod.fst) = .ok () ∧
      ∃ found : List (Option (Text × Value)),
        fields.map (checkOne params) = found.map .ok ∧ checked = found.filterMap id := by
  obtain ⟨_, hread, hchecks⟩ := bind_eq_ok.1 h
  obtain ⟨-, rfl⟩ := readable_eq_ok.1 hread
  obtain ⟨⟨found, _⟩, hboth, hfound⟩ := bind_eq_ok.1 hchecks
  obtain ⟨hevery, hothers⟩ := both_eq_ok.1 hboth
  exact ⟨hothers, found, every_eq_ok.1 hevery, (Except.ok.inj hfound).symm⟩

theorem known_of_given (h : given params fields = .ok checked) :
    ∀ p ∈ params, ∃ f ∈ fields, ∃ v, f.1.find? params = some (p.1, v) := by
  intro p hp
  obtain ⟨k, hk, v, hfind⟩ := noOthers_eq_ok.1 (given_eq_ok h).1 p hp
  obtain ⟨f, hf, rfl⟩ := List.mem_map.1 hk
  exact ⟨f, hf, v, hfind⟩

theorem check_of_given (h : given params fields = .ok checked)
    {f : Key × (Value → Checked Value)} (hf : f ∈ fields) {spelling : Text} {v : Value}
    (hfind : f.1.find? params = some (spelling, v)) : ∃ w, f.2 v = .ok w := by
  obtain ⟨-, found, hfound, -⟩ := given_eq_ok h
  have hmem : checkOne params f ∈ found.map .ok := hfound ▸ List.mem_map_of_mem hf
  obtain ⟨o, -, ho⟩ := List.mem_map.1 hmem
  rcases optional_eq_ok.1 ho.symm with ⟨hnone, -⟩ | ⟨spelling', v', hfind', hcheck⟩
  · rw [hnone] at hfind
    cases hfind
  · rw [hfind] at hfind'
    obtain ⟨-, rfl⟩ := Prod.mk.inj (Option.some.inj hfind')
    obtain ⟨w, hw, -⟩ := map_eq_ok.1 hcheck
    exact ⟨w, hw⟩

theorem sublist_of_given (h : given params fields = .ok checked) :
    (checked.map Prod.fst).Sublist (fields.map fun f ↦ f.1.plain) := by
  obtain ⟨-, found, hfound, rfl⟩ := given_eq_ok h
  exact (filterMap_of_checks hfound).1

/-- The parameters that a check gives are those that it has found, each under its second
spelling. -/
theorem mem_of_given (h : given params fields = .ok checked) {name : Text} {w : Value} :
    (name, w) ∈ checked ↔ ∃ f ∈ fields, f.1.plain = name ∧ Found params f w := by
  obtain ⟨-, found, hfound, rfl⟩ := given_eq_ok h
  exact (filterMap_of_checks hfound).2 name w

end Given

/-- Every parameter comes out of the check of one of the fields. -/
def Given (fields : List (Key × (Value → Checked Value))) (params : Fields) : Prop :=
  ∀ p ∈ params, ∃ f ∈ fields, p.1 = f.1.plain ∧ ∃ v, f.2 v = .ok p.2

theorem given_of_given_eq_ok {params params' : Fields}
    {fields : List (Key × (Value → Checked Value))} (h : given params fields = .ok params') :
    Given fields params' := by
  intro p hp
  obtain ⟨f, hf, hplain, spelling, v, -, hw⟩ := (mem_of_given h).1 hp
  exact ⟨f, hf, hplain.symm, v, hw⟩

/-- What a checked fill is: none, or a registered one whose parameters have passed their checks. -/
theorem check_eq_ok {registry : FillRegistry} {pattern : Option Text} {params : Fields}
    {spec : FillSpec} (h : check registry pattern params = .ok spec) :
    spec.pattern = none ∨ ∃ name, spec.pattern = some name ∧ (registry.find? name).isSome ∧
      ∀ fields, fields? name = some fields → given params fields = .ok spec.params := by
  unfold check at h
  split at h
  · split at h
    · obtain rfl := Except.ok.inj h
      exact .inl rfl
    · cases h
  · next name =>
    split at h
    · cases h
    · next hregistered =>
      have hisSome : (registry.find? name).isSome := by
        simpa [Option.isSome_iff_ne_none] using hregistered
      split at h
      · next hnone =>
        obtain rfl := Except.ok.inj h
        refine .inr ⟨name, rfl, hisSome, fun fields hfields ↦ ?_⟩
        rw [hnone] at hfields
        cases hfields
      · next fields hsome =>
        obtain ⟨params', hgiven, rfl⟩ := map_eq_ok.1 h
        refine .inr ⟨name, rfl, hisSome, fun fields' hfields ↦ ?_⟩
        obtain rfl : fields = fields' := Option.some.inj (hsome.symm.trans hfields)
        exact hgiven

/-- The names of the parameters that supply characters. -/
def inkNames : List Text := ["char", "forward", "back", "density_string"]

/-- The characters that a fill supplies are legible, and its seed is not negative. -/
structure Legible (spec : FillSpec) : Prop where
  /-- All characters of the parameters that supply characters. -/
  inks : ∀ name ∈ inkNames, ∀ s, (name, Value.str s) ∈ spec.params →
    ∀ c ∈ s.toList, Cell.Legible c
  /-- The seed, if there is one. -/
  seed : ∀ n, (("seed" : Text), Value.int n) ∈ spec.params → 0 ≤ n

theorem legible_nil (pattern : Option Text) : Legible ⟨pattern, []⟩ :=
  ⟨fun _ _ _ h ↦ (List.not_mem_nil h).elim, fun _ h ↦ (List.not_mem_nil h).elim⟩

/-! ## Applying -/

variable {fields : List (Key × (Value → Checked Value))} {params : Fields}

theorem mem_of_mem_converted (hgiven : Given fields params)
    (hnames : ∀ f ∈ fields, FillRegistry.snakeCase f.1.plain = f.1.plain) {p : Text × Value}
    (hp : p ∈ FillRegistry.converted params) : p ∈ params := by
  obtain ⟨q, hq, rfl⟩ := List.mem_map.1 (Fields.mem_ofList hp)
  obtain ⟨f, hf, hname, -⟩ := hgiven q hq
  have hsnake : FillRegistry.snakeCase q.1 = q.1 := by rw [hname, hnames f hf]
  rwa [hsnake]

/-- A fill that takes all its checked parameters paints with them. -/
theorem apply_eq_paint {registry : FillRegistry} (settings : FillSettings) {name : Text}
    {fill : Fill} (hgiven : Given fields params) (hfill : registry.find? name = some fill)
    (hnames : ∀ f ∈ fields, FillRegistry.snakeCase f.1.plain = f.1.plain ∧
      f.1.plain ≠ "grid" ∧ f.1.plain ≠ "name")
    (htakes : ∀ f ∈ fields, fill.pattern.takes f.1.plain = true) (g : Grid) :
    registry.apply settings (.str name) g params =
      fill.pattern.paint settings g (FillRegistry.converted params) := by
  have hname : ∀ p ∈ params, p.1 ≠ "grid" ∧ p.1 ≠ "name" ∧ fill.pattern.takes p.1 = true := by
    intro p hp
    obtain ⟨f, hf, hfield, -⟩ := hgiven p hp
    rw [hfield]
    exact ⟨(hnames f hf).2.1, (hnames f hf).2.2, htakes f hf⟩
  have hconverted : ∀ p ∈ FillRegistry.converted params, p ∈ params :=
    fun p hp ↦ mem_of_mem_converted hgiven (fun f hf ↦ (hnames f hf).1) hp
  exact FillRegistry.apply_of_taken settings hfill g
    (fun p hp ↦ ⟨(hname p hp).1, (hname p hp).2.1⟩)
    fun p hp ↦ ⟨(hname p (hconverted p hp)).1, (hname p (hconverted p hp)).2.2⟩

/-! ## The fills of the library -/

/-- An argument that is checked as a character is one, with the property of all that are given. -/
theorem char_argument (P : CodePoint → Prop) (name : Text) (default : CodePoint)
    (hgiven : Given fields params) (hfield : ∀ f ∈ fields, f.1.plain = name → f = charField name)
    (hdefault : P default) (hinks : ∀ s, (name, Value.str s) ∈ params → ∀ c ∈ s.toList, P c) :
    ∃ c, params.argument name (charValue default) = charValue c ∧ P c := by
  rcases params.argument_cases name (charValue default) with ⟨-, h⟩ | ⟨v, hv, h⟩
  · exact ⟨default, h, hdefault⟩
  · obtain ⟨f, hf, hname, w, hw⟩ := hgiven _ hv
    rw [hfield f hf hname.symm] at hw
    obtain ⟨c, -, rfl⟩ := map_eq_ok.1 hw
    refine ⟨c, h, hinks _ hv c ?_⟩
    rw [Text.toList_singleton]
    exact List.mem_singleton_self _

/-- An argument that is checked as a density is one. -/
theorem density_argument (hgiven : Given fields params)
    (hfield : ∀ f ∈ fields, f.1.plain = "density" →
      f = (Key.of "density", valued Value.float unitFloat)) :
    ∃ x : Float, params.argument "density" (.float 1) = .float x ∧ 0 ≤ x ∧ x ≤ 1 := by
  rcases params.argument_cases "density" (.float 1) with ⟨-, h⟩ | ⟨v, hv, h⟩
  · exact ⟨1, h, by decide, by decide⟩
  · obtain ⟨f, hf, hname, w, hw⟩ := hgiven _ hv
    rw [hfield f hf hname.symm] at hw
    obtain ⟨x, hx, rfl⟩ := map_eq_ok.1 hw
    obtain ⟨y, -, hy⟩ := bind_eq_ok.1 hx
    split at hy
    · cases hy
    · next hhigh =>
      split at hy
      · cases hy
      · next hlow =>
        obtain rfl := Except.ok.inj hy
        exact ⟨y, h, Decidable.not_not.1 hlow, Decidable.not_not.1 hhigh⟩

/-- An argument that is checked as a seed is null or a whole number that is given. -/
theorem seed_argument (hgiven : Given fields params)
    (hfield : ∀ f ∈ fields, f.1.plain = "seed" →
      f = (Key.of "seed", valued (orNull Value.int) (nullable anyInt))) :
    params.argument "seed" .null = .null ∨
      ∃ n, params.argument "seed" .null = .int n ∧ (("seed" : Text), Value.int n) ∈ params := by
  rcases params.argument_cases "seed" .null with ⟨-, h⟩ | ⟨v, hv, h⟩
  · exact .inl h
  · obtain ⟨f, hf, hname, w, hw⟩ := hgiven _ hv
    rw [hfield f hf hname.symm] at hw
    obtain ⟨seed, -, rfl⟩ := map_eq_ok.1 hw
    cases seed with
    | none => exact .inl h
    | some n => exact .inr ⟨n, h, hv⟩

theorem dotSeed_int (settings : FillSettings) (n : Int) :
    Pattern.dotSeed settings (.int n) = Scatter.seedOfInt n := by
  rw [Pattern.dotSeed, Scatter.seedOf, Scatter.seedPart]
  all_goals simp

private theorem dotSeed_argument (settings : FillSettings) (hsettings : settings.dotsSeed = none)
    (hgiven : Given fields params)
    (hfield : ∀ f ∈ fields, f.1.plain = "seed" →
      f = (Key.of "seed", valued (orNull Value.int) (nullable anyInt)))
    (hseed : ∀ n, (("seed" : Text), Value.int n) ∈ params → 0 ≤ n) :
    ∃ words, Pattern.dotSeed settings (params.argument "seed" .null) = .ok words := by
  rcases seed_argument hgiven hfield with h | ⟨n, h, hn⟩
  · exact ⟨settings.entropy, by rw [h, Pattern.dotSeed, hsettings]⟩
  · refine ⟨Scatter.wordsOf n.toNat, ?_⟩
    rw [h, dotSeed_int, Scatter.seedOfInt, if_neg (Int.not_lt.2 (hseed n hn))]

/-- A ramp that is checked is a text that is not empty, with the property of those it comes from. -/
theorem ramp_argument (P : CodePoint → Prop) (settings : FillSettings)
    (hne : settings.densityRamp.isEmpty = false)
    (hsettings : ∀ c ∈ settings.densityRamp.toList, P c) (hgiven : Given fields params)
    (hfield : ∀ f ∈ fields, f.1.plain = "density_string" →
      f = (⟨"densityString", "density_string"⟩, valued (orNull Value.str) (nullable someText)))
    (hinks : ∀ s, (("density_string" : Text), Value.str s) ∈ params → ∀ c ∈ s.toList, P c) :
    ∃ s, Pattern.rampOr settings (params.argument "density_string" .null) = .str s ∧
      s.isEmpty = false ∧ ∀ c ∈ s.toList, P c := by
  rcases params.argument_cases "density_string" .null with ⟨-, h⟩ | ⟨v, hv, h⟩
  · exact ⟨_, by rw [h]; rfl, hne, hsettings⟩
  · obtain ⟨f, hf, hname, w, hw⟩ := hgiven _ hv
    rw [hfield f hf hname.symm] at hw
    obtain ⟨ramp, hramp, rfl⟩ := map_eq_ok.1 hw
    cases ramp with
    | none => exact ⟨_, by rw [h]; rfl, hne, hsettings⟩
    | some s =>
      rcases nullable_eq_ok.1 hramp with ⟨-, hnone⟩ | ⟨-, t, ht, hsome⟩
      · cases hnone
      · obtain rfl := Option.some.inj hsome
        exact ⟨s, by rw [h]; rfl, (someText_eq_ok.1 ht).2.2, hinks s hv⟩

/-- A direction that is checked has a meaning. -/
theorem direction_argument (hgiven : Given fields params)
    (hfield : ∀ f ∈ fields, f.1.plain = "direction" →
      f = (Key.of "direction", valued Value.str (oneOf
        [("horizontal", "horizontal"), ("vertical", "vertical"), ("radial", "radial")]))) :
    ((params.argument "direction" (.str "horizontal")).text?.bind
      Pattern.Direction.ofName?).isSome := by
  rcases params.argument_cases "direction" (.str "horizontal") with ⟨-, h⟩ | ⟨v, hv, h⟩
  · rw [h]
    rfl
  · obtain ⟨f, hf, hname, w, hw⟩ := hgiven _ hv
    rw [hfield f hf hname.symm] at hw
    obtain ⟨s, hs, rfl⟩ := map_eq_ok.1 hw
    obtain ⟨t, -, -, ht⟩ := oneOf_eq_ok.1 hs
    rw [h]
    have hmem := mem_of_lookup ht
    simp only [List.mem_cons, List.not_mem_nil, or_false, Prod.mk.injEq] at hmem
    rcases hmem with ⟨-, rfl⟩ | ⟨-, rfl⟩ | ⟨-, rfl⟩ <;> rfl

private theorem paint_legible {settings : FillSettings}
    (hsettings : settings.toRenderSettings = Settings.standard.render) {name : Text} {fill : Fill}
    (hfill : (name, fill) ∈ FillRegistry.standard.entries) (hfields : fields? name = some fields)
    (hgiven : Given fields params) (hlegible : Legible ⟨some name, params⟩) (g : Grid) :
    ∃ g', fill.pattern.paint settings g params = .ok g' ∧
      (g.Legible → g'.Legible) := by
  have hinks (name : Text) (hname : name ∈ inkNames) := hlegible.inks name hname
  simp only [FillRegistry.standard, Fill.standard, List.map_cons, List.map_nil, List.mem_cons,
    List.not_mem_nil, or_false, Prod.mk.injEq] at hfill
  rcases hfill with ⟨rfl, rfl⟩ | ⟨rfl, rfl⟩ | ⟨rfl, rfl⟩ | ⟨rfl, rfl⟩ | ⟨rfl, rfl⟩ <;>
    obtain rfl := Option.some.inj hfields
  · -- solid
    obtain ⟨c, hc, hcl⟩ := char_argument Cell.Legible "char" '*' hgiven (by simp) (by decide)
      (hinks "char" (by decide))
    rw [Pattern.paint, show Value.str "*" = charValue '*' from rfl, hc]
    exact g.requestInk_legible _ hcl
  · -- dots
    obtain ⟨x, hx, hlow, hhigh⟩ := density_argument hgiven (by simp [charField, Key.of])
    obtain ⟨words, hwords⟩ := dotSeed_argument settings (by rw [hsettings]; rfl) hgiven
      (by simp [charField, Key.of]) hlegible.seed
    obtain ⟨c, hc, hcl⟩ := char_argument Cell.Legible "char" '.' hgiven
      (by simp [charField, Key.of]) (by decide) (hinks "char" (by decide))
    rw [Pattern.paint, show Value.str "." = charValue '.' from rfl, hc, hx]
    exact Pattern.requestDots_legible _ g hlow hhigh hwords hcl
  · -- gradient
    obtain ⟨s, hs, hne, hsl⟩ := ramp_argument Cell.Legible settings (by rw [hsettings]; rfl)
      (by rw [hsettings]; exact Cell.legible_of_all (by decide)) hgiven (by simp [Key.of])
      (hinks "density_string" (by decide))
    have hdirection := direction_argument hgiven (by simp [Key.of])
    exact Pattern.requestGradient_legible _ g hs hne hsl hdirection _
  · -- diagonal
    obtain ⟨c, hc, hcl⟩ := char_argument Cell.Legible "char" '/' hgiven (by simp) (by decide)
      (hinks "char" (by decide))
    rw [Pattern.paint, show Value.str "/" = charValue '/' from rfl, hc]
    exact g.requestInk_legible _ hcl
  · -- crosshatch
    obtain ⟨c, hc, hcl⟩ := char_argument Cell.Legible "forward" '/' hgiven
      (by simp [charField, Key.of]) (by decide) (hinks "forward" (by decide))
    obtain ⟨d, hd, hdl⟩ := char_argument Cell.Legible "back" '\\' hgiven
      (by simp [charField, Key.of]) (by decide) (hinks "back" (by decide))
    rw [Pattern.paint, show Value.str "/" = charValue '/' from rfl,
      show Value.str "\\" = charValue '\\' from rfl, hc, hd]
    exact Pattern.requestCrosshatch_legible g hcl hdl

/-- The second spellings of the parameters of a fill stay when they are converted, and do not get in
the way of those of applying itself. -/
theorem plain_of_fields? {name : Text} {fields : List (Key × (Value → Checked Value))}
    (h : fields? name = some fields) : ∀ f ∈ fields,
      FillRegistry.snakeCase f.1.plain = f.1.plain ∧ f.1.plain ≠ "grid" ∧ f.1.plain ≠ "name" := by
  unfold fields? at h
  split at h
  case h_6 => cases h
  all_goals
    obtain rfl := Option.some.inj h
    simp only [charField, Key.of, List.forall_mem_cons]
    decide +kernel

/-- The pattern of a fill of the library takes the parameters that are checked for it. -/
theorem standard_takes {name : Text} {fill : Fill}
    (hfill : (name, fill) ∈ FillRegistry.standard.entries) :
    name.isEmpty = false ∧ ∃ fields, fields? name = some fields ∧
      ∀ f ∈ fields, fill.pattern.takes f.1.plain = true := by
  simp only [FillRegistry.standard, Fill.standard, List.map_cons, List.map_nil, List.mem_cons,
    List.not_mem_nil, or_false, Prod.mk.injEq] at hfill
  rcases hfill with ⟨rfl, rfl⟩ | ⟨rfl, rfl⟩ | ⟨rfl, rfl⟩ | ⟨rfl, rfl⟩ | ⟨rfl, rfl⟩ <;>
    refine ⟨by decide, _, rfl, ?_⟩ <;>
    simp only [charField, Key.of, List.forall_mem_cons] <;>
    decide

/-- **Checked fills.** A fill of the library that has passed its check, with legible characters and
a seed that is not negative, can be applied to every grid under the standard settings. -/
theorem apply_legible {settings : FillSettings}
    (hsettings : settings.toRenderSettings = Settings.standard.render) {pattern : Option Text}
    {given : Fields} {spec : FillSpec}
    (hcheck : check .standard pattern given = .ok spec) (hlegible : spec.Legible) (g : Grid) :
    ∃ g', spec.apply .standard settings g = .ok g' ∧ (g.Legible → g'.Legible) := by
  obtain ⟨pattern, params⟩ := spec
  rcases check_eq_ok hcheck with hnone | ⟨name, hname, hregistered, hgiven⟩
  · obtain rfl : pattern = none := hnone
    exact ⟨g, rfl, id⟩
  obtain rfl : pattern = some name := hname
  obtain ⟨fill, hfill⟩ := Option.isSome_iff_exists.1 hregistered
  obtain ⟨hne, fields, hfields, htakes⟩ := standard_takes (mem_of_lookup hfill)
  have hplain := plain_of_fields? hfields
  have hgiven := given_of_given_eq_ok (hgiven fields hfields)
  have hmem : ∀ p ∈ FillRegistry.converted params, p ∈ params :=
    fun p hp ↦ mem_of_mem_converted hgiven (fun f hf ↦ (hplain f hf).1) hp
  have hpaint := apply_eq_paint settings hgiven hfill hplain htakes g
  have hinks : Legible ⟨some name, FillRegistry.converted params⟩ :=
    ⟨fun n hn s hs ↦ hlegible.inks n hn s (hmem _ hs), fun n hn ↦ hlegible.seed n (hmem _ hn)⟩
  rw [apply]
  dsimp only
  rw [hne, if_neg Bool.false_ne_true, hpaint]
  exact paint_legible hsettings (mem_of_lookup hfill) hfields
    (fun p hp ↦ hgiven p (hmem p hp)) hinks g

end FillSpec

end TextArt
