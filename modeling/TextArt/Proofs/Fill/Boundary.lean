import TextArt.Proofs.Fill.Normalization
import TextArt.Proofs.Grid.Painting

/-!
# Where checked fills still fail

The check of a fill looks at its parameters one by one, and a fill does more with them than the
check asks for. Two kinds of parameters get through that a fill cannot work with. A seed may be
negative, and then there are no words to start the scatter from. A character may be the hidden one:
where each cell has a text of its own, a hidden character at the end of a text does not count, so
that nothing is left to paint the cell with. `apply_eq_error_iff` says that there is no third kind,
and what either of them comes to.
-/

namespace TextArt

open Schema

/-! ## Hidden characters -/

private theorem withoutFinalNuls_hidden : withoutFinalNuls (Text.singleton Cell.hidden) = "" := by
  decide +kernel

namespace Grid

variable {g : Grid} {ink : Nat → Nat → Text}

/-- Some blank cell has the hidden character for its text. -/
def Hides (g : Grid) (ink : Nat → Nat → Text) : Prop :=
  ∃ row col, row < g.height ∧ col < g.width ∧ g.cellAt row col = Cell.blank ∧
    ink row col = Text.singleton Cell.hidden

theorem paintEach_eq_error_iff (hink : ∀ row col, ∃ c, ink row col = Text.singleton c)
    (f : Failure) : g.paintEach (fun _ _ ↦ true) ink = .error f ↔
      f = .badCharacter (.str "") ∧ g.Hides ink := by
  have hbad : ∀ text, g.badInk? (fun _ _ ↦ true) ink = some text → text = "" ∧ g.Hides ink := by
    intro text h
    obtain ⟨row, col, hr, hc, hselected, rfl, hnone⟩ := badInk?_eq_some h
    obtain ⟨c, hchar⟩ := hink row col
    obtain rfl : c = Cell.hidden := by
      by_contra hvisible
      rw [hchar, singleChar?_withoutFinalNuls hvisible] at hnone
      cases hnone
    rw [hchar]
    exact ⟨withoutFinalNuls_hidden, row, col, hr, hc, (selected_eq_true.1 hselected).1, hchar⟩
  unfold paintEach
  cases h : g.badInk? (fun _ _ ↦ true) ink with
  | some text =>
    obtain ⟨rfl, hhides⟩ := hbad text h
    constructor
    · intro herror
      exact ⟨(Except.error.inj herror).symm, hhides⟩
    · rintro ⟨rfl, -⟩
      rfl
  | none =>
    constructor
    · intro herror
      cases herror
    rintro ⟨-, row, col, hr, hc, hblank, hhidden⟩
    obtain ⟨c, hc⟩ := badInk?_eq_none.1 h row col hr hc (selected_eq_true.2 ⟨hblank, rfl⟩)
    rw [hhidden, withoutFinalNuls_hidden] at hc
    cases hc

end Grid

namespace FillSpec

variable {settings : FillSettings} {g : Grid} {spec : FillSpec}

/-! ## The two kinds -/

/-- The seed that dots go by: that of the fill, or else that of the settings. -/
def seed? (settings : RenderSettings) (spec : FillSpec) : Option Int :=
  match spec.params.argument "seed" .null with
  | .int n => some n
  | _ => settings.dotsSeed

/-- The fill is one of dots with a negative seed. -/
def NegativeSeed (settings : RenderSettings) (spec : FillSpec) : Prop :=
  spec.pattern = some "dots" ∧ ∃ n < 0, spec.seed? settings = some n

/-- The fill is a gradient that has the hidden character for a blank cell. -/
def HidesRamp (settings : FillSettings) (g : Grid) (spec : FillSpec) : Prop :=
  spec.pattern = some "gradient" ∧ ∃ ramp direction,
    Pattern.rampOr settings (spec.params.argument "density_string" .null) = .str ramp ∧
      (spec.params.argument "direction" (.str "horizontal")).text?.bind Pattern.Direction.ofName? =
        some direction ∧
      g.Hides (Pattern.gradientInk g (ramp.toList.map Text.singleton) direction
        (spec.params.argument "reverse" (.bool false)).truthy)

/-- The fill is a crosshatch that has the hidden character for a blank cell. -/
def HidesStroke (g : Grid) (spec : FillSpec) : Prop :=
  spec.pattern = some "crosshatch" ∧ ∃ forward back,
    spec.params.argument "forward" (.str "/") = charValue forward ∧
      spec.params.argument "back" (.str "\\") = charValue back ∧
      g.Hides fun row col ↦ Text.singleton (if Pattern.oddCell row col then forward else back)

/-- A fill that has a text of its own for each cell has the hidden character for a blank one. -/
def HidesInk (settings : FillSettings) (g : Grid) (spec : FillSpec) : Prop :=
  spec.HidesRamp settings g ∨ spec.HidesStroke g

/-! ## The fills of the library -/

private theorem charValue_inj {a b : CodePoint} : charValue a = charValue b ↔ a = b := by
  rw [charValue, charValue, Value.str.injEq, ← Text.toList_inj, Text.toList_singleton,
    Text.toList_singleton, List.singleton_inj]

private theorem seedOfInt_eq_error_iff (n : Int) (f : Failure) :
    Scatter.seedOfInt n = .error f ↔ f = .badValue ∧ n < 0 := by
  unfold Scatter.seedOfInt
  split
  · next hneg => simp [hneg, eq_comm]
  · next hpos => simp [hpos]

private theorem dotSeed_eq {fields : FieldChecks} {params : Fields} (hgiven : Given fields params)
    (hfield : ∀ f ∈ fields, f.1.plain = "seed" →
      f = (Key.of "seed", valued (orNull Value.int) (nullable anyInt))) :
    Pattern.dotSeed settings (params.argument "seed" .null) =
      match (FillSpec.mk (some "dots") params).seed? settings.toRenderSettings with
      | some n => Scatter.seedOfInt n
      | none => .ok settings.entropy := by
  rcases seed_argument hgiven hfield with hnull | ⟨n, hn, -⟩
  · rw [seed?, hnull]
    unfold Pattern.dotSeed
    cases settings.dotsSeed <;> rfl
  · rw [seed?, hn, dotSeed_int]

private theorem negativeSeed_iff {params : Fields} (f : Failure) :
    (match (FillSpec.mk (some "dots") params).seed? settings.toRenderSettings with
      | some n => Scatter.seedOfInt n
      | none => .ok settings.entropy) = .error f ↔
      f = .badValue ∧ NegativeSeed settings.toRenderSettings ⟨some "dots", params⟩ := by
  unfold NegativeSeed
  cases (FillSpec.mk (some "dots") params).seed? settings.toRenderSettings with
  | none => simp
  | some n =>
    rw [seedOfInt_eq_error_iff]
    simp

private theorem requestGradient_eq_error_iff {ramp : Text} (hne : ramp.isEmpty = false)
    {given direction reverse : Value} (hramp : Pattern.rampOr settings given = .str ramp)
    {way : Pattern.Direction}
    (hdirection : direction.text?.bind Pattern.Direction.ofName? = some way) (f : Failure) :
    Pattern.requestGradient settings g given direction reverse = .error f ↔
      f = .badCharacter (.str "") ∧
        g.Hides (Pattern.gradientInk g (ramp.toList.map Text.singleton) way reverse.truthy) := by
  have htruthy : (Value.str ramp).truthy = true := by rw [Value.truthy, hne]; rfl
  rw [Pattern.requestGradient, hramp, if_pos htruthy, hdirection]
  refine Grid.paintEach_eq_error_iff ?_ f
  intro row col
  have hchars : ramp.toList ≠ [] :=
    fun hnil ↦ Text.isEmpty_eq_false_iff.1 hne (Text.toList_eq_nil_iff.1 hnil)
  obtain ⟨c, -, hc⟩ := Pattern.gradientInk_of_chars g hchars way reverse.truthy row col
  exact ⟨c, hc⟩

private theorem requestCrosshatch_eq_error_iff (forward back : CodePoint) (f : Failure) :
    Pattern.requestCrosshatch g (charValue forward) (charValue back) = .error f ↔
      f = .badCharacter (.str "") ∧ g.Hides fun row col ↦
        Text.singleton (if Pattern.oddCell row col then forward else back) := by
  rw [Pattern.requestCrosshatch_charValue]
  exact Grid.paintEach_eq_error_iff (fun _ _ ↦ ⟨_, rfl⟩) f

private theorem paint_eq_error_iff (hne : settings.densityRamp.isEmpty = false) {name : Text}
    {fill : Fill} (hfill : (name, fill) ∈ FillRegistry.standard.entries) {fields : FieldChecks}
    {params : Fields} (hfields : fields? name = some fields) (hgiven : Given fields params)
    (g : Grid) (f : Failure) : fill.pattern.paint settings g params = .error f ↔
      f = .badValue ∧ NegativeSeed settings.toRenderSettings ⟨some name, params⟩ ∨
        f = .badCharacter (.str "") ∧ HidesInk settings g ⟨some name, params⟩ := by
  -- of the characters nothing is asked but that there is one
  let any : CodePoint → Prop := fun _ ↦ True
  have hany : ∀ (name s : Text), (name, Value.str s) ∈ params → ∀ c ∈ s.toList, any c :=
    fun _ _ _ _ _ ↦ trivial
  have hseed : ∀ name : Text, name ≠ "dots" →
      ¬NegativeSeed settings.toRenderSettings ⟨some name, params⟩ :=
    fun name hname hnegative ↦ hname (Option.some.inj hnegative.1)
  simp only [FillRegistry.standard, Fill.standard, List.map_cons, List.map_nil, List.mem_cons,
    List.not_mem_nil, or_false, Prod.mk.injEq] at hfill
  rcases hfill with ⟨rfl, rfl⟩ | ⟨rfl, rfl⟩ | ⟨rfl, rfl⟩ | ⟨rfl, rfl⟩ | ⟨rfl, rfl⟩ <;>
    obtain rfl := Option.some.inj hfields
  · -- solid
    obtain ⟨c, hc, -⟩ := char_argument any "char" '*' hgiven (by simp) trivial (hany "char")
    have hink := g.requestInk_charValue (fun _ _ ↦ true) c
    rw [Pattern.paint, show Value.str "*" = charValue '*' from rfl, hc, hink]
    simp [hseed "solid" (by decide), HidesInk, HidesRamp, HidesStroke]
  · -- dots
    obtain ⟨x, hx, hlow, hhigh⟩ := density_argument hgiven (by simp [charField, Key.of])
    obtain ⟨c, hc, -⟩ := char_argument any "char" '.' hgiven (by simp [charField, Key.of])
      trivial (hany "char")
    rw [Pattern.paint, show Value.str "." = charValue '.' from rfl, hc, hx,
      Pattern.requestDots_of_density settings g hlow hhigh, map_eq_error,
      dotSeed_eq hgiven (by simp [charField, Key.of]), negativeSeed_iff]
    simp [HidesInk, HidesRamp, HidesStroke]
  · -- gradient
    obtain ⟨ramp, hramp, hramp', -⟩ := ramp_argument any settings hne (fun _ _ ↦ trivial) hgiven
      (by simp [Key.of]) (hany "density_string")
    obtain ⟨way, hdirection⟩ :=
      Option.isSome_iff_exists.1 (direction_argument hgiven (by simp [Key.of]))
    rw [Pattern.paint, requestGradient_eq_error_iff hramp' hramp hdirection]
    simp [hseed "gradient" (by decide), HidesInk, HidesRamp, HidesStroke, hramp, hdirection]
  · -- diagonal
    obtain ⟨c, hc, -⟩ := char_argument any "char" '/' hgiven (by simp) trivial (hany "char")
    have hink := g.requestInk_charValue Pattern.oddCell c
    rw [Pattern.paint, show Value.str "/" = charValue '/' from rfl, hc, hink]
    simp [hseed "diagonal" (by decide), HidesInk, HidesRamp, HidesStroke]
  · -- crosshatch
    obtain ⟨c, hc, -⟩ := char_argument any "forward" '/' hgiven (by simp [charField, Key.of])
      trivial (hany "forward")
    obtain ⟨d, hd, -⟩ := char_argument any "back" '\\' hgiven (by simp [charField, Key.of])
      trivial (hany "back")
    have hc : params.argument "forward" (.str "/") = charValue c := hc
    have hd : params.argument "back" (.str "\\") = charValue d := hd
    rw [Pattern.paint, hc, hd, requestCrosshatch_eq_error_iff]
    simp [hseed "crosshatch" (by decide), HidesInk, HidesRamp, HidesStroke, hc, hd, charValue_inj]

/-- **The boundary of checked fills.** A checked fill of the library fails on a grid exactly if it
is one of dots with a negative seed, or has the hidden character for a blank cell of the grid. -/
theorem apply_eq_error_iff (hne : settings.densityRamp.isEmpty = false) {pattern : Option Text}
    {given : Fields} (hcheck : check .standard pattern given = .ok spec) (g : Grid) (f : Failure) :
    spec.apply .standard settings g = .error f ↔
      f = .badValue ∧ spec.NegativeSeed settings.toRenderSettings ∨
        f = .badCharacter (.str "") ∧ spec.HidesInk settings g := by
  obtain ⟨pattern, params⟩ := spec
  rcases check_eq_ok hcheck with hnone | ⟨name, hname, hregistered, hgiven⟩
  · obtain rfl : pattern = none := hnone
    simp [apply, NegativeSeed, HidesInk, HidesRamp, HidesStroke]
  obtain rfl : pattern = some name := hname
  obtain ⟨fill, hfill⟩ := Option.isSome_iff_exists.1 hregistered
  have hmem := mem_of_lookup hfill
  obtain ⟨hname, fields, hfields, htakes⟩ := standard_takes hmem
  have hgiven := hgiven fields hfields
  have hpaint := apply_eq_paint settings (given_of_given_eq_ok hgiven) hfill
    (plain_of_fields? hfields) htakes g
  rw [converted_of_given hfields hgiven] at hpaint
  rw [apply]
  dsimp only
  rw [hname, if_neg Bool.false_ne_true, hpaint]
  exact paint_eq_error_iff hne hmem hfields (given_of_given_eq_ok hgiven) g f

/-! ## Under the standard settings -/

private theorem negativeSeed_standard : spec.NegativeSeed Settings.standard.render ↔
    spec.pattern = some "dots" ∧ ∃ n < 0, spec.params.lookup ("seed" : Text) = some (.int n) := by
  have hseed (n : Int) : spec.seed? Settings.standard.render = some n ↔
      spec.params.lookup ("seed" : Text) = some (.int n) := by
    unfold seed? Fields.argument
    cases spec.params.lookup ("seed" : Text) with
    | none => simp [Settings.standard]
    | some v => cases v <;> simp [Settings.standard]
  simp only [NegativeSeed, hseed]

/-- A fill of the library that has passed its check fails under the standard settings, whichever
random words it starts from, exactly if it has a negative seed for its dots, or the hidden character
for a blank cell. -/
theorem apply_standard_eq_error_iff {pattern : Option Text} {given : Fields}
    (hcheck : check .standard pattern given = .ok spec) (entropy : List UInt32) (g : Grid)
    (f : Failure) : spec.apply .standard (.standardFrom entropy) g = .error f ↔
      f = .badValue ∧ (spec.pattern = some "dots" ∧
          ∃ n < 0, spec.params.lookup ("seed" : Text) = some (.int n)) ∨
        f = .badCharacter (.str "") ∧ spec.HidesInk (.standardFrom entropy) g := by
  rw [← negativeSeed_standard]
  exact apply_eq_error_iff rfl hcheck g f

/-- Dots with the seed -1 pass the check, and fail on every grid. -/
theorem negativeSeed_apply :
    ∃ spec, check .standard (some "dots") [("seed", .int (-1))] = .ok spec ∧
      ∀ entropy g, spec.apply .standard (.standardFrom entropy) g = .error .badValue := by
  have hcheck : check .standard (some "dots") [("seed", .int (-1))] =
      .ok ⟨some "dots", [("seed", .int (-1))]⟩ := rfl
  refine ⟨_, hcheck, ?_⟩
  intro entropy g
  exact (apply_standard_eq_error_iff hcheck entropy g .badValue).2
    (.inl ⟨rfl, rfl, -1, by decide, rfl⟩)

/-- Fills pass the check and fail on a single blank cell: dots with the seed -1, and a crosshatch
with the hidden character. -/
theorem checked_fills_fail :
    (∃ spec, check .standard (some "dots") [("seed", .int (-1))] = .ok spec ∧
      spec.apply .standard (.standardFrom []) .single = .error .badValue) ∧
    ∃ spec, check .standard (some "crosshatch") [("back", .str "\x00")] = .ok spec ∧
      spec.apply .standard (.standardFrom []) .single = .error (.badCharacter (.str "")) :=
  ⟨⟨_, rfl, rfl⟩, ⟨_, rfl, rfl⟩⟩

end FillSpec

end TextArt
