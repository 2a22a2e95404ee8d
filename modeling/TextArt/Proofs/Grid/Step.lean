import TextArt.Proofs.Grid.Symmetry
import TextArt.Proofs.Number.Order
import TextArt.Proofs.Text.Parts

/-!
# Steps in one line

A step in one line either spells a transform or has a fault, and the two are said here without the
reader: `WrittenStep.Spells` by what stands before and after the first colon, `WrittenStep.Fault` by
what is wrong and how it is reported. Reading a step and looking for its transform finds just these
(`Spells.step`, `Fault.step`), so a list of steps can be taken apart at the first one with a fault.
-/

namespace TextArt

/-- Whether a failure is that of an argument outside of what is accepted. The others are about
things that are looked up and not there, documents, files, and requests that make no sense. -/
def Failure.isConfiguration : Failure → Bool
  | badCharacter _ | badDimensions _ _ | emptyContent _ | emptyText _ | tooFewSides _
  | badDegrees _ | badAxis _ | badFactor _ | unknownTransform _ | unknownAnchor _ _
  | unknownShape _ _ | emptyRamp _ | badDensity _ | unknownDirection _
  | unexpectedParameter _ _ _ | repeatedParameter _ _ _ | negativeDelay _ | badGlyphHeight _ _
  | badStepForm _ | badStepValue _ | unknownFormat _ | unreadableDocument _ _ => true
  | _ => false

namespace WrittenStep

/-- The kinds of transforms. -/
def kinds : List Text := ["rotate", "mirror", "scale"]

/-- The step has the form of a kind and a value, and the value is one that a transform of this kind
has. -/
inductive Spells : Text → Transform → Prop
  /-- A turn by the degrees that the value denotes. -/
  | rotate {value : Text} {turn : Rotation}
    (h : readWhole value.toList = .number turn.degrees) : Spells ("rotate:" ++ value) (.rotate turn)
  /-- A reflection along the axis that the value names. -/
  | mirror (axis : Axis) : Spells ("mirror:" ++ axis.name) (.mirror axis)
  /-- A change of size by the factor that the value denotes. -/
  | scale {value : Text} {x : Float} {size : Scaling} (h : readReal? value.toList = some x)
    (hx : (x == size.factor) = true) : Spells ("scale:" ++ value) (.scale size)

/-- What is wrong with a step that spells no transform, and the failure that says so. -/
inductive Fault : Text → Failure → Prop
  /-- There is no colon, or nothing after it. -/
  | form {text : Text} (h : ∀ kind value : Text, text = kind ++ ":" ++ value → value = "") :
    Fault text (.badStepForm text)
  /-- The value of a turn denotes no whole number. -/
  | number {value : Text} (hne : value ≠ "") (h : ∀ n, readWhole value.toList ≠ .number n) :
    Fault ("rotate:" ++ value) (.badStepValue ("rotate:" ++ value))
  /-- There is no turn by these degrees. -/
  | degrees {value : Text} {n : Int} (h : readWhole value.toList = .number n)
    (hn : ∀ turn : Rotation, n ≠ turn.degrees) : Fault ("rotate:" ++ value) (.badDegrees (.int n))
  /-- No axis has this name. -/
  | axis {value : Text} (hne : value ≠ "") (h : ∀ axis : Axis, value ≠ axis.name) :
    Fault ("mirror:" ++ value) (.badAxis (.str value))
  /-- The value of a change of size denotes no number. -/
  | real {value : Text} (hne : value ≠ "") (h : readReal? value.toList = none) :
    Fault ("scale:" ++ value) (.badStepValue ("scale:" ++ value))
  /-- There is no change of size by this factor. -/
  | factor {value : Text} {x : Float} (h : readReal? value.toList = some x)
    (hx : ∀ size : Scaling, (x == size.factor) = false) :
    Fault ("scale:" ++ value) (.badFactor (.float x))
  /-- No transform is of this kind. -/
  | kind {kind value : Text} (hcolon : CodePoint.char ':' ∉ kind.toList) (hne : value ≠ "")
    (hkind : kind ∉ kinds) :
    Fault (kind ++ ":" ++ value) (.unknownTransform (.str kind))

private theorem Fault.isConfiguration {text : Text} {f : Failure} (h : Fault text f) :
    f.isConfiguration = true := by
  cases h <;> rfl

/-- Reads a step and finds its transform. -/
def step (text : Text) : Outcome Transform := do
  let step ← read text
  step.transform

/-! ## The parts of a step -/

theorem span_colon {kind : Text} (value : Text) (h : CodePoint.char ':' ∉ kind.toList) :
    (kind ++ ":" ++ value).toList.span (· ≠ .char ':') =
      (kind.toList, .char ':' :: value.toList) := by
  rw [@Text.toList_joined (.char ':') ":" rfl, Text.span_append_cons h]

theorem parts (text : Text) : CodePoint.char ':' ∉ text.toList ∨
    ∃ kind value : Text, CodePoint.char ':' ∉ kind.toList ∧ text = kind ++ ":" ++ value := by
  by_cases h : CodePoint.char ':' ∈ text.toList
  · obtain ⟨kind, value, htext, hkind⟩ := List.eq_append_cons_of_mem h
    refine .inr ⟨Text.ofList kind, Text.ofList value, by rwa [Text.toList_ofList], ?_⟩
    rw [← Text.toList_inj, htext]
    exact (@Text.toList_joined (.char ':') ":" rfl _ _).symm
  · exact .inl h

/-! ## Reading and carrying out one step -/

private theorem read_without_value {text : Text}
    (h : ∀ kind value : Text, text = kind ++ ":" ++ value → value = "") :
    read text = .error (.badStepForm text) := by
  have hempty : ((text.toList.span (· ≠ .char ':')).2.drop 1).isEmpty = true := by
    rcases parts text with hcolon | ⟨kind, value, hkind, rfl⟩
    · have hall := Text.forall_ne_of_not_mem hcolon
      rw [List.span_eq_takeWhile_dropWhile, List.dropWhile_eq_nil_iff.2 hall]
      rfl
    · rw [span_colon value hkind, h kind value rfl]
      rfl
  exact if_pos hempty

theorem isEmpty_of_ne {value : Text} (hne : value ≠ "") : value.toList.isEmpty = false := by
  rw [List.isEmpty_eq_false_iff, Ne, Text.toList_eq_nil_iff]
  exact hne

variable {value : Text}

theorem ne_of_readWhole {n : Int} (h : readWhole value.toList = .number n) : value ≠ "" := by
  rintro rfl
  cases h

theorem ne_of_readReal? {x : Float} (h : readReal? value.toList = some x) : value ≠ "" := by
  rintro rfl
  cases h

theorem read_rotate (hne : value ≠ "") :
    (∀ n, readWhole value.toList = .number n → read ("rotate:" ++ value) = .ok (rotate n)) ∧
      ((∀ n, readWhole value.toList ≠ .number n) →
        read ("rotate:" ++ value) = .error (.badStepValue ("rotate:" ++ value))) := by
  have hspan : ("rotate:" ++ value).toList.span (· ≠ .char ':') =
      (("rotate" : Text).toList, .char ':' :: value.toList) :=
    @span_colon "rotate" value (by decide)
  simp only [read, hspan, List.drop_succ_cons, List.drop_zero, isEmpty_of_ne hne,
    Text.ofList_toList, Text.toString?_ofString, Bool.false_eq_true, if_false]
  constructor
  · intro n h
    rw [h]
  · intro h
    split
    · next n hn => exact absurd hn (h n)
    · rfl

theorem read_scale (hne : value ≠ "") :
    (∀ x, readReal? value.toList = some x → read ("scale:" ++ value) = .ok (scale x)) ∧
      (readReal? value.toList = none →
        read ("scale:" ++ value) = .error (.badStepValue ("scale:" ++ value))) := by
  have hspan : ("scale:" ++ value).toList.span (· ≠ .char ':') =
      (("scale" : Text).toList, .char ':' :: value.toList) := @span_colon "scale" value (by decide)
  simp only [read, hspan, List.drop_succ_cons, List.drop_zero, isEmpty_of_ne hne,
    Text.ofList_toList, Text.toString?_ofString, Bool.false_eq_true, if_false]
  constructor
  · intro x h
    rw [h]
  · intro h
    rw [h]

theorem read_mirror (hne : value ≠ "") : read ("mirror:" ++ value) = .ok (mirror value) := by
  have hspan : ("mirror:" ++ value).toList.span (· ≠ .char ':') =
      (("mirror" : Text).toList, .char ':' :: value.toList) :=
    @span_colon "mirror" value (by decide)
  simp only [read, hspan, List.drop_succ_cons, List.drop_zero, isEmpty_of_ne hne,
    Text.ofList_toList, Text.toString?_ofString, Bool.false_eq_true, if_false]

private theorem read_other {kind : Text} (hcolon : CodePoint.char ':' ∉ kind.toList)
    (hne : value ≠ "") (hkind : kind ∉ kinds) :
    read (kind ++ ":" ++ value) = .error (.unknownTransform (.str kind)) := by
  simp only [read, span_colon value hcolon, List.drop_succ_cons, List.drop_zero, isEmpty_of_ne hne,
    Text.ofList_toList, Bool.false_eq_true, if_false]
  have hother : ∀ name : String, (name : Text) ∈ kinds → kind.toString? ≠ some name :=
    fun name hname h ↦ hkind (Text.toString?_eq_some.1 h ▸ hname)
  split
  · next h => exact absurd h (hother _ (by decide))
  · next h => exact absurd h (hother _ (by decide))
  · next h => exact absurd h (hother _ (by decide))
  · rfl

/-! ## Looking for the transform -/

theorem find?_eq_none_of_forall {α : Type} {p : α → Bool} {items : List α}
    (h : ∀ a, p a = false) : items.find? p = none := by
  rw [List.find?_eq_none]
  exact fun a _ ↦ by rw [h a]; exact Bool.false_ne_true

private theorem transform_rotate (turn : Rotation) :
    (rotate turn.degrees).transform = .ok (.rotate turn) := by
  cases turn <;> rfl

private theorem transform_rotate_of_ne {n : Int} (h : ∀ turn : Rotation, n ≠ turn.degrees) :
    (rotate n).transform = .error (.badDegrees (.int n)) := by
  have hnone : [Rotation.quarter, .half, .threeQuarters].find?
      (fun r ↦ (Number.whole n).same (.whole r.degrees)) = none :=
    find?_eq_none_of_forall fun r ↦ by rw [Number.same_whole, decide_eq_false (h r)]
  rw [transform, Rotation.ofRequest, show (Value.int n).number? = some (.whole n) from rfl,
    Option.bind_some, hnone]
  rfl

private theorem transform_mirror (axis : Axis) :
    (mirror axis.name).transform = .ok (.mirror axis) := by
  cases axis <;> rfl

private theorem transform_mirror_of_ne (h : ∀ axis : Axis, value ≠ axis.name) :
    (mirror value).transform = .error (.badAxis (.str value)) := by
  have hnone : [Axis.horizontal, .vertical].find? (fun a ↦ a.name == value) = none :=
    find?_eq_none_of_forall fun a ↦ beq_eq_false_iff_ne.2 (h a).symm
  rw [transform, Axis.ofRequest, show (Value.str value).text? = some value from rfl,
    Option.bind_some, hnone]
  rfl

theorem same_factor_eq (x : Float) (size : Scaling) :
    (Number.real x).same (.real size.factor) = (x == size.factor) := by
  rw [Number.same_real, Bool.eq_iff_iff, float_beq_iff, float_beq_iff,
    floatOrder_swap]
  rcases floatOrder x size.factor with - | (- | - | -) <;> decide

private theorem beq_half_of_beq_double {x : Float} (h : (x == Scaling.double.factor) = true) :
    (x == Scaling.half.factor) = false := by
  rw [float_beq_iff] at h
  rw [Bool.eq_false_iff, Ne, float_beq_iff, floatOrder_congr h]
  decide

private theorem transform_scale {x : Float} {size : Scaling} (h : (x == size.factor) = true) :
    (scale x).transform = .ok (.scale size) := by
  have hfind : [Scaling.half, .double].find? (fun s ↦ x == s.factor) = some size := by
    cases size with
    | half => exact List.find?_cons_of_pos h
    | double =>
      have hhalf : ¬ (x == Scaling.half.factor) = true := by
        rw [beq_half_of_beq_double h]
        exact Bool.false_ne_true
      exact (List.find?_cons_of_neg (p := fun s : Scaling ↦ x == s.factor) hhalf).trans
        (List.find?_cons_of_pos h)
  change (Scaling.ofRequest (.float x)).map Transform.scale = _
  rw [Scaling.ofRequest, show (Value.float x).number? = some (.real x) from rfl, Option.bind_some,
    funext (same_factor_eq x), hfind]
  · rfl
  · exact fun b h ↦ by cases h

private theorem transform_scale_of_ne {x : Float}
    (h : ∀ size : Scaling, (x == size.factor) = false) :
    (scale x).transform = .error (.badFactor (.float x)) := by
  change (Scaling.ofRequest (.float x)).map Transform.scale = _
  rw [Scaling.ofRequest, show (Value.float x).number? = some (.real x) from rfl, Option.bind_some,
    funext (same_factor_eq x), find?_eq_none_of_forall h]
  · rfl
  · exact fun b h ↦ by cases h

/-! ## One step -/

theorem Spells.step {text : Text} {t : Transform} (h : Spells text t) : step text = .ok t := by
  cases h with
  | rotate h =>
    rw [WrittenStep.step, (read_rotate (ne_of_readWhole h)).1 _ h]
    exact transform_rotate _
  | mirror axis =>
    rw [WrittenStep.step, read_mirror (by cases axis <;> decide)]
    exact transform_mirror axis
  | scale h hx =>
    rw [WrittenStep.step, (read_scale (ne_of_readReal? h)).1 _ h]
    exact transform_scale hx

theorem Fault.step {text : Text} {f : Failure} (h : Fault text f) : step text = .error f := by
  cases h with
  | form h => rw [WrittenStep.step, read_without_value h]; rfl
  | number hne h => rw [WrittenStep.step, (read_rotate hne).2 h]; rfl
  | degrees h hn =>
    rw [WrittenStep.step, (read_rotate (ne_of_readWhole h)).1 _ h]
    exact transform_rotate_of_ne hn
  | axis hne h => rw [WrittenStep.step, read_mirror hne]; exact transform_mirror_of_ne h
  | real hne h => rw [WrittenStep.step, (read_scale hne).2 h]; rfl
  | factor h hx =>
    rw [WrittenStep.step, (read_scale (ne_of_readReal? h)).1 _ h]
    exact transform_scale_of_ne hx
  | kind hcolon hne hkind => rw [WrittenStep.step, read_other hcolon hne hkind]; rfl

private theorem eq_empty_of_append_colon {kind kind' value : Text}
    (hcolon : CodePoint.char ':' ∉ kind.toList)
    (h : kind ++ ":" ++ "" = kind' ++ ":" ++ value) : value = "" := by
  rw [← Text.toList_inj, Text.toList_append, Text.toList_append, Text.toList_append,
    Text.toList_append] at h
  rcases List.eq_nil_or_concat value.toList with hnil | ⟨front, last, hlast⟩
  · exact Text.toList_eq_nil_iff.1 hnil
  · -- otherwise the first colon would stand before the last character
    have hempty : ("" : Text).toList = [] := rfl
    rw [hlast, List.concat_eq_append, ← List.append_assoc, hempty, List.append_nil] at h
    rw [(List.append_inj' h rfl).1] at hcolon
    simp at hcolon

private theorem parts_cases (text : Text) :
    (∀ kind value : Text, text = kind ++ ":" ++ value → value = "") ∨
      ∃ kind value : Text, CodePoint.char ':' ∉ kind.toList ∧ value ≠ "" ∧
        text = kind ++ ":" ++ value := by
  rcases parts text with hcolon | ⟨kind, value, hkind, rfl⟩
  · refine .inl fun kind value htext ↦ absurd ?_ hcolon
    rw [htext, @Text.toList_joined (.char ':') ":" rfl]
    exact List.mem_append_right _ List.mem_cons_self
  · by_cases hvalue : value = ""
    · subst hvalue
      exact .inl fun kind' value' h ↦ eq_empty_of_append_colon hkind h
    · exact .inr ⟨kind, value, hkind, hvalue, rfl⟩

private theorem spells_or_fault (text : Text) : (∃ t, Spells text t) ∨ ∃ f, Fault text f := by
  rcases parts_cases text with hform | ⟨kind, value, hcolon, hne, rfl⟩
  · exact .inr ⟨_, .form hform⟩
  by_cases hrotate : kind = "rotate"
  · subst hrotate
    by_cases hnumber : ∃ n, readWhole value.toList = .number n
    · obtain ⟨n, hn⟩ := hnumber
      by_cases hturn : ∃ turn : Rotation, n = turn.degrees
      · obtain ⟨turn, rfl⟩ := hturn
        exact .inl ⟨_, .rotate hn⟩
      · exact .inr ⟨_, .degrees hn fun turn heq ↦ hturn ⟨turn, heq⟩⟩
    · exact .inr ⟨_, .number hne fun n hn ↦ hnumber ⟨n, hn⟩⟩
  by_cases hmirror : kind = "mirror"
  · subst hmirror
    by_cases haxis : ∃ axis : Axis, value = axis.name
    · obtain ⟨axis, rfl⟩ := haxis
      exact .inl ⟨_, .mirror axis⟩
    · exact .inr ⟨_, .axis hne fun axis heq ↦ haxis ⟨axis, heq⟩⟩
  by_cases hscale : kind = "scale"
  · subst hscale
    cases hreal : readReal? value.toList with
    | none => exact .inr ⟨_, .real hne hreal⟩
    | some x =>
      by_cases hsize : ∃ size : Scaling, (x == size.factor) = true
      · obtain ⟨size, hsize⟩ := hsize
        exact .inl ⟨_, .scale hreal hsize⟩
      · exact .inr ⟨_, .factor hreal fun size ↦ Bool.eq_false_iff.2 fun heq ↦ hsize ⟨size, heq⟩⟩
  · refine .inr ⟨_, .kind hcolon hne ?_⟩
    simp [kinds, hrotate, hmirror, hscale]

private theorem Fault.not_spells {text : Text} {f : Failure} (h : Fault text f) (t : Transform) :
    ¬ Spells text t := by
  intro hspells
  exact ok_ne_error (hspells.step.symm.trans h.step)

/-! ## Steps as a document gives them -/

private theorem ofStep_toValue (w : WrittenStep) : Transform.ofStep w.toValue = w.transform := by
  cases w with
  | rotate n => exact (map_eq_bind (Rotation.ofRequest (.int n)) Transform.rotate).symm
  | mirror axis => exact (map_eq_bind (Axis.ofRequest (.str axis)) Transform.mirror).symm
  | scale x => exact (map_eq_bind (Scaling.ofRequest (.float x)) Transform.scale).symm

end WrittenStep

namespace Grid

open WrittenStep (Spells Fault)

variable (g : Grid)

theorem applySteps_cons (text : Text) (rest : List Text) :
    g.applySteps (text :: rest) =
      WrittenStep.step text >>= fun t ↦ (g.apply t).applySteps rest := by
  rw [applySteps, List.foldlM_cons, WrittenStep.step]
  cases WrittenStep.read text with
  | error f => rfl
  | ok w =>
    rw [ok_bind, ok_bind]
    cases w.transform <;> rfl

theorem applySteps_of_spells {texts : List Text} {ts : List Transform}
    (h : List.Forall₂ Spells texts ts) : g.applySteps texts = .ok (g.applyAll ts) := by
  induction h generalizing g with
  | nil => rfl
  | cons hspells _ ih =>
    rw [applySteps_cons, hspells.step, ok_bind, ih]
    rfl

theorem applySteps_of_fault {before rest : List Text} {text : Text} {f : Failure}
    (hbefore : ∀ b ∈ before, ∃ t, Spells b t) (h : Fault text f) :
    g.applySteps (before ++ text :: rest) = .error f := by
  induction before generalizing g with
  | nil => rw [List.nil_append, applySteps_cons, h.step, error_bind]
  | cons b more ih =>
    obtain ⟨⟨t, ht⟩, hmore⟩ := List.forall_mem_cons.1 hbefore
    rw [List.cons_append, applySteps_cons, ht.step, ok_bind, ih _ hmore]

theorem spells_or_first_fault (texts : List Text) :
    (∃ ts, List.Forall₂ Spells texts ts) ∨
      ∃ before text rest f, texts = before ++ text :: rest ∧ (∀ b ∈ before, ∃ t, Spells b t) ∧
        Fault text f := by
  induction texts with
  | nil => exact .inl ⟨[], .nil⟩
  | cons text rest ih =>
    rcases WrittenStep.spells_or_fault text with ⟨t, ht⟩ | ⟨f, hf⟩
    · rcases ih with ⟨ts, hts⟩ | ⟨before, bad, after, f, rfl, hbefore, hf⟩
      · exact .inl ⟨t :: ts, .cons ht hts⟩
      · exact .inr ⟨text :: before, bad, after, f, rfl,
          List.forall_mem_cons.2 ⟨⟨t, ht⟩, hbefore⟩, hf⟩
    · exact .inr ⟨[], text, rest, f, rfl, fun _ h ↦ absurd h List.not_mem_nil, hf⟩

variable {texts : List Text}

theorem applySteps_eq_ok_iff {result : Grid} :
    g.applySteps texts = .ok result ↔
      ∃ ts, List.Forall₂ Spells texts ts ∧ result = g.applyAll ts := by
  constructor
  · intro h
    rcases spells_or_first_fault texts with ⟨ts, hts⟩ | ⟨before, text, rest, f, rfl, hbefore, hf⟩
    · exact ⟨ts, hts, Except.ok.inj (h.symm.trans (g.applySteps_of_spells hts))⟩
    · exact absurd (h.symm.trans (g.applySteps_of_fault hbefore hf)) ok_ne_error
  · rintro ⟨ts, hts, rfl⟩
    exact g.applySteps_of_spells hts

theorem applySteps_eq_error_iff {f : Failure} :
    g.applySteps texts = .error f ↔
      ∃ before text rest, texts = before ++ text :: rest ∧ (∀ b ∈ before, ∃ t, Spells b t) ∧
        Fault text f := by
  constructor
  · intro h
    rcases spells_or_first_fault texts with ⟨ts, hts⟩ | ⟨before, text, rest, f', rfl, hbefore, hf⟩
    · exact absurd ((g.applySteps_of_spells hts).symm.trans h) ok_ne_error
    · obtain rfl := Except.error.inj (h.symm.trans (g.applySteps_of_fault hbefore hf))
      exact ⟨before, text, rest, rfl, hbefore, hf⟩
  · rintro ⟨before, text, rest, rfl, hbefore, hf⟩
    exact g.applySteps_of_fault hbefore hf

private theorem isConfiguration_of_applySteps {f : Failure} (h : g.applySteps texts = .error f) :
    f.isConfiguration = true := by
  obtain ⟨_, _, _, -, -, hf⟩ := g.applySteps_eq_error_iff.1 h
  exact hf.isConfiguration

private theorem spells_of_mem {ts : List Transform} (h : List.Forall₂ Spells texts ts) {text : Text}
    (hmem : text ∈ texts) : ∃ t, Spells text t := by
  induction h with
  | nil => cases hmem
  | cons hspells _ ih =>
    rcases List.mem_cons.1 hmem with rfl | hmem
    · exact ⟨_, hspells⟩
    · exact ih hmem

private theorem exists_applySteps_eq_error_iff :
    (∃ f, g.applySteps texts = .error f) ↔ ∃ text ∈ texts, ∀ t, ¬ Spells text t := by
  constructor
  · rintro ⟨f, h⟩
    obtain ⟨before, text, rest, rfl, -, hf⟩ := g.applySteps_eq_error_iff.1 h
    exact ⟨text, List.mem_append_right _ List.mem_cons_self, hf.not_spells⟩
  · rintro ⟨text, hmem, hno⟩
    cases h : g.applySteps texts with
    | error f => exact ⟨f, rfl⟩
    | ok result =>
      obtain ⟨ts, hts, -⟩ := g.applySteps_eq_ok_iff.1 h
      obtain ⟨t, ht⟩ := spells_of_mem hts hmem
      exact absurd ht (hno t)

private theorem requestTransform_cons (v : Value) (rest : List Value) :
    g.requestTransform (.list (v :: rest)) =
      Transform.ofStep v >>= fun t ↦ (g.apply t).requestTransform (.list rest) := by
  simp only [requestTransform, Value.parts, ok_bind, List.mapM_cons]
  cases Transform.ofStep v with
  | error f => rfl
  | ok t =>
    rw [ok_bind, ok_bind]
    cases rest.mapM Transform.ofStep <;> rfl

private theorem applySteps_of_read {texts : List Text} {steps : List WrittenStep}
    (h : texts.mapM WrittenStep.read = .ok steps) :
    g.applySteps texts = g.requestTransform (.list (steps.map WrittenStep.toValue)) := by
  induction texts generalizing g steps with
  | nil =>
    obtain rfl := Except.ok.inj h
    rfl
  | cons text rest ih =>
    rw [List.mapM_cons] at h
    obtain ⟨w, hw, h⟩ := bind_eq_ok.1 h
    obtain ⟨ws, hws, h⟩ := bind_eq_ok.1 h
    obtain rfl := Except.ok.inj h
    rw [applySteps_cons, List.map_cons, requestTransform_cons, WrittenStep.ofStep_toValue,
      WrittenStep.step, hw, ok_bind]
    exact congrArg _ (funext fun t ↦ ih (g.apply t) hws)

/-- **Steps in one line.** A list of steps succeeds just if all of them spell transforms, and then
it is these transforms, the first one first. It fails just if some step spells none, with the fault
of the first such step, whatever comes after it, and a fault is always that of an argument. A list
of steps that can all be read does what a document with these steps does. -/
theorem applySteps_in_order (texts : List Text) :
    (∀ result, g.applySteps texts = .ok result ↔
      ∃ ts, List.Forall₂ Spells texts ts ∧ result = g.applyAll ts) ∧
    (∀ f, g.applySteps texts = .error f ↔
      ∃ before text rest, texts = before ++ text :: rest ∧ (∀ b ∈ before, ∃ t, Spells b t) ∧
        Fault text f) ∧
    ((∃ f, g.applySteps texts = .error f) ↔ ∃ text ∈ texts, ∀ t, ¬ Spells text t) ∧
    (∀ f, g.applySteps texts = .error f → f.isConfiguration = true) ∧
    ∀ steps, texts.mapM WrittenStep.read = .ok steps →
      g.applySteps texts = g.requestTransform (.list (steps.map WrittenStep.toValue)) :=
  ⟨fun _ ↦ g.applySteps_eq_ok_iff, fun _ ↦ g.applySteps_eq_error_iff,
    g.exists_applySteps_eq_error_iff, fun _ ↦ g.isConfiguration_of_applySteps,
    fun _ ↦ g.applySteps_of_read⟩

/-- A row of letters is turned by degrees in Arabic digits and doubled by a factor among blanks. An
axis that does not exist is reported before the step that is none at all. -/
theorem letters_applySteps :
    letters.applySteps ["rotate:٩٠", "scale: 2 "] =
        .ok ((letters.rotate .quarter).scale .double) ∧
      letters.applySteps ["rotate:90", "mirror:up", "shear"] = .error (.badAxis (.str "up")) := by
  have hrotate : Spells "rotate:٩٠" (.rotate .quarter) :=
    @Spells.rotate "٩٠" .quarter (by decide)
  have hscale : Spells "scale: 2 " (.scale .double) := @Spells.scale " 2 " 2 .double rfl rfl
  refine ⟨((applySteps_in_order letters _).1 _).2 ⟨_, .cons hrotate (.cons hscale .nil), rfl⟩, ?_⟩
  refine ((applySteps_in_order letters _).2.1 _).2 ⟨["rotate:90"], "mirror:up", ["shear"], rfl, ?_,
    @Fault.axis "up" (by decide) fun axis ↦ by cases axis <;> decide⟩
  exact List.forall_mem_singleton.2 ⟨.rotate .quarter, @Spells.rotate "90" .quarter (by decide)⟩

end Grid

end TextArt
