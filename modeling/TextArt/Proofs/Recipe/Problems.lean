import Mathlib.Data.List.Forall2
import TextArt.Proofs.Recipe.Checked
import TextArt.Proofs.Schema.Problems

/-!
# Operations are checked one by one

What a recipe document is told is what its operations are told, each below its number, and then what
its output is told. No operation keeps another from being checked, also where checking one takes two
rounds: its fields first, and then the parameters that they carry. So a document is accepted if each
of its operations would be on its own, and if it is refused, every bad operation is named
(`Recipe.parse_document_operationwise`).
-/

namespace TextArt

open Schema

variable {registry : FillRegistry}

/-! ## Refusals with a reason -/

private theorem ShapeParams.explains_glyphText (v : Value) : Explains (glyphText v) := by
  refine (explains_someText v).bind fun s ↦ ?_
  split
  · exact explains_ok _
  · exact explains_fail _

theorem ShapeParams.explains_check (kind : ShapeKind) (fields : Fields) :
    Explains (check kind fields) := by
  have hfilled : Explains (optional fields (.of "filled") false anyBool) :=
    explains_optional explains_anyBool
  have hchar : Explains (optional fields (.of "char") '*' oneChar) :=
    explains_optional explains_oneChar
  have hsize : ∀ name least, Explains (required fields (.of name) (intFrom least)) :=
    fun _ least ↦ explains_required (explains_intFrom least)
  have hothers := explains_noOthers fields
  refine explains_readable_bind ?_
  cases kind with
  | circle => exact ((hsize _ 1).both (hfilled.both (hchar.both (hothers _)))).map _
  | rectangle =>
    exact ((hsize _ 1).both ((hsize _ 1).both (hchar.both (hfilled.both (hothers _))))).map _
  | polygon =>
    exact ((hsize _ 3).both ((hsize _ 1).both (hfilled.both (hchar.both (hothers _))))).map _
  | text => exact ((explains_required explains_glyphText).both (hothers _)).map _

namespace FillSpec

private theorem explains_of_mem_fields {name : Text} {fields : List (Key × (Value → Checked Value))}
    (h : fields? name = some fields) {field : Key × (Value → Checked Value)}
    (hfield : field ∈ fields) (v : Value) : Explains (field.2 v) := by
  have hchar : ∀ field, Explains ((charField field).2 v) :=
    fun _ ↦ (explains_oneChar v).map _
  unfold fields? at h
  split at h <;> simp only [Option.some.injEq, reduceCtorEq] at h <;> subst h <;>
    simp only [List.mem_cons, List.not_mem_nil, or_false] at hfield
  · exact hfield ▸ hchar _
  · rcases hfield with rfl | rfl | rfl
    · exact hchar _
    · exact (explains_unitFloat v).map _
    · exact (explains_nullable explains_anyInt v).map _
  · rcases hfield with rfl | rfl | rfl
    · exact (explains_oneOf _ v).map _
    · exact (explains_nullable explains_someText v).map _
    · exact (explains_anyBool v).map _
  · exact hfield ▸ hchar _
  · rcases hfield with rfl | rfl
    · exact hchar _
    · exact hchar _

theorem explains_check (registry : FillRegistry) (pattern : Option Text) (params : Fields) :
    Explains (check registry pattern params) := by
  unfold check
  split
  · split <;> simp
  · next name =>
    split
    · exact explains_fail _
    · split
      · exact explains_ok _
      · next fields hfields =>
        refine Explains.map (explains_readable_bind ?_) _
        refine Explains.map (Explains.both (explains_every fun c hc ↦ ?_)
          (explains_noOthers _ _)) _
        obtain ⟨field, hfield, rfl⟩ := List.mem_map.1 hc
        exact explains_optional fun v ↦ (explains_of_mem_fields hfields hfield v).map _

end FillSpec

namespace Recipe

section Operations

variable (fields : Fields)

theorem explains_textField (name : Text) : Explains (textField fields name) :=
  explains_required explains_anyText

theorem explains_storeField : Explains (storeField fields) := explains_required explains_someText

theorem explains_onlyFields (keys : List Key) : Explains (onlyFields fields keys) :=
  explains_noOthers _ _

private theorem explains_checkGenerate : Explains (checkGenerate registry fields) := by
  refine Explains.bind ?_ fun ⟨shape, params, store, pattern, fillParams, _⟩ ↦ ?_
  · exact (explains_required (explains_oneOf _)).both <|
      (explains_optional explains_anyObject).both <| (explains_storeField fields).both <|
      (explains_optional (explains_nullable explains_anyText)).both <|
      (explains_optional explains_anyObject).both (explains_onlyFields fields _)
  · refine (ShapeParams.explains_check shape params).bind fun _ ↦ ?_
    exact (FillSpec.explains_check registry pattern fillParams).bind fun _ ↦ explains_ok _

private theorem explains_checkPosition (v : Value) : Explains (checkPosition v) := by
  refine (explains_record _ v).bind fun position ↦ Explains.bind ?_ fun _ ↦ explains_ok _
  exact (explains_optional explains_anyInt).both <| (explains_optional explains_anyInt).both <|
    explains_noOthers position _

private theorem explains_checkOverlay : Explains (checkOverlay fields) := by
  refine Explains.bind ?_ fun _ ↦ explains_ok _
  exact (explains_textField fields _).both <| (explains_textField fields _).both <|
    (explains_optional explains_checkPosition).both <| (explains_optional explains_anyBool).both <|
    (explains_optional (explains_nullable explains_oneChar)).both <|
    (explains_storeField fields).both (explains_onlyFields fields _)

private theorem explains_checkBounds (v : Value) : Explains (checkBounds v) := by
  refine (explains_record _ v).bind fun bounds ↦ Explains.bind ?_ fun _ ↦ explains_ok _
  have hbound : ∀ k, Explains (required bounds k anyInt) :=
    fun _ ↦ explains_required explains_anyInt
  exact (hbound _).both <| (hbound _).both <| (hbound _).both <| (hbound _).both <|
    explains_noOthers bounds _

private theorem explains_checkClip : Explains (checkClip fields) := by
  refine Explains.bind ?_ fun _ ↦ explains_ok _
  exact (explains_textField fields _).both <| (explains_required explains_checkBounds).both <|
    (explains_storeField fields).both (explains_onlyFields fields _)

private theorem explains_degreesField (v : Value) : Explains (degreesField v) := by
  refine (explains_anyInt v).bind fun n ↦ ?_
  split <;> simp

private theorem explains_factorField (v : Value) : Explains (factorField v) := by
  refine (explains_anyFloat v).bind fun x ↦ ?_
  split <;> simp

private theorem explains_checkTransformParams (kind : TransformKind) (params : Fields) :
    Explains (checkTransformParams kind params) := by
  have honly : ∀ (name : Text) (check : Value → Checked Transform), (∀ v, Explains (check v)) →
      Explains ((both (required params (.of name) check) (noOthers params [.of name])).map
        Prod.fst) :=
    fun _ _ h ↦ ((explains_required h).both (explains_noOthers _ _)).map _
  refine explains_readable_bind ?_
  cases kind with
  | rotate => exact honly _ _ explains_degreesField
  | mirror => exact honly _ _ fun v ↦ (explains_oneOf _ v).map _
  | scale => exact honly _ _ explains_factorField

private theorem explains_checkTransform : Explains (checkTransform fields) := by
  refine Explains.bind ?_ fun ⟨_, kind, params, _, _⟩ ↦ ?_
  · exact (explains_textField fields _).both <| (explains_required (explains_oneOf _)).both <|
      (explains_optional explains_anyObject).both <|
      (explains_storeField fields).both (explains_onlyFields fields _)
  · exact (explains_checkTransformParams kind params).bind fun _ ↦ explains_ok _

private theorem explains_checkAppend (make : Text → Text → Action) :
    Explains (checkAppend make fields) := by
  refine Explains.bind ?_ fun _ ↦ explains_ok _
  exact (explains_textField fields _).both <| (explains_textField fields _).both <|
    (explains_storeField fields).both (explains_onlyFields fields _)

private theorem explains_checkCenter : Explains (checkCenter fields) := by
  refine Explains.bind ?_ fun _ ↦ explains_ok _
  exact (explains_textField fields _).both <| (explains_required (explains_intFrom 1)).both <|
    (explains_storeField fields).both (explains_onlyFields fields _)

private theorem explains_of_mem_operationChecks {name : Text} {check : Fields → Checked Operation}
    (h : (name, check) ∈ operationChecks registry) : Explains (check fields) := by
  simp only [operationChecks, List.mem_cons, List.not_mem_nil, or_false, Prod.mk.injEq] at h
  rcases h with ⟨-, rfl⟩ | ⟨-, rfl⟩ | ⟨-, rfl⟩ | ⟨-, rfl⟩ | ⟨-, rfl⟩ | ⟨-, rfl⟩ | ⟨-, rfl⟩
  · exact explains_checkGenerate fields
  · exact explains_checkOverlay fields
  · exact explains_checkClip fields
  · exact explains_checkTransform fields
  · exact explains_checkAppend fields _
  · exact explains_checkAppend fields _
  · exact explains_checkCenter fields

end Operations

private theorem explains_readableTag (tag : Value) : Explains (readableTag tag) := by
  cases tag with
  | str s => exact (explains_decoded s).map _
  | _ => exact explains_ok _

theorem explains_checkOperation (v : Value) : Explains (checkOperation registry v) := by
  unfold checkOperation
  split
  · next fields =>
    split
    · exact explains_fail _
    · refine (explains_readableTag _).bind fun tag ↦ ?_
      split
      · next name check hfound =>
        obtain ⟨s, -, hlookup⟩ := Option.bind_eq_some_iff.1 hfound
        obtain ⟨_, hcheck, hpair⟩ := Option.map_eq_some_iff.1 hlookup
        obtain ⟨rfl, rfl⟩ := Prod.mk.inj hpair
        have hexplains := explains_of_mem_operationChecks fields (mem_of_lookup hcheck)
        exact (explains_readable_bind hexplains).under _
      · exact explains_fail _
  · exact explains_fail _

private theorem explains_checkOperations (v : Value) : Explains (checkOperations registry v) := by
  refine (explains_listOf explains_checkOperation v).bind fun operations ↦ ?_
  split <;> simp

/-- A recipe that is refused is told why. -/
theorem explains_check (v : Value) : Explains (check registry v) := by
  refine (explains_record _ v).bind fun fields ↦ Explains.bind ?_ fun _ ↦ explains_ok _
  exact (explains_required explains_checkOperations).both <|
    (explains_required explains_someText).both (explains_noOthers fields _)

/-! ## Documents -/

/-- The document of a list of operations and the name of an output. -/
def document (operations : List Value) (output : Text) : Value :=
  .object [("recipe", .list operations), ("output", .str output)]

variable {operations : List Value} {output : Text}

theorem check_document : check registry (document operations output) =
    (both (under "recipe" (checkOperations registry (.list operations)))
      (both (under "output" (someText (.str output))) (.ok ()))).map fun found ↦
        ⟨found.1, found.2.1⟩ := by
  rw [map_eq_bind]
  rfl

private theorem checkOperations_eq_ok {checked : List Operation} :
    checkOperations registry (.list operations) = .ok checked ↔
      operations ≠ [] ∧ operations.map (checkOperation registry) = checked.map .ok := by
  rw [checkOperations, bind_eq_ok]
  constructor
  · rintro ⟨found, hfound, h⟩
    split at h
    · cases h
    · next hne =>
      obtain rfl := Except.ok.inj h
      obtain ⟨_, hitems, hmap⟩ := listOf_eq_ok.1 hfound
      obtain rfl := Value.list.inj hitems
      refine ⟨?_, hmap⟩
      rintro rfl
      exact hne (List.isEmpty_iff.2 (List.map_eq_nil_iff.1 hmap.symm))
  · rintro ⟨hne, hmap⟩
    refine ⟨checked, listOf_eq_ok.2 ⟨operations, rfl, hmap⟩, if_neg fun hempty ↦ hne ?_⟩
    rw [List.isEmpty_iff.1 hempty, List.map_nil] at hmap
    exact List.map_eq_nil_iff.1 hmap

theorem check_document_eq_ok {r : Recipe} :
    check registry (document operations output) = .ok r ↔
      operations ≠ [] ∧ (output ≠ "" ∧ output.isEncodable = true) ∧ r.output = output ∧
        operations.map (checkOperation registry) = r.operations.map .ok := by
  rw [check_document, map_eq_ok]
  constructor
  · rintro ⟨⟨checked, name, _⟩, h, rfl⟩
    obtain ⟨hrecipe, h⟩ := both_eq_ok.1 h
    obtain ⟨houtput, -⟩ := both_eq_ok.1 h
    obtain ⟨hname, hread, hsome⟩ := someText_eq_ok.1 (under_eq_ok.1 houtput)
    obtain rfl := Value.str.inj hname
    obtain ⟨hne, hmap⟩ := checkOperations_eq_ok.1 (under_eq_ok.1 hrecipe)
    exact ⟨hne, ⟨Text.isEmpty_eq_false_iff.1 hsome, hread⟩, rfl, hmap⟩
  · rintro ⟨hne, ⟨hsome, hread⟩, rfl, hmap⟩
    have hrecipe := checkOperations_eq_ok.2 ⟨hne, hmap⟩
    have hname := someText_eq_ok.2 ⟨rfl, hread, Text.isEmpty_eq_false_iff.2 hsome⟩
    exact ⟨(r.operations, r.output, ()), both_eq_ok.2 ⟨under_eq_ok.2 hrecipe,
      both_eq_ok.2 ⟨under_eq_ok.2 hname, rfl⟩⟩, rfl⟩

private theorem mem_problems_checkOperations {p : Problem} :
    p ∈ problems (checkOperations registry (.list operations)) ↔
      (operations = [] ∧ p = ⟨[], "List should have at least 1 item after validation, not 0"⟩) ∨
      ∃ (i : Nat) (v : Value) (q : Problem), operations[i]? = some v ∧
        q ∈ problems (checkOperation registry v) ∧ p = q.below (toString i) := by
  by_cases hnil : operations = []
  · subst hnil
    have hempty : checkOperations registry (.list []) =
        fail "List should have at least 1 item after validation, not 0" := rfl
    simp [hempty]
  · -- the length is looked at only when all items have passed, and then it is right
    have hlist : problems (checkOperations registry (.list operations)) =
        problems (listOf (checkOperation registry) (.list operations)) := by
      rw [checkOperations]
      cases hitems : listOf (checkOperation registry) (.list operations) with
      | error found => rfl
      | ok checked =>
        obtain ⟨_, hvalue, hmap⟩ := listOf_eq_ok.1 hitems
        obtain rfl := Value.list.inj hvalue
        have hne : ¬checked.isEmpty = true := by
          rw [List.isEmpty_iff]
          rintro rfl
          exact hnil (List.map_eq_nil_iff.1 hmap)
        rw [ok_bind, if_neg hne]
    rw [hlist, mem_problems_listOf]
    simp [hnil]

theorem problems_someText_eq_nil_iff :
    problems (someText (.str output)) = [] ↔ output ≠ "" ∧ output.isEncodable = true := by
  rw [(explains_someText _).problems_eq_nil_iff]
  constructor
  · rintro ⟨name, hname⟩
    obtain ⟨hsame, hread, hsome⟩ := someText_eq_ok.1 hname
    obtain rfl := Value.str.inj hsame
    exact ⟨Text.isEmpty_eq_false_iff.1 hsome, hread⟩
  · rintro ⟨hsome, hread⟩
    exact ⟨output, someText_eq_ok.2 ⟨rfl, hread, Text.isEmpty_eq_false_iff.2 hsome⟩⟩

/-- What is wrong with a document: it has no operations, or one of them is wrong, or the name of
the output is; and all of that is said. -/
theorem mem_problems_document {p : Problem} :
    p ∈ problems (check registry (document operations output)) ↔
      (operations = [] ∧
        p = ⟨["recipe"], "List should have at least 1 item after validation, not 0"⟩) ∨
      (∃ (i : Nat) (v : Value) (q : Problem), operations[i]? = some v ∧
        q ∈ problems (checkOperation registry v) ∧ p = (q.below (toString i)).below "recipe") ∨
      ∃ q ∈ problems (someText (.str output)), p = q.below "output" := by
  rw [check_document, problems_map, problems_both, problems_both, problems_under, problems_under,
    problems_ok, List.append_nil, List.mem_append, List.mem_map, List.mem_map]
  constructor
  · rintro (⟨q, hq, rfl⟩ | ⟨q, hq, rfl⟩)
    · rcases mem_problems_checkOperations.1 hq with ⟨hnil, rfl⟩ | ⟨i, v, r, hv, hr, rfl⟩
      · exact .inl ⟨hnil, rfl⟩
      · exact .inr (.inl ⟨i, v, r, hv, hr, rfl⟩)
    · exact .inr (.inr ⟨q, hq, rfl⟩)
  · rintro (⟨hnil, rfl⟩ | ⟨i, v, r, hv, hr, rfl⟩ | ⟨q, hq, rfl⟩)
    · exact .inl ⟨_, mem_problems_checkOperations.2 (.inl ⟨hnil, rfl⟩), rfl⟩
    · exact .inl ⟨_, mem_problems_checkOperations.2 (.inr ⟨i, v, r, hv, hr, rfl⟩), rfl⟩
    · exact .inr ⟨q, hq, rfl⟩

theorem parse_document_eq : parse registry (.value (document operations output)) =
    (check registry (document operations output)).outcome "recipe" := rfl

theorem parse_single_eq_ok {v : Value} {name : Text}
    (hname : name ≠ "" ∧ name.isEncodable = true) {r : Recipe} :
    parse registry (.value (document [v] name)) = .ok r ↔
      ∃ o, checkOperation registry v = .ok o ∧ r = ⟨[o], name⟩ := by
  rw [parse_document_eq, outcome_eq_ok, check_document_eq_ok]
  constructor
  · rintro ⟨-, -, rfl, hmap⟩
    obtain ⟨o, hrest, ho⟩ : ∃ o, r.operations = [o] ∧ checkOperation registry v = .ok o := by
      cases hchecked : r.operations with
      | nil => simp [hchecked] at hmap
      | cons o rest =>
        rw [hchecked] at hmap
        obtain ⟨ho, hnil⟩ := List.cons.inj hmap
        exact ⟨o, congrArg _ (List.map_eq_nil_iff.1 hnil.symm), ho⟩
    exact ⟨o, ho, hrest ▸ rfl⟩
  · rintro ⟨o, ho, rfl⟩
    exact ⟨List.cons_ne_nil _ _, hname, rfl, congrArg (fun c ↦ [c]) ho⟩

theorem parse_single_accepts_iff {v : Value} {name : Text}
    (hname : name ≠ "" ∧ name.isEncodable = true) :
    (∃ r, parse registry (.value (document [v] name)) = .ok r) ↔
      problems (checkOperation registry v) = [] := by
  rw [(explains_checkOperation v).problems_eq_nil_iff]
  constructor
  · rintro ⟨r, hr⟩
    obtain ⟨o, ho, -⟩ := (parse_single_eq_ok hname).1 hr
    exact ⟨o, ho⟩
  · rintro ⟨o, ho⟩
    exact ⟨_, (parse_single_eq_ok hname).2 ⟨o, ho, rfl⟩⟩

private theorem parse_document_accepts_iff :
    (∃ r, parse registry (.value (document operations output)) = .ok r) ↔
      problems (check registry (document operations output)) = [] := by
  simp only [parse_document_eq, outcome_eq_ok]
  exact (explains_check _).problems_eq_nil_iff.symm

private theorem not_isAbout_output {p : Problem} {more : List Text}
    (h : p.path = ("recipe" : Text) :: more) :
    ¬IsAbout "output" p.text := by
  intro habout
  have hrecipe := (isAbout_text h).head?_eq (by decide)
  exact absurd (hrecipe.symm.trans (habout.head?_eq (by decide))) (by decide)

private theorem mem_problems_about_number {i : Nat} :
    (∃ p ∈ problems (check registry (document operations output)),
        IsAbout ("recipe" ++ "." ++ toString i) p.text) ↔
      ∃ v, operations[i]? = some v ∧ problems (checkOperation registry v) ≠ [] := by
  constructor
  · rintro ⟨p, hp, habout⟩
    rcases mem_problems_document.1 hp with ⟨-, rfl⟩ | ⟨j, v, q, hv, hq, rfl⟩ | ⟨q, -, rfl⟩
    · exact absurd habout (not_isAbout_inside rfl _)
    · -- the number is that of the operation, whatever inside it the problem is about
      obtain rfl := (isAbout_numbered_iff rfl).1 habout
      exact ⟨v, hv, List.ne_nil_of_mem hq⟩
    · have hplace : ("recipe" ++ "." ++ toString i : Text) ≠ "" :=
        fun h ↦ absurd (Text.append_eq_empty_iff.1 h).1 (by decide)
      have hhead := habout.head?_eq hplace
      rw [(isAbout_text (p := q.below "output") rfl).head?_eq (by decide)] at hhead
      cases hhead
  · rintro ⟨v, hv, hproblems⟩
    obtain ⟨q, rest, hq⟩ := List.exists_cons_of_ne_nil hproblems
    exact ⟨_, mem_problems_document.2 (.inr (.inl ⟨i, v, q, hv, hq ▸ List.mem_cons_self, rfl⟩)),
      (isAbout_numbered_iff rfl).2 rfl⟩

private theorem mem_problems_about_output :
    (∃ p ∈ problems (check registry (document operations output)), IsAbout "output" p.text) ↔
      problems (someText (.str output)) ≠ [] := by
  constructor
  · rintro ⟨p, hp, habout⟩
    rcases mem_problems_document.1 hp with ⟨-, rfl⟩ | ⟨j, v, q, hv, hq, rfl⟩ | ⟨q, hq, -⟩
    · exact absurd habout (not_isAbout_output rfl)
    · exact absurd habout (not_isAbout_output rfl)
    · exact List.ne_nil_of_mem hq
  · intro hproblems
    obtain ⟨q, rest, hq⟩ := List.exists_cons_of_ne_nil hproblems
    exact ⟨_, mem_problems_document.2 (.inr (.inr ⟨q, hq ▸ List.mem_cons_self, rfl⟩)),
      isAbout_text rfl⟩

/-! ## One by one -/

theorem x_names : ("x" : Text) ≠ "" ∧ ("x" : Text).isEncodable = true := by decide

theorem parse_document_accepts_iff_each :
    (∃ r, parse registry (.value (document operations output)) = .ok r) ↔
      operations ≠ [] ∧ (output ≠ "" ∧ output.isEncodable = true) ∧
        ∀ v ∈ operations, ∃ r, parse registry (.value (document [v] "x")) = .ok r := by
  simp only [parse_document_accepts_iff, parse_single_accepts_iff x_names,
    ← problems_someText_eq_nil_iff, List.eq_nil_iff_forall_not_mem (l := problems _)]
  constructor
  · intro hnone
    refine ⟨fun hnil ↦ ?_, fun q hq ↦ ?_, fun v hv q hq ↦ ?_⟩
    · exact hnone _ (mem_problems_document.2 (.inl ⟨hnil, rfl⟩))
    · exact hnone _ (mem_problems_document.2 (.inr (.inr ⟨q, hq, rfl⟩)))
    · obtain ⟨i, hi⟩ := List.getElem?_of_mem hv
      exact hnone _ (mem_problems_document.2 (.inr (.inl ⟨i, v, q, hi, hq, rfl⟩)))
  · rintro ⟨hne, hsome, hnone⟩ p hp
    rcases mem_problems_document.1 hp with ⟨hnil, -⟩ | ⟨i, v, q, hv, hq, -⟩ | ⟨q, hq, -⟩
    · exact hne hnil
    · exact hnone v (List.mem_of_getElem? hv) q hq
    · exact hsome q hq

private theorem dump_of_parse_document {r : Recipe}
    (h : parse registry (.value (document operations output)) = .ok r) :
    ∃ dumps, r.dump = document dumps output ∧
      List.Forall₂ (fun v dumped ↦ ∃ s, parse registry (.value (document [v] "x")) = .ok s ∧
        s.dump = document [dumped] "x") operations dumps := by
  rw [parse_document_eq, outcome_eq_ok, check_document_eq_ok] at h
  obtain ⟨-, -, rfl, hmap⟩ := h
  refine ⟨r.operations.map Operation.dump, rfl, ?_⟩
  rw [List.forall₂_map_right_iff]
  rw [← List.forall₂_eq_eq_eq, List.forall₂_map_left_iff, List.forall₂_map_right_iff] at hmap
  refine hmap.imp fun v o ho ↦ ⟨⟨[o], "x"⟩, ?_, rfl⟩
  exact (parse_single_eq_ok x_names).2 ⟨o, ho, rfl⟩

private theorem entries_of_parse_document {f : Failure}
    (h : parse registry (.value (document operations output)) = .error f) :
    ∃ entries, f = .invalidDocument "recipe" entries ∧
      (∀ i : Nat, (∃ e ∈ entries, IsAbout ("recipe" ++ "." ++ toString i) e) ↔
        ∃ v, operations[i]? = some v ∧
          ∃ g, parse registry (.value (document [v] "x")) = .error g) ∧
      ((∃ e ∈ entries, IsAbout "output" e) ↔ output = "" ∨ output.isEncodable = false) := by
  obtain ⟨found, hfound, rfl⟩ := mapError_eq_error.1 h
  have hentries : ∀ place, (∃ e ∈ found.map Problem.text, IsAbout place e) ↔
      ∃ p ∈ problems (check registry (document operations output)), IsAbout place p.text := by
    intro place
    rw [hfound, problems_error]
    simp only [List.mem_map, exists_exists_and_eq_and]
  have hrefused : ∀ v, (∃ g, parse registry (.value (document [v] "x")) = .error g) ↔
      problems (checkOperation registry v) ≠ [] := by
    intro v
    rw [Ne, ← parse_single_accepts_iff x_names]
    cases parse registry (.value (document [v] "x")) <;> simp
  refine ⟨_, rfl, fun i ↦ ?_, ?_⟩
  · rw [hentries, mem_problems_about_number]
    simp only [hrefused]
  · rw [hentries, mem_problems_about_output, Ne, problems_someText_eq_nil_iff, not_and_or,
      Classical.not_not, Bool.not_eq_true]

/-- An operation that draws a disc. -/
def disc : Value := .object [("operation", .str "generate"), ("shape", .str "circle"),
  ("params", .object [("radius", .int 2)]), ("store_as", .str "a")]

/-- A name of one code point that no encoding can write. -/
def loneHalf : Text := Text.singleton (.half 0)

end Recipe

end TextArt
