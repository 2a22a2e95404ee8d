import TextArt.Proofs.Grid.Clipping
import TextArt.Proofs.Recipe.Checked
import TextArt.Proofs.Recipe.Run
import TextArt.Proofs.Wire.Fill
import TextArt.Proofs.Wire.Shape
import TextArt.Recipe.Document

/-!
# Operations in wire form

An operation in wire form does the same unchecked as checked. There is one lemma for each kind of
operation; it reads the fields off the check and finds the same values in the document.
-/

namespace TextArt.Recipe

open Schema Fields

/-- The fields that hold the parameters of an operation, its position and its bounds. -/
def innerNames : List Text := ["params", "position", "bounds"]

/-- The fields of an operation are in wire form, and so are those of the objects in it. Parameters
of fills may have either spelling, and only those of the fills of the library have types. -/
structure WireOperation (fields : Fields) : Prop where
  /-- The fields of the operation itself. -/
  own : fields.WireForm
  /-- The fields of its parameters, its position and its bounds. -/
  inner : ∀ name ∈ innerNames, ∀ object,
    fields.lookup name = some (.object object) → WireForm object
  /-- No parameter of a fill is given twice. -/
  distinct : ∀ params, fields.lookup ("fillParams" : Text) = some (.object params) →
    (params.map Prod.fst).Nodup
  /-- The parameters of a fill of the library have their types. -/
  typed : ∀ pattern params, fields.lookup ("fillPattern" : Text) = some (.str pattern) →
    fields.lookup ("fillParams" : Text) = some (.object params) →
      (FillSpec.fields? pattern).isSome → Typed params

/-- The name of a kind of transform. -/
def TransformKind.name : TransformKind → Text
  | .rotate => "rotate"
  | .mirror => "mirror"
  | .scale => "scale"

namespace Document

variable {fields : Fields} {context : Context} {table : SymbolTable} {index : Nat} {o : Operation}

/-- An operation of a name stores under the name that its check gives, and does the same unchecked
as checked. -/
def Performs (context : Context) (table : SymbolTable) (index : Nat) (name : Text)
    (fields : Fields) (o : Operation) : Prop :=
  fields.lookup ("storeAs" : Text) = some (.str o.storeAs) ∧
    ∃ outcome, perform? context table index name (.object fields) = some outcome ∧
      context.fills.Agrees outcome (o.action.perform context table index)

theorem Performs.of_eq {name : Text}
    (hstore : fields.lookup ("storeAs" : Text) = some (.str o.storeAs))
    (hperform : perform? context table index name (.object fields) =
      some (o.action.perform context table index)) :
    Performs context table index name fields o :=
  ⟨hstore, _, hperform, .refl _ _⟩

/-! ## Fields -/

theorem need_of_lookup {name : Text} {v : Value} (h : fields.lookup name = some v) :
    (Value.object fields).need name = .ok v := by
  rw [Value.need, h]

theorem ask_object (name : Text) (default : Value) :
    (Value.object fields).ask name default = .ok (fields.argument name default) := rfl

theorem lookup_text (h : fields.Spelled) {name : Text} {s : Text}
    (hcheck : textField fields name = .ok s) : fields.lookup name = some (.str s) := by
  obtain ⟨v, hv, hs⟩ := lookup_of_required h List.mem_cons_self hcheck
  rw [anyText_eq_ok.1 hs] at hv
  exact hv

theorem lookup_store (h : fields.Spelled) {s : Text} (hcheck : storeField fields = .ok s) :
    fields.lookup ("storeAs" : Text) = some (.str s) := by
  obtain ⟨v, hv, hs⟩ := lookup_of_required h (by decide) hcheck
  rw [(someText_eq_ok.1 hs).1] at hv
  exact hv

theorem step_of_perform? {fields : Fields} {name store : Text}
    {outcome : Outcome (SymbolTable × Grid)}
    (hname : fields.lookup ("operation" : Text) = some (.str name))
    (hstore : fields.lookup ("storeAs" : Text) = some (.str store))
    (hperform : perform? context table index name (.object fields) = some outcome) :
    step context table index (.object fields) = stored table store outcome := by
  have hask : (Value.object fields).ask "operation" .null = .ok (.str name) := by
    rw [ask_object, Fields.argument_of_lookup hname]
  unfold step
  rw [hask]
  dsimp only [Value.text?]
  rw [Value.isName_str, Bool.not_true, if_neg Bool.false_ne_true, hperform]
  dsimp only
  rw [need_of_lookup hstore]
  cases outcome <;> rfl

/-- A grid that a text refers to. -/
theorem gridOf_of_lookup {field name : Text} (h : fields.lookup field = some (.str name))
    (table : SymbolTable) (index : Nat) (operation : Text) :
    gridOf table index operation (.object fields) field =
      lookup table (.str name) index operation >>= fun g ↦ .ok (.str name, g) := by
  rw [gridOf, need_of_lookup h, ok_bind]

theorem wireForm_of_optional (h : WireOperation fields) {name : Text}
    (hname : name ∈ innerNames) {object : Fields}
    (hcheck : optional fields (.of name) [] anyObject = .ok object) : object.WireForm := by
  rcases lookup_object h.own.spelled List.mem_cons_self hcheck with ⟨-, rfl⟩ | hobject
  · exact wireForm_nil
  · exact h.inner name hname object hobject

private theorem argument_text? (h : fields.Spelled) {k : Key}
    (hk : k.plain ∈ k.wire :: secondSpellings)
    {s : Option Text} (hcheck : optional fields k none (nullable anyText) = .ok s) :
    fields.argument k.wire .null = .ofText? s := by
  rcases nullable_eq_ok.1 (check_argument h hk hcheck (v := .null) rfl) with
    ⟨hnull, rfl⟩ | ⟨-, t, ht, rfl⟩
  · exact hnull
  · exact anyText_eq_ok.1 ht

/-! ## Drawing -/

private theorem pattern_of_check_none {registry : FillRegistry} {params : Fields} {fill : FillSpec}
    (h : FillSpec.check registry none params = .ok fill) : fill.pattern = none := by
  rw [FillSpec.check] at h
  split at h
  · obtain rfl := Except.ok.inj h
    rfl
  · cases h

private theorem fill_of_check (h : WireOperation fields) {pattern : Option Text} {params : Fields}
    {fill : FillSpec} (hpattern : fields.argument "fillPattern" .null = .ofText? pattern)
    (hparams : optional fields ⟨"fillParams", "fill_params"⟩ [] anyObject = .ok params)
    (hcheck : FillSpec.check context.fills pattern params = .ok fill) (drawn : Grid) :
    context.fills.Agrees
      (do
        let pattern ← (Value.object fields).ask "fillPattern" .null
        if pattern.truthy then
          let params ← (Value.object fields).ask "fillParams" .null
          let params ← (params.orElse (.object [])).arguments
          context.fills.apply (context.fillSettings index) pattern drawn params
        else .ok drawn)
      (fill.apply context.fills (context.fillSettings index) drawn) := by
  rw [ask_object, ok_bind, hpattern]
  cases pattern with
  | none =>
    rw [FillSpec.apply, pattern_of_check_none hcheck]
    exact .refl _ _
  | some name =>
    have hargument : (fields.argument "fillParams" .null).orElse (.object []) = .object params :=
      argument_object h.own.spelled (by decide) hparams
    have hlookup := lookup_object h.own.spelled (by decide) hparams
    have hdistinct : (params.map Prod.fst).Nodup := by
      rcases hlookup with ⟨-, rfl⟩ | hlookup
      · exact List.nodup_nil
      · exact h.distinct params hlookup
    have htyped (hlibrary : (FillSpec.fields? name).isSome) : params.Typed := by
      rcases hlookup with ⟨-, rfl⟩ | hlookup
      · exact typed_nil
      · exact h.typed name params (lookup_of_argument hpattern (fun h ↦ by cases h)) hlookup
          hlibrary
    obtain ⟨hspec, hagrees⟩ := FillRegistry.apply_of_check hcheck hdistinct htyped
      (context.fillSettings index) drawn
    rw [FillSpec.apply, hspec]
    dsimp only
    have htruthy : (Value.ofText? (some name)).truthy = !name.isEmpty := rfl
    cases hempty : name.isEmpty with
    | true =>
      rw [htruthy, hempty]
      exact .refl _ _
    | false =>
      rw [htruthy, hempty, Bool.not_false, if_pos rfl, if_neg Bool.false_ne_true, ask_object,
        ok_bind, hargument, Value.arguments, ok_bind]
      exact hagrees

private theorem generate_of_check (h : WireOperation fields)
    (hcheck : checkGenerate context.fills fields = .ok o) :
    Performs context table index "generate" fields o := by
  obtain ⟨⟨kind, params, store, pattern, fillParams, _⟩, hboth, hcheck⟩ := bind_eq_ok.1 hcheck
  obtain ⟨hkind, hboth⟩ := both_eq_ok.1 hboth
  obtain ⟨hparams, hboth⟩ := both_eq_ok.1 hboth
  obtain ⟨hstore, hboth⟩ := both_eq_ok.1 hboth
  obtain ⟨hpattern, hboth⟩ := both_eq_ok.1 hboth
  obtain ⟨hfillParams, -⟩ := both_eq_ok.1 hboth
  obtain ⟨shape, hshape, hcheck⟩ := bind_eq_ok.1 hcheck
  obtain ⟨fill, hfill, hcheck⟩ := bind_eq_ok.1 hcheck
  obtain rfl := Except.ok.inj hcheck
  refine ⟨lookup_store h.own.spelled hstore, _, rfl, ?_⟩
  have hshapeName : fields.lookup ("shape" : Text) = some (.str kind.name) := by
    obtain ⟨v, hv, honeOf⟩ := lookup_of_required h.own.spelled List.mem_cons_self hkind
    obtain ⟨s, rfl, hs⟩ := oneOf_eq_ok.1 honeOf
    obtain ⟨k, -, hpair⟩ := List.mem_map.1 (mem_of_lookup hs.2)
    obtain ⟨rfl, rfl⟩ := Prod.mk.inj hpair
    exact hv
  have hparamsName : (fields.argument "params" .null).orElse (.object []) = .object params :=
    argument_object h.own.spelled (by decide) hparams
  have hdraw : Shape.request (.str kind.name) (.object params) = shape.draw :=
    Shape.request_of_check (wireForm_of_optional h (by decide) hparams) hshape
  have hpatternName : fields.argument "fillPattern" .null = .ofText? pattern :=
    argument_text? h.own.spelled (by decide) hpattern
  rw [perform_generate, generate, need_of_lookup hshapeName, ok_bind, ask_object, ok_bind,
    hparamsName, hdraw]
  refine FillRegistry.Agrees.map ?_ _
  cases shape.draw with
  | error cause => exact .refl _ _
  | ok drawn => exact fill_of_check h hpatternName hfillParams hfill drawn

/-! ## Stamping and cutting -/

private theorem position_of_check (h : WireOperation fields) {row col : Int}
    (hcheck : optional fields (.of "position") (0, 0) checkPosition = .ok (row, col)) :
    ∃ inner : Fields, (fields.argument "position" .null).orElse (.object []) = .object inner ∧
      inner.argument "row" (.int 0) = .int row ∧ inner.argument "col" (.int 0) = .int col := by
  rcases lookup_of_optional h.own.spelled List.mem_cons_self hcheck with
    ⟨hnone, hdefault⟩ | ⟨v, hv, hposition⟩
  · have hnone : fields.lookup ("position" : Text) = none := hnone
    obtain ⟨rfl, rfl⟩ := Prod.mk.inj hdefault
    rw [argument_of_lookup_none hnone]
    exact ⟨[], rfl, rfl, rfl⟩
  · obtain ⟨inner, hinner, hposition⟩ := bind_eq_ok.1 hposition
    obtain ⟨⟨row', col', _⟩, hboth, hpair⟩ := bind_eq_ok.1 hposition
    obtain ⟨hrow, hboth⟩ := both_eq_ok.1 hboth
    obtain ⟨hcol, -⟩ := both_eq_ok.1 hboth
    obtain ⟨rfl, rfl⟩ := Prod.mk.inj (Except.ok.inj hpair)
    have hv : fields.lookup ("position" : Text) = some (.object inner) := by
      rw [← (record_eq_ok.1 hinner).1]
      exact hv
    have hwire := h.inner "position" (by decide) inner hv
    rw [argument_of_lookup hv]
    exact ⟨inner, orElse_object inner, argument_whole hwire (by decide) rfl hrow,
      argument_whole hwire (by decide) rfl hcol⟩

private theorem overlay_of_check (h : WireOperation fields) (hcheck : checkOverlay fields = .ok o) :
    Performs context table index "overlay" fields o := by
  obtain ⟨⟨target, source, ⟨row, col⟩, transparent, char, store, _⟩, hboth, hcheck⟩ :=
    bind_eq_ok.1 hcheck
  obtain ⟨htarget, hboth⟩ := both_eq_ok.1 hboth
  obtain ⟨hsource, hboth⟩ := both_eq_ok.1 hboth
  obtain ⟨hposition, hboth⟩ := both_eq_ok.1 hboth
  obtain ⟨htransparent, hboth⟩ := both_eq_ok.1 hboth
  obtain ⟨hchar, hboth⟩ := both_eq_ok.1 hboth
  obtain ⟨hstore, -⟩ := both_eq_ok.1 hboth
  obtain rfl := Except.ok.inj hcheck
  refine .of_eq (lookup_store h.own.spelled hstore) (congrArg some ?_)
  have htransparent : fields.argument "transparent" (.bool true) = .bool transparent :=
    argument_flag h.own (by decide) rfl htransparent
  have hchar : fields.argument "char" .null =
      .ofText? ((char.map CodePoint.char).map Text.singleton) := by
    rcases nullable_eq_ok.1 (check_argument h.own.spelled (by decide) hchar (v := .null) rfl) with
      ⟨hnull, rfl⟩ | ⟨-, c, hc, rfl⟩
    · exact hnull
    · exact oneChar_eq_ok.1 hc
  obtain ⟨inner, hinner, hrow, hcol⟩ := position_of_check h hposition
  rw [overlay, gridOf_of_lookup (lookup_text h.own.spelled htarget),
    gridOf_of_lookup (lookup_text h.own.spelled hsource), Action.perform]
  dsimp only [Action.name]
  cases lookup table (.str target) index "overlay" with
  | error cause => rfl
  | ok t =>
    cases lookup table (.str source) index "overlay" with
    | error cause => rfl
    | ok s =>
      simp only [ok_bind, ask_object, hinner, hrow, hcol, hchar, htransparent,
        Grid.requestOverlay_int]

private theorem clip_of_check (h : WireOperation fields) (hcheck : checkClip fields = .ok o) :
    Performs context table index "clip" fields o := by
  obtain ⟨⟨source, ⟨startRow, endRow, startCol, endCol⟩, store, _⟩, hboth, hcheck⟩ :=
    bind_eq_ok.1 hcheck
  obtain ⟨hsource, hboth⟩ := both_eq_ok.1 hboth
  obtain ⟨hbounds, hboth⟩ := both_eq_ok.1 hboth
  obtain ⟨hstore, -⟩ := both_eq_ok.1 hboth
  obtain rfl := Except.ok.inj hcheck
  refine .of_eq (lookup_store h.own.spelled hstore) (congrArg some ?_)
  obtain ⟨v, hv, hbounds⟩ := lookup_of_required h.own.spelled List.mem_cons_self hbounds
  obtain ⟨inner, hinner, hbounds⟩ := bind_eq_ok.1 hbounds
  obtain ⟨⟨startRow', endRow', startCol', endCol', _⟩, hboth, htuple⟩ := bind_eq_ok.1 hbounds
  obtain ⟨hstartRow, hboth⟩ := both_eq_ok.1 hboth
  obtain ⟨hendRow, hboth⟩ := both_eq_ok.1 hboth
  obtain ⟨hstartCol, hboth⟩ := both_eq_ok.1 hboth
  obtain ⟨hendCol, -⟩ := both_eq_ok.1 hboth
  obtain ⟨rfl, rfl, rfl, rfl⟩ : startRow' = startRow ∧ endRow' = endRow ∧ startCol' = startCol ∧
      endCol' = endCol := by
    simpa using Except.ok.inj htuple
  have hv : fields.lookup ("bounds" : Text) = some (.object inner) := by
    rw [← (record_eq_ok.1 hinner).1]
    exact hv
  have hwire := h.inner "bounds" (by decide) inner hv
  have hstartRow := need_of_lookup (lookup_whole hwire (by decide) rfl hstartRow)
  have hendRow := need_of_lookup (lookup_whole hwire (by decide) rfl hendRow)
  have hstartCol := need_of_lookup (lookup_whole hwire (by decide) rfl hstartCol)
  have hendCol := need_of_lookup (lookup_whole hwire (by decide) rfl hendCol)
  rw [clip, gridOf_of_lookup (lookup_text h.own.spelled hsource), Action.perform]
  dsimp only [Action.name] at hstartRow hendRow hstartCol hendCol ⊢
  cases lookup table (.str source) index "clip" with
  | error cause => rfl
  | ok s =>
    simp only [ok_bind, need_of_lookup hv, hstartRow, hendRow, hstartCol, hendCol,
      Grid.requestClip_int]
    rfl

/-! ## Turning, mirroring and scaling -/

private theorem rotate_of_check {v : Value} {step : Transform} (hv : FieldType.whole.holds v = true)
    (h : degreesField v = .ok step) :
    ∃ turn, Rotation.ofRequest v = .ok turn ∧ step = .rotate turn := by
  obtain ⟨n, hn, hstep⟩ := bind_eq_ok.1 h
  obtain rfl := FieldType.anyInt_of_holds hv hn
  have hnumber : (Value.int n).number? = some (.whole n) := rfl
  have hsame : (fun r : Rotation ↦ (Number.whole n).same (.whole r.degrees)) =
      fun r ↦ r.degrees == n := by
    funext r
    rw [Number.same_whole, Bool.eq_iff_iff, decide_eq_true_eq, beq_iff_eq, eq_comm]
  split at hstep
  · next turn hturn =>
    refine ⟨turn, ?_, (Except.ok.inj hstep).symm⟩
    rw [Rotation.ofRequest, hnumber, Option.bind_some, hsame, hturn]
  · cases hstep

private theorem mirror_of_check {v : Value} {step : Transform} (h : axisField v = .ok step) :
    ∃ axis, Axis.ofRequest v = .ok axis ∧ step = .mirror axis := by
  obtain ⟨axis, haxis, rfl⟩ := map_eq_ok.1 h
  obtain ⟨s, rfl, hs⟩ := oneOf_eq_ok.1 haxis
  have hmem := mem_of_lookup hs.2
  simp only [List.mem_cons, List.not_mem_nil, or_false, Prod.mk.injEq] at hmem
  rcases hmem with ⟨rfl, rfl⟩ | ⟨rfl, rfl⟩
  · exact ⟨_, rfl, rfl⟩
  · exact ⟨_, rfl, rfl⟩

private theorem same_factor {v : Value} {x : Float} (hv : FieldType.number.holds v = true)
    (h : anyFloat v = .ok x) :
    (∀ b, v ≠ .bool b) ∧ ∃ n, v.number? = some n ∧
      ∀ size : Scaling, n.same (.real size.factor) = (size.factor == x) := by
  cases v with
  | float y =>
    obtain rfl := Except.ok.inj h
    exact ⟨fun b h ↦ (by cases h), _, rfl, fun size ↦ Number.same_real y size.factor⟩
  | int n =>
    unfold anyFloat at h
    dsimp only at h
    split at h
    · next hofInt =>
      obtain rfl := Except.ok.inj h
      refine ⟨fun b h ↦ (by cases h), _, rfl, fun size ↦ ?_⟩
      cases size with
      | half => exact (Number.same_whole_half n).trans (Number.half_beq_of_ofInt? hofInt).symm
      | double => exact (Number.same_whole_two n).trans (Number.two_beq_of_ofInt? hofInt).symm
    · cases h
  | _ => cases hv

private theorem scale_of_check {v : Value} {step : Transform} (hv : FieldType.number.holds v = true)
    (h : factorField v = .ok step) :
    ∃ size, Scaling.ofRequest v = .ok size ∧ step = .scale size := by
  obtain ⟨x, hx, h⟩ := bind_eq_ok.1 h
  obtain ⟨hflag, n, hnumber, hsame⟩ := same_factor hv hx
  split at h
  · next size hsize =>
    refine ⟨size, ?_, (Except.ok.inj h).symm⟩
    rw [Scaling.ofRequest]
    · rw [hnumber, Option.bind_some, funext hsame, hsize]
    · exact hflag
  · cases h

private theorem argument_of_only {params : Fields} (h : params.WireForm) {name : Text}
    {check : Value → Checked Transform} {step : Transform}
    (honly : (readable params >>= fun params ↦
      (both (required params (.of name) check) (noOthers params [.of name])).map Prod.fst) =
        .ok step) :
    ∃ w, params.argument name .null = w ∧ check w = .ok step ∧
      ∀ t, FieldType.of? name = some t → t.holds w = true := by
  obtain ⟨-, honly⟩ := readable_bind_eq_ok.1 honly
  obtain ⟨⟨_, _⟩, hboth, rfl⟩ := map_eq_ok.1 honly
  obtain ⟨w, hw, hcheck⟩ := lookup_of_required h.spelled List.mem_cons_self (both_eq_ok.1 hboth).1
  exact ⟨w, argument_of_lookup hw _, hcheck, fun t ht ↦ holds_of_lookup h.typed hw ht⟩

private theorem ofRequest_of_check {kind : TransformKind} {v : Value} {params : Fields}
    (hv : v.orElse (.object []) = .object params) (h : params.WireForm) {step : Transform}
    (hcheck : checkTransformParams kind params = .ok step) :
    Transform.ofRequest (.str kind.name) v = .ok step := by
  cases kind with
  | rotate =>
    obtain ⟨w, hw, hstep, ht⟩ := argument_of_only h hcheck
    obtain ⟨turn, hturn, rfl⟩ := rotate_of_check (ht _ rfl) hstep
    change (do
      let w ← (v.orElse (.object [])).ask "degrees" .null
      let turn ← Rotation.ofRequest w
      .ok (Transform.rotate turn)) = _
    rw [hv, ask_object, ok_bind, hw, hturn]
    rfl
  | mirror =>
    obtain ⟨w, hw, hstep, -⟩ := argument_of_only h hcheck
    obtain ⟨axis, haxis, rfl⟩ := mirror_of_check hstep
    change (do
      let w ← (v.orElse (.object [])).ask "axis" .null
      let axis ← Axis.ofRequest w
      .ok (Transform.mirror axis)) = _
    rw [hv, ask_object, ok_bind, hw, haxis]
    rfl
  | scale =>
    obtain ⟨w, hw, hstep, ht⟩ := argument_of_only h hcheck
    obtain ⟨size, hsize, rfl⟩ := scale_of_check (ht _ rfl) hstep
    change (do
      let w ← (v.orElse (.object [])).ask "factor" .null
      let size ← Scaling.ofRequest w
      .ok (Transform.scale size)) = _
    rw [hv, ask_object, ok_bind, hw, hsize]
    rfl

private theorem transform_of_check (h : WireOperation fields)
    (hcheck : checkTransform fields = .ok o) :
    Performs context table index "transform" fields o := by
  obtain ⟨⟨source, kind, params, store, _⟩, hboth, hcheck⟩ := bind_eq_ok.1 hcheck
  obtain ⟨hsource, hboth⟩ := both_eq_ok.1 hboth
  obtain ⟨hkind, hboth⟩ := both_eq_ok.1 hboth
  obtain ⟨hparams, hboth⟩ := both_eq_ok.1 hboth
  obtain ⟨hstore, -⟩ := both_eq_ok.1 hboth
  obtain ⟨step, hstep, hcheck⟩ := bind_eq_ok.1 hcheck
  obtain rfl := Except.ok.inj hcheck
  refine .of_eq (lookup_store h.own.spelled hstore) (congrArg some ?_)
  have hkind : fields.lookup ("type" : Text) = some (.str kind.name) := by
    obtain ⟨v, hv, honeOf⟩ := lookup_of_required h.own.spelled List.mem_cons_self hkind
    obtain ⟨s, rfl, hs⟩ := oneOf_eq_ok.1 honeOf
    have hmem := mem_of_lookup hs.2
    simp only [List.mem_cons, List.not_mem_nil, or_false, Prod.mk.injEq] at hmem
    rcases hmem with ⟨rfl, rfl⟩ | ⟨rfl, rfl⟩ | ⟨rfl, rfl⟩ <;> exact hv
  have hrequest : Transform.ofRequest (.str kind.name) (fields.argument "params" .null) =
      .ok step :=
    ofRequest_of_check (argument_object h.own.spelled (by decide) hparams)
      (wireForm_of_optional h (by decide) hparams) hstep
  rw [transform, gridOf_of_lookup (lookup_text h.own.spelled hsource), Action.perform]
  dsimp only [Action.name]
  cases lookup table (.str source) index "transform" with
  | error cause => rfl
  | ok s =>
    simp only [ok_bind, need_of_lookup hkind, ask_object, hrequest]
    rfl

/-! ## Joining and padding -/

/-- Two grids that are looked up one after the other. -/
theorem append_of_lookup {target source : Text}
    (htarget : fields.lookup ("target" : Text) = some (.str target))
    (hsource : fields.lookup ("source" : Text) = some (.str source))
    (join : Grid → Grid → Outcome Grid) (operation : Text) :
    (append join operation table index (.object fields)).map (table, ·) =
      (do
        let t ← lookup table (.str target) index operation
        let s ← lookup table (.str source) index operation
        let joined ← join t s
        .ok (table, joined)) := by
  rw [append, gridOf_of_lookup htarget, gridOf_of_lookup hsource]
  cases lookup table (.str target) index operation with
  | error cause => rfl
  | ok t =>
    cases lookup table (.str source) index operation with
    | error cause => rfl
    | ok s =>
      simp only [ok_bind]
      cases join t s <;> rfl

private theorem append_of_check (h : WireOperation fields) (join : Grid → Grid → Outcome Grid)
    {make : Text → Text → Action} {name : Text}
    (hperform : ∀ op, perform? context table index name op =
      some ((append join name table index op).map (table, ·)))
    (hmake : ∀ target source, (make target source).perform context table index =
      (do
        let t ← lookup table (.str target) index name
        let s ← lookup table (.str source) index name
        let joined ← join t s
        .ok (table, joined)))
    (hcheck : checkAppend make fields = .ok o) :
    Performs context table index name fields o := by
  obtain ⟨⟨target, source, store, _⟩, hboth, hcheck⟩ := bind_eq_ok.1 hcheck
  obtain ⟨htarget, hboth⟩ := both_eq_ok.1 hboth
  obtain ⟨hsource, hboth⟩ := both_eq_ok.1 hboth
  obtain ⟨hstore, -⟩ := both_eq_ok.1 hboth
  obtain rfl := Except.ok.inj hcheck
  refine .of_eq (lookup_store h.own.spelled hstore) ?_
  rw [hperform, hmake, append_of_lookup (lookup_text h.own.spelled htarget)
    (lookup_text h.own.spelled hsource)]

private theorem center_of_check (h : WireOperation fields) (hcheck : checkCenter fields = .ok o) :
    Performs context table index "centerHorizontally" fields o := by
  obtain ⟨⟨source, targetWidth, store, _⟩, hboth, hcheck⟩ := bind_eq_ok.1 hcheck
  obtain ⟨hsource, hboth⟩ := both_eq_ok.1 hboth
  obtain ⟨htargetWidth, hboth⟩ := both_eq_ok.1 hboth
  obtain ⟨hstore, -⟩ := both_eq_ok.1 hboth
  obtain rfl := Except.ok.inj hcheck
  refine .of_eq (lookup_store h.own.spelled hstore) (congrArg some ?_)
  have htargetWidth : fields.lookup ("targetWidth" : Text) = some (.int targetWidth.val) :=
    lookup_atLeast h.own (by decide) rfl htargetWidth
  rw [center, gridOf_of_lookup (lookup_text h.own.spelled hsource), Action.perform]
  dsimp only [Action.name]
  cases lookup table (.str source) index "centerHorizontally" with
  | error cause => rfl
  | ok s =>
    simp only [ok_bind, need_of_lookup htargetWidth]
    rfl

/-- **One operation.** An operation in wire form does the same unchecked as checked. -/
theorem perform?_of_check (h : WireOperation fields) {name : Text}
    {check : Fields → Checked Operation} (hmem : (name, check) ∈ operationChecks context.fills)
    (hcheck : check fields = .ok o) : Performs context table index name fields o := by
  simp only [operationChecks, List.mem_cons, List.not_mem_nil, or_false, Prod.mk.injEq] at hmem
  rcases hmem with ⟨rfl, rfl⟩ | ⟨rfl, rfl⟩ | ⟨rfl, rfl⟩ | ⟨rfl, rfl⟩ | ⟨rfl, rfl⟩ | ⟨rfl, rfl⟩ |
    ⟨rfl, rfl⟩
  · exact generate_of_check h hcheck
  · exact overlay_of_check h hcheck
  · exact clip_of_check h hcheck
  · exact transform_of_check h hcheck
  · exact append_of_check h Grid.topAppend (fun _ ↦ rfl) (fun _ _ ↦ rfl) hcheck
  · exact append_of_check h Grid.bottomAppend (fun _ ↦ rfl) (fun _ _ ↦ rfl) hcheck
  · exact center_of_check h hcheck

end Document

end TextArt.Recipe
