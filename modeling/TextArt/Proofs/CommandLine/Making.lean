import TextArt.CommandLine.Run
import TextArt.Proofs.FileStore
import TextArt.Proofs.Recipe.Containment
import TextArt.Proofs.Wire.Shape

/-!
# What making a drawing fails with

A command names a shape, a text, a file or a document. What it makes of it fails with failures of
the library, save for the causes that `Work.Escapes` lists: what a document says or what its bytes
are, where its path leads, and the fills and shapes that it asks for.
-/

namespace TextArt.CommandLine

variable {escapes : Failure → Prop} {context : Script.Context} {room : Nat} {store : FileStore}

/-! ## Shapes -/

/-- The parameters that a fill gets from the command line. -/
def namedParams (name direction : Text) : Fields :=
  if name = "gradient" then [("direction", .str direction)] else []

/-- The fill that a command line names. -/
def namedFill (fill : Option Text) (direction : Text) : FillSpec :=
  ⟨someText? fill, (someText? fill).elim [] (namedParams · direction)⟩

private theorem paintEach_contained (g : Grid) (mask : Nat → Nat → Bool) (ink : Nat → Nat → Text) :
    Contained escapes (g.paintEach mask ink) := by
  unfold Grid.paintEach
  split
  · exact contained_reported rfl
  · exact contained_ok _

private theorem unknownFill_contained {name direction : Text} (settings : FillSettings) (g : Grid)
    (h : FillRegistry.standard.find? name = none) :
    Contained escapes (FillRegistry.standard.apply settings (.str name) g
      (namedParams name direction)) := by
  have hany : (namedParams name direction).any
      (fun p ↦ p.1 == "grid" || p.1 == "name") = false := by
    unfold namedParams
    split <;> rfl
  have hget : FillRegistry.standard.get (.str name) =
      .error (.unknownFill (.str name) FillRegistry.standard.names) := by
    have hname : (Value.str name).isName = true := rfl
    rw [FillRegistry.get, if_pos hname, Value.text?, Option.bind_some, h]
  rw [FillRegistry.apply, hany, if_neg Bool.false_ne_true, hget]
  exact contained_reported rfl

private theorem gradient_contained (settings : FillSettings) (g : Grid) (direction : Text) :
    Contained escapes (FillRegistry.standard.apply settings (.str "gradient") g
      [("direction", .str direction)]) := by
  have happly : FillRegistry.standard.apply settings (.str "gradient") g
      [("direction", .str direction)] =
        Pattern.requestGradient settings g .null (.str direction) (.bool false) := by
    have hname : FillRegistry.snakeCase "direction" = "direction" := rfl
    unfold FillRegistry.apply FillRegistry.converted
    rw [List.map_singleton, hname]
    rfl
  rw [happly]
  unfold Pattern.requestGradient
  dsimp only [Pattern.rampOr]
  split
  · split
    · exact contained_reported rfl
    · exact paintEach_contained _ _ _
  · exact contained_reported rfl

section Making

variable (hfills : context.fills = .standard)
  (hne : context.settings.render.densityRamp.isEmpty = false)
include hfills hne

private theorem namedFill_contained {fill : Option Text} {direction name : Text} {g : Grid}
    (hname : someText? fill = some name)
    (hseed : (namedFill fill direction).NegativeSeed context.settings.render →
      escapes .badValue) :
    Contained escapes (context.fills.apply (context.fillSettings 0) (.str name) g
      (namedParams name direction)) := by
  have hspec : namedFill fill direction = ⟨some name, namedParams name direction⟩ := by
    rw [namedFill, hname]
    rfl
  rw [hspec] at hseed
  cases hfind : FillRegistry.standard.find? name with
  | none =>
    rw [hfills]
    exact unknownFill_contained _ _ hfind
  | some found =>
    have hmem := mem_of_lookup hfind
    simp only [FillRegistry.standard, Fill.standard, List.map_cons, List.map_nil, List.mem_cons,
      List.not_mem_nil, or_false, Prod.mk.injEq] at hmem
    rcases hmem with ⟨rfl, -⟩ | ⟨rfl, -⟩ | ⟨rfl, -⟩ | ⟨rfl, -⟩ | ⟨rfl, -⟩
    · exact FillSpec.apply_contained hfills hne ⟨some "solid", [], rfl⟩ hseed 0 g
    · exact FillSpec.apply_contained hfills hne ⟨some "dots", [], rfl⟩ hseed 0 g
    · rw [hfills]
      exact gradient_contained _ g direction
    · exact FillSpec.apply_contained hfills hne ⟨some "diagonal", [], rfl⟩ hseed 0 g
    · exact FillSpec.apply_contained hfills hne ⟨some "crosshatch", [], rfl⟩ hseed 0 g

end Making

/-! ## Works -/

namespace Work

/-- A work draws a shape and fills it: the shape that the command line names, or one of its
document. -/
def Draws (context : Script.Context) (room : Nat) (store : FileStore) (shape : ShapeParams)
    (fill : FillSpec) : Work → Prop
  | draw name sizes filled char given direction =>
    fill = namedFill given direction ∧ ∃ known, (shapeSizes sizes).lookup name = some known ∧
      ShapeParams.ofUser name (known ++ ([("filled", .bool filled),
        ("char", .str ((someText? char).getD context.settings.render.defaultChar))] : Fields)) =
          .ok shape
  | recipe document => ∃ text r, store.loadDocument document = .ok text ∧
      Recipe.parse context.fills (.text room text) = .ok r ∧
      ∃ o ∈ r.operations, o.action = .generate shape fill
  | compose document _ => ∃ text c, store.loadDocument document = .ok text ∧
      Composition.parse context.fills (.text room text) = .ok c ∧
      ∃ s ∈ c.shapes, s.shape = shape ∧ s.fill = fill
  | _ => False

/-- A file that a work reads is there, and its bytes are no text. -/
def ReadsNoText (store : FileStore) (w : Work) : Prop :=
  ∃ p ∈ w.documents, ∃ content, store.read p = .ok content ∧
    Text.decodeUtf8 .refused content = none

/-- The text of a document in JSON that a work reads. -/
def ReadsJson (store : FileStore) (text : Text) : Work → Prop
  | recipe document => store.loadDocument document = .ok text
  | compose document _ => store.loadDocument document = .ok text
  | _ => False

/-- The causes for which a failure gets out of making a drawing. -/
inductive Escapes (context : Script.Context) (room : Nat) (store : FileStore) (w : Work) :
    Failure → Prop where
  /-- A document cannot be loaded. -/
  | load {p : Path} {f : Failure} (hp : p ∈ w.documents) (hload : store.LoadEscapes p f) :
    Escapes context room store w f
  /-- A document has a whole number with too many digits. -/
  | digits {text : Text} (hread : w.ReadsJson store text)
    (hdigits : Json.HasLongNumber text.toList) : Escapes context room store w .badValue
  /-- A document has lists and objects that are nested too deeply. -/
  | nesting {text : Text} (hread : w.ReadsJson store text)
    (hnesting : Json.HasDeepNesting room text.toList) : Escapes context room store w .tooDeep
  /-- A polygon has too many sides. -/
  | sides {shape : ShapeParams} {fill : FillSpec}
    (hdraws : w.Draws context room store shape fill) (hsides : shape.drawable = false) :
    Escapes context room store w .overflow
  /-- Dots have a negative seed. -/
  | seed {shape : ShapeParams} {fill : FillSpec} (hdraws : w.Draws context room store shape fill)
    (hseed : fill.NegativeSeed context.settings.render) : Escapes context room store w .badValue

theorem admits_of_draws {w : Work} {shape : ShapeParams} {fill : FillSpec}
    (h : w.Draws context room store shape fill) :
    Admits (w.Escapes context room store) context.settings.render shape fill where
  sides := .sides h
  seed := .seed h

private theorem loadDocument_escapes {w : Work} {p : Path} (hp : p ∈ w.documents) :
    Contained (w.Escapes context room store) (store.loadDocument p) :=
  FileStore.loadDocument_contained.mono fun _ ↦ .load hp

private theorem load_escapes {w : Work} {text : Text} (hread : w.ReadsJson store text)
    (subject : Text) :
    Contained (w.Escapes context room store) (Json.Source.load subject (.text room text)) :=
  Json.load_contained (.digits hread) (.nesting hread)

end Work

private theorem drawBanner_contained (text : Text) (char : Option Text) (width : Option Int) :
    Contained escapes (drawBanner text char width) := by
  have hbanner : Contained escapes (Shape.requestBanner .standard (.str text)) := by
    cases hempty : text.isEmpty with
    | true =>
      have hfalse : ¬(Value.str text).truthy = true := by rw [Value.truthy, hempty]; decide
      rw [Shape.requestBanner, if_neg hfalse]
      exact contained_reported rfl
    | false =>
      rw [Shape.requestBanner_text _ hempty]
      refine (contained_mapM fun char _ ↦ ?_).bind fun glyphs _ ↦ ?_
      · unfold GlyphMap.glyph
        split
        · exact contained_reported rfl
        · exact Grid.ofLines_contained _
      · split
        · exact contained_reported rfl
        · exact contained_foldlM (fun g glyph _ ↦ Grid.ofLines_contained _) _
  refine hbanner.bind fun drawn _ ↦ ?_
  dsimp only
  split
  · exact contained_ok _
  · refine Contained.bind ?_ fun cell _ ↦ contained_ok _
    unfold Value.cell
    split
    · exact contained_ok _
    · exact contained_reported rfl

private theorem read_contained (step : Text) : Contained escapes (WrittenStep.read step) := by
  unfold WrittenStep.read
  dsimp only
  split
  · exact contained_reported rfl
  · split
    · split
      · exact contained_ok _
      · exact contained_reported rfl
    · split
      · exact contained_ok _
      · exact contained_reported rfl
    · exact contained_ok _
    · exact contained_reported rfl

private theorem transform_contained (step : WrittenStep) : Contained escapes step.transform := by
  cases step with
  | rotate degrees =>
    refine Contained.map ?_ _
    unfold Rotation.ofRequest
    split
    · exact contained_ok _
    · exact contained_reported rfl
  | mirror axis =>
    refine Contained.map ?_ _
    unfold Axis.ofRequest
    split
    · exact contained_ok _
    · exact contained_reported rfl
  | scale factor =>
    refine Contained.map ?_ _
    unfold Scaling.ofRequest
    dsimp only
    split
    · exact contained_ok _
    · exact contained_reported rfl

private theorem applySteps_contained (g : Grid) (steps : List Text) :
    Contained escapes (g.applySteps steps) := by
  refine contained_foldlM ?_ g
  intro g text _
  refine (read_contained text).bind fun step _ ↦ (transform_contained step).bind fun t _ ↦ ?_
  exact contained_ok _

namespace Work

variable (hfills : context.fills = .standard)
  (hne : context.settings.render.densityRamp.isEmpty = false)
include hfills hne

private theorem draw_contained (name : Text) (sizes : Sizes) (filled : Bool)
    (char fill : Option Text) (direction : Text) :
    Contained ((draw name sizes filled char fill direction).Escapes context room store)
      (drawShape context name sizes filled char fill direction) := by
  unfold drawShape
  dsimp only
  split
  · exact contained_reported rfl
  · next known hknown =>
    refine (ShapeParams.ofUser_contained _ _).bind fun shape hshape ↦ ?_
    have hdraws : (draw name sizes filled char fill direction).Draws context room store shape
        (namedFill fill direction) := ⟨rfl, known, hknown, hshape⟩
    have hadmits := admits_of_draws hdraws
    refine (ShapeParams.draw_contained hadmits.sides).bind fun drawn _ ↦ ?_
    split
    · exact contained_ok _
    · next filling hfilling =>
      refine (namedFill_contained hfills hne hfilling hadmits.seed).bind fun g _ ↦ ?_
      exact contained_ok _

/-- What making a drawing can fail with, besides the failures of the library. -/
theorem make_contained (w : Work) :
    Contained (w.Escapes context room store) (w.make context room store) := by
  cases w with
  | draw name sizes filled char fill direction =>
    exact draw_contained hfills hne name sizes filled char fill direction
  | banner text char width => exact drawBanner_contained text char width
  | transform source steps =>
    have hsource : source ∈ (transform source steps).documents := List.mem_singleton_self source
    refine Contained.bind ?_ fun g _ ↦ (applySteps_contained g steps).bind fun g' _ ↦ ?_
    · exact FileStore.loadGrid_contained.mono fun _ ↦ .load hsource
    · exact contained_ok _
  | recipe document =>
    have hdocument : document ∈ (recipe document).documents := List.mem_singleton_self document
    refine Contained.bind ?_ fun text htext ↦ Contained.bind ?_ fun r hr ↦
      Contained.bind ?_ fun result _ ↦ contained_ok _
    · exact loadDocument_escapes hdocument
    · have hread : (recipe document).ReadsJson store text := htext
      exact (load_escapes hread _).bind fun v _ ↦ Schema.outcome_contained _ _
    · obtain ⟨v, -, hcheck⟩ := bind_eq_ok.1 hr
      rw [hfills, Schema.outcome_eq_ok] at hcheck
      refine Recipe.run_contained hfills hne hcheck ?_
      intro o ho shape fill haction
      exact admits_of_draws ⟨text, r, htext, hr, o, ho, haction⟩
  | compose document layers =>
    have hdocument : document ∈ (compose document layers).documents :=
      List.mem_singleton_self document
    refine Contained.bind ?_ fun text htext ↦ Contained.bind ?_ fun c hc ↦
      Contained.bind ?_ fun canvas _ ↦ contained_ok _
    · exact loadDocument_escapes hdocument
    · have hread : (compose document layers).ReadsJson store text := htext
      exact (load_escapes hread _).bind fun v _ ↦ Schema.outcome_contained _ _
    · obtain ⟨v, -, hcheck⟩ := bind_eq_ok.1 hc
      rw [hfills, Schema.outcome_eq_ok] at hcheck
      refine Composition.draw_contained hfills hne hcheck ?_
      intro s hs
      exact admits_of_draws ⟨text, c, htext, hc, s, hs, rfl, rfl⟩

omit hfills hne in
/-- Nothing catches the failure to decode a file. -/
theorem make_of_readsNoText {w : Work} (h : w.ReadsNoText store) :
    w.make context room store = .error .undecodable := by
  obtain ⟨p, hp, content, hread, hbytes⟩ := h
  have hdecode : FileStore.decodeText content = .error .undecodable := by
    rw [FileStore.decodeText, hbytes]
  have hload : store.loadDocument p = .error .undecodable := by
    rw [FileStore.loadDocument, hread]
    dsimp only
    rw [hdecode]
    rfl
  cases w with
  | draw => exact (List.not_mem_nil hp).elim
  | banner => exact (List.not_mem_nil hp).elim
  | transform source steps =>
    obtain rfl := List.mem_singleton.1 hp
    have hprobe : store.probe p = .ok (some (.file content)) := by
      rw [FileStore.probe, FileStore.find_of_read hread]
    have hgrid : store.loadGrid p = .error .undecodable := by
      rw [FileStore.loadGrid, hprobe, ok_bind]
      dsimp only
      rw [hread, mapError_ok, ok_bind, hdecode]
      rfl
    rw [make, hgrid]
    rfl
  | recipe document =>
    obtain rfl := List.mem_singleton.1 hp
    rw [make, hload]
    rfl
  | compose document layers =>
    obtain rfl := List.mem_singleton.1 hp
    rw [make, hload]
    rfl

end Work

/-! ## Records -/

section Records

variable {inner : Nat}

private theorem survey_contained_of_scalar {v : Value} (hlist : ∀ items, v ≠ .list items)
    (hobject : ∀ fields, v ≠ .object fields) :
    Contained (· = .badValue) (Json.survey inner v) := by
  cases v with
  | int n =>
    rw [Json.survey]
    split
    · exact contained_ok ()
    · exact contained_escape rfl
  | list items => exact absurd rfl (hlist items)
  | object fields => exact absurd rfl (hobject fields)
  | _ => exact contained_of_ok (a := ()) (by cases inner <;> rfl)

private theorem surveyItems_contained {items : List Value}
    (h : ∀ v ∈ items, Contained escapes (Json.survey inner v)) :
    Contained escapes (Json.surveyItems inner items) := by
  induction items with
  | nil => exact contained_ok ()
  | cons v rest ih =>
    rw [Json.surveyItems]
    exact (h v List.mem_cons_self).bind fun _ _ ↦ ih fun w hw ↦ h w (List.mem_cons_of_mem v hw)

private theorem surveyFields_contained {fields : Fields}
    (h : ∀ f ∈ fields, Contained escapes (Json.survey inner f.2)) :
    Contained escapes (Json.surveyFields inner fields) := by
  induction fields with
  | nil => exact contained_ok ()
  | cons f rest ih =>
    rw [Json.surveyFields]
    exact (h f List.mem_cons_self).bind fun _ _ ↦ ih fun e he ↦ h e (List.mem_cons_of_mem f he)

private theorem survey_str_contained (s : Text) :
    Contained (· = .badValue) (Json.survey inner (.str s)) :=
  survey_contained_of_scalar (fun _ ↦ Value.noConfusion) fun _ ↦ Value.noConfusion

private theorem survey_strings_contained (items : List Text) :
    Contained (· = .badValue) (Json.survey (inner + 1) (.strings items)) := by
  refine surveyItems_contained fun v hv ↦ ?_
  obtain ⟨s, -, rfl⟩ := List.mem_map.1 hv
  exact survey_str_contained s

private theorem survey_dump_contained (shape : ShapeParams) :
    Contained (· = .badValue) (Json.survey (inner + 1) (.object shape.dump)) := by
  have hscalar : ∀ f ∈ shape.dump,
      (∀ items, f.2 ≠ .list items) ∧ ∀ fields, f.2 ≠ .object fields := by
    cases shape <;> simp [ShapeParams.dump]
  exact surveyFields_contained fun f hf ↦
    survey_contained_of_scalar (hscalar f hf).1 (hscalar f hf).2

/-- What a record says about a drawing has no list or object inside another one. -/
private theorem survey_about_contained {w : Work} {d : Drawing}
    (h : w.make context room store = .ok d) :
    ∀ f ∈ d.about, Contained (· = .badValue) (Json.survey (inner + 1) f.2) := by
  cases w with
  | draw name sizes filled char fill direction =>
    unfold Work.make drawShape at h
    dsimp only at h
    split at h
    · cases h
    obtain ⟨shape, -, h⟩ := bind_eq_ok.1 h
    obtain ⟨drawn, -, h⟩ := bind_eq_ok.1 h
    split at h
    all_goals
      obtain ⟨filled, -, h⟩ := bind_eq_ok.1 h
      obtain rfl := Except.ok.inj h
      exact List.forall_mem_cons.2
        ⟨survey_str_contained _, List.forall_mem_singleton.2 (survey_dump_contained shape)⟩
  | banner text char width =>
    have habout : d.about = ([("shape", .str "text"), ("text", .str text)] : Fields) := by
      obtain ⟨drawn, -, h⟩ := bind_eq_ok.1 h
      dsimp only at h
      split at h
      · obtain rfl := Except.ok.inj h
        rfl
      · obtain ⟨cell, -, h⟩ := bind_eq_ok.1 h
        obtain rfl := Except.ok.inj h
        rfl
    rw [habout]
    exact List.forall_mem_cons.2
      ⟨survey_str_contained _, List.forall_mem_singleton.2 (survey_str_contained _)⟩
  | transform source steps =>
    obtain ⟨loaded, -, h⟩ := bind_eq_ok.1 h
    obtain ⟨g, -, h⟩ := bind_eq_ok.1 h
    obtain rfl := Except.ok.inj h
    exact List.forall_mem_cons.2
      ⟨survey_str_contained _, List.forall_mem_singleton.2 (survey_strings_contained steps)⟩
  | recipe document =>
    obtain ⟨text, -, h⟩ := bind_eq_ok.1 h
    obtain ⟨r, -, h⟩ := bind_eq_ok.1 h
    obtain ⟨result, -, h⟩ := bind_eq_ok.1 h
    obtain rfl := Except.ok.inj h
    exact List.forall_mem_cons.2
      ⟨survey_str_contained _, List.forall_mem_singleton.2 (survey_str_contained _)⟩
  | compose document layers =>
    obtain ⟨text, -, h⟩ := bind_eq_ok.1 h
    obtain ⟨c, -, h⟩ := bind_eq_ok.1 h
    obtain ⟨canvas, -, h⟩ := bind_eq_ok.1 h
    obtain rfl := Except.ok.inj h
    exact List.forall_mem_singleton.2 (survey_str_contained _)

/-- Nothing stops the record of a drawing but a whole number with too many digits. -/
theorem toJson_contained {w : Work} {d : Drawing} (h : w.make context room store = .ok d)
    (hroom : 3 ≤ room) (time : Text) :
    Contained (· = .badValue) (d.grid.toJson room d.about time) := by
  obtain ⟨inner, rfl⟩ := Nat.exists_eq_add_of_le' hroom
  refine Contained.bind (surveyFields_contained fun f hf ↦ ?_) fun _ _ ↦ contained_ok _
  rcases List.mem_append.1 (Fields.mem_ofList hf) with hf | hf
  · exact survey_about_contained h f hf
  · simp only [Grid.recordFields, List.mem_cons, List.not_mem_nil, or_false] at hf
    rcases hf with rfl | rfl | rfl | rfl
    · exact survey_contained_of_scalar (fun _ ↦ Value.noConfusion) fun _ ↦ Value.noConfusion
    · exact survey_contained_of_scalar (fun _ ↦ Value.noConfusion) fun _ ↦ Value.noConfusion
    · refine surveyItems_contained fun v hv ↦ ?_
      obtain ⟨row, -, rfl⟩ := List.mem_map.1 hv
      exact survey_strings_contained _
    · exact survey_str_contained time

end Records

end TextArt.CommandLine
