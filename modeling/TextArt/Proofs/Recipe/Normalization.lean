import TextArt.Proofs.Fill.Normalization
import TextArt.Proofs.Glyph
import TextArt.Proofs.Recipe.Checked
import TextArt.Recipe.Composition

/-!
# Spelling out what has been checked

A checked recipe or composition can be spelled out as a document again: in the spelling of
documents, with all defaults and with every value in the form that the check has given it. Such a
document passes the check, and the result is the recipe or composition that it was spelled out from.
So checking a document and spelling it out is a normalisation: doing it again changes nothing.

Each record comes with a lemma that its check takes what it has been spelled out to. Two things are
not seen from the record alone: a fill has to be one that a check has given, and a name to store
under must not be empty. Both hold of what has passed a check (`Operation.normal_of_check`).
-/

namespace TextArt

open Schema

/-! ## Values -/

namespace Schema

theorem someText_of_named {s : Text} (h : s.isEncodable = true ∧ s.isEmpty = false) :
    someText (.str s) = .ok s :=
  someText_eq_ok.2 ⟨rfl, h⟩

theorem oneChar_singleton (c : Char) : oneChar (.str (Text.singleton c)) = .ok c :=
  oneChar_eq_ok.2 rfl

theorem intFrom_val {least : Nat} (n : AtLeast least) : intFrom least (.int n.val) = .ok n := by
  refine bind_eq_ok.2 ⟨(n.val : Int), rfl, ?_⟩
  rw [dif_pos ⟨n.property, Int.natCast_nonneg n.val⟩]
  rfl

theorem nullable_char (char : Option Char) :
    nullable oneChar (.ofText? (char.map fun c ↦ Text.singleton (.char c))) = .ok char := by
  cases char with
  | none => rfl
  | some c => exact map_eq_ok.2 ⟨c, oneChar_singleton c, rfl⟩

theorem nullable_text (text : Option Text) : nullable anyText (.ofText? text) = .ok text := by
  cases text <;> rfl

theorem required_of_find? {α : Type} {fields : Fields} {k : Key} {check : Value → Checked α}
    {spelling : Text} {v : Value} {x : α} (hfind : k.find? fields = some (spelling, v))
    (hcheck : check v = .ok x) : required fields k check = .ok x :=
  required_eq_ok.2 ⟨spelling, v, hfind, hcheck⟩

theorem optional_of_find? {α : Type} {fields : Fields} {k : Key} {default : α}
    {check : Value → Checked α} {spelling : Text} {v : Value} {x : α}
    (hfind : k.find? fields = some (spelling, v)) (hcheck : check v = .ok x) :
    optional fields k default check = .ok x :=
  optional_eq_ok.2 (.inr ⟨spelling, v, hfind, hcheck⟩)

theorem listOf_map {α : Type} {check : Value → Checked α} {dump : α → Value} {xs : List α}
    (h : ∀ x ∈ xs, check (dump x) = .ok x) : listOf check (.list (xs.map dump)) = .ok xs := by
  refine listOf_eq_ok.2 ⟨xs.map dump, rfl, ?_⟩
  rw [List.map_map]
  exact List.map_congr_left h

end Schema

/-! ## Shapes -/

namespace ShapeParams

private theorem isEncodable_of_isTextChar {s : Text} (h : s.toList.all isTextChar = true) :
    s.isEncodable = true := by
  refine Text.isEncodable_iff.2 fun n hn ↦ ?_
  have hlow := toNat_lt_of_isTextChar (List.all_eq_true.1 h _ hn)
  have hhalf : (CodePoint.half n).toNat = 0xD800 + n.val := rfl
  omega

private theorem glyphText_val (content : GlyphText) :
    glyphText (.str content.val) = .ok content := by
  have hplain := isEncodable_of_isTextChar content.property.2
  refine bind_eq_ok.2 ⟨content.val, someText_of_named ⟨hplain, content.property.1⟩, ?_⟩
  rw [dif_pos content.property]
  rfl

theorem check_dump (shape : ShapeParams) : check shape.kind shape.dump = .ok shape := by
  cases shape with
  | circle radius filled char =>
    refine map_eq_ok.2 ⟨(radius, filled, char, ()), both_eq_ok.2 ⟨?_, both_eq_ok.2 ⟨rfl, ?_⟩⟩, rfl⟩
    · exact required_of_find? rfl (intFrom_val radius)
    · exact both_eq_ok.2 ⟨optional_of_find? rfl (oneChar_singleton char), rfl⟩
  | rectangle width height char filled =>
    refine map_eq_ok.2 ⟨(width, height, char, filled, ()),
      both_eq_ok.2 ⟨?_, both_eq_ok.2 ⟨?_, both_eq_ok.2 ⟨?_, rfl⟩⟩⟩, rfl⟩
    · exact required_of_find? rfl (intFrom_val width)
    · exact required_of_find? rfl (intFrom_val height)
    · exact optional_of_find? rfl (oneChar_singleton char)
  | polygon sides radius filled char =>
    refine map_eq_ok.2 ⟨(sides, radius, filled, char, ()),
      both_eq_ok.2 ⟨?_, both_eq_ok.2 ⟨?_, both_eq_ok.2 ⟨rfl, ?_⟩⟩⟩, rfl⟩
    · exact required_of_find? rfl (intFrom_val sides)
    · exact required_of_find? rfl (intFrom_val radius)
    · exact both_eq_ok.2 ⟨optional_of_find? rfl (oneChar_singleton char), rfl⟩
  | text content =>
    refine map_eq_ok.2 ⟨(content, ()), both_eq_ok.2 ⟨?_, rfl⟩, rfl⟩
    exact required_of_find? rfl (glyphText_val content)

theorem oneOf_name (kind : ShapeKind) : oneOf ShapeKind.choices (.str kind.name) = .ok kind := by
  cases kind <;> rfl

end ShapeParams

/-! ## Operations -/

namespace Recipe

variable {registry : FillRegistry}

/-- The action's fill, if it has one, is what a check leaves as it is. -/
def Action.Normal (registry : FillRegistry) : Action → Prop
  | .generate _ fill => FillSpec.check registry fill.pattern fill.params = .ok fill
  | _ => True

/-- What holds of an operation that has passed its check. -/
structure Operation.Normal (registry : FillRegistry) (o : Operation) : Prop where
  /-- The fill has passed its check. -/
  action : o.action.Normal registry
  /-- The name for the grid can be read, and is not empty. -/
  storeAs : o.storeAs.isEncodable = true ∧ o.storeAs.isEmpty = false

private theorem Action.normal_of_fillChecked {action : Action} (h : action.FillChecked registry) :
    action.Normal registry := by
  cases action with
  | generate shape fill =>
    obtain ⟨pattern, params, hcheck⟩ := h
    exact FillSpec.check_self hcheck
  | _ => trivial

private theorem storeField_eq_ok {fields : Fields} {store : Text}
    (h : storeField fields = .ok store) :
    store.isEncodable = true ∧ store.isEmpty = false := by
  obtain ⟨_, _, -, hstore⟩ := required_eq_ok.1 h
  exact (someText_eq_ok.1 hstore).2

theorem storeField_third {α β γ : Type} {a : Checked α} {b : Checked β} {c : Checked γ}
    {fields : Fields} {x : α × β × Text × γ}
    (h : both a (both b (both (storeField fields) c)) = .ok x) :
    x.2.2.1.isEncodable = true ∧ x.2.2.1.isEmpty = false := by
  obtain ⟨-, h⟩ := both_eq_ok.1 h
  obtain ⟨-, h⟩ := both_eq_ok.1 h
  exact storeField_eq_ok (both_eq_ok.1 h).1

private theorem storeAs_of_checkAppend {make : Text → Text → Action} {fields : Fields}
    {o : Operation} (h : checkAppend make fields = .ok o) :
    o.storeAs.isEncodable = true ∧ o.storeAs.isEmpty = false := by
  obtain ⟨_, hfields, h⟩ := bind_eq_ok.1 h
  obtain rfl := Except.ok.inj h
  exact storeField_third hfields

private theorem storeAs_of_mem_operationChecks {name : Text} {check : Fields → Checked Operation}
    (hcheck : (name, check) ∈ operationChecks registry) {fields : Fields} {o : Operation}
    (h : check fields = .ok o) :
    o.storeAs.isEncodable = true ∧ o.storeAs.isEmpty = false := by
  simp only [operationChecks, List.mem_cons, List.not_mem_nil, or_false, Prod.mk.injEq] at hcheck
  rcases hcheck with ⟨-, rfl⟩ | ⟨-, rfl⟩ | ⟨-, rfl⟩ | ⟨-, rfl⟩ | ⟨-, rfl⟩ | ⟨-, rfl⟩ | ⟨-, rfl⟩
  · -- drawing a shape
    obtain ⟨_, hfields, h⟩ := bind_eq_ok.1 h
    obtain ⟨shape, -, h⟩ := bind_eq_ok.1 h
    obtain ⟨fill, -, h⟩ := bind_eq_ok.1 h
    obtain rfl := Except.ok.inj h
    exact storeField_third hfields
  · -- stamping, where the position, two marks and then the name come after both grids
    obtain ⟨_, hfields, h⟩ := bind_eq_ok.1 h
    obtain rfl := Except.ok.inj h
    obtain ⟨-, hfields⟩ := both_eq_ok.1 hfields
    obtain ⟨-, hfields⟩ := both_eq_ok.1 hfields
    obtain ⟨-, hfields⟩ := both_eq_ok.1 hfields
    exact storeField_third hfields
  · -- cutting out
    obtain ⟨_, hfields, h⟩ := bind_eq_ok.1 h
    obtain rfl := Except.ok.inj h
    exact storeField_third hfields
  · -- transforming, where the parameters come before the name
    obtain ⟨_, hfields, h⟩ := bind_eq_ok.1 h
    obtain ⟨step, -, h⟩ := bind_eq_ok.1 h
    obtain rfl := Except.ok.inj h
    obtain ⟨-, hfields⟩ := both_eq_ok.1 hfields
    exact storeField_third hfields
  · exact storeAs_of_checkAppend h
  · exact storeAs_of_checkAppend h
  · -- padding
    obtain ⟨_, hfields, h⟩ := bind_eq_ok.1 h
    obtain rfl := Except.ok.inj h
    exact storeField_third hfields

private theorem Operation.normal_of_check {v : Value} {r : Recipe} (h : check registry v = .ok r)
    {o : Operation} (ho : o ∈ r.operations) : o.Normal registry := by
  obtain ⟨fields, name, check, hcheck, hok⟩ := exists_check_of_mem h ho
  exact ⟨Action.normal_of_fillChecked (fillChecked_of_mem_operationChecks hcheck hok),
    storeAs_of_mem_operationChecks hcheck hok⟩

private theorem checkTransformParams_dump (step : Transform) :
    ∃ kind params,
      dumpTransform step = [(("type" : Text), .str kind), ("params", .object params)] ∧
        ∃ k, oneOf [("rotate", TransformKind.rotate), ("mirror", .mirror), ("scale", .scale)]
          (.str kind) = .ok k ∧ checkTransformParams k params = .ok step := by
  cases step with
  | rotate r => exact ⟨"rotate", _, rfl, .rotate, rfl, by cases r <;> rfl⟩
  | mirror a => exact ⟨"mirror", _, rfl, .mirror, rfl, by cases a <;> rfl⟩
  | scale s => exact ⟨"scale", _, rfl, .scale, rfl, by cases s <;> rfl⟩

/-- The fields of an operation that is spelled out. -/
def Operation.fields (o : Operation) : Fields :=
  (("operation" : Text), Value.str o.action.name) :: o.action.dump ++
    [(("storeAs" : Text), Value.str o.storeAs)]

private theorem Operation.readable_fields (o : Operation) : readable o.fields = .ok o.fields := by
  obtain ⟨action, storeAs⟩ := o
  cases action with
  | transform source step => cases step <;> rfl
  | _ => rfl

private theorem checkOperation_of_lookup {o o' : Operation} (check : Fields → Checked Operation)
    (hlookup : (operationChecks registry).lookup o.action.name = some check)
    (hcheck : check o.fields = .ok o') : checkOperation registry o.dump = .ok o' := by
  have hname : o.fields.lookup ("operation" : Text) = some (.str o.action.name) := rfl
  have hdump : o.dump = .object o.fields := rfl
  rw [hdump, checkOperation, hname]
  dsimp only
  have hread : readableTag (.str o.action.name) = .ok (.str o.action.name) := by
    cases o.action <;> rfl
  rw [hread, ok_bind, Value.text?, Option.bind_some, hlookup]
  exact under_eq_ok.2 (bind_eq_ok.2 ⟨o.fields, o.readable_fields, hcheck⟩)

private theorem checkOperation_dump {o : Operation} (h : o.Normal registry) :
    checkOperation registry o.dump = .ok o := by
  obtain ⟨action, storeAs⟩ := o
  obtain ⟨haction, hstore⟩ := h
  have hstore := someText_of_named hstore
  cases action with
  | generate shape fill =>
    refine checkOperation_of_lookup (checkGenerate registry) rfl ?_
    refine bind_eq_ok.2 ⟨(shape.kind, shape.dump, storeAs, fill.pattern, fill.params, ()), ?_, ?_⟩
    · refine both_eq_ok.2 ⟨required_of_find? rfl (ShapeParams.oneOf_name _), both_eq_ok.2 ⟨rfl, ?_⟩⟩
      refine both_eq_ok.2 ⟨required_of_find? rfl hstore, both_eq_ok.2 ⟨?_, rfl⟩⟩
      exact optional_of_find? rfl (nullable_text _)
    · refine bind_eq_ok.2 ⟨shape, shape.check_dump, ?_⟩
      exact bind_eq_ok.2 ⟨fill, haction, rfl⟩
  | overlay target source row col transparent char =>
    refine checkOperation_of_lookup checkOverlay rfl ?_
    refine bind_eq_ok.2 ⟨(target, source, (row, col), transparent, char, storeAs, ()), ?_, rfl⟩
    refine both_eq_ok.2 ⟨rfl, both_eq_ok.2 ⟨rfl, both_eq_ok.2 ⟨rfl, both_eq_ok.2 ⟨rfl, ?_⟩⟩⟩⟩
    refine both_eq_ok.2 ⟨optional_of_find? rfl (nullable_char char), both_eq_ok.2 ⟨?_, rfl⟩⟩
    exact required_of_find? rfl hstore
  | clip source startRow endRow startCol endCol =>
    refine checkOperation_of_lookup checkClip rfl ?_
    refine bind_eq_ok.2 ⟨(source, (startRow, endRow, startCol, endCol), storeAs, ()), ?_, rfl⟩
    refine both_eq_ok.2 ⟨rfl, both_eq_ok.2 ⟨rfl, both_eq_ok.2 ⟨?_, rfl⟩⟩⟩
    exact required_of_find? rfl hstore
  | transform source step =>
    obtain ⟨kind, params, hdump, k, hkind, hparams⟩ := checkTransformParams_dump step
    have hfields : Operation.fields ⟨.transform source step, storeAs⟩ =
        [(("operation" : Text), .str "transform"), ("source", .str source), ("type", .str kind),
          ("params", .object params), ("storeAs", .str storeAs)] := by
      rw [Operation.fields, Action.dump, hdump]
      rfl
    refine checkOperation_of_lookup checkTransform rfl ?_
    rw [hfields]
    refine bind_eq_ok.2 ⟨(source, k, params, storeAs, ()), ?_, bind_eq_ok.2 ⟨step, hparams, rfl⟩⟩
    refine both_eq_ok.2 ⟨rfl, both_eq_ok.2 ⟨required_of_find? rfl hkind, both_eq_ok.2 ⟨rfl, ?_⟩⟩⟩
    exact both_eq_ok.2 ⟨required_of_find? rfl hstore, rfl⟩
  | topAppend target source =>
    refine checkOperation_of_lookup (checkAppend .topAppend) rfl ?_
    refine bind_eq_ok.2 ⟨(target, source, storeAs, ()), ?_, rfl⟩
    refine both_eq_ok.2 ⟨rfl, both_eq_ok.2 ⟨rfl, both_eq_ok.2 ⟨?_, rfl⟩⟩⟩
    exact required_of_find? rfl hstore
  | bottomAppend target source =>
    refine checkOperation_of_lookup (checkAppend .bottomAppend) rfl ?_
    refine bind_eq_ok.2 ⟨(target, source, storeAs, ()), ?_, rfl⟩
    refine both_eq_ok.2 ⟨rfl, both_eq_ok.2 ⟨rfl, both_eq_ok.2 ⟨?_, rfl⟩⟩⟩
    exact required_of_find? rfl hstore
  | centerHorizontally source targetWidth =>
    refine checkOperation_of_lookup checkCenter rfl ?_
    refine bind_eq_ok.2 ⟨(source, targetWidth, storeAs, ()), ?_, rfl⟩
    refine both_eq_ok.2 ⟨rfl, both_eq_ok.2 ⟨required_of_find? rfl (intFrom_val _), ?_⟩⟩
    exact both_eq_ok.2 ⟨required_of_find? rfl hstore, rfl⟩

private theorem nonempty_of_check {v : Value} {r : Recipe} (h : check registry v = .ok r) :
    r.operations.isEmpty = false ∧ r.output.isEncodable = true ∧ r.output.isEmpty = false := by
  obtain ⟨_, -, h⟩ := bind_eq_ok.1 h
  obtain ⟨_, hfields, h⟩ := bind_eq_ok.1 h
  obtain rfl := Except.ok.inj h
  obtain ⟨hoperations, hfields⟩ := both_eq_ok.1 hfields
  obtain ⟨_, _, -, hoperations⟩ := required_eq_ok.1 hoperations
  obtain ⟨_, _, -, houtput⟩ := required_eq_ok.1 (both_eq_ok.1 hfields).1
  obtain ⟨operations, -, hoperations⟩ := bind_eq_ok.1 hoperations
  refine ⟨?_, (someText_eq_ok.1 houtput).2⟩
  split at hoperations
  · cases hoperations
  · next hne =>
    rw [← Except.ok.inj hoperations]
    exact Bool.eq_false_iff.2 hne

private theorem check_dump {v : Value} {r : Recipe} (h : check registry v = .ok r) :
    check registry r.dump = .ok r := by
  have hnormal : ∀ o ∈ r.operations, o.Normal registry := fun o ho ↦ Operation.normal_of_check h ho
  obtain ⟨hnonempty, houtput⟩ := nonempty_of_check h
  have hoperations : checkOperations registry (.list (r.operations.map Operation.dump)) =
      .ok r.operations := by
    refine bind_eq_ok.2 ⟨r.operations, listOf_map fun o ho ↦ checkOperation_dump (hnormal o ho), ?_⟩
    rw [hnonempty]
    rfl
  refine bind_eq_ok.2 ⟨_, rfl, bind_eq_ok.2 ⟨(r.operations, r.output, ()), ?_, rfl⟩⟩
  refine both_eq_ok.2 ⟨required_of_find? rfl hoperations, both_eq_ok.2 ⟨?_, rfl⟩⟩
  exact required_of_find? rfl (someText_of_named houtput)

end Recipe

/-! ## Compositions -/

namespace Composition

variable {registry : FillRegistry}

private theorem checkPlacement_dump (p : Placement) : checkPlacement (dumpPlacement p) = .ok p := by
  have hanchor : oneOf anchorChoices (.str p.anchor.name) = .ok p.anchor := by
    cases p.anchor <;> rfl
  refine bind_eq_ok.2 ⟨_, rfl, bind_eq_ok.2
    ⟨(p.anchor, p.offsetRow, p.offsetCol, p.char, ()), ?_, rfl⟩⟩
  refine both_eq_ok.2 ⟨optional_of_find? rfl hanchor, both_eq_ok.2 ⟨rfl, both_eq_ok.2 ⟨rfl, ?_⟩⟩⟩
  exact both_eq_ok.2 ⟨optional_of_find? rfl (nullable_char p.char), rfl⟩

private theorem checkShape_dump {v : Value} {s : PlacedShape} (h : checkShape registry v = .ok s) :
    checkShape registry (dumpShape s) = .ok s := by
  obtain ⟨_, _, hchecked⟩ := fillChecked_of_checkShape h
  have hfill : FillSpec.check registry s.fill.pattern s.fill.params = .ok s.fill :=
    FillSpec.check_self hchecked
  refine bind_eq_ok.2 ⟨_, rfl, bind_eq_ok.2
    ⟨(s.shape.kind, s.shape.dump, s.placement, s.fill.pattern, s.fill.params, ()), ?_, ?_⟩⟩
  · refine both_eq_ok.2 ⟨required_of_find? rfl (ShapeParams.oneOf_name _), both_eq_ok.2 ⟨rfl, ?_⟩⟩
    refine both_eq_ok.2 ⟨optional_of_find? rfl (checkPlacement_dump _), both_eq_ok.2 ⟨?_, rfl⟩⟩
    exact optional_of_find? rfl (nullable_text _)
  · refine bind_eq_ok.2 ⟨s.shape, s.shape.check_dump, ?_⟩
    exact bind_eq_ok.2 ⟨s.fill, hfill, rfl⟩

private theorem check_dump {v : Value} {c : Composition} (h : check registry v = .ok c) :
    check registry c.dump = .ok c := by
  have hshapes : ∀ s ∈ c.shapes, checkShape registry (dumpShape s) = .ok s := by
    intro s hs
    obtain ⟨item, hitem⟩ := exists_checkShape_of_mem h hs
    exact checkShape_dump hitem
  refine bind_eq_ok.2 ⟨_, rfl, bind_eq_ok.2 ⟨(c.width, c.height, c.shapes, ()), ?_, rfl⟩⟩
  refine both_eq_ok.2 ⟨required_of_find? rfl (intFrom_val c.width), both_eq_ok.2 ⟨?_, ?_⟩⟩
  · exact required_of_find? rfl (intFrom_val c.height)
  · exact both_eq_ok.2 ⟨optional_of_find? rfl (listOf_map hshapes), rfl⟩

end Composition

/-! ## Documents -/

/-- **Normalisation.** What an accepted document comes to is spelled out as a document that comes to
the same, and so is spelled out as itself, whatever fills are registered. -/
theorem parse_dump_of_parse (registry : FillRegistry) :
    (∀ source r, Recipe.parse registry source = .ok r →
        Recipe.parse registry (.value r.dump) = .ok r) ∧
      ∀ source c, Composition.parse registry source = .ok c →
        Composition.parse registry (.value c.dump) = .ok c := by
  constructor
  · intro source r h
    obtain ⟨v, -, hcheck⟩ := bind_eq_ok.1 h
    have hself := Recipe.check_dump (outcome_eq_ok.1 hcheck)
    exact bind_eq_ok.2 ⟨r.dump, rfl, outcome_eq_ok.2 hself⟩
  · intro source c h
    obtain ⟨v, -, hcheck⟩ := bind_eq_ok.1 h
    have hself := Composition.check_dump (outcome_eq_ok.1 hcheck)
    exact bind_eq_ok.2 ⟨c.dump, rfl, outcome_eq_ok.2 hself⟩

/-- A recipe with second spellings, and with values that the check converts. -/
def mixedRecipe : Value := .object [
  ("operations", .list [.object [("operation", .str "generate"), ("shape", .str "circle"),
    ("params", .object [("radius", .str " 2 "), ("filled", .str "No")]),
    ("fill_pattern", .str "gradient"),
    ("fillParams", .object [("reverse", .int 1), ("densityString", .str " .#")]),
    ("store_as", .str "a")]]),
  ("output", .str "a")]

/-- The same recipe, spelled out. -/
def plainRecipe : Value := .object [
  ("recipe", .list [.object [("operation", .str "generate"), ("shape", .str "circle"),
    ("params", .object [("radius", .int 2), ("filled", .bool false), ("char", .str "*")]),
    ("fillPattern", .str "gradient"),
    ("fillParams", .object [("density_string", .str " .#"), ("reverse", .bool true)]),
    ("storeAs", .str "a")]]),
  ("output", .str "a")]

/-- A composition with values that the check converts and fields that are left out. -/
def mixedComposition : Value := .object [("width", .float 5), ("height", .bool true),
  ("shapes", .list [.object [("type", .str "text"), ("params", .object [("text", .str "HI")]),
    ("placement", .object [("offset_row", .str "-1.0")])]])]

/-- The same composition, spelled out. -/
def plainComposition : Value := .object [("width", .int 5), ("height", .int 1),
  ("shapes", .list [.object [("type", .str "text"), ("params", .object [("text", .str "HI")]),
    ("placement", .object [("anchor", .str "center"), ("offsetRow", .int (-1)),
      ("offsetCol", .int 0), ("char", .null)]),
    ("fillPattern", .null), ("fillParams", .object [])]])]

/-- Both documents are spelled out as the plain ones, which come to the same. -/
theorem mixedDocuments_normalize :
    (∃ r, Recipe.parse .standard (.value mixedRecipe) = .ok r ∧ r.dump = plainRecipe ∧
      Recipe.parse .standard (.value plainRecipe) = .ok r) ∧
    ∃ c, Composition.parse .standard (.value mixedComposition) = .ok c ∧
      c.dump = plainComposition ∧
      Composition.parse .standard (.value plainComposition) = .ok c := by
  obtain ⟨hrecipe, hcomposition⟩ := parse_dump_of_parse .standard
  constructor
  · obtain ⟨r, hr, hdump⟩ : ∃ r, Recipe.parse .standard (.value mixedRecipe) = .ok r ∧
        r.dump = plainRecipe := ⟨_, rfl, rfl⟩
    exact ⟨r, hr, hdump, hdump ▸ hrecipe _ r hr⟩
  · obtain ⟨c, hc, hdump⟩ : ∃ c, Composition.parse .standard (.value mixedComposition) = .ok c ∧
        c.dump = plainComposition := ⟨_, rfl, rfl⟩
    exact ⟨c, hc, hdump, hdump ▸ hcomposition _ c hc⟩

end TextArt
