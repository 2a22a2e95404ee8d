import TextArt.Proofs.Containment
import TextArt.Proofs.Fill.Boundary
import TextArt.Proofs.Json.Reader
import TextArt.Proofs.Recipe.Checked
import TextArt.Proofs.Recipe.Run
import TextArt.Proofs.Shape

/-!
# What checked documents fail with

Reading, checking and drawing a document fails with failures of the library, and with four others:
a whole number with too many digits and lists and objects that are nested too deeply stop the
reader, a polygon with too many sides stops drawing, and dots with a negative seed stop filling.
Nothing else gets out of a recipe or a composition.
-/

namespace TextArt

open Schema

variable {escapes : Failure → Prop}

/-! ## Reading and checking -/

theorem Json.load_contained {room : Nat} {subject text : Text}
    (hdigits : HasLongNumber text.toList → escapes .badValue)
    (hnesting : HasDeepNesting room text.toList → escapes .tooDeep) :
    Contained escapes (Source.load subject (.text room text)) := by
  rw [Source.load]
  cases h : read room text with
  | ok v => exact contained_ok v
  | error fault =>
    obtain ⟨hlong, hdeep⟩ := read_fault h
    rw [Source.load.settle]
    split
    · next hcause => exact contained_escape (hdigits (hlong hcause))
    · next hcause => exact contained_escape (hnesting (hdeep hcause))
    · exact contained_reported rfl

theorem Schema.outcome_contained {α : Type} (subject : Text) (c : Checked α) :
    Contained escapes (Checked.outcome subject c) := by
  cases c with
  | ok a => exact contained_ok a
  | error problems => exact contained_reported rfl

/-! ## Shapes and fills -/

namespace ShapeParams

theorem draw_contained {shape : ShapeParams} (hsides : shape.drawable = false → escapes .overflow) :
    Contained escapes shape.draw := by
  cases hdrawable : shape.drawable with
  | false =>
    rw [draw_of_not_drawable hdrawable]
    exact contained_escape (hsides hdrawable)
  | true =>
    cases shape with
    | circle radius filled char => exact contained_ok _
    | rectangle width height char filled => exact contained_ok _
    | polygon sides radius filled char => exact contained_of_ok (if_pos hdrawable)
    | text content =>
      obtain ⟨g, hg, -⟩ := GlyphMap.standard_banner_legible content
      exact contained_of_ok hg

theorem ofUser_contained (shape : Text) (given : Fields) :
    Contained escapes (ofUser shape given) := by
  unfold ofUser
  split
  · exact contained_reported rfl
  · exact outcome_contained _ _

end ShapeParams

/-- Among the failures that may escape are that of a shape that cannot be drawn and that of a fill
with a negative seed, if the given ones are such. -/
structure Admits (escapes : Failure → Prop) (settings : RenderSettings) (shape : ShapeParams)
    (fill : FillSpec) : Prop where
  /-- The polygon has too many sides. -/
  sides : shape.drawable = false → escapes .overflow
  /-- The dots have a negative seed. -/
  seed : fill.NegativeSeed settings → escapes .badValue

theorem Grid.ofLines_contained (lines : List Text) : Contained escapes (ofLines lines) := by
  unfold ofLines ofText
  split
  · exact contained_ok _
  · exact contained_reported rfl

/-! ## Running -/

section Run

variable {context : Script.Context} (hfills : context.fills = .standard)
  (hne : context.settings.render.densityRamp.isEmpty = false)

include hfills hne in
theorem FillSpec.apply_contained {fill : FillSpec}
    (hcheck : ∃ pattern params, check .standard pattern params = .ok fill)
    (hseed : fill.NegativeSeed context.settings.render → escapes .badValue) (index : Nat)
    (g : Grid) : Contained escapes (fill.apply context.fills (context.fillSettings index) g) := by
  obtain ⟨_, _, hcheck⟩ := hcheck
  rw [hfills]
  intro f hf
  rcases (apply_eq_error_iff hne hcheck g f).1 hf with ⟨rfl, hnegative⟩ | ⟨rfl, -⟩
  · exact .inr (hseed hnegative)
  · exact .inl rfl

/-! ### Recipes -/

namespace Recipe

variable {table : SymbolTable} {index : Nat}

private theorem lookup_contained (name operation : Text) :
    Contained escapes (lookup table (.str name) index operation) := by
  rw [lookup_str]
  split
  · exact contained_ok _
  · exact contained_reported rfl

include hfills hne

/-- An operation refers to grids that may not be there, and draws a shape that may not be
drawable. -/
theorem Action.perform_contained {a : Action} (hchecked : a.FillChecked .standard)
    (hadmits : ∀ shape fill, a = .generate shape fill →
      Admits escapes context.settings.render shape fill) :
    Contained escapes (a.perform context table index) := by
  cases a with
  | generate shape fill =>
    have hadmits := hadmits shape fill rfl
    refine (ShapeParams.draw_contained hadmits.sides).bind fun drawn _ ↦ ?_
    refine (FillSpec.apply_contained hfills hne hchecked hadmits.seed index drawn).bind
      fun filled _ ↦ ?_
    exact contained_ok _
  | overlay target source row col transparent char =>
    refine (lookup_contained _ _).bind fun t _ ↦ (lookup_contained _ _).bind fun s _ ↦ ?_
    exact contained_ok _
  | clip source startRow endRow startCol endCol =>
    exact (lookup_contained _ _).bind fun s _ ↦ contained_ok _
  | transform source step => exact (lookup_contained _ _).bind fun s _ ↦ contained_ok _
  | topAppend target source =>
    refine (lookup_contained _ _).bind fun t _ ↦ (lookup_contained _ _).bind fun s _ ↦ ?_
    exact (Grid.ofLines_contained _).bind fun joined _ ↦ contained_ok _
  | bottomAppend target source =>
    refine (lookup_contained _ _).bind fun t _ ↦ (lookup_contained _ _).bind fun s _ ↦ ?_
    exact (Grid.ofLines_contained _).bind fun joined _ ↦ contained_ok _
  | centerHorizontally source targetWidth =>
    exact (lookup_contained _ _).bind fun s _ ↦ contained_ok _

private theorem runFrom_contained {operations : List Operation}
    (hchecked : ∀ o ∈ operations, o.action.FillChecked .standard)
    (hadmits : ∀ o ∈ operations, ∀ shape fill, o.action = .generate shape fill →
      Admits escapes context.settings.render shape fill) :
    Contained escapes ((runFrom context table index operations).mapError Halt.cause) := by
  induction operations generalizing table index with
  | nil => exact contained_ok _
  | cons o rest ih =>
    have hstep : Contained escapes (o.action.perform context table index) :=
      Action.perform_contained hfills hne (hchecked o List.mem_cons_self)
        (hadmits o List.mem_cons_self)
    cases hperform : o.action.perform context table index with
    | error cause =>
      rw [runFrom_cons_of_error rest hperform]
      exact contained_error (hstep cause hperform)
    | ok made =>
      rw [runFrom_cons_of_ok rest hperform]
      exact ih (fun o ho ↦ hchecked o (List.mem_cons_of_mem _ ho))
        (fun o ho ↦ hadmits o (List.mem_cons_of_mem _ ho))

/-- What running a checked recipe can fail with, besides the failures of the library. -/
theorem run_contained {v : Value} {r : Recipe} (hcheck : check .standard v = .ok r)
    (hadmits : ∀ o ∈ r.operations, ∀ shape fill, o.action = .generate shape fill →
      Admits escapes context.settings.render shape fill) :
    Contained escapes ((r.run context).mapError Halt.cause) := by
  have hrun : Contained escapes ((runFrom context [] 0 r.operations).mapError Halt.cause) :=
    runFrom_contained hfills hne (fun o ho ↦ fillChecked_of_mem hcheck ho) hadmits
  unfold run
  cases h : runFrom context [] 0 r.operations with
  | error halt =>
    rw [h] at hrun
    exact contained_error (hrun halt.cause rfl)
  | ok table =>
    have hname : (Value.str r.output).isName = true := rfl
    rw [ok_bind, finish, if_pos hname]
    split
    · exact contained_ok _
    · exact contained_reported rfl

end Recipe

/-! ### Compositions -/

namespace Composition

/-- Every layer lies at a whole row and column. -/
def Aligned {ι : Type} (layers : List (Layer ι)) : Prop :=
  ∀ layer ∈ layers, ∃ row col : Int, layer.row = .whole row ∧ layer.col = .whole col

private theorem aligned_of_place {index : Nat} {canvas canvas' : Composite Grid} {s : PlacedShape}
    (hcanvas : Aligned canvas.layers) (h : place context index canvas s = .ok canvas') :
    Aligned canvas'.layers := by
  obtain ⟨drawn, -, h⟩ := bind_eq_ok.1 h
  obtain ⟨filled, -, h⟩ := bind_eq_ok.1 h
  obtain rfl := Except.ok.inj h
  intro layer hlayer
  rcases List.mem_append.1 hlayer with hlayer | hlayer
  · exact hcanvas layer hlayer
  · obtain rfl := List.mem_singleton.1 hlayer
    exact ⟨_, _, rfl, rfl⟩

private theorem aligned_of_placeFrom {index : Nat} {shapes : List PlacedShape}
    {canvas canvas' : Composite Grid} (hcanvas : Aligned canvas.layers)
    (h : placeFrom context index canvas shapes = .ok canvas') : Aligned canvas'.layers := by
  induction shapes generalizing index canvas with
  | nil =>
    obtain rfl := Except.ok.inj h
    exact hcanvas
  | cons s rest ih =>
    obtain ⟨mid, hplace, h⟩ := bind_eq_ok.1 h
    exact ih (aligned_of_place hcanvas hplace) h

theorem aligned_of_draw {c : Composition} {canvas : Composite Grid}
    (h : c.draw context = .ok canvas) : Aligned canvas.layers := by
  refine aligned_of_placeFrom ?_ h
  intro layer hlayer
  exact (List.not_mem_nil hlayer).elim

include hfills hne

private theorem placeFrom_contained {index : Nat} {canvas : Composite Grid}
    {shapes : List PlacedShape}
    (hchecked : ∀ s ∈ shapes, ∃ pattern params,
      FillSpec.check .standard pattern params = .ok s.fill)
    (hadmits : ∀ s ∈ shapes, Admits escapes context.settings.render s.shape s.fill) :
    Contained escapes (placeFrom context index canvas shapes) := by
  induction shapes generalizing index canvas with
  | nil => exact contained_ok _
  | cons s rest ih =>
    have hplace : Contained escapes (place context index canvas s) := by
      have hadmits := hadmits s List.mem_cons_self
      have hfill := hchecked s List.mem_cons_self
      refine (ShapeParams.draw_contained hadmits.sides).bind fun drawn _ ↦ ?_
      refine (FillSpec.apply_contained hfills hne hfill hadmits.seed index drawn).bind
        fun filled _ ↦ ?_
      exact contained_ok _
    refine hplace.bind fun placed _ ↦ ?_
    exact ih (fun s hs ↦ hchecked s (List.mem_cons_of_mem _ hs))
      (fun s hs ↦ hadmits s (List.mem_cons_of_mem _ hs))

/-- What drawing a checked composition can fail with, besides the failures of the library. -/
theorem draw_contained {v : Value} {c : Composition} (hcheck : check .standard v = .ok c)
    (hadmits : ∀ s ∈ c.shapes, Admits escapes context.settings.render s.shape s.fill) :
    Contained escapes (c.draw context) :=
  placeFrom_contained hfills hne (fun _ hs ↦ fillChecked_of_mem hcheck hs) hadmits

end Composition

end Run

end TextArt
