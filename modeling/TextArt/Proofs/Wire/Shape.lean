import TextArt.Proofs.Number
import TextArt.Proofs.Wire.Fields
import TextArt.Recipe.ShapeParams

/-!
# Drawing with parameters in wire form

A shape that is asked for with parameters in wire form is the shape that the checked parameters
draw.
-/

namespace TextArt

open Schema Fields

namespace Shape

variable {params : Fields}

theorem squareRadius_natCast (n : Nat) : squareRadius (.int n) = .ok n := by
  have hdefn : squareRadius (.int n) =
      if (n : Int) < 0 then .error (.badDimensions (.int (n * 2 + 1)) (.int (n * 2 + 1)))
      else .ok (n : Int).toNat := rfl
  rw [hdefn, if_neg (by omega), Int.toNat_natCast]

/-- The characters of a text are asked for one by one. -/
theorem requestBanner_text (glyphs : GlyphMap) {s : Text} (hs : s.isEmpty = false) :
    requestBanner glyphs (.str s) = glyphs.banner (s.toList.map Text.singleton) := by
  have htruthy : (Value.str s).truthy = true := by rw [Value.truthy, hs]; rfl
  rw [requestBanner, if_pos htruthy, Value.parts, ok_bind, List.mapM_map, GlyphMap.banner,
    List.mapM_map]
  -- there is a first character, so the list of glyphs is not empty
  cases hlist : s.toList with
  | nil =>
    rw [Text.toList_eq_nil_iff.1 hlist] at hs
    cases hs
  | cons c rest =>
    rw [List.mapM_cons, List.mapM_cons]
    change (glyphs.glyph (Text.singleton c) >>= _) >>= _ =
      (glyphs.glyph (Text.singleton c) >>= fun first ↦
        rest.mapM (glyphs.glyph ∘ Text.singleton) >>= fun others ↦
          .ok (first :: others)) >>= _
    cases glyphs.glyph (Text.singleton c) with
    | error cause => rfl
    | ok first =>
      rw [ok_bind, ok_bind]
      change (rest.mapM (glyphs.glyph ∘ Text.singleton) >>= _) >>= _ = _
      cases rest.mapM (glyphs.glyph ∘ Text.singleton) <;> rfl

theorem requestNew_positive (width height : Positive) :
    Grid.requestNew (.int width.val) (.int height.val) =
      .ok (Grid.blank width.val height.val width.property height.property) := by
  have hwidth := width.property
  have hheight := height.property
  have hnumber (n : Nat) : (Value.int n).number = .ok (.whole n) := rfl
  have hpositive (n : Nat) (hn : 1 ≤ n) : (Number.whole n).le (.whole 0) = false := by
    rw [Number.le_whole, decide_eq_false_iff_not]
    omega
  rw [Grid.requestNew, hnumber, ok_bind, hpositive _ hwidth, if_neg Bool.false_ne_true, hnumber,
    ok_bind, hpositive _ hheight, if_neg Bool.false_ne_true]
  dsimp only
  rw [Grid.blank?, dif_pos (by omega)]
  rfl

private theorem requestCircle_of_check (h : params.WireForm) {shape : ShapeParams}
    (hcheck : ShapeParams.check .circle params = .ok shape) :
    requestCircle params = shape.draw := by
  obtain ⟨-, hcheck⟩ := readable_bind_eq_ok.1 hcheck
  obtain ⟨⟨radius, filled, char, _⟩, hboth, rfl⟩ := map_eq_ok.1 hcheck
  obtain ⟨hradius, hboth⟩ := both_eq_ok.1 hboth
  obtain ⟨hfilled, hboth⟩ := both_eq_ok.1 hboth
  obtain ⟨hchar, hothers⟩ := both_eq_ok.1 hboth
  have hradius : params.lookup ("radius" : Text) = some (.int radius.val) :=
    lookup_atLeast h (by decide) rfl hradius
  have hfilled : params.argument "filled" (.bool false) = .bool filled :=
    argument_flag h (by decide) rfl hfilled
  have hchar : params.argument "char" defaultChar = .str (Text.singleton char) :=
    argument_char h.spelled (by decide) hchar
  have haccept : params.accept ["radius"] ["filled", "char"] = .ok () := by
    refine accept_eq_ok (by simp) ?_ hothers
    rw [List.all_cons, hradius]
    rfl
  rw [requestCircle, haccept, ok_bind, hchar, Value.cell_singleton, ok_bind,
    argument_of_lookup hradius, squareRadius_natCast, ok_bind, hfilled]
  rfl

private theorem requestRectangle_of_check (h : params.WireForm) {shape : ShapeParams}
    (hcheck : ShapeParams.check .rectangle params = .ok shape) :
    requestRectangle params = shape.draw := by
  obtain ⟨-, hcheck⟩ := readable_bind_eq_ok.1 hcheck
  obtain ⟨⟨width, height, char, filled, _⟩, hboth, rfl⟩ := map_eq_ok.1 hcheck
  obtain ⟨hwidth, hboth⟩ := both_eq_ok.1 hboth
  obtain ⟨hheight, hboth⟩ := both_eq_ok.1 hboth
  obtain ⟨hchar, hboth⟩ := both_eq_ok.1 hboth
  obtain ⟨hfilled, hothers⟩ := both_eq_ok.1 hboth
  have hwidth : params.lookup ("width" : Text) = some (.int width.val) :=
    lookup_atLeast h (by decide) rfl hwidth
  have hheight : params.lookup ("height" : Text) = some (.int height.val) :=
    lookup_atLeast h (by decide) rfl hheight
  have hfilled : params.argument "filled" (.bool false) = .bool filled :=
    argument_flag h (by decide) rfl hfilled
  have hchar : params.argument "char" defaultChar = .str (Text.singleton char) :=
    argument_char h.spelled (by decide) hchar
  have haccept : params.accept ["width", "height"] ["char", "filled"] = .ok () := by
    refine accept_eq_ok (by simp [or_assoc]) ?_ hothers
    rw [List.all_cons, List.all_cons, hwidth, hheight]
    rfl
  rw [requestRectangle, haccept, ok_bind, argument_of_lookup hwidth, argument_of_lookup hheight,
    requestNew_positive, ok_bind, hchar, Value.cell_singleton, ok_bind, hfilled]
  rfl

private theorem requestPolygon_of_check (h : params.WireForm) {shape : ShapeParams}
    (hcheck : ShapeParams.check .polygon params = .ok shape) :
    requestPolygon params = shape.draw := by
  obtain ⟨-, hcheck⟩ := readable_bind_eq_ok.1 hcheck
  obtain ⟨⟨sides, radius, filled, char, _⟩, hboth, rfl⟩ := map_eq_ok.1 hcheck
  obtain ⟨hsides, hboth⟩ := both_eq_ok.1 hboth
  obtain ⟨hradius, hboth⟩ := both_eq_ok.1 hboth
  obtain ⟨hfilled, hboth⟩ := both_eq_ok.1 hboth
  obtain ⟨hchar, hothers⟩ := both_eq_ok.1 hboth
  have hsides : params.lookup ("sides" : Text) = some (.int sides.val) :=
    lookup_atLeast h (by decide) rfl hsides
  have hradius : params.lookup ("radius" : Text) = some (.int radius.val) :=
    lookup_atLeast h (by decide) rfl hradius
  have hfilled : params.argument "filled" (.bool false) = .bool filled :=
    argument_flag h (by decide) rfl hfilled
  have hchar : params.argument "char" defaultChar = .str (Text.singleton char) :=
    argument_char h.spelled (by decide) hchar
  have haccept : params.accept ["sides", "radius"] ["filled", "char"] = .ok () := by
    refine accept_eq_ok (by simp [or_assoc]) ?_ hothers
    rw [List.all_cons, List.all_cons, hsides, hradius]
    rfl
  have hnumber : (Value.int sides.val).number = .ok (.whole sides.val) := rfl
  have hmany : (Number.whole sides.val).lt (.whole 3) = false := by
    have hthree := sides.property
    rw [Number.lt_whole, decide_eq_false_iff_not]
    omega
  rw [requestPolygon, haccept, ok_bind, hchar, Value.cell_singleton, ok_bind,
    argument_of_lookup hsides]
  dsimp only
  rw [hnumber, ok_bind, hmany, if_neg Bool.false_ne_true, argument_of_lookup hradius,
    squareRadius_natCast, ok_bind, hfilled]
  rfl

private theorem requestText_of_check (h : params.WireForm) {shape : ShapeParams}
    (hcheck : ShapeParams.check .text params = .ok shape) :
    requestText params = shape.draw := by
  obtain ⟨-, hcheck⟩ := readable_bind_eq_ok.1 hcheck
  obtain ⟨⟨content, _⟩, hboth, rfl⟩ := map_eq_ok.1 hcheck
  obtain ⟨hcontent, hothers⟩ := both_eq_ok.1 hboth
  obtain ⟨v, hcontent, hv⟩ := lookup_of_required h.spelled (by decide) hcontent
  obtain ⟨s, hs, hglyphs⟩ := bind_eq_ok.1 hv
  obtain ⟨rfl, -, hne⟩ := someText_eq_ok.1 hs
  have hcontent : params.lookup ("text" : Text) = some (.str s) := hcontent
  have hval : content.val = s := by
    split at hglyphs
    · exact congrArg Subtype.val (Except.ok.inj hglyphs).symm
    · cases hglyphs
  have hglyphs : params.argument "glyphs" .null = .null := by
    rcases params.argument_cases "glyphs" .null with ⟨-, hnone⟩ | ⟨v, hv, -⟩
    · exact hnone
    · have hmem : ("glyphs" : Text) ∈ [("text" : Text)] := mem_of_noOthers hothers _ hv
      exact absurd hmem (by decide)
  have haccept : params.accept ["text"] ["glyphs"] = .ok () := by
    refine accept_eq_ok (fun name hname ↦ .inl hname) ?_ hothers
    rw [List.all_cons, hcontent]
    rfl
  rw [requestText, haccept, ok_bind, hglyphs, argument_of_lookup hcontent]
  dsimp only
  rw [requestBanner_text _ hne, ← hval]
  rfl

theorem request_name (kind : ShapeKind) :
    request (.str kind.name) (.object params) = requestKind kind params := by
  have hkind : ShapeKind.ofRequest (.str kind.name) = .ok kind := by
    cases kind <;> rfl
  rw [request, hkind, ok_bind, Value.arguments, ok_bind]

/-- **Shapes.** A shape that is asked for with parameters in wire form is what the checked
parameters draw. -/
theorem request_of_check (h : params.WireForm) {kind : ShapeKind} {shape : ShapeParams}
    (hcheck : ShapeParams.check kind params = .ok shape) :
    request (.str kind.name) (.object params) = shape.draw := by
  rw [request_name]
  cases kind with
  | circle => exact requestCircle_of_check h hcheck
  | rectangle => exact requestRectangle_of_check h hcheck
  | polygon => exact requestPolygon_of_check h hcheck
  | text => exact requestText_of_check h hcheck

end Shape

end TextArt
