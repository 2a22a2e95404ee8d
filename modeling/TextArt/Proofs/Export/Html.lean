import TextArt.Export.Html
import TextArt.Proofs.Grid.ReadBack

/-!
# What the HTML of a grid tells

Nothing that a cell holds is left bare in HTML: every `<` there belongs to a tag of the grid itself.
So the tags of the text are known from the size of the grid alone (`tagNames_toHtml`), and what
stands between them are the cells, one after the other. Neither the size nor a cell is lost on the
way (`toHtml_tells_grids_apart`), and that although an entity is longer than the character it stands
for and a hidden cell leaves nothing between its tags.
-/

namespace TextArt

namespace Html

/-! ## Tags -/

/-- What stands between each `<` of a text and the next `>`. -/
def tagNames : List CodePoint → List (List CodePoint)
  | [] => []
  | c :: rest => if c = '<' then rest.takeWhile (· ≠ .char '>') :: tagNames rest else tagNames rest

/-- The tags of one cell. -/
def cellTagNames : List (List CodePoint) := [("span" : Text).toList, ("/span" : Text).toList]

/-- The tags of a row with so many cells. -/
def rowTagNames (width : Nat) : List (List CodePoint) :=
  (List.replicate width cellTagNames).flatten ++ [("br" : Text).toList]

private theorem length_tagNames (s : List CodePoint) :
    (tagNames s).length = s.count (.char '<') := by
  induction s with
  | nil => rfl
  | cons c rest ih =>
    rw [tagNames, List.count_cons]
    by_cases hc : c = '<'
    · rw [if_pos hc, List.length_cons, ih, if_pos (by simpa using hc)]
    · rw [if_neg hc, ih, if_neg (by simpa using hc), Nat.add_zero]

private theorem tagNames_append_of_not_mem {s : List CodePoint} (h : CodePoint.char '<' ∉ s)
    (rest : List CodePoint) :
    tagNames (s ++ rest) = tagNames rest := by
  induction s with
  | nil => rfl
  | cons c more ih =>
    obtain ⟨hc, hmore⟩ := not_or.1 (mt List.mem_cons.2 h)
    rw [List.cons_append, tagNames, if_neg (Ne.symm hc), ih hmore]

theorem not_mem_escape (s : List CodePoint) : CodePoint.char '<' ∉ escape s := by
  intro h
  obtain ⟨c, -, hc⟩ := List.mem_flatMap.1 h
  unfold escapeChar at hc
  split at hc
  case h_6 _ _ hlt _ _ _ => exact hlt (List.mem_singleton.1 hc).symm
  all_goals exact absurd hc (by decide)

theorem cell_append (c : Cell) (rest : List CodePoint) :
    cell c ++ rest =
      ("<span>" : Text).toList ++ (escape c.text.toList ++ (("</span>" : Text).toList ++ rest)) :=
  (List.append_assoc _ _ rest).trans (List.append_assoc _ _ _)

private theorem tagNames_cell (c : Cell) (rest : List CodePoint) :
    tagNames (cell c ++ rest) = cellTagNames ++ tagNames rest := by
  have hopen : ∀ more, tagNames (("<span>" : Text).toList ++ more) =
      ("span" : Text).toList :: tagNames more :=
    fun _ ↦ rfl
  have hclose : ∀ more, tagNames (("</span>" : Text).toList ++ more) =
      ("/span" : Text).toList :: tagNames more :=
    fun _ ↦ rfl
  rw [cell_append, hopen, tagNames_append_of_not_mem (not_mem_escape _), hclose]
  rfl

private theorem tagNames_cells (cells : List Cell) (rest : List CodePoint) :
    tagNames (cells.flatMap cell ++ rest) =
      (List.replicate cells.length cellTagNames).flatten ++ tagNames rest := by
  induction cells with
  | nil => rfl
  | cons c more ih =>
    rw [List.flatMap_cons, List.append_assoc, tagNames_cell, ih, List.length_cons,
      List.replicate_succ, List.flatten_cons, List.append_assoc]

private theorem tagNames_row (cells : List Cell) (rest : List CodePoint) :
    tagNames (row cells ++ rest) = rowTagNames cells.length ++ tagNames rest := by
  have hbreak : ∀ more, tagNames (("<br>" : Text).toList ++ more) =
      ("br" : Text).toList :: tagNames more :=
    fun _ ↦ rfl
  rw [row, List.append_assoc, tagNames_cells, hbreak, rowTagNames, List.append_assoc]
  rfl

private theorem tagNames_rows {width : Nat} {rows : List (List Cell)}
    (h : ∀ cells ∈ rows, cells.length = width) :
    tagNames (rows.flatMap row) = (List.replicate rows.length (rowTagNames width)).flatten := by
  induction rows with
  | nil => rfl
  | cons cells more ih =>
    rw [List.flatMap_cons, tagNames_row, h cells List.mem_cons_self,
      ih fun r hr ↦ h r (List.mem_cons_of_mem _ hr), List.length_cons, List.replicate_succ,
      List.flatten_cons]

private theorem length_rowTagNames (width : Nat) : (rowTagNames width).length = 2 * width + 1 := by
  rw [rowTagNames, List.length_append, List.length_flatten, List.map_replicate,
    List.sum_replicate_nat]
  exact congrArg (· + 1) (Nat.mul_comm width 2)

/-! ## Texts between tags -/

private theorem eq_of_append_cons_eq {c : CodePoint} {a b x y : List CodePoint} (ha : c ∉ a)
    (hb : c ∉ b) (h : a ++ c :: x = b ++ c :: y) : a = b ∧ x = y := by
  induction a generalizing b with
  | nil =>
    cases b with
    | nil => exact ⟨rfl, List.tail_eq_of_cons_eq h⟩
    | cons d b => exact absurd (List.head_eq_of_cons_eq h ▸ List.mem_cons_self) hb
  | cons d a ih =>
    cases b with
    | nil => exact absurd (List.head_eq_of_cons_eq h ▸ List.mem_cons_self) ha
    | cons e b =>
      obtain ⟨rfl, htail⟩ := List.cons.inj h
      obtain ⟨rfl, hxy⟩ :=
        ih (mt (List.mem_cons_of_mem d) ha) (mt (List.mem_cons_of_mem d) hb) htail
      exact ⟨rfl, hxy⟩

private theorem escapeChar_injective : Function.Injective escapeChar := by
  intro c d h
  unfold escapeChar at h
  split at h <;> split at h <;> simp_all

private theorem escapeChar_ne_nil (c : CodePoint) : escapeChar c ≠ [] := by
  unfold escapeChar
  split <;> simp

private theorem escape_text_injective : Function.Injective fun c : Cell ↦ escape c.text.toList := by
  have hsingle : ∀ c : CodePoint, escape (Text.singleton c).toList = escapeChar c := by
    intro c
    rw [Text.toList_singleton, escape, List.flatMap_cons, List.flatMap_nil, List.append_nil]
  have hchar : Function.Injective fun c ↦ escape (Text.singleton c).toList :=
    fun c d h ↦ escapeChar_injective ((hsingle c).symm.trans (h.trans (hsingle d)))
  have hempty : ∀ c, escape (Text.singleton c).toList ≠ escape ("" : Text).toList :=
    fun c h ↦ escapeChar_ne_nil c ((hsingle c).symm.trans h)
  exact @Grid.injective_comp_text _ (fun s ↦ escape s.toList) hchar hempty

private theorem eq_of_cell_append_eq {c d : Cell} {x y : List CodePoint}
    (h : cell c ++ x = cell d ++ y) :
    c = d ∧ x = y := by
  rw [cell_append, cell_append] at h
  obtain ⟨htext, hrest⟩ :=
    eq_of_append_cons_eq (not_mem_escape _) (not_mem_escape _) (List.append_cancel_left h)
  exact ⟨escape_text_injective htext, List.append_cancel_left hrest⟩

private theorem eq_of_row_append_eq {cells others : List Cell} {x y : List CodePoint}
    (h : row cells ++ x = row others ++ y) : cells = others ∧ x = y := by
  -- a row without cells is a break, which no cell starts like
  have hend : ∀ (c : Cell) (more : List Cell) (x y : List CodePoint),
      row [] ++ x ≠ row (c :: more) ++ y := by
    intro c more x y h
    cases h
  induction cells generalizing others with
  | nil =>
    cases others with
    | nil => exact ⟨rfl, List.append_cancel_left h⟩
    | cons d more => exact absurd h (hend d more x y)
  | cons c rest ih =>
    cases others with
    | nil => exact absurd h.symm (hend c rest y x)
    | cons d more =>
      have hcons : ∀ (e : Cell) (es : List Cell), row (e :: es) = cell e ++ row es := by
        intro e es
        rw [row, List.flatMap_cons, List.append_assoc, row]
      rw [hcons, hcons, List.append_assoc, List.append_assoc] at h
      obtain ⟨rfl, hmore⟩ := eq_of_cell_append_eq h
      obtain ⟨rfl, hxy⟩ := ih hmore
      exact ⟨rfl, hxy⟩

private theorem rows_injective :
    Function.Injective fun rows : List (List Cell) ↦ rows.flatMap row := by
  have hne : ∀ (cells : List Cell) (x : List CodePoint), row cells ++ x ≠ [] := by
    intro cells x h
    have hrow := (List.append_eq_nil_iff.1 h).1
    exact absurd (List.append_eq_nil_iff.1 hrow).2 (by decide)
  intro rows others h
  induction rows generalizing others with
  | nil =>
    cases others with
    | nil => rfl
    | cons cells more => exact absurd h.symm (hne cells _)
  | cons cells rest ih =>
    cases others with
    | nil => exact absurd h (hne cells _)
    | cons cells' more =>
      obtain ⟨rfl, hmore⟩ := eq_of_row_append_eq h
      rw [ih hmore]

end Html

namespace Grid

private theorem tagNames_toHtml (g : Grid) :
    Html.tagNames g.toHtml.toList =
      (List.replicate g.height (Html.rowTagNames g.width)).flatten := by
  rw [toHtml, Text.toList_ofList, Html.tagNames_rows fun _ ↦ length_of_mem_rowList,
    length_rowList]

/-- **HTML tells grids apart.** Grids with the same HTML are the same, whatever their cells hold.
Every `<` of the HTML belongs to a tag of the grid: each row has the opening and the closing tag of
its cells, one after the other, and then its break. -/
theorem toHtml_tells_grids_apart :
    Function.Injective toHtml ∧
    ∀ g : Grid,
      Html.tagNames g.toHtml.toList =
        (List.replicate g.height (Html.rowTagNames g.width)).flatten ∧
      g.toHtml.toList.count (.char '<') = 2 * (g.width * g.height) + g.height := by
  refine ⟨fun g h heq ↦ ?_, fun g ↦ ⟨tagNames_toHtml g, ?_⟩⟩
  · exact rowList_injective (Html.rows_injective (Text.ofList_injective heq))
  · have hrows : g.height * (2 * g.width + 1) = 2 * (g.width * g.height) + g.height := by
      rw [Nat.mul_add, Nat.mul_one, Nat.mul_left_comm, Nat.mul_comm g.height]
    rw [← Html.length_tagNames, tagNames_toHtml, List.length_flatten, List.map_replicate,
      List.sum_replicate_nat, Html.length_rowTagNames, hrows]

end Grid

end TextArt
