import TextArt.Proofs.Outcome
import TextArt.Proofs.Request.Texts

/-!
# Painting with legible inks

An ink that is read from a value has the characters of that value, and painting brings no others
into a grid: each new cell is an old one or the single character of a text of the ink.
-/

namespace TextArt

/-! ## Inks -/

/-- All texts of the ink are legible. -/
def Ink.Legible : Ink → Prop
  | .uniform text => Text.Legible text
  | .table texts => ∀ row col s, texts.get? row col = some s → Text.Legible s

private theorem Matrix.exists_mem_of_get? {α : Type} {rows : List (List α)} {m : Matrix α}
    (h : Matrix.ofRows? rows = some m) {row col : Nat} {a : α} (ha : m.get? row col = some a) :
    ∃ r ∈ rows, a ∈ r := by
  unfold ofRows? at h
  dsimp only at h
  split at h
  · obtain rfl := Option.some.inj h
    obtain ⟨entries, hentries, ha⟩ := Option.bind_eq_some_iff.1 ha
    rw [List.getElem?_toArray, List.getElem?_map] at hentries
    obtain ⟨r, hr, rfl⟩ := Option.map_eq_some_iff.1 hentries
    rw [List.getElem?_toArray] at ha
    exact ⟨r, List.mem_of_getElem? hr, List.mem_of_getElem? ha⟩
  · cases h

private theorem Value.eq_list_of_items? {v : Value} {items : List Value}
    (h : v.items? = some items) :
    v = .list items := by
  cases v <;> simp only [items?, reduceCtorEq, Option.some.injEq] at h
  rw [h]

theorem Value.legible_of_ink {v : Value} {ink : Ink} (h : v.ink = .ok ink)
    (hv : v.WrittenIn Cell.Legible) : ink.Legible := by
  unfold Value.ink at h
  split at h
  · obtain rfl := Except.ok.inj h
    exact hv.chars
  · split at h
    · split at h <;> cases h
    · next rows hrows =>
      split at h
      · cases h
      · next texts htexts =>
        split at h
        · cases h
        · next table htable =>
          obtain rfl := Except.ok.inj h
          -- a text of the table is that of an item of an item
          intro row col s hs
          obtain ⟨r, hr, hsr⟩ := Matrix.exists_mem_of_get? htable hs
          obtain ⟨items, hitems, hr⟩ := exists_of_mem_mapM_some htexts hr
          obtain ⟨line, hline, hlist⟩ := exists_of_mem_mapM_some hrows hitems
          obtain ⟨item, hitem, htext⟩ := exists_of_mem_mapM_some hr hsr
          obtain rfl := Value.eq_list_of_items? hlist
          exact Value.legible_scalarText? htext ((hv.items _ hline).items _ hitem)
  · cases h

/-! ## Painting -/

namespace Grid

variable {g g' : Grid}

theorem legible_paintChar (hg : g.Legible) (mask : Nat → Nat → Bool) {c : Cell}
    (hc : c.Legible) : (g.paintChar mask c).Legible := by
  refine legible_mapCells hg fun row col old hold ↦ ?_
  split
  · exact hc
  · exact hold

theorem legible_of_paintEach {mask : Nat → Nat → Bool} {ink : Nat → Nat → Text} (hg : g.Legible)
    (hink : ∀ row col, Text.Legible (ink row col)) (h : g.paintEach mask ink = .ok g') :
    g'.Legible := by
  unfold paintEach at h
  split at h
  · cases h
  · obtain rfl := Except.ok.inj h
    refine legible_mapCells hg fun row col old hold ↦ ?_
    split
    · cases hchar : singleChar? (withoutFinalNuls (ink row col)) with
      | none => exact hold
      | some c =>
        exact Text.legible_of_singleChar? hchar (Text.legible_withoutFinalNuls (hink row col))
    · exact hold

theorem legible_getD_get? {texts : Matrix Text} (h : (Ink.table texts).Legible) (row col : Nat) :
    Text.Legible ((texts.get? row col).getD "") := by
  cases htext : texts.get? row col with
  | none => exact fun c hc ↦ absurd hc (by simp)
  | some s => exact h row col s htext

theorem legible_of_requestInk {chosen : Nat → Nat → Bool} {values : Value} (hg : g.Legible)
    (hvalues : values.WrittenIn Cell.Legible) (h : g.requestInk chosen values = .ok g') :
    g'.Legible := by
  obtain ⟨ink, hink, h⟩ := bind_eq_ok.1 h
  have hlegible := Value.legible_of_ink hink hvalues
  cases ink with
  | uniform text =>
    obtain ⟨c, hc, h⟩ := bind_eq_ok.1 h
    obtain rfl := Except.ok.inj h
    exact legible_paintChar hg chosen (Value.legible_of_cell hc (.str hlegible))
  | table texts =>
    dsimp only at h
    split at h
    · exact legible_of_paintEach hg (legible_getD_get? hlegible) h
    · cases h

private theorem legible_of_paintBlanks {ink : Ink} {mask : Option (Matrix Bool)}
    {painted : Grid × Nat}
    (hg : g.Legible) (hink : ink.Legible) (h : g.paintBlanks ink mask = .ok painted) :
    painted.1.Legible := by
  unfold paintBlanks at h
  split at h
  · cases ink with
    | uniform text =>
      obtain ⟨c, hc, h⟩ := bind_eq_ok.1 h
      obtain rfl := Except.ok.inj h
      exact legible_paintChar hg _ (Value.legible_of_cell hc (.str hink))
    | table texts =>
      dsimp only at h
      split at h
      · obtain ⟨out, hout, h⟩ := bind_eq_ok.1 h
        obtain rfl := Except.ok.inj h
        exact legible_of_paintEach hg (legible_getD_get? hink) hout
      · cases h
  · cases h

theorem legible_of_requestPaint {values mask : Value} {painted : Grid × Nat} (hg : g.Legible)
    (hvalues : values.WrittenIn Cell.Legible) (h : g.requestPaint values mask = .ok painted) :
    painted.1.Legible := by
  obtain ⟨mask, -, h⟩ := bind_eq_ok.1 h
  split at h
  · obtain ⟨ink, hink, h⟩ := bind_eq_ok.1 h
    exact legible_of_paintBlanks hg (Value.legible_of_ink hink hvalues) h
  · cases h

end Grid

end TextArt
