import Mathlib.Data.List.TakeDrop
import Mathlib.Data.List.TakeWhile
import TextArt.Text.Basic

/-!
# Texts in parts

A text is taken apart at a character, at the first one or the last one or at all of them, and parts
are joined with something between any two of them. The parts of a text hold all of it but the
separators (`mem_of_mem_splitOn`), and what is joined holds the parts and what is between them
(`mem_of_mem_intercalate`).
-/

namespace TextArt.Text

/-! ## The first separator and the last one -/

theorem toList_joined (c : CodePoint) {between : Text} (h : between.toList = [c])
    (before after : Text) :
    (before ++ between ++ after).toList = before.toList ++ c :: after.toList := by
  rw [Text.toList_append, Text.toList_append, h, List.append_assoc]
  rfl

section

variable {c : CodePoint} {before after part text : List CodePoint}

/-- Everything is passed over up to a separator that does not come. -/
theorem forall_ne_of_not_mem (h : c ∉ part) : ∀ d ∈ part, decide (d ≠ c) = true :=
  fun _ hd ↦ decide_eq_true fun heq ↦ h (heq ▸ hd)

/-- What stands before the first separator is found as far as the separator. -/
theorem span_append_cons (h : c ∉ before) (after : List CodePoint) :
    (before ++ c :: after).span (· ≠ c) = (before, c :: after) := by
  have hbefore := forall_ne_of_not_mem h
  rw [List.span_eq_takeWhile_dropWhile, List.takeWhile_append_of_pos hbefore,
    List.dropWhile_append_of_pos hbefore, List.takeWhile_cons_of_neg (by simp),
    List.dropWhile_cons_of_neg (by simp), List.append_nil]

/-- From behind, what follows the last separator comes first. -/
theorem takeWhile_reverse (h : c ∉ after) (before : List CodePoint) :
    (before ++ c :: after).reverse.takeWhile (· ≠ c) = after.reverse := by
  rw [List.reverse_append, List.reverse_cons, List.append_assoc,
    List.takeWhile_append_of_pos (forall_ne_of_not_mem (mt List.mem_reverse.1 h)),
    List.singleton_append, List.takeWhile_cons_of_neg (by simp), List.append_nil]

theorem exists_last (h : c ∈ text) :
    ∃ before after, c ∉ after ∧ text = before ++ c :: after := by
  obtain ⟨after, before, htext, hafter⟩ := List.eq_append_cons_of_mem (List.mem_reverse.2 h)
  refine ⟨before.reverse, after.reverse, fun hmem ↦ hafter (List.mem_reverse.1 hmem), ?_⟩
  rw [← List.reverse_reverse text, htext, List.reverse_append, List.reverse_cons, List.append_assoc]
  rfl

end

/-! ## All separators -/

/-- The parts of a text hold its characters, all but the separators. -/
theorem mem_of_mem_splitOn {separator : CodePoint} {text part : List CodePoint}
    (hpart : part ∈ text.splitOn separator) {c : CodePoint} (hc : c ∈ part) :
    c ∈ text ∧ c ≠ separator := by
  induction text generalizing part with
  | nil =>
    rw [List.splitOn_nil, List.mem_singleton] at hpart
    rw [hpart] at hc
    exact absurd hc List.not_mem_nil
  | cons d rest ih =>
    rw [List.splitOn_cons_eq_if_modifyHead] at hpart
    split at hpart
    · -- a separator starts an empty part
      rcases List.mem_cons.1 hpart with rfl | hpart
      · exact absurd hc List.not_mem_nil
      · exact ⟨List.mem_cons_of_mem _ (ih hpart hc).1, (ih hpart hc).2⟩
    · next hd =>
      -- any other character joins the first part of the rest
      cases hrest : rest.splitOn separator with
      | nil => exact absurd hrest (List.splitOn_ne_nil _ _)
      | cons first more =>
        rw [hrest] at ih hpart
        rcases List.mem_cons.1 hpart with rfl | hmore
        · rcases List.mem_cons.1 hc with rfl | hc
          · exact ⟨List.mem_cons_self, by simpa using hd⟩
          · have hfirst := ih List.mem_cons_self hc
            exact ⟨List.mem_cons_of_mem _ hfirst.1, hfirst.2⟩
        · have hlater := ih (List.mem_cons_of_mem _ hmore) hc
          exact ⟨List.mem_cons_of_mem _ hlater.1, hlater.2⟩

/-! ## Joined parts -/

/-- The characters of joined lists come from the lists or from the separator. -/
theorem mem_of_mem_intercalate {separator : List CodePoint} {lines : List (List CodePoint)}
    {c : CodePoint} (h : c ∈ separator.intercalate lines) :
    c ∈ separator ∨ ∃ line ∈ lines, c ∈ line := by
  induction lines with
  | nil => exact absurd h List.not_mem_nil
  | cons line rest ih =>
    cases rest with
    | nil => exact .inr ⟨line, List.mem_cons_self, by simpa using h⟩
    | cons next more =>
      rw [List.intercalate_cons_cons, List.mem_append, List.mem_append] at h
      rcases h with (h | h) | h
      · exact .inr ⟨line, List.mem_cons_self, h⟩
      · exact .inl h
      · obtain hsep | ⟨l, hl, hc⟩ := ih h
        · exact .inl hsep
        · exact .inr ⟨l, List.mem_cons_of_mem _ hl, hc⟩

theorem mem_intercalate_of_mem {separator line : List CodePoint} {lines : List (List CodePoint)}
    {c : CodePoint} (hline : line ∈ lines) (hc : c ∈ line) : c ∈ separator.intercalate lines := by
  induction lines with
  | nil => exact absurd hline List.not_mem_nil
  | cons first rest ih =>
    cases rest with
    | nil =>
      obtain rfl := List.mem_singleton.1 hline
      rwa [List.intercalate_singleton]
    | cons next more =>
      rw [List.intercalate_cons_cons, List.mem_append, List.mem_append]
      rcases List.mem_cons.1 hline with rfl | hline
      · exact .inl (.inl hc)
      · exact .inr (ih hline)

/-- Joined lists end as one of the lists does, if none of them is empty. -/
theorem getLast?_intercalate {separator : List CodePoint} {lines : List (List CodePoint)}
    (hne : lines ≠ []) (hfull : ∀ line ∈ lines, line ≠ []) :
    ∃ line ∈ lines, (separator.intercalate lines).getLast? = line.getLast? := by
  induction lines with
  | nil => exact absurd rfl hne
  | cons first rest ih =>
    cases rest with
    | nil => exact ⟨first, List.mem_cons_self, by rw [List.intercalate_singleton]⟩
    | cons next more =>
      obtain ⟨line, hline, hlast⟩ :=
        ih (List.cons_ne_nil _ _) fun line h ↦ hfull line (List.mem_cons_of_mem _ h)
      have hmem := List.mem_cons_of_mem first hline
      refine ⟨line, hmem, ?_⟩
      rw [List.intercalate_cons_cons, List.getLast?_append, hlast,
        List.getLast?_eq_some_getLast (hfull line hmem), Option.some_or]

/-- Joined lists start as the first one does, if it is not empty. -/
theorem head?_intercalate {separator first : List CodePoint} (hne : first ≠ [])
    (rest : List (List CodePoint)) :
    (separator.intercalate (first :: rest)).head? = first.head? := by
  cases rest with
  | nil => rw [List.intercalate_singleton]
  | cons next more =>
    have hfirst : first.head?.isSome = true := List.isSome_head?.2 hne
    rw [List.intercalate_cons_cons, List.append_assoc, List.head?_append,
      Option.or_of_isSome hfirst]

/-- Joined lists hold the separators of their own and one between any two of them. -/
theorem count_intercalate_succ {lines : List (List CodePoint)} (hne : lines ≠ []) (c : CodePoint) :
    ([c].intercalate lines).count c + 1 = lines.length + lines.flatten.count c := by
  induction lines with
  | nil => exact absurd rfl hne
  | cons first rest ih =>
    cases rest with
    | nil =>
      rw [List.intercalate_singleton, List.length_singleton, List.flatten_singleton, Nat.add_comm]
    | cons next more =>
      have hrest := ih (List.cons_ne_nil _ _)
      rw [List.intercalate_cons_cons, List.count_append, List.count_append,
        List.count_singleton_self, List.length_cons, List.flatten_cons, List.count_append]
      omega

end TextArt.Text
