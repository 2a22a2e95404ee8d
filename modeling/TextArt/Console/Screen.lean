import TextArt.Text.Basic

/-!
# What a console shows of a text

A console leaves out the characters that ring a bell or move within a line, and shows a tab as the
blanks up to the next column that is a multiple of eight.
-/

namespace TextArt.Console

/-- Whether a console shows a character; the ones that ring or move within a line are left out. -/
def isShown (c : CodePoint) : Bool := c ∉ (['\x07', '\x08', '\x0b', '\x0c', '\r'] : List CodePoint)

/-- The columns from one tab stop to the next. -/
def tabWidth : Nat := 8

/-- Text with its tabs written as blanks, where the first character stands in the given column. -/
def expandTabs (column : Nat) : List CodePoint → List CodePoint
  | [] => []
  | .char '\t' :: rest =>
    let blanks := tabWidth - column % tabWidth
    List.replicate blanks (.char ' ') ++ expandTabs (column + blanks) rest
  | .char '\n' :: rest => '\n' :: expandTabs 0 rest
  | c :: rest => c :: expandTabs (column + 1) rest

/-- What a console shows of a text. -/
def shown (s : Text) : Text := Text.ofList (expandTabs 0 (s.toList.filter isShown))

theorem expandTabs_of_not_mem {s : List CodePoint} (h : CodePoint.char '\t' ∉ s) (column : Nat) :
    expandTabs column s = s := by
  induction s generalizing column with
  | nil => rfl
  | cons c rest ih =>
    have hc : c ≠ '\t' := fun e ↦ h (e ▸ List.mem_cons_self)
    have hrest : CodePoint.char '\t' ∉ rest := fun m ↦ h (List.mem_cons_of_mem _ m)
    by_cases hn : c = '\n'
    · subst hn
      rw [expandTabs, ih hrest]
    · rw [expandTabs, ih hrest] <;> assumption

/-- A text of characters that all stand for themselves is shown as it is. -/
theorem shown_of_forall {s : Text} (h : ∀ c ∈ s.toList, isShown c = true ∧ c ≠ '\t') :
    shown s = s := by
  have hkept : s.toList.filter isShown = s.toList :=
    List.filter_eq_self.2 fun c hc ↦ (h c hc).1
  rw [shown, hkept, expandTabs_of_not_mem fun m ↦ (h _ m).2 rfl, Text.ofList_toList]

end TextArt.Console
