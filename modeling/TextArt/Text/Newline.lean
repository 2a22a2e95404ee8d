import TextArt.Text.Basic

/-!
# Line ends

Text files end their lines with a line feed, a carriage return, or both in this order. Texts in
memory have line feeds only.
-/

namespace TextArt.Text

/-- Text with every line end written as a line feed. -/
def unifyNewlines : List CodePoint → List CodePoint
  | [] => []
  | .char '\r' :: .char '\n' :: rest => '\n' :: unifyNewlines rest
  | .char '\r' :: rest => '\n' :: unifyNewlines rest
  | c :: rest => c :: unifyNewlines rest

theorem unifyNewlines_of_not_mem {s : List CodePoint} (h : CodePoint.char '\r' ∉ s) :
    unifyNewlines s = s := by
  induction s with
  | nil => rfl
  | cons c rest ih =>
    have hc : c ≠ '\r' := fun e ↦ h (e ▸ List.mem_cons_self)
    rw [unifyNewlines, ih fun m ↦ h (List.mem_cons_of_mem _ m)]
    · exact fun _ e _ ↦ hc e
    · exact hc

end TextArt.Text
