import TextArt.Console.Screen
import TextArt.Console.Table
import TextArt.Proofs.Text.Parts

/-!
# Literal texts in tables

A literal text has nothing but printable characters of ASCII, and none that markup gives a meaning
to. A console shows it as it is, and the lines of a table of literal texts can be encoded.
-/

namespace TextArt.Console

/-- Whether a code point stands for itself in every markup: it is printable, and neither a bracket
that opens a tag nor a colon that starts the name of a picture. -/
def isLiteral (c : CodePoint) : Bool :=
  decide ((' ' : CodePoint) ≤ c ∧ c ≤ ('~' : CodePoint)) && c != .char '[' && c != .char ':'

/-- Text whose code points all stand for themselves. -/
def Literal (t : Text) : Prop := ∀ c ∈ t.toList, isLiteral c = true

instance (t : Text) : Decidable (Literal t) :=
  inferInstanceAs (Decidable (∀ c ∈ t.toList, isLiteral c = true))

variable {t : Text}

private theorem bounds_of_isLiteral {c : CodePoint} (h : isLiteral c = true) :
    0x20 ≤ c.toNat ∧ c.toNat ≤ 0x7E := by
  rw [isLiteral, Bool.and_eq_true, Bool.and_eq_true, decide_eq_true_iff] at h
  exact h.1.1

theorem Literal.append {s t : Text} (hs : Literal s) (ht : Literal t) : Literal (s ++ t) := by
  intro c hc
  rw [Text.toList_append, List.mem_append] at hc
  exact hc.elim (hs c) (ht c)

/-- A console leaves out nothing of a literal text and moves nothing in it. -/
theorem Literal.shown (h : Literal t) : shown t = t := by
  refine shown_of_forall fun c hc ↦ ?_
  have hlow := (bounds_of_isLiteral (h c hc)).1
  have hne : ∀ d : CodePoint, d.toNat < 0x20 → c ≠ d := by
    rintro d hd rfl
    omega
  refine ⟨decide_eq_true fun hmem ↦ ?_, hne _ (by decide)⟩
  have hsmall : ∀ d ∈ (['\x07', '\x08', '\x0b', '\x0c', '\r'] : List CodePoint),
      d.toNat < 0x20 := by
    decide
  exact hne c (hsmall c hmem) rfl

private theorem Literal.isEncodable (h : Literal t) : t.isEncodable = true := by
  rw [Text.isEncodable_iff]
  intro n hn
  have hhigh := (bounds_of_isLiteral (h _ hn)).2
  rw [CodePoint.toNat] at hhigh
  omega

/-! ## Numbers -/

private theorem isLiteral_of_isDigit {c : Char} (h : c.isDigit = true) : isLiteral c = true := by
  have hrange : 48 ≤ c.toNat ∧ c.toNat ≤ 57 := by
    simpa [Char.isDigit, UInt32.le_iff_toNat_le, Bool.and_eq_true, decide_eq_true_iff] using h
  have hne : ∀ d : CodePoint, d.toNat < 48 ∨ 57 < d.toNat → (CodePoint.char c != d) = true := by
    intro d hd
    rw [bne_iff_ne]
    rintro rfl
    rw [CodePoint.toNat_char] at hd
    omega
  have hbounds : (' ' : CodePoint) ≤ CodePoint.char c ∧ CodePoint.char c ≤ ('~' : CodePoint) :=
    ⟨Nat.le_trans (by decide) hrange.1, Nat.le_trans hrange.2 (by decide)⟩
  rw [isLiteral, decide_eq_true hbounds, hne _ (by decide), hne _ (by decide)]
  rfl

theorem literal_toString (n : Nat) : Literal (toString n) := by
  intro c hc
  rw [Nat.toString_eq_repr, Nat.repr, Text.toList_ofString, String.toList_ofList] at hc
  obtain ⟨d, hd, rfl⟩ := List.mem_map.1 hc
  exact isLiteral_of_isDigit (Nat.isDigit_of_mem_toDigits (by decide) (by decide) hd)

theorem literal_toString_int (n : Int) : Literal (toString n) := by
  cases n with
  | ofNat n => exact literal_toString n
  | negSucc n =>
    have hminus : Text.ofString (toString (Int.negSucc n)) =
        "-" ++ Text.ofString (toString (n + 1)) := by
      rw [← Text.toList_inj, Text.toList_append, Text.toList_ofString, Text.toList_ofString,
        Text.toList_ofString, ← List.map_append, ← String.toList_append]
      rfl
    rw [hminus]
    exact .append (by decide) (literal_toString (n + 1))

/-! ## Tables -/

/-- The texts of a table are literal. -/
structure Table.Literal (t : Table) : Prop where
  /-- The title is. -/
  title : Console.Literal t.title
  /-- The headers are. -/
  headers : ∀ column ∈ t.columns, Console.Literal column.header
  /-- The cells are. -/
  cells : ∀ row ∈ t.rows, ∀ cell ∈ row, Console.Literal cell

namespace Table

variable {t : Table}

private theorem isEncodable_ofList {l : List CodePoint} :
    (Text.ofList l).isEncodable = true ↔ ∀ c ∈ l, c.char?.isSome := List.all_eq_true

private theorem isSome_of_mem_replicate {n : Nat} {c d : CodePoint} (hd : d.char?.isSome)
    (hc : c ∈ List.replicate n d) : c.char?.isSome := by
  obtain rfl := List.eq_of_mem_replicate hc
  exact hd

/-- A line is encodable if its ends, its crossings and its parts are. -/
private theorem isSome_of_mem_line {first bar last : CodePoint} (hfirst : first.char?.isSome)
    (hbar : bar.char?.isSome) (hlast : last.char?.isSome) {parts : List (List CodePoint)}
    (hparts : ∀ part ∈ parts, ∀ c ∈ part, c.char?.isSome) :
    ∀ c ∈ first :: [bar].intercalate parts ++ [last], c.char?.isSome := by
  intro c hc
  rw [List.cons_append, List.mem_cons, List.mem_append, List.mem_singleton] at hc
  rcases hc with rfl | hc | rfl
  · exact hfirst
  · obtain hc | ⟨part, hpart, hc⟩ := Text.mem_of_mem_intercalate hc
    · obtain rfl := List.mem_singleton.1 hc
      exact hbar
    · exact hparts part hpart c hc
  · exact hlast

private theorem isSome_of_mem_rule {r : Rule} (hfirst : r.first.char?.isSome)
    (hline : r.line.char?.isSome) (hcrossing : r.crossing.char?.isSome)
    (hlast : r.last.char?.isSome) (widths : List Nat) :
    ∀ c ∈ rule r widths, c.char?.isSome := by
  refine isSome_of_mem_line hfirst hcrossing hlast fun part hpart c hc ↦ ?_
  obtain ⟨n, -, rfl⟩ := List.mem_map.1 hpart
  exact isSome_of_mem_replicate hline hc

private theorem isSome_of_mem_justify {side : Side} {width : Nat} {s : Text}
    (hs : s.isEncodable = true) : ∀ c ∈ justify side width s, c.char?.isSome := by
  intro c hc
  have hblank : ∀ n, c ∈ List.replicate n (CodePoint.char ' ') → c.char?.isSome :=
    fun n ↦ isSome_of_mem_replicate rfl
  cases side with
  | left => exact (List.mem_append.1 hc).elim (List.all_eq_true.1 hs c) (hblank _)
  | right => exact (List.mem_append.1 hc).elim (hblank _) (List.all_eq_true.1 hs c)

private theorem isSome_of_mem_textLine {bar : CodePoint} (hbar : bar.char?.isSome)
    {texts : List Text} (htexts : ∀ s ∈ texts, s.isEncodable = true) :
    ∀ c ∈ t.textLine bar texts, c.char?.isSome := by
  refine isSome_of_mem_line hbar hbar hbar fun part hpart c hc ↦ ?_
  obtain ⟨⟨column, width, s⟩, hmem, rfl⟩ := List.mem_map.1 hpart
  have hs : s ∈ texts := (List.of_mem_zip (List.of_mem_zip hmem).2).2
  dsimp only at hc
  rw [List.cons_append, List.mem_cons, List.mem_append, List.mem_singleton] at hc
  rcases hc with rfl | hc | rfl
  · rfl
  · exact isSome_of_mem_justify (htexts s hs) c hc
  · rfl

private theorem isSome_of_mem_centered {width : Nat} {s : Text} (hs : s.isEncodable = true) :
    ∀ c ∈ centered width s, c.char?.isSome := by
  intro c hc
  rw [centered, List.append_assoc, List.mem_append, List.mem_append] at hc
  rcases hc with hc | hc | hc
  · exact isSome_of_mem_replicate rfl hc
  · exact List.all_eq_true.1 hs c hc
  · exact isSome_of_mem_replicate rfl hc

/-- The lines of a table of literal texts can be encoded. -/
theorem Literal.isEncodable_lines (h : t.Literal) : ∀ line ∈ t.lines, line.isEncodable = true := by
  intro line hline
  obtain ⟨l, hl, rfl⟩ := List.mem_map.1 hline
  rw [isEncodable_ofList]
  simp only [List.mem_append, List.mem_cons, List.mem_map, List.not_mem_nil, or_false] at hl
  rcases hl with ((rfl | rfl | rfl | rfl) | ⟨row, hrow, rfl⟩) | rfl
  · exact isSome_of_mem_centered h.title.isEncodable
  · exact isSome_of_mem_rule rfl rfl rfl rfl _
  · refine isSome_of_mem_textLine rfl fun s hs ↦ ?_
    obtain ⟨column, hcolumn, rfl⟩ := List.mem_map.1 hs
    exact (h.headers column hcolumn).isEncodable
  · exact isSome_of_mem_rule rfl rfl rfl rfl _
  · exact isSome_of_mem_textLine rfl fun s hs ↦ (h.cells row hrow s hs).isEncodable
  · exact isSome_of_mem_rule rfl rfl rfl rfl _

end Table

end TextArt.Console
