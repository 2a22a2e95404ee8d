import Mathlib.Data.List.Chain
import Mathlib.Data.List.TakeDrop
import Mathlib.Data.List.TakeWhile
import Mathlib.Tactic.SplitIfs
import TextArt.Json.Reader
import TextArt.Json.Writer
import TextArt.Proofs.Outcome
import TextArt.Proofs.Text.Utf
import TextArt.Text.Quoted

/-!
# Strings and whole numbers there and back

What the writer makes of a string or of a whole number is read as that string or number again, and
the reader stops where the writer stopped. A code point that is not written as it is has a short
escape, or its UTF-16 code units are written with four hexadecimal digits each. So the two halves of
a surrogate pair are read as one character if they stand next to each other, and a string has to be
without such neighbours (`Unpaired`). A whole number ends where nothing follows that could go on
with it (`EndsNumber`).
-/

namespace TextArt.Json

open Text (digitsValue digitLimit hexValue? isWritable)
open Text.Quoted (hexDigits)

/-! ## Hexadecimal digits -/

private theorem hexDigits_succ {width : Nat} (h : 0 < width) (n : Nat) :
    hexDigits (width + 1) n = hexDigits width (n / 16) ++ [.char (Nat.digitChar (n % 16))] := by
  unfold hexDigits
  dsimp only
  by_cases hn : n < 16
  · obtain ⟨width, rfl⟩ := Nat.exists_eq_succ_of_ne_zero (Nat.ne_of_gt h)
    rw [Nat.toDigits_of_lt_base hn, Nat.div_eq_of_lt hn, Nat.toDigits_zero, Nat.mod_eq_of_lt hn,
      List.length_singleton, List.length_singleton, Nat.succ_eq_add_one, Nat.add_sub_cancel,
      Nat.add_sub_cancel, List.replicate_succ', List.map_append]
    rfl
  · rw [Nat.toDigits_of_base_le (by decide) (Nat.not_lt.1 hn), List.length_append,
      List.length_singleton, Nat.add_sub_add_right, ← List.append_assoc, List.map_append]
    rfl

private theorem hexDigits_four {n : Nat} (h : n < 0x10000) :
    hexDigits 4 n = [.char (Nat.digitChar (n / 16 / 16 / 16)),
      .char (Nat.digitChar (n / 16 / 16 % 16)), .char (Nat.digitChar (n / 16 % 16)),
      .char (Nat.digitChar (n % 16))] := by
  have hfirst : n / 16 / 16 / 16 < 16 := by omega
  rw [hexDigits_succ (by decide), hexDigits_succ (by decide), hexDigits_succ (by decide), hexDigits,
    Nat.toDigits_of_lt_base hfirst]
  rfl

private theorem hexValue?_digitChar :
    ∀ d < 16, hexValue? (.char (Nat.digitChar d)) = some d := by decide

theorem hex4?_hexDigits {n : Nat} (h : n < 0x10000) (rest : List CodePoint) :
    hex4? (hexDigits 4 n ++ rest) = some (n, rest) := by
  have hfirst : n / 16 / 16 / 16 < 16 := by omega
  have hsixteen : 0 < 16 := by decide
  rw [hexDigits_four h]
  simp only [List.cons_append, List.nil_append, hex4?, hexValue?_digitChar _ hfirst,
    hexValue?_digitChar _ (Nat.mod_lt _ hsixteen)]
  congr 2
  omega

/-! ## Strings -/

/-- The first half of a surrogate pair. -/
def isHigh (c : CodePoint) : Bool := decide (0xD800 ≤ c.toNat ∧ c.toNat < 0xDC00)

/-- The second half of a surrogate pair. -/
def isLow (c : CodePoint) : Bool := decide (0xDC00 ≤ c.toNat ∧ c.toNat < 0xE000)

/-- The two halves of a surrogate pair do not stand next to each other. -/
def Unpaired (s : Text) : Prop :=
  s.toList.IsChain fun c d ↦ ¬(isHigh c = true ∧ isLow d = true)

instance (s : Text) : Decidable (Unpaired s) := inferInstanceAs (Decidable (List.IsChain _ _))

private theorem not_isHigh_char (c : Char) : isHigh (.char c) = false := by
  have hvalid := Text.isSurrogate_toNat_char c
  rw [Text.isSurrogate, decide_eq_false_iff_not] at hvalid
  exact decide_eq_false fun h ↦ hvalid (by omega)

/-- A text of characters has no halves of surrogate pairs at all. -/
theorem unpaired_of_isEncodable {s : Text} (h : s.isEncodable = true) : Unpaired s := by
  rw [Text.isEncodable_iff] at h
  have hfirst : ∀ c ∈ s.toList, isHigh c = false := by
    intro c hc
    cases c with
    | char c => exact not_isHigh_char c
    | half n => exact absurd hc (h n)
  refine (List.isChain_iff_getElem.2 fun i hi hpair ↦ ?_)
  rw [hfirst _ (List.getElem_mem _)] at hpair
  exact Bool.false_ne_true hpair.1

section Strings

variable {start fuel : Nat} {rest : List CodePoint}

theorem unitEscape_append (n : Nat) (rest : List CodePoint) :
    unitEscape n ++ rest = .char '\\' :: .char 'u' :: (hexDigits 4 n ++ rest) := rfl

/-- The reader goes on after the code point that the given characters stand for, if what follows is
not read as the second half of a pair. -/
def StandsFor (written : List CodePoint) (c : CodePoint) : Prop :=
  ∀ (start fuel : Nat) (rest : List CodePoint), rest ≠ [] → pair? c.toNat rest = none →
    stringTail start (fuel + 1) (written ++ rest) =
      (stringTail start fuel rest).map fun r ↦ (c :: r.1, r.2)

private theorem standsFor_self {c : CodePoint} (hquote : c ≠ '"') (hslash : c ≠ '\\')
    (hc : 0x20 ≤ c.toNat) : StandsFor [c] c := by
  intro start fuel rest _ _
  rw [List.singleton_append, stringTail.eq_def]
  dsimp only
  rw [if_neg hquote, if_neg hslash, if_neg (Nat.not_lt.2 hc)]
  exact (map_eq_bind _ _).symm

private theorem standsFor_short {e c : CodePoint} (hu : e ≠ 'u') (h : shortEscape? e = some c) :
    StandsFor [.char '\\', e] c := by
  intro start fuel rest _ _
  rw [List.cons_append, List.singleton_append, stringTail.eq_def]
  dsimp only
  rw [if_neg (by decide), if_pos rfl]
  split
  · next heq => cases heq
  · next heq =>
    cases heq
    exact absurd rfl hu
  · next e' tail hother heq =>
    cases heq
    rw [h]
    exact (map_eq_bind _ _).symm

/-- An escape of four digits, alone or together with the next one. -/
theorem stringTail_unitEscape {n : Nat} (hn : n < 0x10000) {after : List CodePoint}
    (hrest : rest ≠ []) {point : Nat}
    (hpair : (pair? n rest).getD (n, rest) = (point, after)) :
    stringTail start (fuel + 1) (unitEscape n ++ rest) =
      (stringTail start fuel after).map fun r ↦ (CodePoint.ofNat point :: r.1, r.2) := by
  have hempty : rest.isEmpty = false := List.isEmpty_eq_false_iff.2 hrest
  rw [unitEscape_append, stringTail.eq_def]
  dsimp only
  rw [if_neg (by decide), if_pos rfl]
  split
  · next heq => cases heq
  · next tail heq =>
    cases heq
    rw [hex4?_hexDigits hn]
    dsimp only
    rw [hempty, if_neg Bool.false_ne_true, hpair]
    exact (map_eq_bind _ _).symm
  · next e tail hother heq =>
    cases heq
    exact absurd rfl hother

private theorem standsFor_unitEscape {c : CodePoint} (hc : c.toNat < 0x10000) :
    StandsFor (unitEscape c.toNat) c := by
  intro start fuel rest hrest hpair
  rw [stringTail_unitEscape hc hrest (by rw [hpair, Option.getD_none]), CodePoint.ofNat_toNat]

private theorem standsFor_surrogates {c : CodePoint} (hc : 0x10000 ≤ c.toNat) :
    StandsFor (unitEscape (0xD800 + (c.toNat - 0x10000) / 0x400) ++
      unitEscape (0xDC00 + (c.toNat - 0x10000) % 0x400)) c := by
  intro start fuel rest hrest _
  have hvalid := Text.toNat_lt c
  have hhigh : 0xD800 + (c.toNat - 0x10000) / 0x400 < 0x10000 := by omega
  have hlow : 0xDC00 + (c.toNat - 0x10000) % 0x400 < 0x10000 := by omega
  have hpair : pair? (0xD800 + (c.toNat - 0x10000) / 0x400)
      (unitEscape (0xDC00 + (c.toNat - 0x10000) % 0x400) ++ rest) = some (c.toNat, rest) := by
    have hpoint : 0x10000 + (0xD800 + (c.toNat - 0x10000) / 0x400 - 0xD800) * 0x400 +
        (0xDC00 + (c.toNat - 0x10000) % 0x400 - 0xDC00) = c.toNat := by omega
    rw [unitEscape_append]
    unfold pair?
    rw [if_pos (by omega)]
    split
    · next tail heq =>
      cases heq
      rw [hex4?_hexDigits hlow]
      dsimp only
      rw [if_pos ⟨by omega, by omega, hrest⟩, hpoint]
    · next hother => exact absurd rfl (hother _)
  rw [List.append_assoc, stringTail_unitEscape hhigh (List.append_ne_nil_of_right_ne_nil _ hrest)
    (by rw [hpair, Option.getD_some]), CodePoint.ofNat_toNat]

private theorem standsFor_escapeChar (c : CodePoint) : StandsFor (escapeChar c) c := by
  unfold escapeChar
  split_ifs with hquote hslash hfeed hreturn htab hform hback hprint hplane
  · rw [hquote]
    exact standsFor_short (by decide) rfl
  · rw [hslash]
    exact standsFor_short (by decide) rfl
  · rw [hfeed]
    exact standsFor_short (by decide) rfl
  · rw [hreturn]
    exact standsFor_short (by decide) rfl
  · rw [htab]
    exact standsFor_short (by decide) rfl
  · rw [hform]
    exact standsFor_short (by decide) rfl
  · rw [hback]
    exact standsFor_short (by decide) rfl
  · exact standsFor_self hquote hslash hprint.1
  · exact standsFor_unitEscape hplane
  · exact standsFor_surrogates (Nat.not_lt.1 hplane)

private theorem escapeChar_ne_nil (c : CodePoint) : escapeChar c ≠ [] := by
  unfold escapeChar
  split_ifs
  all_goals exact List.cons_ne_nil _ _

/-! ### Pairs -/

/-- An escape of four digits is no second half, unless its number is that of one. -/
private theorem pair?_unitEscape {high low : Nat} (hlow : low < 0x10000)
    (h : ¬(0xDC00 ≤ low ∧ low < 0xE000)) (rest : List CodePoint) :
    pair? high (unitEscape low ++ rest) = none := by
  rw [unitEscape_append]
  unfold pair?
  split
  · split
    · next heq =>
      cases heq
      rw [hex4?_hexDigits hlow]
      dsimp only
      rw [if_neg fun hand ↦ h ⟨hand.1, hand.2.1⟩]
    · rfl
  · rfl

/-- Only an escape can be a second half. -/
private theorem pair?_of_ne {high : Nat} {c d : CodePoint} (h : c = '\\' → d ≠ 'u')
    (rest : List CodePoint) : pair? high (c :: d :: rest) = none := by
  unfold pair?
  split
  · split
    · next heq =>
      obtain ⟨rfl, htail⟩ := List.cons.inj heq
      exact absurd (List.cons.inj htail).1 (h rfl)
    · rfl
  · rfl

private theorem pair?_cons_of_ne {high : Nat} {c : CodePoint} (h : c ≠ '\\')
    (rest : List CodePoint) : pair? high (c :: rest) = none := by
  unfold pair?
  split
  · split
    · next heq => exact absurd (List.cons.inj heq).1 h
    · rfl
  · rfl

private theorem pair?_escapeChar {c d : CodePoint} (h : ¬(isHigh c = true ∧ isLow d = true))
    (rest : List CodePoint) : pair? c.toNat (escapeChar d ++ rest) = none := by
  by_cases hhigh : isHigh c = true
  · have hlow : ¬(0xDC00 ≤ d.toNat ∧ d.toNat < 0xE000) :=
      fun hd ↦ h ⟨hhigh, decide_eq_true hd⟩
    unfold escapeChar
    split_ifs with hquote hslash hfeed hreturn htab hform hback hprint hplane
    iterate 7 exact pair?_of_ne (fun _ ↦ by decide) rest
    · exact pair?_cons_of_ne hslash rest
    · exact pair?_unitEscape hplane hlow rest
    · have hvalid := Text.toNat_lt d
      rw [List.append_assoc]
      exact pair?_unitEscape (by omega) (by omega) _
  · have hnot : ¬(0xD800 ≤ c.toNat ∧ c.toNat < 0xDC00) := fun hc ↦ hhigh (decide_eq_true hc)
    exact if_neg hnot

private theorem stringTail_flatMap_escapeChar (chars : List CodePoint)
    (hchars : chars.IsChain fun c d ↦ ¬(isHigh c = true ∧ isLow d = true))
    (hfuel : chars.length < fuel) :
    stringTail start fuel (chars.flatMap escapeChar ++ .char '"' :: rest) = .ok (chars, rest) := by
  induction chars generalizing fuel with
  | nil =>
    obtain ⟨fuel, rfl⟩ := Nat.exists_eq_succ_of_ne_zero (Nat.ne_of_gt hfuel)
    rfl
  | cons c more ih =>
    obtain ⟨fuel, rfl⟩ := Nat.exists_eq_succ_of_ne_zero (Nat.ne_zero_of_lt hfuel)
    have hmore := ih hchars.of_cons (Nat.lt_of_succ_lt_succ hfuel)
    have hpair : pair? c.toNat (more.flatMap escapeChar ++ .char '"' :: rest) = none := by
      cases more with
      | nil => exact pair?_cons_of_ne (by decide) rest
      | cons d tail =>
        rw [List.flatMap_cons, List.append_assoc]
        exact pair?_escapeChar (List.isChain_cons_cons.1 hchars).1 _
    rw [List.flatMap_cons, List.append_assoc, standsFor_escapeChar c start fuel _
      (List.append_ne_nil_of_right_ne_nil _ (List.cons_ne_nil _ _)) hpair, hmore, map_ok]

/-- **Strings.** What comes after the opening quote of a string is read as that string. -/
theorem string_quote {s : Text} (hs : Unpaired s) (rest : List CodePoint) :
    string (s.toList.flatMap escapeChar ++ .char '"' :: rest) = .ok (s, rest) := by
  have hlength := Text.length_le_length_flatMap escapeChar_ne_nil s.toList
  rw [string, stringTail_flatMap_escapeChar _ hs, ok_bind]
  · exact congrArg (fun t ↦ Except.ok (t, rest)) (Text.ofList_toList s)
  · rw [List.length_append]
    omega

end Strings

/-! ## Whole numbers -/

section Numbers

variable {rest : List CodePoint}

/-- What follows does not go on with a number. -/
def EndsNumber (rest : List CodePoint) : Prop :=
  ∀ c ∈ rest.head?, c.isDigit = false ∧ c ≠ '.' ∧ c ≠ 'e' ∧ c ≠ 'E'

private theorem EndsNumber.digitRun (h : EndsNumber rest) {digits : List CodePoint}
    (hdigits : ∀ c ∈ digits, c.isDigit = true) :
    Json.digitRun (digits ++ rest) = (digits, rest) := by
  have hnone : rest.takeWhile CodePoint.isDigit = [] ∧ rest.dropWhile CodePoint.isDigit = rest := by
    cases rest with
    | nil => exact ⟨rfl, rfl⟩
    | cons c more =>
      have hc := (h c rfl).1
      exact ⟨List.takeWhile_cons_of_neg (by rw [hc]; exact Bool.false_ne_true),
        List.dropWhile_cons_of_neg (by rw [hc]; exact Bool.false_ne_true)⟩
  rw [Json.digitRun, List.span_eq_takeWhile_dropWhile, List.takeWhile_append_of_pos hdigits,
    List.dropWhile_append_of_pos hdigits, hnone.1, hnone.2, List.append_nil]

private theorem EndsNumber.fractionPart (h : EndsNumber rest) :
    Json.fractionPart rest = ([], rest) := by
  unfold Json.fractionPart
  split
  · exact absurd rfl (h '.' rfl).2.1
  · rfl

private theorem EndsNumber.exponentPart (h : EndsNumber rest) :
    Json.exponentPart rest = (none, rest) := by
  unfold Json.exponentPart
  dsimp only
  split
  · exact absurd rfl (h 'e' rfl).2.2.1
  · exact absurd rfl (h 'E' rfl).2.2.2
  · rfl

/-- The digits of a whole number. -/
def digitsOf (n : Nat) : List CodePoint := (Nat.toDigits 10 n).map .char

theorem isDigit_of_mem_digitsOf {n : Nat} {c : CodePoint} (h : c ∈ digitsOf n) :
    c.isDigit = true := by
  obtain ⟨d, hd, rfl⟩ := List.mem_map.1 h
  exact Nat.isDigit_of_mem_toDigits (by decide) (by decide) hd

theorem digitsOf_eq_digit_cons (n : Nat) :
    ∃ d more, digitsOf n = d :: more ∧ d.isDigit = true := by
  have hne : digitsOf n ≠ [] := mt List.map_eq_nil_iff.1 Nat.toDigits_ne_nil
  obtain ⟨d, more, heq⟩ := List.exists_cons_of_ne_nil hne
  exact ⟨d, more, heq, isDigit_of_mem_digitsOf (heq ▸ List.mem_cons_self)⟩

theorem ne_of_isDigit {c d : CodePoint} (hd : d.isDigit = true) (hc : c.isDigit = false) :
    d ≠ c := by
  rintro rfl
  exact Bool.false_ne_true (hc.symm.trans hd)

private theorem digitsValue_digitsOf (n : Nat) : digitsValue (digitsOf n) = n := by
  rw [digitsValue, digitsOf, List.foldl_map]
  exact Nat.ofDigitChars_ten_toDigits

/-- Only zero starts with the digit zero. -/
private theorem digitsOf_eq_cons {n : Nat} (h : n ≠ 0) :
    ∃ d more, digitsOf n = d :: more ∧ d ≠ '0' := by
  induction n using Nat.strongRecOn with
  | ind n ih =>
    by_cases hn : n < 10
    · have hdigit : ∀ d < 10, d ≠ 0 → CodePoint.char (Nat.digitChar d) ≠ '0' := by decide
      exact ⟨_, [], by rw [digitsOf, Nat.toDigits_of_lt_base hn]; rfl, hdigit n hn h⟩
    · obtain ⟨d, more, heq, hd⟩ := ih (n / 10) (by omega) (by omega)
      refine ⟨d, more ++ [.char (Nat.digitChar (n % 10))], ?_, hd⟩
      rw [digitsOf, Nat.toDigits_of_base_le (by decide) (Nat.not_lt.1 hn), List.map_append,
        ← digitsOf, heq]
      rfl

private theorem length_digitsOf_le {n : Int} (h : isWritable n = true) :
    (digitsOf n.natAbs).length ≤ digitLimit := by
  rw [digitsOf, List.length_map]
  -- for any limit, so that the power is not computed
  have hlimit {k : Nat} (hpos : 0 < k) (hk : decide (n.natAbs < Nat.pow 10 k) = true) :
      (Nat.toDigits 10 n.natAbs).length ≤ k :=
    (Nat.length_toDigits_le_iff (by decide) hpos).2 (of_decide_eq_true hk)
  exact hlimit (by decide) h

private theorem unsignedNumber_digitsOf (h : EndsNumber rest) (negative : Bool) {n : Nat}
    (hn : (digitsOf n).length ≤ digitLimit) :
    unsignedNumber negative (digitsOf n ++ rest) =
      some (.ok (.int (if negative then -n else n)), rest) := by
  obtain ⟨d, more, heq, -⟩ := digitsOf_eq_digit_cons n
  have hwhole : (if d = '0' then [d] else d :: more) = digitsOf n := by
    by_cases hzero : n = 0
    · subst hzero
      obtain ⟨rfl, rfl⟩ := List.cons.inj heq
      rfl
    · obtain ⟨d', more', heq', hd⟩ := digitsOf_eq_cons hzero
      obtain ⟨rfl, rfl⟩ := List.cons.inj (heq.symm.trans heq')
      rw [if_neg hd, heq]
  have hplain : (([] : List CodePoint).isEmpty && (none : Option Int).isNone) = true := rfl
  unfold unsignedNumber
  dsimp only
  rw [h.digitRun fun c hc ↦ isDigit_of_mem_digitsOf hc, heq]
  dsimp only
  rw [hwhole, ← heq, List.drop_left, h.fractionPart]
  dsimp only
  rw [h.exponentPart]
  dsimp only
  rw [if_pos hplain, if_neg (Nat.not_lt.2 hn), digitsValue_digitsOf]

/-- A whole number is written as a sign, if there has to be one, and its digits. -/
theorem toList_toString (n : Int) :
    (toString n : Text).toList = (if n < 0 then [.char '-'] else []) ++ digitsOf n.natAbs := by
  rw [Text.toList_ofString, Int.toString_eq_repr, Int.repr_eq_if, digitsOf]
  by_cases hsign : n < 0
  · have hnat : (-n).toNat = n.natAbs := by omega
    rw [if_neg (Int.not_le.2 hsign), if_pos hsign, String.toList_append, Nat.toList_repr, hnat]
    rfl
  · have hnat : n.toNat = n.natAbs := by omega
    rw [if_pos (Int.not_lt.1 hsign), if_neg hsign, Nat.toList_repr, hnat, List.nil_append]

private theorem number_of_unsigned {s : List CodePoint} {v : Value}
    (hs : ∀ tail, s ≠ .char '-' :: tail)
    (h : unsignedNumber false s = some (.ok v, rest)) : number s = .ok (v, rest) := by
  unfold number
  dsimp only
  split
  · next heq =>
    split at heq
    · exact absurd rfl (hs _)
    · cases h.symm.trans heq
  · next heq =>
    split at heq
    · exact absurd rfl (hs _)
    · cases h.symm.trans heq
  · next heq =>
    split at heq
    · exact absurd rfl (hs _)
    · cases h.symm.trans heq
      rfl

/-- **Whole numbers.** A whole number of not too many digits is read as that number. -/
theorem number_toString (h : EndsNumber rest) {n : Int} (hn : isWritable n = true) :
    number ((toString n : Text).toList ++ rest) = .ok (.int n, rest) := by
  rw [toList_toString]
  by_cases hsign : n < 0
  · have hread := unsignedNumber_digitsOf h true (length_digitsOf_le hn)
    have hvalue : (if true then -(n.natAbs : Int) else n.natAbs) = n := by
      rw [if_pos rfl]
      omega
    rw [hvalue] at hread
    rw [if_pos hsign, List.append_assoc, List.singleton_append, number, hread]
    rfl
  · have hread := unsignedNumber_digitsOf h false (length_digitsOf_le hn)
    have hvalue : (if false then -(n.natAbs : Int) else n.natAbs) = n := by
      rw [if_neg Bool.false_ne_true]
      omega
    rw [hvalue] at hread
    rw [if_neg hsign, List.nil_append]
    obtain ⟨d, more, hdigits, hd⟩ := digitsOf_eq_digit_cons n.natAbs
    refine number_of_unsigned (fun tail heq ↦ ?_) hread
    rw [hdigits] at heq
    exact ne_of_isDigit hd (by decide) (List.cons.inj heq).1

/-- No blank, quote or bracket begins like a number. -/
theorem toList_toString_eq_cons (n : Int) :
    ∃ c tail, (toString n : Text).toList = c :: tail ∧
      isSpace c = false ∧ c ≠ ']' ∧ c ≠ CodePoint.ofNat 0xFEFF ∧ c ≠ '"' ∧ c ≠ '[' ∧
        c ≠ '\x7b' := by
  obtain ⟨d, more, hdigits, hd⟩ := digitsOf_eq_digit_cons n.natAbs
  rw [toList_toString, hdigits]
  by_cases hsign : n < 0
  · rw [if_pos hsign]
    exact ⟨'-', _, rfl, by decide⟩
  · rw [if_neg hsign]
    have hspace : isSpace d = false := by
      have hne (c : CodePoint) (hc : c.isDigit = false) : (d == c) = false :=
        beq_eq_false_iff_ne.2 (ne_of_isDigit hd hc)
      rw [isSpace, hne ' ' (by decide), hne '\t' (by decide), hne '\n' (by decide),
        hne '\r' (by decide)]
      rfl
    exact ⟨d, more, rfl, hspace, ne_of_isDigit hd (by decide), ne_of_isDigit hd (by decide),
      ne_of_isDigit hd (by decide), ne_of_isDigit hd (by decide), ne_of_isDigit hd (by decide)⟩

/-- No word begins like a number. -/
private theorem word?_toString (n : Int) {w : Text} (hw : w ∈ words.map Prod.fst) :
    word? w ((toString n : Text).toList ++ rest) = none := by
  obtain ⟨d, more, hdigits, hd⟩ := digitsOf_eq_digit_cons n.natAbs
  have hletter : ∀ c : Char, c.isDigit = false → CodePoint.char c ≠ d :=
    fun c hc ↦ (ne_of_isDigit (c := .char c) hd hc).symm
  have hprefix : w.toList.isPrefixOf ((toString n : Text).toList ++ rest) = false := by
    rw [toList_toString, hdigits]
    simp only [words, List.map_cons, List.map_nil, List.mem_cons, List.not_mem_nil, or_false] at hw
    by_cases hsign : n < 0
    · rw [if_pos hsign]
      rcases hw with rfl | rfl | rfl | rfl | rfl | rfl
      all_goals simp [List.isPrefixOf, hletter]
    · rw [if_neg hsign]
      rcases hw with rfl | rfl | rfl | rfl | rfl | rfl
      all_goals simp [List.isPrefixOf, hletter]
  rw [word?, hprefix, if_neg Bool.false_ne_true]

/-- Digits are not the beginning of a word. -/
theorem scalar_toString (h : EndsNumber rest) {n : Int} (hn : isWritable n = true) :
    scalar ((toString n : Text).toList ++ rest) = .ok (.int n, rest) := by
  unfold scalar
  split
  · next read hread =>
    obtain ⟨⟨w, v⟩, hmem, hword⟩ := List.exists_of_findSome?_eq_some hread
    have hw : w ∈ words.map Prod.fst := List.mem_map_of_mem hmem
    obtain ⟨after, hafter, -⟩ := Option.map_eq_some_iff.1 hword
    exact absurd ((word?_toString n hw).symm.trans hafter) (Option.some_ne_none after).symm
  · exact number_toString h hn

end Numbers

end TextArt.Json
