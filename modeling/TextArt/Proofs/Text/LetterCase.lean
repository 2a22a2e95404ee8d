import TextArt.Text.LetterCase

/-!
# Lower case within ASCII

Lower case is that of all scripts. This module says what it comes to where the result is to be made
of small ASCII letters and underscores: each of them is the lower case of itself, a letter is also
that of its capital and `k` that of the Kelvin sign, and the lower case of every other character has
something else in it.
-/

namespace TextArt.Text

/-- Whether a code point is an ASCII capital. -/
def isUpper (c : CodePoint) : Bool := decide (65 ≤ c.toNat ∧ c.toNat ≤ 90)

/-- Whether a code point is a small ASCII letter. -/
def isLower (c : CodePoint) : Bool := decide (97 ≤ c.toNat ∧ c.toNat ≤ 122)

/-- The small letter of an ASCII capital. -/
def smallOf (c : CodePoint) : CodePoint := .ofNat (c.toNat + 32)

/-- The Kelvin sign. -/
def kelvin : CodePoint := CodePoint.ofNat 0x212A

/-- The character is a small ASCII letter or an underscore. -/
def IsPlain (c : CodePoint) : Prop := isLower c = true ∨ c = '_'

instance (c : CodePoint) : Decidable (IsPlain c) := inferInstanceAs (Decidable (_ ∨ _))

theorem isPlain_iff_toNat {c : CodePoint} :
    IsPlain c ↔ 97 ≤ c.toNat ∧ c.toNat ≤ 122 ∨ c.toNat = 95 := by
  have hlower : isLower c = true ↔ 97 ≤ c.toNat ∧ c.toNat ≤ 122 := decide_eq_true_iff
  have hunderscore : c = '_' ↔ c.toNat = 95 := by
    rw [← CodePoint.toNat_inj]
    rfl
  rw [IsPlain, hlower, hunderscore]

theorem isUpper_iff_toNat {c : CodePoint} : isUpper c = true ↔ 65 ≤ c.toNat ∧ c.toNat ≤ 90 :=
  decide_eq_true_iff

private theorem CaseRun.le_of_has {r : CaseRun} {n : Nat} (h : r.has n = true) :
    r.first ≤ n ∧ n ≤ r.last := by
  rw [has, Bool.and_eq_true, Bool.and_eq_true, decide_eq_true_eq, decide_eq_true_eq] at h
  exact h.1

theorem lowerChar_of_isUpper {c : CodePoint} (hc : isUpper c = true) :
    lowerChar c = [smallOf c] := by
  have hall : ∀ n < 91, isUpper (.ofNat n) = true →
      lowerChar (CodePoint.ofNat n) = [smallOf (.ofNat n)] := by decide +kernel
  have hlower := hall c.toNat (Nat.lt_succ_of_le (isUpper_iff_toNat.1 hc).2)
  rw [CodePoint.ofNat_toNat] at hlower
  exact hlower hc

theorem lowerChar_of_isPlain {c : CodePoint} (hc : IsPlain c) : lowerChar c = [c] := by
  have hall : ∀ n < 123, IsPlain (CodePoint.ofNat n) →
      lowerChar (CodePoint.ofNat n) = [CodePoint.ofNat n] := by
    decide +kernel
  have hlower := hall c.toNat (by have := isPlain_iff_toNat.1 hc; omega)
  rw [CodePoint.ofNat_toNat] at hlower
  exact hlower hc

theorem lowerChar_kelvin : lowerChar kelvin = [.char 'k'] := by decide +kernel

/-- Apart from the run of ASCII capitals and the run of the Kelvin sign, all runs lead beyond the
ASCII letters. -/
theorem lowerRuns_beyond : ∀ r ∈ lowerRuns, r.first = 65 ∧ r.last = 90 ∨
    r.first = 0x212A ∧ r.last = 0x212A ∨ 122 < (r.first : Int) + r.shift := by
  decide +kernel

private theorem toNat_ofNat_cases (n : Nat) :
    (CodePoint.ofNat n).toNat = n ∨ (CodePoint.ofNat n).toNat = 0 := by
  by_cases hhalf : 0xD800 ≤ n ∧ n < 0xE000
  · left
    rw [CodePoint.ofNat, dif_pos hhalf]
    exact Nat.add_sub_cancel' hhalf.1
  rw [CodePoint.ofNat_of_not_surrogate hhalf, CodePoint.toNat_char]
  by_cases h : n.isValidChar
  · left
    rw [Char.ofNat, dif_pos h]
    rfl
  · right
    rw [Char.ofNat, dif_neg h]
    rfl

private theorem exists_not_isPlain_of_mem_lowerChar {c : CodePoint} (hupper : isUpper c = false)
    (hplain : ¬IsPlain c) (hkelvin : c ≠ kelvin) : ∃ d ∈ lowerChar c, ¬IsPlain d := by
  unfold lowerChar
  split
  · exact ⟨CodePoint.ofNat 0x307, by simp, by decide⟩
  · refine ⟨_, List.mem_singleton_self _, ?_⟩
    unfold shiftBy
    split
    · next r hfind =>
      have hhas := List.find?_some hfind
      obtain ⟨hfirst, hlast⟩ := CaseRun.le_of_has hhas
      rcases lowerRuns_beyond r (List.mem_of_find?_eq_some hfind) with
        ⟨hlow, hhigh⟩ | ⟨hlow, hhigh⟩ | hbeyond
      · rw [← Bool.not_eq_true, isUpper_iff_toNat] at hupper
        omega
      · refine absurd (CodePoint.toNat_inj.1 ?_) hkelvin
        change c.toNat = 0x212A
        omega
      · rw [isPlain_iff_toNat]
        have himage := toNat_ofNat_cases ((c.toNat : Int) + r.shift).toNat
        omega
    · exact hplain

/-- What the lower case of a character can be. -/
theorem lowerChar_cases (c : CodePoint) :
    (isUpper c = true ∧ lowerChar c = [smallOf c]) ∨ (IsPlain c ∧ lowerChar c = [c]) ∨
      (c = kelvin ∧ lowerChar c = [.char 'k']) ∨ ∃ d ∈ lowerChar c, ¬IsPlain d := by
  by_cases hupper : isUpper c = true
  · exact .inl ⟨hupper, lowerChar_of_isUpper hupper⟩
  by_cases hplain : IsPlain c
  · exact .inr (.inl ⟨hplain, lowerChar_of_isPlain hplain⟩)
  by_cases hkelvin : c = kelvin
  · exact .inr (.inr (.inl ⟨hkelvin, hkelvin ▸ lowerChar_kelvin⟩))
  · rw [Bool.not_eq_true] at hupper
    exact .inr (.inr (.inr (exists_not_isPlain_of_mem_lowerChar hupper hplain hkelvin)))

private theorem lowerBetween_cases (before after : List CodePoint) (c : CodePoint) :
    lowerBetween before after c = lowerChar c ∨
      c = CodePoint.ofNat 0x3A3 ∧ lowerBetween before after c = [CodePoint.ofNat 0x3C2] := by
  unfold lowerBetween
  split
  · next h => exact .inr ⟨by rw [← h.1, CodePoint.ofNat_toNat], rfl⟩
  · exact .inl rfl

/-- Sigmas matter for no text that is plain in lower case. -/
theorem lowerAfter_eq_iff_of_isPlain {before chars ts : List CodePoint}
    (hts : ∀ t ∈ ts, IsPlain t) :
    lowerAfter before chars = ts ↔ chars.flatMap lowerChar = ts := by
  induction chars generalizing before ts with
  | nil => exact Iff.rfl
  | cons c rest ih =>
    rw [lowerAfter, List.flatMap_cons]
    rcases lowerBetween_cases before rest c with hc | ⟨rfl, hc⟩
    · rw [hc]
      constructor
      · rintro rfl
        rw [(ih fun t ht ↦ hts t (List.mem_append_right _ ht)).1 rfl]
      · rintro rfl
        rw [(ih fun t ht ↦ hts t (List.mem_append_right _ ht)).2 rfl]
    · -- neither form of a sigma is plain
      rw [hc]
      constructor
      · rintro rfl
        exact absurd (hts _ (List.mem_append_left _ (List.mem_singleton_self _))) (by decide)
      · rintro rfl
        exact absurd (hts (CodePoint.ofNat 0x3C3) (List.mem_append_left _ (by decide +kernel)))
          (by decide)

theorem isUpper_eq_false_of_isPlain {c : CodePoint} (hc : IsPlain c) : isUpper c = false := by
  rw [← Bool.not_eq_true, isUpper_iff_toNat]
  have := isPlain_iff_toNat.1 hc
  omega

end TextArt.Text
