import Mathlib.Data.List.Basic
import TextArt.Text.Utf

/-!
# UTF-8 there and back

What is encoded in UTF-8 is decoded again. One step of the decoder takes the bytes of one character
(`utf8Step_encodeChar`), by cases on their number: the first byte says how many there are, the
others hold six bits each. The whole text follows by induction.
-/

namespace TextArt.Text

/-! ## Bytes -/

theorem toNat_byte {n : Nat} (h : n < 256) : (UInt8.ofNat n).toNat = n := by
  rw [UInt8.toNat_ofNat', Nat.mod_eq_of_lt h]

private theorem continuation?_tail (n : Nat) :
    continuation? (UInt8.ofNat (0x80 + n % 0x40)) = some (n % 0x40) := by
  have hbits := Nat.mod_lt n (show 0 < 0x40 by decide)
  have hbyte : (UInt8.ofNat (0x80 + n % 0x40)).toNat = 0x80 + n % 0x40 := toNat_byte (by omega)
  have hrange : 0x80 ≤ UInt8.ofNat (0x80 + n % 0x40) ∧ UInt8.ofNat (0x80 + n % 0x40) < 0xC0 := by
    rw [UInt8.le_iff_toNat_le, UInt8.lt_iff_toNat_lt, hbyte]
    exact ⟨Nat.le_add_right _ _, Nat.add_lt_add_left hbits 0x80⟩
  rw [continuation?, if_pos hrange, hbyte, Nat.add_sub_cancel_left]

theorem bind_of_eq_some {α β : Type} {o : Option α} {a : α} (h : o = some a)
    (f : α → Option β) : (o >>= f) = f a := by
  rw [h]
  rfl

/-! ## Sequences of bytes

The first byte tells how many bytes there are, and the number that all of them hold is that of the
character. -/

section Sequences

variable {mode : Surrogates} {char : CodePoint} {a b c d : UInt8} {rest : List UInt8} {x y z : Nat}

private theorem utf8Step_one (ha : a.toNat < 0x80) (hchar : a.toNat = char.toNat) :
    utf8Step mode (a :: rest) = some (char, rest) := by
  unfold utf8Step
  simp only [UInt8.lt_iff_toNat_lt, UInt8.reduceToNat]
  rw [if_pos ha, hchar, CodePoint.ofNat_toNat]

private theorem utf8Step_two (hlow : 0xC2 ≤ a.toNat) (hhigh : a.toNat < 0xE0)
    (hb : continuation? b = some x)
    (hchar : scalar? mode ((a.toNat - 0xC0) * 0x40 + x) = some char) :
    utf8Step mode (a :: b :: rest) = some (char, rest) := by
  unfold utf8Step
  simp only [UInt8.lt_iff_toNat_lt, UInt8.reduceToNat]
  rw [if_neg (by omega), if_neg (by omega), if_pos hhigh]
  rw [bind_of_eq_some hb, bind_of_eq_some hchar]

private theorem utf8Step_three (hlow : 0xE0 ≤ a.toNat) (hhigh : a.toNat < 0xF0)
    (hb : continuation? b = some x) (hc : continuation? c = some y)
    (hlong : 0x800 ≤ (a.toNat - 0xE0) * 0x1000 + x * 0x40 + y)
    (hchar : scalar? mode ((a.toNat - 0xE0) * 0x1000 + x * 0x40 + y) = some char) :
    utf8Step mode (a :: b :: c :: rest) = some (char, rest) := by
  unfold utf8Step
  simp only [UInt8.lt_iff_toNat_lt, UInt8.reduceToNat]
  rw [if_neg (by omega), if_neg (by omega), if_neg (by omega), if_pos hhigh]
  rw [bind_of_eq_some hb, bind_of_eq_some hc, if_neg (Nat.not_lt.2 hlong), bind_of_eq_some hchar]

private theorem utf8Step_four (hlow : 0xF0 ≤ a.toNat) (hhigh : a.toNat < 0xF5)
    (hb : continuation? b = some x) (hc : continuation? c = some y) (hd : continuation? d = some z)
    (hlong : 0x10000 ≤ (a.toNat - 0xF0) * 0x40000 + x * 0x1000 + y * 0x40 + z)
    (hchar : scalar? mode ((a.toNat - 0xF0) * 0x40000 + x * 0x1000 + y * 0x40 + z) = some char) :
    utf8Step mode (a :: b :: c :: d :: rest) = some (char, rest) := by
  unfold utf8Step
  simp only [UInt8.lt_iff_toNat_lt, UInt8.reduceToNat]
  rw [if_neg (by omega), if_neg (by omega), if_neg (by omega), if_neg (by omega), if_pos hhigh]
  rw [bind_of_eq_some hb, bind_of_eq_some hc, bind_of_eq_some hd, if_neg (Nat.not_lt.2 hlong),
    bind_of_eq_some hchar]

end Sequences

/-! ## Characters -/

/-- A code point passes if it is a character, or if halves of surrogate pairs are kept. -/
def Passes (mode : Surrogates) (c : CodePoint) : Prop :=
  mode = .refused → c.char?.isSome = true

theorem toNat_lt (c : CodePoint) : c.toNat < 0x110000 := by
  cases c with
  | char c =>
    have hvalid : c.toNat < 0xD800 ∨ 0xDFFF < c.toNat ∧ c.toNat < 0x110000 := c.valid
    rw [CodePoint.toNat_char]
    omega
  | half n =>
    have hhalf : (CodePoint.half n).toNat = 0xD800 + n.val := rfl
    omega

theorem isSurrogate_toNat_char (c : Char) : isSurrogate (CodePoint.char c).toNat = false := by
  have hvalid : c.toNat < 0xD800 ∨ 0xDFFF < c.toNat ∧ c.toNat < 0x110000 := c.valid
  rw [CodePoint.toNat_char, isSurrogate, decide_eq_false (by omega)]

private theorem scalar?_of_eq {mode : Surrogates} {c : CodePoint} (hc : Passes mode c) {n : Nat}
    (h : n = c.toNat) : scalar? mode n = some c := by
  have hpasses : ¬(mode = .refused ∧ isSurrogate n = true) := by
    rintro ⟨hmode, hsurrogate⟩
    obtain ⟨char, hchar⟩ := Option.isSome_iff_exists.1 (hc hmode)
    cases c with
    | char c =>
      rw [h, isSurrogate_toNat_char] at hsurrogate
      cases hsurrogate
    | half n => cases hchar
  have hlt := toNat_lt c
  rw [scalar?, if_neg hpasses, if_pos (by omega), h, CodePoint.ofNat_toNat]

/-- **One step.** The decoder takes the bytes of a character and leaves the rest. -/
theorem utf8Step_encodeChar {mode : Surrogates} {c : CodePoint} (hc : Passes mode c)
    (rest : List UInt8) : utf8Step mode (encodeChar c ++ rest) = some (c, rest) := by
  have hlt := toNat_lt c
  have hlow := continuation?_tail c.toNat
  have hmiddle := continuation?_tail (c.toNat / 0x40)
  have hhigh := continuation?_tail (c.toNat / 0x1000)
  unfold encodeChar
  dsimp only
  by_cases hone : c.toNat < 0x80
  · have hbyte : (UInt8.ofNat c.toNat).toNat = c.toNat := toNat_byte (by omega)
    rw [if_pos hone]
    exact utf8Step_one (by omega) hbyte
  rw [if_neg hone]
  by_cases htwo : c.toNat < 0x800
  · have hbyte : (UInt8.ofNat (0xC0 + c.toNat / 0x40)).toNat = 0xC0 + c.toNat / 0x40 :=
      toNat_byte (by omega)
    rw [if_pos htwo]
    exact utf8Step_two (by omega) (by omega) hlow (scalar?_of_eq hc (by omega))
  rw [if_neg htwo]
  by_cases hthree : c.toNat < 0x10000
  · have hbyte : (UInt8.ofNat (0xE0 + c.toNat / 0x1000)).toNat = 0xE0 + c.toNat / 0x1000 :=
      toNat_byte (by omega)
    rw [if_pos hthree]
    exact utf8Step_three (by omega) (by omega) hmiddle hlow (by omega)
      (scalar?_of_eq hc (by omega))
  · have hbyte : (UInt8.ofNat (0xF0 + c.toNat / 0x40000)).toNat = 0xF0 + c.toNat / 0x40000 :=
      toNat_byte (by omega)
    rw [if_neg hthree]
    exact utf8Step_four (by omega) (by omega) hhigh hmiddle hlow (by omega)
      (scalar?_of_eq hc (by omega))

private theorem encodeChar_ne_nil (c : CodePoint) : encodeChar c ≠ [] := by
  unfold encodeChar
  dsimp only
  split_ifs <;> exact List.cons_ne_nil _ _

/-! ## Texts -/

private theorem decodeWith_flatMap {step : List UInt8 → Option (CodePoint × List UInt8)}
    {encode : CodePoint → List UInt8} (hne : ∀ c, encode c ≠ []) {fuel : Nat} {s : List CodePoint}
    (hstep : ∀ c ∈ s, ∀ rest, step (encode c ++ rest) = some (c, rest)) (hfuel : s.length ≤ fuel) :
    decodeWith step fuel (s.flatMap encode) = some s := by
  induction s generalizing fuel with
  | nil => cases fuel <;> rfl
  | cons c rest ih =>
    obtain ⟨fuel, rfl⟩ := Nat.exists_eq_succ_of_ne_zero (Nat.ne_zero_of_lt hfuel)
    have hrest := ih (fun d hd ↦ hstep d (List.mem_cons_of_mem c hd))
      (Nat.le_of_succ_le_succ hfuel)
    have hfirst := hstep c List.mem_cons_self (rest.flatMap encode)
    rw [List.flatMap_cons]
    cases hbytes : encode c ++ rest.flatMap encode with
    | nil => exact absurd (List.append_eq_nil_iff.1 hbytes).1 (hne c)
    | cons b bytes =>
      rw [decodeWith, ← hbytes, hfirst]
      simp only [Option.bind_eq_bind, Option.bind_some, hrest]

/-- A text is not longer than what it is written with, if every character is written with
something. -/
theorem length_le_length_flatMap {α β : Type} {write : α → List β} (hne : ∀ a, write a ≠ [])
    (s : List α) : s.length ≤ (s.flatMap write).length := by
  induction s with
  | nil => exact Nat.le_refl 0
  | cons a rest ih =>
    have hfirst := List.length_pos_iff.2 (hne a)
    rw [List.flatMap_cons, List.length_append, List.length_cons]
    omega

/-- **There and back.** A text is decoded from its bytes, if its code points pass. -/
theorem decodeUtf8_encodeUtf8 {mode : Surrogates} {s : Text} (hs : ∀ c ∈ s.toList, Passes mode c) :
    decodeUtf8 mode (encodeUtf8 s) = some s.toList :=
  decodeWith_flatMap encodeChar_ne_nil (fun c hc ↦ utf8Step_encodeChar (hs c hc))
    (length_le_length_flatMap encodeChar_ne_nil s.toList)

theorem encodeUtf8_append (s t : Text) : encodeUtf8 (s ++ t) = encodeUtf8 s ++ encodeUtf8 t := by
  rw [encodeUtf8, Text.toList_append, List.flatMap_append]
  rfl

end TextArt.Text
