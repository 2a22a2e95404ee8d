/-!
# Texts

A text is a list of code points. Most code points are characters, but a text may also hold one half
of a surrogate pair on its own, and even both halves next to each other: such texts come from names
of files, from command lines and from escapes in documents, and no encoding can write them. So texts
are not `String`s, whose characters are Unicode scalar values; `Text.ofString` is how a `String`
stands for a text.
-/

namespace TextArt

/-- A code point. -/
inductive CodePoint where
  /-- A character. -/
  | char (c : Char)
  /-- Half of a surrogate pair, by its number among all of them. -/
  | half (n : Fin 2048)
  deriving DecidableEq, Repr

instance : Coe Char CodePoint := ⟨.char⟩

namespace CodePoint

instance : Inhabited CodePoint := ⟨.char default⟩

/-- The number of a code point. -/
def toNat : CodePoint → Nat
  | char c => c.toNat
  | half n => 0xD800 + n.val

/-- The code point of a number; what is beyond all of them counts as zero. -/
def ofNat (n : Nat) : CodePoint :=
  if h : 0xD800 ≤ n ∧ n < 0xE000 then half ⟨n - 0xD800, by omega⟩ else char (Char.ofNat n)

instance : LE CodePoint := ⟨fun a b ↦ a.toNat ≤ b.toNat⟩

instance (a b : CodePoint) : Decidable (a ≤ b) := inferInstanceAs (Decidable (a.toNat ≤ b.toNat))

/-- Whether a code point is one of the ten ASCII digits. -/
def isDigit : CodePoint → Bool
  | char c => c.isDigit
  | half _ => false

/-- The character that a code point is, if it is one. -/
def char? : CodePoint → Option Char
  | char c => some c
  | half _ => none

@[simp] theorem toNat_char (c : Char) : (char c).toNat = c.toNat := rfl

@[simp] theorem isDigit_char (c : Char) : (char c).isDigit = c.isDigit := rfl

private theorem toNat_not_surrogate (c : Char) : ¬(0xD800 ≤ c.toNat ∧ c.toNat < 0xE000) := by
  rcases c.valid with h | h
  · have : c.toNat < 0xD800 := h
    omega
  · have : 0xDFFF < c.toNat := h.1
    omega

theorem ofNat_of_not_surrogate {n : Nat} (h : ¬(0xD800 ≤ n ∧ n < 0xE000)) :
    ofNat n = char (Char.ofNat n) := dif_neg h

@[simp] theorem ofNat_toNat (c : CodePoint) : ofNat c.toNat = c := by
  cases c with
  | char c =>
    rw [toNat_char, ofNat_of_not_surrogate (toNat_not_surrogate c), Char.ofNat_toNat]
  | half n =>
    have hrange : 0xD800 ≤ 0xD800 + n.val ∧ 0xD800 + n.val < 0xE000 := by omega
    rw [toNat, ofNat, dif_pos hrange]
    exact congrArg half (Fin.ext (Nat.add_sub_cancel_left _ _))

theorem toNat_inj {a b : CodePoint} : a.toNat = b.toNat ↔ a = b :=
  ⟨fun h ↦ by rw [← ofNat_toNat a, h, ofNat_toNat], fun h ↦ h ▸ rfl⟩

end CodePoint

/-- A text. -/
structure Text where
  /-- The text of a list of code points. -/
  ofList ::
  /-- The code points. -/
  toList : List CodePoint
  deriving DecidableEq, Repr

namespace Text

instance : Inhabited Text := ⟨⟨[]⟩⟩

/-- The text of a string. -/
def ofString (s : String) : Text := ⟨s.toList.map .char⟩

instance : Coe String Text := ⟨ofString⟩

/-- Whether all code points are characters, so that encodings can write them. -/
def isEncodable (t : Text) : Bool := t.toList.all fun c ↦ c.char?.isSome

/-- The string of a text, if all its code points are characters. -/
def toString? (t : Text) : Option String :=
  if t.isEncodable then some (.ofList (t.toList.filterMap CodePoint.char?)) else none

/-- One text after another. -/
def append (s t : Text) : Text := ⟨s.toList ++ t.toList⟩

instance : Append Text := ⟨append⟩

/-- Texts in the order of their code points. -/
instance : LT Text := ⟨fun s t ↦ s.toList.map CodePoint.toNat < t.toList.map CodePoint.toNat⟩

instance (s t : Text) : Decidable (s < t) :=
  inferInstanceAs (Decidable (s.toList.map CodePoint.toNat < t.toList.map CodePoint.toNat))

/-- The number of code points. -/
def length (t : Text) : Nat := t.toList.length

/-- Whether there is no code point. -/
def isEmpty (t : Text) : Bool := t.toList.isEmpty

/-- Whether a code point occurs. -/
def contains (t : Text) (c : CodePoint) : Bool := t.toList.contains c

/-- The text of one code point. -/
def singleton (c : CodePoint) : Text := ⟨[c]⟩

/-- Texts one after another. -/
def join (texts : List Text) : Text := ⟨texts.flatMap toList⟩

/-- Texts one after another, with a text between each two. -/
def intercalate (separator : Text) (texts : List Text) : Text :=
  ⟨separator.toList.intercalate (texts.map toList)⟩

/-! ## Code points of texts -/

variable {s t u : Text} {c d : CodePoint} {texts : List Text}

@[simp] theorem toList_ofList (l : List CodePoint) : (ofList l).toList = l := rfl

@[simp] theorem ofList_toList (t : Text) : ofList t.toList = t := rfl

@[simp] theorem toList_append : (s ++ t).toList = s.toList ++ t.toList := rfl

@[simp] theorem toList_singleton (c : CodePoint) : (singleton c).toList = [c] := rfl

@[simp] theorem toList_ofString (s : String) : (ofString s).toList = s.toList.map .char := rfl

theorem toList_empty : (ofString "").toList = [] := rfl

@[simp] theorem toList_intercalate :
    (s.intercalate texts).toList = s.toList.intercalate (texts.map toList) := rfl

theorem toList_inj : s.toList = t.toList ↔ s = t := by
  cases s
  cases t
  simp

theorem toList_injective {s t : Text} (h : s.toList = t.toList) : s = t := toList_inj.1 h

theorem ofList_injective {l m : List CodePoint} (h : ofList l = ofList m) : l = m :=
  ofList.inj h

@[simp] theorem ofString_inj {a b : String} : ofString a = ofString b ↔ a = b := by
  have hchar : Function.Injective CodePoint.char := fun _ _ ↦ CodePoint.char.inj
  rw [← toList_inj, toList_ofString, toList_ofString, List.map_inj_right (fun _ _ h ↦ hchar h),
    String.toList_inj]

@[simp] theorem ofString_beq {a b : String} : (ofString a == ofString b) = (a == b) := by
  rw [Bool.eq_iff_iff, beq_iff_eq, beq_iff_eq, ofString_inj]

theorem isEncodable_iff : t.isEncodable = true ↔ ∀ n, CodePoint.half n ∉ t.toList := by
  rw [isEncodable, List.all_eq_true]
  refine ⟨fun h n hn ↦ absurd (h _ hn) Bool.false_ne_true, fun h c hc ↦ ?_⟩
  cases c with
  | char c => rfl
  | half n => exact absurd hc (h n)

theorem isEncodable_ofString (s : String) : (ofString s).isEncodable = true := by
  rw [isEncodable_iff, toList_ofString]
  intro n hn
  obtain ⟨c, -, hc⟩ := List.mem_map.1 hn
  cases hc

theorem isEncodable_singleton (c : Char) : (singleton (.char c)).isEncodable = true := rfl

theorem isEncodable_append : (s ++ t).isEncodable = (s.isEncodable && t.isEncodable) :=
  List.all_append

theorem toString?_eq_some {s : String} : t.toString? = some s ↔ t = s := by
  have hchars : ∀ l : List Char, (l.map CodePoint.char).filterMap CodePoint.char? = l := by
    intro l
    rw [List.filterMap_map]
    exact List.filterMap_some
  constructor
  · intro h
    unfold toString? at h
    split at h
    · next hall =>
      rw [← Option.some.inj h, ← toList_inj, toList_ofString, String.toList_ofList]
      rw [isEncodable, List.all_eq_true] at hall
      have hkept : ∀ l : List CodePoint, (∀ c ∈ l, c.char?.isSome = true) →
          l = (l.filterMap CodePoint.char?).map .char := by
        intro l hl
        induction l with
        | nil => rfl
        | cons c rest ih =>
          have hrest := ih fun d hd ↦ hl d (List.mem_cons_of_mem c hd)
          cases c with
          | char c => exact congrArg (CodePoint.char c :: ·) hrest
          | half n => exact absurd (hl _ List.mem_cons_self) Bool.false_ne_true
      exact hkept t.toList hall
    · cases h
  · rintro rfl
    rw [toString?, if_pos (isEncodable_ofString s), toList_ofString, hchars, String.ofList_toList]

@[simp] theorem toString?_ofString (s : String) : (ofString s).toString? = some s :=
  toString?_eq_some.2 rfl

@[simp] theorem length_toList : t.toList.length = t.length := rfl

@[simp] theorem length_singleton (c : CodePoint) : (singleton c).length = 1 := rfl

theorem toList_eq_nil_iff : t.toList = [] ↔ t = "" := by rw [← toList_inj, toList_empty]

theorem ofList_eq_empty_iff {l : List CodePoint} : ofList l = "" ↔ l = [] :=
  toList_eq_nil_iff.symm

theorem isEmpty_iff : t.isEmpty = true ↔ t = "" := by
  rw [isEmpty, List.isEmpty_iff, toList_eq_nil_iff]

theorem isEmpty_eq_false_iff : t.isEmpty = false ↔ t ≠ "" := by
  rw [← Bool.not_eq_true, isEmpty_iff]

theorem contains_eq : t.contains c = decide (c ∈ t.toList) := List.contains_eq_mem c t.toList

theorem singleton_inj : singleton c = singleton d ↔ c = d := by simp [singleton]

theorem singleton_ne_empty (c : CodePoint) : singleton c ≠ "" := by
  rw [ne_eq, ← toList_eq_nil_iff]
  exact List.cons_ne_nil c []

/-! ## Texts one after another -/

theorem append_assoc : s ++ t ++ u = s ++ (t ++ u) :=
  toList_injective (List.append_assoc s.toList t.toList u.toList)

@[simp] theorem empty_append : ("" : Text) ++ t = t := rfl

@[simp] theorem append_empty : t ++ ("" : Text) = t :=
  toList_injective (List.append_nil t.toList)

theorem append_left_inj (u : Text) : s ++ u = t ++ u ↔ s = t := by
  rw [← toList_inj, toList_append, toList_append, List.append_left_inj, toList_inj]

theorem append_eq_empty_iff : s ++ t = "" ↔ s = "" ∧ t = "" := by
  rw [← toList_eq_nil_iff, toList_append, List.append_eq_nil_iff, toList_eq_nil_iff,
    toList_eq_nil_iff]

theorem join_nil : join [] = "" := rfl

theorem join_cons : join (t :: texts) = t ++ join texts := rfl

theorem intercalate_singleton : s.intercalate [t] = t :=
  toList_injective (by simp)

theorem intercalate_cons_cons :
    s.intercalate (t :: u :: texts) = t ++ s ++ s.intercalate (u :: texts) :=
  toList_injective (by simp)

theorem intercalate_append_of_ne_nil {more : List Text} (h : texts ≠ []) (hmore : more ≠ []) :
    s.intercalate (texts ++ more) = s.intercalate texts ++ s ++ s.intercalate more := by
  induction texts with
  | nil => exact absurd rfl h
  | cons t rest ih =>
    cases rest with
    | nil =>
      obtain ⟨u, tail, rfl⟩ := List.exists_cons_of_ne_nil hmore
      rw [List.singleton_append, intercalate_cons_cons, intercalate_singleton]
    | cons u tail =>
      rw [List.cons_append, List.cons_append, intercalate_cons_cons, intercalate_cons_cons,
        ← List.cons_append, ih (List.cons_ne_nil u tail)]
      simp only [append_assoc]

end Text

end TextArt
