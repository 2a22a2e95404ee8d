import TextArt.Fill.Request
import TextArt.Proofs.Text.LetterCase

/-!
# How a parameter may be spelled

The name that a request gives to a parameter is converted before it is looked at. This module says,
without the conversion, which names are taken for a parameter: the name of the parameter itself; the
one with humps, that is with a capital in place of an underscore and the letter after it; either
with a capital at its beginning; and, since lower case is that of all scripts, each of these with
the Kelvin sign for a `k`.
-/

namespace TextArt.FillRegistry

open Text (IsPlain isUpper kelvin lowerChar smallOf)

/-- Characters that stand for those of a parameter, after the first. -/
inductive SpellsRest : List CodePoint → List CodePoint → Prop where
  /-- Nothing is left. -/
  | nil : SpellsRest [] []
  /-- A character stands for itself. -/
  | plain {cs ts : List CodePoint} {t : CodePoint} (ht : IsPlain t) (h : SpellsRest cs ts) :
    SpellsRest (t :: cs) (t :: ts)
  /-- A capital stands for an underscore and its letter. -/
  | hump {cs ts : List CodePoint} {c : CodePoint} (hc : isUpper c = true) (h : SpellsRest cs ts) :
    SpellsRest (c :: cs) ('_' :: smallOf c :: ts)
  /-- The Kelvin sign stands for its letter. -/
  | kelvin {cs ts : List CodePoint} (h : SpellsRest cs ts) : SpellsRest (kelvin :: cs) ('k' :: ts)

/-- A name that a request may give to a parameter. -/
inductive Spells : Text → Text → Prop where
  /-- The first character stands for itself, a capital for its letter and the Kelvin sign for
  its own. -/
  | mk {name param : Text} {c t : CodePoint} {cs ts : List CodePoint}
    (hname : name.toList = c :: cs)
    (hparam : param.toList = t :: ts)
    (hfirst : c = t ∧ IsPlain t ∨ isUpper c = true ∧ t = smallOf c ∨ c = kelvin ∧ t = 'k')
    (hrest : SpellsRest cs ts) : Spells name param

/-- What a character that is not the first is converted to. -/
def convertedChar (c : CodePoint) : List CodePoint :=
  if isUpper c then [.char '_', smallOf c] else lowerChar c

theorem convertedChar_of_isUpper {c : CodePoint} (hc : isUpper c = true) :
    convertedChar c = [.char '_', smallOf c] := if_pos hc

theorem convertedChar_of_not_isUpper {c : CodePoint} (hc : isUpper c = false) :
    convertedChar c = lowerChar c := if_neg (Bool.eq_false_iff.1 hc)

private theorem snakeCase_eq_iff_flatMap {name param : Text} {c : CodePoint} {cs : List CodePoint}
    (h : name.toList = c :: cs) (hparam : ∀ t ∈ param.toList, IsPlain t) :
    snakeCase name = param ↔ lowerChar c ++ cs.flatMap convertedChar = param.toList := by
  have hrest (d : CodePoint) :
      (if .char 'A' ≤ d ∧ d ≤ .char 'Z' then [.char '_', d] else [d]).flatMap lowerChar =
        convertedChar d := by
    have hupper : isUpper d = decide (.char 'A' ≤ d ∧ d ≤ .char 'Z') := rfl
    split
    · next hcapital =>
      have hd : isUpper d = true := hupper.trans (decide_eq_true hcapital)
      rw [convertedChar_of_isUpper hd, List.flatMap_cons, List.flatMap_cons, List.flatMap_nil,
        Text.lowerChar_of_isPlain (.inr rfl), Text.lowerChar_of_isUpper hd]
      rfl
    · next hother =>
      rw [convertedChar_of_not_isUpper (hupper.trans (decide_eq_false hother))]
      exact List.flatMap_singleton lowerChar d
  rw [snakeCase, h]
  dsimp only
  rw [Text.lower, ← Text.toList_inj, Text.toList_ofList, Text.toList_ofList,
    Text.lowerAfter_eq_iff_of_isPlain hparam, List.flatMap_cons, List.flatMap_assoc]
  simp only [hrest]

private theorem flatMap_convertedChar_of_spellsRest {cs ts : List CodePoint}
    (h : SpellsRest cs ts) :
    cs.flatMap convertedChar = ts := by
  induction h with
  | nil => rfl
  | plain ht h ih =>
    rw [List.flatMap_cons, ih, convertedChar_of_not_isUpper (Text.isUpper_eq_false_of_isPlain ht),
      Text.lowerChar_of_isPlain ht, List.singleton_append]
  | hump hc h ih =>
    rw [List.flatMap_cons, ih, convertedChar_of_isUpper hc]
    rfl
  | kelvin h ih =>
    rw [List.flatMap_cons, ih, convertedChar_of_not_isUpper (by decide), Text.lowerChar_kelvin,
      List.singleton_append]

private theorem spellsRest_of_flatMap_convertedChar {cs ts : List CodePoint}
    (hts : ∀ t ∈ ts, IsPlain t) (h : cs.flatMap convertedChar = ts) : SpellsRest cs ts := by
  induction cs generalizing ts with
  | nil =>
    obtain rfl : [] = ts := h
    exact .nil
  | cons c cs ih =>
    rw [List.flatMap_cons] at h
    subst h
    have hrest := ih (fun t ht ↦ hts t (List.mem_append_right _ ht)) rfl
    -- every kind of character leaves its mark at the beginning
    cases hupper : isUpper c with
    | true =>
      rw [convertedChar_of_isUpper hupper]
      exact .hump hupper hrest
    | false =>
      rw [convertedChar_of_not_isUpper hupper] at hts ⊢
      rcases Text.lowerChar_cases c with
        ⟨hcapital, -⟩ | ⟨hplain, hlower⟩ | ⟨rfl, hlower⟩ | ⟨d, hd, hnot⟩
      · rw [hupper] at hcapital
        cases hcapital
      · rw [hlower]
        exact .plain hplain hrest
      · rw [hlower]
        exact .kelvin hrest
      · exact absurd (hts d (List.mem_append_left _ hd)) hnot

/-- **Spelling.** A name is converted to that of a parameter exactly if it spells it. -/
theorem snakeCase_eq_iff {name param : Text} (hne : param ≠ "")
    (hparam : ∀ t ∈ param.toList, IsPlain t) : snakeCase name = param ↔ Spells name param := by
  constructor
  · intro h
    cases hname : name.toList with
    | nil =>
      refine absurd ?_ hne
      rw [← h, snakeCase, hname]
    | cons c cs =>
      have hlist := (snakeCase_eq_iff_flatMap hname hparam).1 h
      have hrest := spellsRest_of_flatMap_convertedChar
        (fun t ht ↦ hparam t (hlist ▸ List.mem_append_right _ ht)) rfl
      rcases Text.lowerChar_cases c with
        ⟨hcapital, hlower⟩ | ⟨hplain, hlower⟩ | ⟨hkelvin, hlower⟩ | ⟨d, hd, hnot⟩
      · rw [hlower] at hlist
        exact ⟨hname, hlist.symm, .inr (.inl ⟨hcapital, rfl⟩), hrest⟩
      · rw [hlower] at hlist
        exact ⟨hname, hlist.symm, .inl ⟨rfl, hplain⟩, hrest⟩
      · rw [hlower] at hlist
        exact ⟨hname, hlist.symm, .inr (.inr ⟨hkelvin, rfl⟩), hrest⟩
      · exact absurd (hparam d (hlist ▸ List.mem_append_left _ hd)) hnot
  · rintro ⟨hname, hlist, hfirst, hrest⟩
    rw [snakeCase_eq_iff_flatMap hname hparam, hlist, flatMap_convertedChar_of_spellsRest hrest]
    rcases hfirst with ⟨rfl, hplain⟩ | ⟨hcapital, rfl⟩ | ⟨rfl, rfl⟩
    · rw [Text.lowerChar_of_isPlain hplain, List.singleton_append]
    · rw [Text.lowerChar_of_isUpper hcapital, List.singleton_append]
    · rw [Text.lowerChar_kelvin, List.singleton_append]

/-- A parameter in two words has four spellings, and a single `k` doubles those of `back`. -/
example :
    ([("density_string" : Text), "densityString", "Density_string", "DensityString"].map
      snakeCase) = List.replicate 4 ("density_string" : Text) ∧
    snakeCase "bac\u212A" = "back" ∧ snakeCase "density_String" = "density__string" := by
  decide +kernel

end TextArt.FillRegistry
