import TextArt.Proofs.Fields
import TextArt.Proofs.Grid.Legible

/-!
# The texts of values

Cells get their characters from values, and not only from texts: a table of inks may hold numbers,
which stand for their own digits. So the values without hidden characters and line feeds in their
texts are just those that give legible characters, once it is known that numbers are written in
legible ones (`legible_plain`).
-/

namespace TextArt

/-- The text shows in a row as it is. -/
def Text.Legible (s : Text) : Prop := ∀ c ∈ s.toList, Cell.Legible c

instance (s : Text) : Decidable (Text.Legible s) := List.decidableBAll _ s.toList

namespace Text

theorem legible_ofList {chars : List CodePoint} (h : ∀ c ∈ chars, Cell.Legible c) :
    Legible (Text.ofList chars) := by
  rwa [Legible, Text.toList_ofList]

private theorem legible_ofString {s : String} (h : ∀ c ∈ s.toList, Cell.Legible (.char c)) :
    Legible s := by
  intro c hc
  obtain ⟨d, hd, rfl⟩ := List.mem_map.1 hc
  exact h d hd

theorem legible_of_singleChar? {s : Text} {c : CodePoint} (h : singleChar? s = some c)
    (hs : Legible s) : Cell.Legible c :=
  hs c (mem_of_singleChar? h)

theorem legible_withoutFinalNuls {s : Text} (hs : Legible s) : Legible (withoutFinalNuls s) :=
  fun c hc ↦ hs c (mem_of_mem_withoutFinalNuls hc)

end Text

/-! ## Numbers -/

namespace Decimal

open Text (Legible)

/-- A string whose characters show in a row as they are. -/
def Plain (s : String) : Prop := ∀ c ∈ s.toList, Cell.Legible (.char c)

instance (s : String) : Decidable (Plain s) := List.decidableBAll _ s.toList

theorem plain_append {a b : String} (ha : Plain a) (hb : Plain b) : Plain (a ++ b) := by
  intro c hc
  rw [String.toList_append, List.mem_append] at hc
  exact hc.elim (ha c) (hb c)

theorem plain_ofList {chars : List Char} (h : ∀ c ∈ chars, Cell.Legible (.char c)) :
    Plain (String.ofList chars) := by
  rwa [Plain, String.toList_ofList]

private theorem legible_of_mem_toDigits {n : Nat} {c : Char} (h : c ∈ Nat.toDigits 10 n) :
    Cell.Legible (.char c) := by
  have hdigit := Nat.isDigit_of_mem_toDigits (by decide) (by decide) h
  constructor <;> intro heq <;> obtain rfl := CodePoint.char.inj heq <;>
    exact absurd hdigit (by decide)

theorem plain_toString (n : Nat) : Plain (toString n) := by
  rw [Nat.toString_eq_repr, Nat.repr]
  exact plain_ofList fun c hc ↦ legible_of_mem_toDigits hc

private theorem plain_toString_int (n : Int) : Plain (toString n) := by
  cases n with
  | ofNat n => exact plain_toString n
  | negSucc n => exact plain_append (by decide) (plain_toString (n + 1))

theorem legible_of_mem_replicate {n : Nat} {c : Char} (h : c ∈ List.replicate n '0') :
    Cell.Legible (.char c) := by
  rw [List.eq_of_mem_replicate h]
  decide

private theorem plain_padded (width n : Nat) : Plain (padded width n) :=
  plain_append (plain_ofList fun _ hc ↦ legible_of_mem_replicate hc) (plain_toString n)

variable {digits : List Char}

private theorem plain_positional (h : ∀ c ∈ digits, Cell.Legible (.char c)) (point : Int) :
    Plain (positional digits point) := by
  have hzero : ∀ c ∈ ['0'], Cell.Legible (.char c) := fun c hc ↦ by
    rw [List.mem_singleton.1 hc]
    decide
  refine plain_append (plain_append (plain_ofList ?_) (by decide)) (plain_ofList ?_)
  · split
    · exact hzero
    · intro c hc
      rcases List.mem_append.1 hc with hc | hc
      · exact h c (List.mem_of_mem_take hc)
      · exact legible_of_mem_replicate hc
  · split
    · exact hzero
    · intro c hc
      rcases List.mem_append.1 hc with hc | hc
      · exact legible_of_mem_replicate hc
      · exact h c (List.mem_of_mem_drop hc)

private theorem plain_scientific (layout : Layout) (h : ∀ c ∈ digits, Cell.Legible (.char c))
    (exponent : Int) :
    Plain (layout.scientific digits exponent) := by
  refine plain_append (plain_append (plain_append ?_ ?_) ?_) (plain_padded _ _)
  · exact plain_ofList fun c hc ↦ h c (List.mem_of_mem_take hc)
  · split
    · decide
    · exact plain_append (by decide) (plain_ofList fun c hc ↦ h c (List.mem_of_mem_drop hc))
  · split <;> decide

private theorem plain_write {layout : Layout} (hnan : Plain layout.nan)
    (hinfinity : Plain layout.infinity) (x : Float) : Plain (layout.write x) := by
  have hsign {s : String} (hs : Plain s) : Plain ("-" ++ s) := plain_append (by decide) hs
  unfold Layout.write
  split
  · split
    · exact hnan
    · split
      · exact hsign hinfinity
      · exact hinfinity
  · next e _ =>
    have hsize : Plain (if e.mantissa = 0 then "0.0"
        else
          let d := shortest e
          let digits := (toString d.digits).toList
          let exponent := d.exponent + (digits.length : Int) - 1
          if layout.least ≤ exponent ∧ exponent < layout.limit then positional digits (exponent + 1)
          else layout.scientific digits exponent) := by
      split
      · decide
      · dsimp only
        split
        · exact plain_positional (plain_toString _) _
        · exact plain_scientific layout (plain_toString _) _
    dsimp only
    split
    · exact hsign hsize
    · exact hsize

end Decimal

/-! ## Values -/

namespace Value

/-- All texts in the value are made of characters with a property. -/
inductive WrittenIn (P : CodePoint → Prop) : Value → Prop where
  /-- The absent value has no text. -/
  | null : WrittenIn P null
  /-- Truth values have no text. -/
  | bool (b : Bool) : WrittenIn P (bool b)
  /-- Whole numbers have no text. -/
  | int (n : Int) : WrittenIn P (int n)
  /-- Binary64 numbers have no text. -/
  | float (x : Float) : WrittenIn P (float x)
  /-- The characters of a text have the property. -/
  | str {s : Text} (h : ∀ c ∈ s.toList, P c) : WrittenIn P (str s)
  /-- So do those of the items of a list. -/
  | list {items : List Value} (h : ∀ v ∈ items, WrittenIn P v) : WrittenIn P (list items)
  /-- So do those of the names and the values of the fields of an object. -/
  | object {fields : Fields} (hname : ∀ f ∈ fields, ∀ c ∈ f.1.toList, P c)
      (h : ∀ f ∈ fields, WrittenIn P f.2) : WrittenIn P (object fields)

variable {P : CodePoint → Prop} {v : Value}

theorem WrittenIn.chars {s : Text} (h : (Value.str s).WrittenIn P) : ∀ c ∈ s.toList, P c := by
  cases h with
  | str h => exact h

theorem WrittenIn.items {items : List Value} (h : (Value.list items).WrittenIn P) :
    ∀ v ∈ items, v.WrittenIn P := by
  cases h with
  | list h => exact h

theorem WrittenIn.singleton {c : CodePoint} (h : P c) :
    (Value.str (Text.singleton c)).WrittenIn P := by
  refine .str fun d hd ↦ ?_
  rw [Text.toList_singleton, List.mem_singleton] at hd
  exact hd ▸ h

/-- The parts of a value are written in its characters. -/
theorem WrittenIn.parts (h : v.WrittenIn P) {parts : List Value} (hparts : v.parts = .ok parts) :
    ∀ part ∈ parts, part.WrittenIn P := by
  unfold Value.parts at hparts
  cases h with
  | str h =>
    obtain rfl := Except.ok.inj hparts
    intro part hpart
    obtain ⟨c, hc, rfl⟩ := List.mem_map.1 hpart
    exact .singleton (h c hc)
  | list h =>
    obtain rfl := Except.ok.inj hparts
    exact h
  | object hname h =>
    obtain rfl := Except.ok.inj hparts
    intro part hpart
    obtain ⟨f, hf, rfl⟩ := List.mem_map.1 hpart
    exact .str (hname f hf)
  | _ => cases hparts

/-- A value that is no list and no object is shown in legible characters if its text is. -/
theorem legible_scalarText? {s : Text} (hs : v.scalarText? = some s)
    (h : v.WrittenIn Cell.Legible) : Text.Legible s := by
  cases v with
  | null => obtain rfl := Option.some.inj hs; decide
  | bool b => obtain rfl := Option.some.inj hs; cases b <;> decide
  | int n =>
    obtain rfl := Option.some.inj hs
    exact Text.legible_ofString (Decimal.plain_toString_int n)
  | float x =>
    obtain rfl := Option.some.inj hs
    exact Text.legible_ofString (Decimal.plain_write (by decide) (by decide) x)
  | str t => obtain rfl := Option.some.inj hs; exact h.chars
  | list items => cases hs
  | object fields => cases hs

theorem legible_of_cell {c : Cell} (hc : v.cell = .ok c) (h : v.WrittenIn Cell.Legible) :
    c.Legible := by
  unfold cell at hc
  split at hc
  · next d hd =>
    obtain rfl := Except.ok.inj hc
    obtain ⟨s, hs, hchar⟩ := Option.bind_eq_some_iff.1 hd
    cases v <;> simp only [text?, reduceCtorEq, Option.some.injEq] at hs
    subst hs
    exact Text.legible_of_singleChar? hchar h.chars
  · cases hc

end Value

theorem Fields.writtenIn_argument {P : CodePoint → Prop} {fields : Fields} {name : Text}
    {default : Value} (h : ∀ v, (name, v) ∈ fields → v.WrittenIn P)
    (hdefault : default.WrittenIn P) : (fields.argument name default).WrittenIn P := by
  rcases fields.argument_cases name default with ⟨-, hd⟩ | ⟨v, hv, hd⟩
  · rw [hd]
    exact hdefault
  · rw [hd]
    exact h v hv

end TextArt
