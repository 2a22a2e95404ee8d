import TextArt.Proofs.Fields
import TextArt.Proofs.Schema

/-!
# Fields in wire form

A check takes more than a document has to say: second spellings of names, and values that it
converts. Fields in wire form do without both. A name has the spelling of documents, and a field
that holds a number or a truth value holds one already. What such fields say can be read with the
check or without it: `lookup_of_required` and its companions give the value that stands in the
document from the value that the check has made of it.
-/

namespace TextArt

open Schema

/-- The types of the values that checks convert. -/
inductive FieldType where
  /-- A whole number. -/
  | whole
  /-- A whole number, or null. -/
  | wholeOrNull
  /-- A number. -/
  | number
  /-- A truth value. -/
  | flag
  deriving DecidableEq, Repr

namespace FieldType

/-- Whether a value is of a type. -/
def holds : FieldType → Value → Bool
  | whole, .int _ => true
  | wholeOrNull, .int _ => true
  | wholeOrNull, .null => true
  | number, .int _ => true
  | number, .float _ => true
  | flag, .bool _ => true
  | _, _ => false

/-- The type of a field. The other fields hold texts, lists and objects, which no check
converts. -/
def of? (name : Text) : Option FieldType :=
  match name.toString? with
  | some "radius" | some "width" | some "height" | some "sides" | some "row" | some "col"
  | some "startRow" | some "endRow" | some "startCol" | some "endCol" | some "degrees"
  | some "targetWidth" => some whole
  | some "seed" => some wholeOrNull
  | some "factor" | some "density" => some number
  | some "filled" | some "transparent" | some "reverse" => some flag
  | _ => none

theorem anyInt_of_holds {v : Value} {n : Int} (hv : whole.holds v = true) (h : anyInt v = .ok n) :
    v = .int n := by
  cases v with
  | int m => exact congrArg _ (Except.ok.inj h)
  | _ => cases hv

theorem anyBool_of_holds {v : Value} {b : Bool} (hv : flag.holds v = true)
    (h : anyBool v = .ok b) : v = .bool b := by
  cases v with
  | bool c => exact congrArg _ (Except.ok.inj h)
  | _ => cases hv

end FieldType

namespace Fields

/-- The second spellings of the names that have one, save for parameters of fills. -/
def secondSpellings : List Text :=
  ["operations", "store_as", "fill_pattern", "fill_params", "target_width", "start_row", "end_row",
    "start_col", "end_col"]

/-- No name has its second spelling. -/
def Spelled (fields : Fields) : Prop := ∀ p ∈ fields, p.1 ∉ secondSpellings

/-- All values are of the types of their fields. -/
def Typed (fields : Fields) : Prop := ∀ p ∈ fields, ∀ t ∈ FieldType.of? p.1, t.holds p.2 = true

/-- The names are spelled, and the values typed, as in documents. -/
structure WireForm (fields : Fields) : Prop where
  /-- The names have the spelling of documents. -/
  spelled : fields.Spelled
  /-- The values are of the types of their fields. -/
  typed : fields.Typed

theorem typed_nil : Typed [] := fun _ hp ↦ (List.not_mem_nil hp).elim

theorem wireForm_nil : WireForm [] := ⟨fun _ hp ↦ (List.not_mem_nil hp).elim, typed_nil⟩

instance (fields : Fields) : Decidable fields.Spelled :=
  inferInstanceAs (Decidable (∀ p ∈ fields, p.1 ∉ secondSpellings))

instance (fields : Fields) : Decidable fields.Typed :=
  inferInstanceAs (Decidable (∀ p ∈ fields, ∀ t ∈ FieldType.of? p.1, t.holds p.2 = true))

variable {fields : Fields} {k : Key} {α : Type} {check : Value → Checked α} {x : α}

theorem holds_of_lookup (h : fields.Typed) {name : Text} {v : Value}
    (hv : fields.lookup name = some v) {t : FieldType} (ht : FieldType.of? name = some t) :
    t.holds v = true :=
  h _ (mem_of_lookup hv) t ht

/-- A field is found under its spelling in documents, or else under its second one. -/
theorem lookup_of_find? {spelling : Text} {v : Value}
    (h : k.find? fields = some (spelling, v)) :
    spelling = k.wire ∧ fields.lookup k.wire = some v ∨
      spelling = k.plain ∧ fields.lookup k.wire = none ∧ fields.lookup k.plain = some v := by
  unfold Key.find? at h
  split at h
  · next hwire =>
    obtain ⟨rfl, rfl⟩ := Prod.mk.inj (Option.some.inj h)
    exact .inl ⟨rfl, hwire⟩
  · next hnone =>
    obtain ⟨w, hplain, hpair⟩ := Option.map_eq_some_iff.1 h
    obtain ⟨rfl, rfl⟩ := Prod.mk.inj hpair
    exact .inr ⟨rfl, hnone, hplain⟩

theorem find?_of_spelled (h : fields.Spelled) (hk : k.plain ∈ k.wire :: secondSpellings) :
    k.find? fields = (fields.lookup k.wire).map (k.wire, ·) := by
  unfold Key.find?
  cases hwire : List.lookup k.wire fields with
  | some v => rfl
  | none =>
    cases hplain : List.lookup k.plain fields with
    | none => rfl
    | some v =>
      rcases List.mem_cons.1 hk with hsame | hsecond
      · rw [hsame, hwire] at hplain
        cases hplain
      · exact absurd hsecond (h _ (mem_of_lookup hplain))

/-- What a field that has to be there says. -/
theorem lookup_of_required (h : fields.Spelled) (hk : k.plain ∈ k.wire :: secondSpellings)
    (hcheck : required fields k check = .ok x) :
    ∃ v, fields.lookup k.wire = some v ∧ check v = .ok x := by
  obtain ⟨spelling, v, hfind, hv⟩ := required_eq_ok.1 hcheck
  rw [find?_of_spelled h hk] at hfind
  obtain ⟨w, hw, hpair⟩ := Option.map_eq_some_iff.1 hfind
  obtain ⟨-, rfl⟩ := Prod.mk.inj hpair
  exact ⟨w, hw, hv⟩

/-- What a field that may be left out says. -/
theorem lookup_of_optional (h : fields.Spelled) (hk : k.plain ∈ k.wire :: secondSpellings)
    {default : α} (hcheck : optional fields k default check = .ok x) :
    fields.lookup k.wire = none ∧ x = default ∨
      ∃ v, fields.lookup k.wire = some v ∧ check v = .ok x := by
  rcases optional_eq_ok.1 hcheck with ⟨hnone, rfl⟩ | ⟨spelling, v, hfind, hv⟩
  · rw [find?_of_spelled h hk] at hnone
    exact .inl ⟨Option.map_eq_none_iff.1 hnone, rfl⟩
  · rw [find?_of_spelled h hk] at hfind
    obtain ⟨w, hw, hpair⟩ := Option.map_eq_some_iff.1 hfind
    obtain ⟨-, rfl⟩ := Prod.mk.inj hpair
    exact .inr ⟨w, hw, hv⟩

/-- A field that may be left out, with a default that the check takes. -/
theorem check_argument (h : fields.Spelled) (hk : k.plain ∈ k.wire :: secondSpellings)
    {default : α} (hcheck : optional fields k default check = .ok x) {v : Value}
    (hv : check v = .ok default) : check (fields.argument k.wire v) = .ok x := by
  rcases lookup_of_optional h hk hcheck with ⟨hnone, rfl⟩ | ⟨w, hw, hx⟩
  · rwa [argument_of_lookup_none hnone]
  · rwa [argument_of_lookup hw]

theorem lookup_of_argument {name : Text} {default v : Value}
    (h : fields.argument name default = v) (hne : v ≠ default) :
    fields.lookup name = some v := by
  cases hlookup : List.lookup name fields with
  | none =>
    rw [argument_of_lookup_none hlookup] at h
    exact absurd h.symm hne
  | some w =>
    rw [argument_of_lookup hlookup] at h
    exact congrArg some h

/-- An object, or an empty one in its place. -/
theorem orElse_object (inner : Fields) :
    (Value.object inner).orElse (.object []) = .object inner := by
  cases inner <;> rfl

/-! ## Fields of one type -/

theorem lookup_whole (h : fields.WireForm) (hk : k.plain ∈ k.wire :: secondSpellings)
    (ht : FieldType.of? k.wire = some .whole) {n : Int}
    (hcheck : required fields k anyInt = .ok n) : fields.lookup k.wire = some (.int n) := by
  obtain ⟨v, hv, hn⟩ := lookup_of_required h.spelled hk hcheck
  rw [hv, FieldType.anyInt_of_holds (holds_of_lookup h.typed hv ht) hn]

theorem lookup_atLeast (h : fields.WireForm) (hk : k.plain ∈ k.wire :: secondSpellings)
    (ht : FieldType.of? k.wire = some .whole) {least : Nat} {n : AtLeast least}
    (hcheck : required fields k (intFrom least) = .ok n) :
    fields.lookup k.wire = some (.int n.val) := by
  obtain ⟨v, hv, hn⟩ := lookup_of_required h.spelled hk hcheck
  rw [hv, FieldType.anyInt_of_holds (holds_of_lookup h.typed hv ht) (intFrom_eq_ok hn)]

theorem argument_whole (h : fields.WireForm) (hk : k.plain ∈ k.wire :: secondSpellings)
    (ht : FieldType.of? k.wire = some .whole) {default n : Int}
    (hcheck : optional fields k default anyInt = .ok n) :
    fields.argument k.wire (.int default) = .int n := by
  rcases lookup_of_optional h.spelled hk hcheck with ⟨hnone, rfl⟩ | ⟨v, hv, hn⟩
  · exact argument_of_lookup_none hnone _
  · rw [argument_of_lookup hv, FieldType.anyInt_of_holds (holds_of_lookup h.typed hv ht) hn]

theorem argument_flag (h : fields.WireForm) (hk : k.plain ∈ k.wire :: secondSpellings)
    (ht : FieldType.of? k.wire = some .flag) {default b : Bool}
    (hcheck : optional fields k default anyBool = .ok b) :
    fields.argument k.wire (.bool default) = .bool b := by
  rcases lookup_of_optional h.spelled hk hcheck with ⟨hnone, rfl⟩ | ⟨v, hv, hb⟩
  · exact argument_of_lookup_none hnone _
  · rw [argument_of_lookup hv, FieldType.anyBool_of_holds (holds_of_lookup h.typed hv ht) hb]

theorem argument_char (h : fields.Spelled) (hk : k.plain ∈ k.wire :: secondSpellings)
    {default c : Char} (hcheck : optional fields k default oneChar = .ok c) :
    fields.argument k.wire (.str (Text.singleton default)) = .str (Text.singleton c) :=
  oneChar_eq_ok.1 (check_argument h hk hcheck (oneChar_eq_ok.2 rfl))

/-- An object that may be left out. -/
theorem lookup_object (h : fields.Spelled) (hk : k.plain ∈ k.wire :: secondSpellings)
    {inner : Fields} (hcheck : optional fields k [] anyObject = .ok inner) :
    fields.lookup k.wire = none ∧ inner = [] ∨ fields.lookup k.wire = some (.object inner) := by
  rcases lookup_of_optional h hk hcheck with hnone | ⟨v, hv, hinner⟩
  · exact .inl hnone
  · exact .inr (by rw [hv, anyObject_eq_ok.1 hinner])

/-- An object that may be left out or empty. -/
theorem argument_object (h : fields.Spelled) (hk : k.plain ∈ k.wire :: secondSpellings)
    {inner : Fields} (hcheck : optional fields k [] anyObject = .ok inner) :
    (fields.argument k.wire .null).orElse (.object []) = .object inner := by
  rcases lookup_object h hk hcheck with ⟨hnone, rfl⟩ | hinner
  · rw [argument_of_lookup_none hnone]
    rfl
  · rw [argument_of_lookup hinner, orElse_object]

/-! ## Names -/

theorem mem_of_noOthers {names : List Text} {u : Unit}
    (h : noOthers fields (names.map Key.of) = .ok u) : ∀ p ∈ fields, p.1 ∈ names := by
  intro p hp
  obtain ⟨k, hk, v, hfind⟩ := noOthers_eq_ok.1 h p hp
  obtain ⟨name, hname, rfl⟩ := List.mem_map.1 hk
  rcases lookup_of_find? hfind with ⟨hspelling, -⟩ | ⟨hspelling, -⟩
  · rwa [hspelling]
  · rwa [hspelling]

/-- Arguments with the required names and no others than those that are expected are accepted. -/
theorem accept_eq_ok {required optional names : List Text}
    (hnames : ∀ name ∈ names, name ∈ required ∨ name ∈ optional)
    (hrequired : (required.all fun name ↦ (fields.lookup name).isSome) = true)
    {u : Unit} (h : noOthers fields (names.map Key.of) = .ok u) :
    fields.accept required optional = .ok () := by
  have hall : (fields.all fun p ↦ required.contains p.1 || optional.contains p.1) = true := by
    rw [List.all_eq_true]
    intro p hp
    simpa using hnames p.1 (mem_of_noOthers h p hp)
  rw [accept, hall, hrequired]
  rfl

end Fields

end TextArt
