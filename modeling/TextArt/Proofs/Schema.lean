import TextArt.Proofs.Outcome
import TextArt.Schema.Scalar

/-!
# What an accepted document says

Every check succeeds in just one way. The lemmas here say which: from the success of a check they
give the form of the value that was checked, part by part.
-/

namespace TextArt.Schema

variable {α β : Type}

/-! ## Combining checks -/

@[simp] theorem fail_ne_ok {message : Text} {x : α} : (fail message : Checked α) ≠ .ok x :=
  fun h ↦ by cases h

theorem both_eq_ok {a : Checked α} {b : Checked β} {x : α} {y : β} :
    both a b = .ok (x, y) ↔ a = .ok x ∧ b = .ok y := by
  cases a <;> cases b <;> simp [both]

theorem under_eq_ok {segment : Text} {c : Checked α} {x : α} :
    under segment c = .ok x ↔ c = .ok x := by
  cases c <;> simp [under]

/-- A list of checks succeeds exactly if each of them does. -/
theorem every_eq_ok {checks : List (Checked α)} {xs : List α} :
    every checks = .ok xs ↔ checks = xs.map .ok := by
  induction checks generalizing xs with
  | nil => cases xs <;> simp [every]
  | cons c rest ih =>
    rw [every, map_eq_ok]
    constructor
    · rintro ⟨⟨y, ys⟩, hboth, rfl⟩
      obtain ⟨hc, hrest⟩ := both_eq_ok.1 hboth
      rw [hc, ih.1 hrest, List.map_cons]
    · intro h
      cases xs with
      | nil => cases h
      | cons y ys =>
        obtain ⟨hc, hrest⟩ := List.cons.inj h
        exact ⟨(y, ys), both_eq_ok.2 ⟨hc, ih.2 hrest⟩, rfl⟩

/-! ## Records -/

theorem required_eq_ok {fields : Fields} {k : Key} {check : Value → Checked α} {x : α} :
    required fields k check = .ok x ↔ ∃ spelling v, k.find? fields = some (spelling, v) ∧
      check v = .ok x := by
  unfold required
  cases k.find? fields with
  | none => simp [under_eq_ok]
  | some found =>
    obtain ⟨spelling, v⟩ := found
    simp only [under_eq_ok, Option.some.injEq, Prod.mk.injEq]
    constructor
    · exact fun h ↦ ⟨spelling, v, ⟨rfl, rfl⟩, h⟩
    · rintro ⟨_, _, ⟨rfl, rfl⟩, h⟩
      exact h

theorem optional_eq_ok {fields : Fields} {k : Key} {default : α} {check : Value → Checked α}
    {x : α} : optional fields k default check = .ok x ↔
      k.find? fields = none ∧ x = default ∨
        ∃ spelling v, k.find? fields = some (spelling, v) ∧ check v = .ok x := by
  unfold optional
  cases k.find? fields with
  | none => simp [eq_comm]
  | some found =>
    obtain ⟨spelling, v⟩ := found
    simp only [under_eq_ok, Option.some.injEq, Prod.mk.injEq, reduceCtorEq, false_and, false_or]
    constructor
    · exact fun h ↦ ⟨spelling, v, ⟨rfl, rfl⟩, h⟩
    · rintro ⟨_, _, ⟨rfl, rfl⟩, h⟩
      exact h

/-- Every name of a record is a spelling that one of its fields is found under. -/
theorem noOthers_eq_ok {fields : Fields} {keys : List Key} {u : Unit} :
    noOthers fields keys = .ok u ↔
      ∀ f ∈ fields, ∃ k ∈ keys, ∃ v, k.find? fields = some (f.1, v) := by
  have hused : ∀ name, name ∈ (keys.filterMap fun k ↦ (k.find? fields).map Prod.fst) ↔
      ∃ k ∈ keys, ∃ v, k.find? fields = some (name, v) := by
    intro name
    rw [List.mem_filterMap]
    simp
  unfold noOthers
  dsimp only
  split
  · next hothers =>
    simp only [List.filter_eq_nil_iff, Bool.not_eq_true', Bool.not_eq_false,
      List.contains_iff_mem, hused] at hothers
    simpa using hothers
  · next hne =>
    simp only [reduceCtorEq, false_iff]
    intro hall
    refine hne ?_
    rw [List.filter_eq_nil_iff]
    intro f hf
    rw [Bool.not_eq_true', Bool.not_eq_false, List.contains_iff_mem, hused]
    exact hall f hf

/-- The names of all fields can be read. -/
def Readable (fields : Fields) : Prop := ∀ f ∈ fields, f.1.isEncodable = true

theorem readable_eq_ok {fields found : Fields} :
    readable fields = .ok found ↔ Readable fields ∧ found = fields := by
  unfold readable
  split
  · next hall =>
    rw [Except.ok.injEq, eq_comm]
    exact (and_iff_right (List.all_eq_true.1 hall)).symm
  · next hnot =>
    refine iff_of_false fail_ne_ok fun h ↦ hnot ?_
    exact List.all_eq_true.2 h.1

theorem readable_bind_eq_ok {β : Type} {fields : Fields} {f : Fields → Checked β} {b : β} :
    (readable fields >>= f) = .ok b ↔ Readable fields ∧ f fields = .ok b := by
  rw [bind_eq_ok]
  constructor
  · rintro ⟨found, hread, h⟩
    obtain ⟨hreadable, rfl⟩ := readable_eq_ok.1 hread
    exact ⟨hreadable, h⟩
  · rintro ⟨hreadable, h⟩
    exact ⟨fields, readable_eq_ok.2 ⟨hreadable, rfl⟩, h⟩

theorem record_eq_ok {kind : Text} {v : Value} {fields : Fields} :
    record kind v = .ok fields ↔ v = .object fields ∧ Readable fields := by
  cases v with
  | object found =>
    rw [record, readable_eq_ok, Value.object.injEq]
    constructor
    · rintro ⟨h, rfl⟩
      exact ⟨rfl, h⟩
    · rintro ⟨rfl, h⟩
      exact ⟨h, rfl⟩
  | _ => simp [record]

theorem anyObject_eq_ok {v : Value} {fields : Fields} :
    anyObject v = .ok fields ↔ v = .object fields := by
  cases v <;> simp [anyObject]

/-- The items of a checked list are the checked items. -/
theorem listOf_eq_ok {check : Value → Checked α} {v : Value} {xs : List α} :
    listOf check v = .ok xs ↔ ∃ items, v = .list items ∧ items.map check = xs.map .ok := by
  have hnumbered : ∀ (items : List Value) (n : Nat) (xs : List α),
      (items.zipIdx n).map (fun p ↦ under (toString p.2) (check p.1)) = xs.map .ok ↔
        items.map check = xs.map .ok := by
    intro items
    induction items with
    | nil => exact fun _ _ ↦ Iff.rfl
    | cons item rest ih =>
      intro n xs
      rw [List.zipIdx_cons, List.map_cons, List.map_cons]
      cases xs with
      | nil => simp
      | cons x xs => rw [List.map_cons, List.cons.injEq, List.cons.injEq, under_eq_ok, ih]
  unfold listOf
  split
  · rw [every_eq_ok]
    exact (hnumbered _ 0 xs).trans (by simp)
  · next hlist =>
    simp only [fail_ne_ok, false_iff]
    rintro ⟨items, rfl, -⟩
    exact hlist items rfl

theorem outcome_eq_ok {subject : Text} {c : Checked α} {x : α} :
    Checked.outcome subject c = .ok x ↔ c = .ok x := by
  cases c <;> simp [Checked.outcome]

/-! ## Single values -/

theorem anyText_eq_ok {v : Value} {s : Text} : anyText v = .ok s ↔ v = .str s := by
  cases v <;> simp [anyText]

theorem decoded_eq_ok {s t : Text} : decoded s = .ok t ↔ s.isEncodable = true ∧ t = s := by
  unfold decoded
  split
  · next h => simp [h, eq_comm]
  · next h => simp [h]

theorem plainText_eq_ok {v : Value} {s : Text} :
    plainText v = .ok s ↔ v = .str s ∧ s.isEncodable = true := by
  unfold plainText
  rw [bind_eq_ok]
  constructor
  · rintro ⟨t, ht, hdecoded⟩
    obtain ⟨hplain, rfl⟩ := decoded_eq_ok.1 hdecoded
    exact ⟨anyText_eq_ok.1 ht, hplain⟩
  · rintro ⟨rfl, hplain⟩
    exact ⟨s, rfl, decoded_eq_ok.2 ⟨hplain, rfl⟩⟩

theorem someText_eq_ok {v : Value} {s : Text} :
    someText v = .ok s ↔ v = .str s ∧ s.isEncodable = true ∧ s.isEmpty = false := by
  unfold someText
  rw [bind_eq_ok]
  constructor
  · rintro ⟨t, ht, h⟩
    split at h
    · cases h
    · next hempty =>
      obtain rfl := Except.ok.inj h
      obtain ⟨rfl, hplain⟩ := plainText_eq_ok.1 ht
      exact ⟨rfl, hplain, Bool.eq_false_iff.2 hempty⟩
  · rintro ⟨rfl, hplain, hempty⟩
    refine ⟨s, plainText_eq_ok.2 ⟨rfl, hplain⟩, ?_⟩
    rw [hempty]
    rfl

theorem oneChar_eq_ok {v : Value} {c : Char} :
    oneChar v = .ok c ↔ v = .str (Text.singleton c) := by
  unfold oneChar
  rw [bind_eq_ok]
  constructor
  · rintro ⟨s, hs, h⟩
    split at h
    · cases h
    · next c' hlist =>
      obtain rfl := Except.ok.inj h
      have hsingle : s = Text.singleton c' := by
        rw [← Text.toList_inj, hlist, Text.toList_singleton]
      rw [(plainText_eq_ok.1 hs).1, hsingle]
    · cases h
  · rintro rfl
    refine ⟨_, plainText_eq_ok.2 ⟨rfl, Text.isEncodable_singleton c⟩, ?_⟩
    rw [Text.toList_singleton]

theorem nullable_eq_ok {check : Value → Checked α} {v : Value} {x : Option α} :
    nullable check v = .ok x ↔
      v = .null ∧ x = none ∨ v ≠ .null ∧ ∃ y, check v = .ok y ∧ x = some y := by
  have hmap : ∀ c : Checked α, c.map some = .ok x ↔ ∃ y, c = .ok y ∧ x = some y := by
    intro c
    rw [map_eq_ok]
    simp only [eq_comm]
  cases v <;> simp [nullable, hmap, eq_comm]

theorem oneOf_eq_ok {choices : List (Text × α)} {v : Value} {x : α} :
    oneOf choices v = .ok x ↔
      ∃ s, v = .str s ∧ s.isEncodable = true ∧ choices.lookup s = some x := by
  unfold oneOf
  cases v with
  | str s =>
    simp only [Value.str.injEq, exists_eq_left', bind_eq_ok, decoded_eq_ok]
    cases h : choices.lookup s with
    | none => simp [h]
    | some y => simp [h, and_assoc]
  | _ => simp

theorem intFrom_eq_ok {least : Nat} {v : Value} {n : AtLeast least} (h : intFrom least v = .ok n) :
    anyInt v = .ok (n.val : Int) := by
  obtain ⟨m, hm, h⟩ := bind_eq_ok.1 h
  split at h
  · next hbound =>
    obtain rfl := Except.ok.inj h
    rw [hm]
    exact congrArg _ (Int.toNat_of_nonneg hbound.2).symm
  · cases h

end TextArt.Schema
