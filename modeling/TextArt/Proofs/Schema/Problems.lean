import TextArt.Proofs.Schema

/-!
# What a refused document hears

A check that refuses says why: it names at least one problem (`Explains`). And checks that are put
together do not hide each other's problems: the problems of the whole are those of the parts, one
after the other, each seen from what holds it (`problems_both`, `problems_under`,
`problems_listOf`). Only a check that needs the result of an earlier one is left out when that one
refuses.
-/

namespace TextArt.Schema

variable {α β : Type} {a : Checked α} {b : Checked β}

/-! ## The problems of the parts -/

/-- The problems of a check, none if it accepts. -/
def problems : Checked α → List Problem
  | .ok _ => []
  | .error found => found

/-- A problem of a part, as seen from what holds the part. -/
def Problem.below (segment : Text) (p : Problem) : Problem := { p with path := segment :: p.path }

@[simp] theorem problems_ok (x : α) : problems (.ok x : Checked α) = [] := rfl

@[simp] theorem problems_error (found : List Problem) :
    problems (.error found : Checked α) = found := rfl

@[simp] theorem problems_fail (message : Text) :
    problems (fail message : Checked α) = [⟨[], message⟩] := rfl

@[simp] theorem problems_map (f : α → β) : problems (a.map f) = problems a := by
  cases a <;> rfl

@[simp] theorem problems_both : problems (both a b) = problems a ++ problems b := by
  cases a <;> cases b <;> simp [both]

@[simp] theorem problems_under (segment : Text) :
    problems (under segment a) = (problems a).map (Problem.below segment) := by
  cases a <;> rfl

@[simp] theorem problems_every (checks : List (Checked α)) :
    problems (every checks) = checks.flatMap problems := by
  induction checks with
  | nil => rfl
  | cons c rest ih => rw [every, problems_map, problems_both, ih, List.flatMap_cons]

/-- A problem of a list is one of an item, below the number of that item. -/
theorem mem_problems_listOf {check : Value → Checked α} {items : List Value} {p : Problem} :
    p ∈ problems (listOf check (.list items)) ↔
      ∃ (i : Nat) (v : Value) (q : Problem), items[i]? = some v ∧ q ∈ problems (check v) ∧
        p = q.below (toString i) := by
  rw [listOf, problems_every, List.mem_flatMap]
  constructor
  · rintro ⟨_, hmem, hp⟩
    obtain ⟨⟨v, i⟩, hitem, rfl⟩ := List.mem_map.1 hmem
    rw [problems_under] at hp
    obtain ⟨q, hq, rfl⟩ := List.mem_map.1 hp
    exact ⟨i, v, q, List.mem_zipIdx_iff_getElem?.1 hitem, hq, rfl⟩
  · rintro ⟨i, v, q, hv, hq, rfl⟩
    have hitem : (v, i) ∈ items.zipIdx := List.mem_zipIdx_iff_getElem?.2 hv
    refine ⟨_, List.mem_map_of_mem hitem, ?_⟩
    rw [problems_under]
    exact List.mem_map_of_mem hq

/-! ## Places in words -/

/-- An entry of a list of problems is about a place of a document, or about one inside it. -/
def IsAbout (place entry : Text) : Prop :=
  (place ++ ": ").toList <+: entry.toList ∨ (place ++ ".").toList <+: entry.toList

/-- What follows the first name in the text of a problem. -/
def afterFirst (more : List Text) (message : Text) : List CodePoint :=
  (more.flatMap fun name ↦ .char '.' :: name.toList) ++ (": " ++ message).toList

theorem toList_text {p : Problem} {first : Text} {more : List Text}
    (h : p.path = first :: more) :
    p.text.toList = first.toList ++ afterFirst more p.message := by
  have hjoined : ∀ (first : Text) (more : List Text),
      (Text.intercalate "." (first :: more)).toList =
        first.toList ++ more.flatMap fun name ↦ .char '.' :: name.toList := by
    intro first more
    rw [Text.toList_intercalate]
    induction more generalizing first with
    | nil => simp
    | cons second rest ih =>
      rw [List.map_cons, List.map_cons, List.intercalate_cons_cons, ← List.map_cons, ih]
      simp
  rw [Problem.text, h, if_neg (by simp), Text.append_assoc, Text.toList_append, hjoined,
    List.append_assoc, afterFirst]

theorem afterFirst_cases (more : List Text) (message : Text) :
    (∃ rest, afterFirst more message = .char ':' :: .char ' ' :: rest) ∨
      ∃ rest, afterFirst more message = .char '.' :: rest := by
  cases more with
  | nil => exact .inl ⟨message.toList, by simp [afterFirst]⟩
  | cons name rest => exact .inr ⟨_, rfl⟩

theorem prefix_afterFirst (more : List Text) (message : Text) :
    (": " : Text).toList <+: afterFirst more message ∨
      ("." : Text).toList <+: afterFirst more message := by
  rcases afterFirst_cases more message with ⟨rest, heq⟩ | ⟨rest, heq⟩
  · exact .inl (heq ▸ List.prefix_append _ rest)
  · exact .inr (heq ▸ List.prefix_append _ rest)

/-- A problem is about the part that its path starts with. -/
theorem isAbout_text {p : Problem} {first : Text} {more : List Text}
    (h : p.path = first :: more) : IsAbout first p.text := by
  rw [IsAbout, toList_text h, Text.toList_append, Text.toList_append,
    List.prefix_append_right_inj, List.prefix_append_right_inj]
  exact prefix_afterFirst more p.message

/-- An entry starts like the place that it is about. -/
theorem IsAbout.head?_eq {place entry : Text} (h : IsAbout place entry) (hplace : place ≠ "") :
    entry.toList.head? = place.toList.head? := by
  obtain ⟨c, rest, hc⟩ := List.exists_cons_of_ne_nil (mt Text.toList_eq_nil_iff.1 hplace)
  rcases h with ⟨more, h⟩ | ⟨more, h⟩ <;>
    rw [← h, Text.toList_append, hc] <;> rfl

private theorem eq_of_digits_prefix {a b x y : List CodePoint} {c d : CodePoint}
    (ha : ∀ e ∈ a, e.isDigit = true) (hb : ∀ e ∈ b, e.isDigit = true)
    (hc : c.isDigit = false) (hd : d.isDigit = false)
    (h : a ++ c :: x <+: b ++ d :: y) : a = b := by
  obtain ⟨more, hmore⟩ := h
  have hrun := congrArg (List.takeWhile CodePoint.isDigit) hmore
  rw [List.append_assoc, List.takeWhile_append_of_pos ha, List.takeWhile_append_of_pos hb,
    List.cons_append, List.takeWhile_cons, List.takeWhile_cons, hc, hd] at hrun
  simpa using hrun

/-- A problem of the part itself is about nothing inside the part. -/
theorem not_isAbout_inside {p : Problem} {part : Text} (h : p.path = [part]) (inside : Text) :
    ¬IsAbout (part ++ "." ++ inside) p.text := by
  rw [IsAbout, toList_text h]
  simp [afterFirst, List.append_assoc, List.prefix_append_right_inj]

/-- A problem inside a numbered part is about no part with another number. -/
theorem isAbout_numbered_iff {p : Problem} {part : Text} {i j : Nat} {more : List Text}
    (h : p.path = part :: toString j :: more) :
    IsAbout (part ++ "." ++ toString i) p.text ↔ i = j := by
  have hname : ∀ n : Nat,
      (Text.ofString (toString n)).toList = (Nat.toDigits 10 n).map .char := fun n ↦ by
    exact congrArg (List.map _) Nat.toList_repr
  have hdigits : ∀ n : Nat, ∀ c ∈ (Nat.toDigits 10 n).map CodePoint.char, c.isDigit = true := by
    intro n c hc
    obtain ⟨d, hd, rfl⟩ := List.mem_map.1 hc
    exact Nat.isDigit_of_mem_toDigits (by decide) (by decide) hd
  have htext : p.text.toList =
      part.toList ++ .char '.' ::
        ((Text.ofString (toString j)).toList ++ afterFirst more p.message) := by
    rw [toList_text h, afterFirst, List.flatMap_cons, List.append_assoc]
    rfl
  have hplace : ∀ ending : Text, (part ++ "." ++ toString i ++ ending).toList =
      part.toList ++ .char '.' :: ((Text.ofString (toString i)).toList ++ ending.toList) := by
    intro ending
    simp
  have hends : ∃ c rest, afterFirst more p.message = c :: rest ∧ c.isDigit = false := by
    rcases afterFirst_cases more p.message with ⟨rest, heq⟩ | ⟨rest, heq⟩
    · exact ⟨_, _, heq, rfl⟩
    · exact ⟨_, _, heq, rfl⟩
  rw [IsAbout, htext, hplace, hplace, List.prefix_append_right_inj, List.prefix_append_right_inj,
    List.cons_prefix_cons, List.cons_prefix_cons, and_iff_right rfl, and_iff_right rfl]
  constructor
  · -- the point or the colon ends the run of digits, so that 1 is not the start of 12
    obtain ⟨c, rest, heq, hc⟩ := hends
    rw [heq, hname, hname]
    intro hprefix
    have hsame : Nat.toDigits 10 i = Nat.toDigits 10 j := by
      refine (List.map_inj_right fun _ _ ↦ CodePoint.char.inj).1 ?_
      rcases hprefix with hprefix | hprefix
      · exact eq_of_digits_prefix (hdigits i) (hdigits j) rfl hc hprefix
      · exact eq_of_digits_prefix (hdigits i) (hdigits j) rfl hc hprefix
    rw [← Nat.ofDigitChars_ten_toDigits (n := i), hsame, Nat.ofDigitChars_ten_toDigits]
  · rintro rfl
    rw [List.prefix_append_right_inj, List.prefix_append_right_inj]
    exact prefix_afterFirst more p.message

/-! ## Refusals with a reason -/

/-- A check that refuses names a problem. -/
def Explains (c : Checked α) : Prop := c ≠ .error []

/-- A check that names no problem accepts. -/
theorem Explains.problems_eq_nil_iff (h : Explains a) : problems a = [] ↔ ∃ x, a = .ok x := by
  cases a with
  | ok x => simp
  | error found => simpa [Explains] using h

@[simp] theorem explains_ok (x : α) : Explains (.ok x : Checked α) := ok_ne_error

@[simp] theorem explains_fail (message : Text) : Explains (fail message : Checked α) := by
  rintro ⟨⟩

theorem Explains.map (h : Explains a) (f : α → β) : Explains (a.map f) :=
  fun hmap ↦ h (map_eq_error.1 hmap)

theorem Explains.bind {f : α → Checked β} (h : Explains a) (hf : ∀ x, Explains (f x)) :
    Explains (a >>= f) := by
  intro hbind
  rcases bind_eq_error.1 hbind with ha | ⟨x, -, hx⟩
  · exact h ha
  · exact hf x hx

theorem Explains.both (ha : Explains a) (hb : Explains b) : Explains (both a b) := by
  cases a with
  | ok x => cases b with
    | ok y => exact explains_ok _
    | error found => exact fun h ↦ hb (congrArg _ (Except.error.inj h))
  | error found => cases b with
    | ok y => exact fun h ↦ ha (congrArg _ (Except.error.inj h))
    | error more =>
      intro h
      exact ha (congrArg _ (List.append_eq_nil_iff.1 (Except.error.inj h)).1)

theorem Explains.under (h : Explains a) (segment : Text) : Explains (under segment a) := by
  intro hunder
  obtain ⟨found, rfl, hfound⟩ := mapError_eq_error.1 hunder
  exact h (congrArg _ (List.map_eq_nil_iff.1 hfound))

theorem explains_every {checks : List (Checked α)} (h : ∀ c ∈ checks, Explains c) :
    Explains (every checks) := by
  induction checks with
  | nil => exact explains_ok _
  | cons c rest ih =>
    have hrest := ih fun c' hc' ↦ h c' (List.mem_cons_of_mem _ hc')
    exact ((h c List.mem_cons_self).both hrest).map _

section Records

variable {fields : Fields} {k : Key} {check : Value → Checked α}

theorem explains_required (h : ∀ v, Explains (check v)) : Explains (required fields k check) := by
  unfold required
  split
  · exact (h _).under _
  · exact (explains_fail _).under _

theorem explains_optional {default : α} (h : ∀ v, Explains (check v)) :
    Explains (optional fields k default check) := by
  unfold optional
  split
  · exact (h _).under _
  · exact explains_ok _

theorem explains_noOthers (fields : Fields) (keys : List Key) :
    Explains (noOthers fields keys) := by
  unfold noOthers
  dsimp only
  split
  · exact explains_ok _
  · next hne => exact fun h ↦ hne (List.map_eq_nil_iff.1 (Except.error.inj h))

theorem explains_decoded (s : Text) : Explains (decoded s) := by
  unfold decoded
  split <;> simp

theorem explains_readable (fields : Fields) : Explains (readable fields) := by
  unfold readable
  split <;> simp

theorem explains_readable_bind {f : Fields → Checked α} (h : Explains (f fields)) :
    Explains (readable fields >>= f) := by
  intro hbind
  rcases bind_eq_error.1 hbind with hread | ⟨found, hfound, hx⟩
  · exact explains_readable fields hread
  · obtain ⟨-, rfl⟩ := readable_eq_ok.1 hfound
    exact h hx

theorem explains_record (kind : Text) (v : Value) : Explains (record kind v) := by
  cases v with
  | object fields => exact explains_readable fields
  | _ => exact explains_fail _

theorem explains_anyObject (v : Value) : Explains (anyObject v) := by
  cases v <;> simp [anyObject]

theorem explains_listOf (h : ∀ v, Explains (check v)) (v : Value) : Explains (listOf check v) := by
  unfold listOf
  split
  · refine explains_every fun c hc ↦ ?_
    obtain ⟨⟨item, i⟩, -, rfl⟩ := List.mem_map.1 hc
    exact (h item).under _
  · exact explains_fail _

end Records

/-! ## Single values -/

theorem explains_anyInt (v : Value) : Explains (anyInt v) := by
  cases v with
  | float x =>
    unfold anyInt
    dsimp only
    split
    · exact explains_fail _
    · split
      · exact explains_fail _
      · split <;> simp
  | str s =>
    refine (explains_decoded s).bind fun s ↦ ?_
    split <;> simp
  | _ => simp [anyInt]

theorem explains_intFrom (least : Nat) (v : Value) : Explains (intFrom least v) := by
  refine (explains_anyInt v).bind fun n ↦ ?_
  split
  · exact explains_ok _
  · exact explains_fail _

theorem explains_anyFloat (v : Value) : Explains (anyFloat v) := by
  unfold anyFloat
  split
  · exact explains_ok _
  · exact explains_ok _
  · split <;> simp
  · refine (explains_decoded _).bind fun s ↦ ?_
    split <;> simp
  · exact explains_fail _

theorem explains_unitFloat (v : Value) : Explains (unitFloat v) := by
  refine (explains_anyFloat v).bind fun x ↦ ?_
  split
  · exact explains_fail _
  · split <;> simp

theorem explains_anyBool (v : Value) : Explains (anyBool v) := by
  have hint : ∀ n : Int, Explains (if n = 0 then .ok false else if n = 1 then .ok true
      else if fits64 n then fail "Input should be a valid boolean, unable to interpret input"
      else fail "Input should be a valid boolean" : Checked Bool) := by
    intro n
    split
    · exact explains_ok _
    · split
      · exact explains_ok _
      · split <;> simp
  unfold anyBool
  dsimp only
  split
  · exact explains_ok _
  · exact hint _
  · split
    · split
      · exact hint _
      · exact explains_fail _
    · exact explains_fail _
  · refine (explains_decoded _).bind fun s ↦ ?_
    split
    · split
      · exact explains_ok _
      · split <;> simp
    · exact explains_fail _
  · exact explains_fail _

theorem explains_anyText (v : Value) : Explains (anyText v) := by
  cases v <;> simp [anyText]

theorem explains_plainText (v : Value) : Explains (plainText v) :=
  (explains_anyText v).bind explains_decoded

theorem explains_someText (v : Value) : Explains (someText v) := by
  refine (explains_plainText v).bind fun s ↦ ?_
  split <;> simp

theorem explains_oneChar (v : Value) : Explains (oneChar v) := by
  refine (explains_plainText v).bind fun s ↦ ?_
  split <;> simp

theorem explains_nullable {check : Value → Checked α} (h : ∀ v, Explains (check v)) (v : Value) :
    Explains (nullable check v) := by
  unfold nullable
  split
  · exact explains_ok _
  · exact (h _).map _

theorem explains_oneOf (choices : List (Text × α)) (v : Value) : Explains (oneOf choices v) := by
  unfold oneOf
  dsimp only
  split
  · refine (explains_decoded _).bind fun s ↦ ?_
    split <;> simp
  · exact explains_fail _

end TextArt.Schema
