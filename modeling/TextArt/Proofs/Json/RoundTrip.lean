import TextArt.Json.Encoding
import TextArt.Proofs.Fields
import TextArt.Proofs.Json.Literal

/-!
# Documents there and back

What the writer makes of a value is read as that value again, in either layout, if the value has no
binary64 numbers, its whole numbers are not too long, no object has a name twice, and no text has
the two halves of a surrogate pair next to each other (`Json.Lossless`). The reader is followed
through the text of the value up to the character where the writer stopped (`ReadsBack`), by
induction on the value. As each step of the reader uses up one piece of fuel and at least one
character, the length of the text is fuel enough; room for lists and objects inside each other is
needed besides.
-/

namespace TextArt.Json

/-- A value that loses nothing in JSON text, with at most the given number of lists and objects
inside each other. -/
inductive Lossless : Nat → Value → Prop where
  /-- The absent value. -/
  | null {room : Nat} : Lossless room .null
  /-- A truth value. -/
  | bool {room : Nat} (b : Bool) : Lossless room (.bool b)
  /-- A whole number with no more digits than are written and read. -/
  | int {room : Nat} {n : Int} (h : Text.isWritable n = true) : Lossless room (.int n)
  /-- A text without pairs of halves. -/
  | str {room : Nat} {s : Text} (h : Unpaired s) : Lossless room (.str s)
  /-- A list of such values. -/
  | list {room : Nat} {items : List Value} (h : ∀ v ∈ items, Lossless room v) :
    Lossless (room + 1) (.list items)
  /-- An object of such values, with every name once, and such names. -/
  | object {room : Nat} {fields : Fields} (hnames : (fields.map Prod.fst).Nodup)
      (hkeys : ∀ f ∈ fields, Unpaired f.1) (h : ∀ f ∈ fields, Lossless room f.2) :
      Lossless (room + 1) (.object fields)

variable {layout : Layout} {room depth fuel : Nat} {rest : List CodePoint} {v : Value}

/-! ## Room -/

private theorem isWritable_of_survey {n : Int} (h : survey room (.int n) = .ok ()) :
    Text.isWritable n = true := by
  rw [survey] at h
  split at h
  · next hn => exact hn
  · cases h

theorem surveyItems_eq_ok {items : List Value} :
    surveyItems room items = .ok () ↔ ∀ v ∈ items, survey room v = .ok () := by
  induction items with
  | nil => simp [surveyItems]
  | cons v more ih =>
    rw [surveyItems, bind_eq_ok, List.forall_mem_cons, ← ih]
    exact ⟨fun ⟨_, hv, hmore⟩ ↦ ⟨hv, hmore⟩, fun ⟨hv, hmore⟩ ↦ ⟨(), hv, hmore⟩⟩

theorem surveyFields_eq_ok {fields : List (Text × Value)} :
    surveyFields room fields = .ok () ↔ ∀ f ∈ fields, survey room f.2 = .ok () := by
  induction fields with
  | nil => simp [surveyFields]
  | cons f more ih =>
    rw [surveyFields, bind_eq_ok, List.forall_mem_cons, ← ih]
    exact ⟨fun ⟨_, hv, hmore⟩ ↦ ⟨hv, hmore⟩, fun ⟨hv, hmore⟩ ↦ ⟨(), hv, hmore⟩⟩

private theorem survey_list {items : List Value} (h : survey room (.list items) = .ok ()) :
    ∃ inner, room = inner + 1 ∧ ∀ v ∈ items, survey inner v = .ok () := by
  cases room with
  | zero => cases h
  | succ inner => exact ⟨inner, rfl, surveyItems_eq_ok.1 h⟩

private theorem survey_object {fields : Fields} (h : survey room (.object fields) = .ok ()) :
    ∃ inner, room = inner + 1 ∧ ∀ f ∈ fields, survey inner f.2 = .ok () := by
  cases room with
  | zero => cases h
  | succ inner => exact ⟨inner, rfl, surveyFields_eq_ok.1 h⟩

/-- A value that loses nothing is written wherever there is room for it. -/
theorem Lossless.survey (h : Lossless room v) {more : Nat} (hmore : room ≤ more) :
    Json.survey more v = .ok () := by
  induction h generalizing more with
  | null => cases more <;> rfl
  | bool b => cases more <;> rfl
  | int hn => rw [Json.survey, if_pos hn]
  | str hs => cases more <;> rfl
  | list h ih =>
    obtain ⟨inner, rfl⟩ := Nat.exists_eq_succ_of_ne_zero (Nat.ne_zero_of_lt hmore)
    exact surveyItems_eq_ok.2 fun v hv ↦ ih v hv (Nat.le_of_succ_le_succ hmore)
  | object hnames hkeys h ih =>
    obtain ⟨inner, rfl⟩ := Nat.exists_eq_succ_of_ne_zero (Nat.ne_zero_of_lt hmore)
    exact surveyFields_eq_ok.2 fun f hf ↦ ih f hf (Nat.le_of_succ_le_succ hmore)

/-! ## Blanks and ends -/

theorem skip_of_not_isSpace {c : CodePoint} (hc : isSpace c = false) (s : List CodePoint) :
    skip (c :: s) = c :: s :=
  List.dropWhile_cons_of_neg (by rw [hc]; exact Bool.false_ne_true)

theorem skip_break (layout : Layout) (depth : Nat) (s : List CodePoint) :
    skip (layout.break depth ++ s) = skip s := by
  cases layout with
  | line => rfl
  | indented =>
    have hblank : ∀ c ∈ Layout.indented.break depth, isSpace c = true := by
      intro c hc
      rcases List.mem_cons.1 hc with rfl | hc
      · rfl
      · rw [List.eq_of_mem_replicate hc]
        rfl
    exact List.dropWhile_append_of_pos hblank

theorem endsNumber_cons {c : CodePoint}
    (hc : c.isDigit = false ∧ c ≠ '.' ∧ c ≠ 'e' ∧ c ≠ 'E') (s : List CodePoint) :
    EndsNumber (c :: s) := by
  intro d hd
  obtain rfl := Option.some.inj hd
  exact hc

theorem endsNumber_break (h : EndsNumber rest) : EndsNumber (layout.break depth ++ rest) := by
  cases layout with
  | line => exact h
  | indented => exact endsNumber_cons (by decide) _

/-! ## Steps of the reader -/

section Steps

variable {s tail left after : List CodePoint} {c : CodePoint} {name : Text} {more : List Value}
  {fields : List (Text × Value)}

theorem value_of_scalar (hc : c ≠ '"' ∧ c ≠ '[' ∧ c ≠ '\x7b') (s : List CodePoint) :
    value room (fuel + 1) (c :: s) = scalar (c :: s) := by
  rw [value]
  · exact fun _ heq ↦ absurd (List.cons.inj heq).1 hc.1
  · exact fun _ heq ↦ absurd (List.cons.inj heq).1 hc.2.1
  · exact fun _ heq ↦ absurd (List.cons.inj heq).1 hc.2.2

private theorem value_of_items (hs : skip s = c :: tail) (hc : c ≠ ']')
    (h : items room fuel (c :: tail) = .ok (more, after)) :
    value (room + 1) (fuel + 1) (.char '[' :: s) = .ok (.list more, after) := by
  rw [value, if_neg (Nat.succ_ne_zero room), Nat.add_sub_cancel, hs]
  split
  · next heq => exact absurd (List.cons.inj heq).1 hc
  · rw [h]
    rfl

private theorem value_of_members (hs : skip s = c :: tail) (hc : c ≠ '\x7d')
    (h : members room fuel (c :: tail) = .ok (fields, after))
    (hnames : (fields.map Prod.fst).Nodup) :
    value (room + 1) (fuel + 1) (.char '\x7b' :: s) = .ok (.object fields, after) := by
  rw [value, if_neg (Nat.succ_ne_zero room), Nat.add_sub_cancel, hs]
  split
  · next heq => exact absurd (List.cons.inj heq).1 hc
  · rw [h, ok_bind]
    dsimp only
    rw [Fields.ofList_eq_self hnames]
    rfl

private theorem items_last (h : value room fuel s = .ok (v, left))
    (hleft : skip left = .char ']' :: after) :
    items room (fuel + 1) s = .ok ([v], after) := by
  rw [items, h, ok_bind]
  dsimp only
  rw [hleft]
  rfl

private theorem items_next (h : value room fuel s = .ok (v, left))
    (hleft : skip left = .char ',' :: tail)
    (hmore : items room fuel (skip tail) = .ok (more, after)) :
    items room (fuel + 1) s = .ok (v :: more, after) := by
  rw [items, h, ok_bind]
  dsimp only
  rw [hleft]
  change (items room fuel (skip tail) >>= fun r ↦ .ok (v :: r.1, r.2)) = _
  rw [hmore]
  rfl

private theorem members_last (hname : string s = .ok (name, .char ':' :: .char ' ' :: tail))
    (h : value room fuel (skip tail) = .ok (v, left)) (hleft : skip left = .char '\x7d' :: after) :
    members room (fuel + 1) (.char '"' :: s) = .ok ([(name, v)], after) := by
  rw [members, hname, ok_bind]
  change (value room fuel (skip tail) >>= fun r ↦ _) = _
  rw [h, ok_bind]
  dsimp only
  rw [hleft]
  rfl

private theorem members_next {beyond : List CodePoint}
    (hname : string s = .ok (name, .char ':' :: .char ' ' :: tail))
    (h : value room fuel (skip tail) = .ok (v, left)) (hleft : skip left = .char ',' :: beyond)
    (hmore : members room fuel (skip beyond) = .ok (fields, after)) :
    members room (fuel + 1) (.char '"' :: s) = .ok ((name, v) :: fields, after) := by
  rw [members, hname, ok_bind]
  change (value room fuel (skip tail) >>= fun r ↦ _) = _
  rw [h, ok_bind]
  dsimp only
  rw [hleft]
  change (members room fuel (skip beyond) >>= fun r ↦ .ok ((name, v) :: r.1, r.2)) = _
  rw [hmore]
  rfl

end Steps

/-! ## Values in one piece -/

/-- The text of the value is read as the value, whatever comes after it and does not go on with a
number, if there is room for it. -/
def ReadsBack (v : Value) : Prop :=
  ∀ (room : Nat) (layout : Layout) (depth fuel : Nat) (rest : List CodePoint),
    survey room v = .ok () → (writeValue layout depth v).length ≤ fuel → EndsNumber rest →
      value room fuel (writeValue layout depth v ++ rest) = .ok (v, rest)

theorem exists_fuel {n : Nat} (h : n ≤ fuel) (hn : 0 < n) : ∃ more, fuel = more + 1 :=
  Nat.exists_eq_succ_of_ne_zero (Nat.ne_of_gt (Nat.lt_of_lt_of_le hn h))

private theorem readsBack_null : ReadsBack .null := by
  intro room layout depth fuel rest hroom hfuel _
  rw [writeValue] at hfuel ⊢
  obtain ⟨fuel, rfl⟩ := exists_fuel hfuel (by decide)
  exact value_of_scalar (by decide) _

private theorem readsBack_bool (b : Bool) : ReadsBack (.bool b) := by
  intro room layout depth fuel rest hroom hfuel _
  cases b with
  | true =>
    rw [writeValue] at hfuel ⊢
    obtain ⟨fuel, rfl⟩ := exists_fuel hfuel (by decide)
    exact value_of_scalar (by decide) _
  | false =>
    rw [writeValue] at hfuel ⊢
    obtain ⟨fuel, rfl⟩ := exists_fuel hfuel (by decide)
    exact value_of_scalar (by decide) _

private theorem readsBack_int (n : Int) : ReadsBack (.int n) := by
  intro room layout depth fuel rest hroom hfuel hrest
  obtain ⟨c, tail, hwritten, hc⟩ := toList_toString_eq_cons n
  have hscalar := scalar_toString hrest (isWritable_of_survey hroom)
  rw [writeValue] at hfuel ⊢
  rw [hwritten] at hfuel hscalar ⊢
  obtain ⟨fuel, rfl⟩ := exists_fuel hfuel (Nat.succ_pos _)
  rw [List.cons_append, value_of_scalar hc.2.2.2]
  exact hscalar

private theorem readsBack_str {s : Text} (hs : Unpaired s) : ReadsBack (.str s) := by
  intro room layout depth fuel rest hroom hfuel _
  rw [writeValue] at hfuel ⊢
  obtain ⟨fuel, rfl⟩ := exists_fuel hfuel (Nat.succ_pos _)
  rw [quote, List.cons_append, List.append_assoc, List.singleton_append, value, string_quote hs]
  rfl

theorem Lossless.writeValue_eq_cons (h : Lossless room v) (layout : Layout) (depth : Nat) :
    ∃ c tail, writeValue layout depth v = c :: tail ∧
      isSpace c = false ∧ c ≠ ']' ∧ c ≠ CodePoint.ofNat 0xFEFF := by
  cases h with
  | null => exact ⟨_, _, rfl, rfl, by decide⟩
  | bool b => cases b <;> exact ⟨_, _, rfl, rfl, by decide⟩
  | @int _ n _ =>
    obtain ⟨c, tail, hwritten, hc⟩ := toList_toString_eq_cons n
    exact ⟨c, tail, by rw [writeValue, hwritten], hc.1, hc.2.1, hc.2.2.1⟩
  | str hs => exact ⟨_, _, rfl, rfl, by decide⟩
  | @list _ items _ => cases items <;> exact ⟨_, _, rfl, rfl, by decide⟩
  | @object _ fields _ _ _ =>
    cases fields with
    | nil => exact ⟨_, _, rfl, rfl, by decide⟩
    | cons f more => exact ⟨_, _, rfl, rfl, by decide⟩

theorem Lossless.skip_append (h : Lossless room v) (s : List CodePoint) :
    skip (writeValue layout depth v ++ s) = writeValue layout depth v ++ s := by
  obtain ⟨c, tail, hwritten, hc, -⟩ := h.writeValue_eq_cons layout depth
  rw [hwritten, List.cons_append, skip_of_not_isSpace hc]

theorem Lossless.skip_break_append (h : Lossless room v) (layout : Layout) (depth depth' : Nat)
    (s : List CodePoint) :
    skip (layout.break depth ++ (writeValue layout depth' v ++ s)) =
      writeValue layout depth' v ++ s := by
  rw [skip_break, h.skip_append]

/-! ## Lists and objects -/

section Nested

variable {items : List Value} {fields : List (Text × Value)} {name : Text}

private theorem writeItems_cons_append (layout : Layout) (depth : Nat) (v : Value)
    (more : List Value) (s : List CodePoint) :
    writeItems layout depth (v :: more) ++ s =
      .char ',' :: (layout.break depth ++ (writeValue layout depth v ++
        (writeItems layout depth more ++ s))) := by
  rw [writeItems]
  simp only [List.cons_append, List.append_assoc]

private theorem writeFields_cons_append (layout : Layout) (depth : Nat) (name : Text) (v : Value)
    (more : List (Text × Value)) (s : List CodePoint) :
    writeFields layout depth ((name, v) :: more) ++ s =
      .char ',' :: (layout.break depth ++
        (quote name ++ (.char ':' :: .char ' ' ::
          (writeValue layout depth v ++ (writeFields layout depth more ++ s))))) := by
  rw [writeFields]
  simp only [List.cons_append, List.nil_append, List.append_assoc]

private theorem length_writeItems_cons (layout : Layout) (depth : Nat) (v : Value)
    (more : List Value) :
    (writeValue layout depth v).length + (writeItems layout depth more).length <
      (writeItems layout depth (v :: more)).length := by
  rw [writeItems]
  simp only [List.length_cons, List.length_append]
  omega

private theorem length_writeFields_cons (layout : Layout) (depth : Nat) (name : Text) (v : Value)
    (more : List (Text × Value)) :
    (writeValue layout depth v).length + (writeFields layout depth more).length <
      (writeFields layout depth ((name, v) :: more)).length := by
  rw [writeFields]
  simp only [List.length_cons, List.length_append]
  omega

theorem quote_append (name : Text) (s : List CodePoint) :
    quote name ++ s = .char '"' :: (name.toList.flatMap escapeChar ++ .char '"' :: s) := by
  simp only [quote, List.cons_append, List.nil_append, List.append_assoc]

private theorem skip_quote_append (name : Text) (s : List CodePoint) :
    skip (quote name ++ s) = quote name ++ s := by
  rw [quote_append, skip_of_not_isSpace rfl]

private theorem endsNumber_writeItems (h : EndsNumber rest) (layout : Layout) (depth : Nat)
    (items : List Value) : EndsNumber (writeItems layout depth items ++ rest) := by
  cases items with
  | nil => exact h
  | cons v more => exact endsNumber_cons (by decide) _

private theorem endsNumber_writeFields (h : EndsNumber rest) (layout : Layout) (depth : Nat)
    (fields : List (Text × Value)) : EndsNumber (writeFields layout depth fields ++ rest) := by
  cases fields with
  | nil => exact h
  | cons f more => exact endsNumber_cons (by decide) _

/-- **Items.** From the first of some items on, all of them are read up to the closing bracket. -/
theorem items_writeItems {reader : Nat} (hv : ReadsBack v) (hroom : survey reader v = .ok ())
    (hitems : ∀ w ∈ items, Lossless room w ∧ ReadsBack w ∧ survey reader w = .ok ())
    (hfuel : (writeValue layout depth v).length + (writeItems layout depth items).length < fuel)
    (depth' : Nat) (rest : List CodePoint) :
    Json.items reader fuel (writeValue layout depth v ++ (writeItems layout depth items ++
      (layout.break depth' ++ .char ']' :: rest))) = .ok (v :: items, rest) := by
  have hend : EndsNumber (layout.break depth' ++ .char ']' :: rest) :=
    endsNumber_break (endsNumber_cons (by decide) _)
  induction items generalizing v fuel with
  | nil =>
    obtain ⟨fuel, rfl⟩ := Nat.exists_eq_succ_of_ne_zero (Nat.ne_zero_of_lt hfuel)
    have hread := hv reader layout depth fuel _ hroom (by omega)
      (endsNumber_writeItems hend layout depth [])
    refine items_last hread ?_
    rw [writeItems, List.nil_append, skip_break]
    rfl
  | cons w more ih =>
    obtain ⟨fuel, rfl⟩ := Nat.exists_eq_succ_of_ne_zero (Nat.ne_zero_of_lt hfuel)
    obtain ⟨hw, hback, hfits⟩ := hitems w List.mem_cons_self
    have hlength := length_writeItems_cons layout depth w more
    have hread := hv reader layout depth fuel _ hroom (by omega)
      (endsNumber_writeItems hend layout depth (w :: more))
    refine items_next hread (by rw [writeItems_cons_append]; rfl) ?_
    rw [hw.skip_break_append]
    exact ih hback hfits (fun u hu ↦ hitems u (List.mem_cons_of_mem _ hu)) (by omega)

/-- **Fields.** From the first name of some fields on, all of them are read up to the closing
brace. -/
theorem members_writeFields {reader : Nat} {name : Text} (hname : Unpaired name)
    (hv : Lossless room v ∧ ReadsBack v)
    (hroom : survey reader v = .ok ())
    (hfields : ∀ f ∈ fields,
      Unpaired f.1 ∧ (Lossless room f.2 ∧ ReadsBack f.2) ∧ survey reader f.2 = .ok ())
    (hfuel : (writeValue layout depth v).length + (writeFields layout depth fields).length < fuel)
    (depth' : Nat) (rest : List CodePoint) :
    members reader fuel (quote name ++ (.char ':' :: .char ' ' :: (writeValue layout depth v ++
      (writeFields layout depth fields ++ (layout.break depth' ++ .char '\x7d' :: rest))))) =
        .ok ((name, v) :: fields, rest) := by
  have hend : EndsNumber (layout.break depth' ++ .char '\x7d' :: rest) :=
    endsNumber_break (endsNumber_cons (by decide) _)
  induction fields generalizing name v fuel with
  | nil =>
    obtain ⟨fuel, rfl⟩ := Nat.exists_eq_succ_of_ne_zero (Nat.ne_zero_of_lt hfuel)
    have hread := hv.2 reader layout depth fuel _ hroom (by omega)
      (endsNumber_writeFields hend layout depth [])
    rw [quote_append]
    exact members_last (string_quote hname _) (by rw [hv.1.skip_append]; exact hread)
      (by rw [writeFields, List.nil_append, skip_break]; rfl)
  | cons f more ih =>
    obtain ⟨fuel, rfl⟩ := Nat.exists_eq_succ_of_ne_zero (Nat.ne_zero_of_lt hfuel)
    obtain ⟨name', w⟩ := f
    obtain ⟨hname', hw, hfits⟩ := hfields (name', w) List.mem_cons_self
    have hlength := length_writeFields_cons layout depth name' w more
    have hread := hv.2 reader layout depth fuel _ hroom (by omega)
      (endsNumber_writeFields hend layout depth ((name', w) :: more))
    rw [quote_append]
    refine members_next (string_quote hname _) (by rw [hv.1.skip_append]; exact hread)
      (by rw [writeFields_cons_append]; rfl) ?_
    rw [skip_break, skip_quote_append]
    exact ih hname' hw hfits (fun g hg ↦ hfields g (List.mem_cons_of_mem _ hg)) (by omega)

private theorem readsBack_list {items : List Value} (h : ∀ w ∈ items, Lossless room w)
    (hback : ∀ w ∈ items, ReadsBack w) : ReadsBack (.list items) := by
  intro reader layout depth fuel rest hroom hfuel _
  obtain ⟨reader, rfl, hfits⟩ := survey_list hroom
  cases items with
  | nil =>
    rw [writeValue] at hfuel ⊢
    obtain ⟨fuel, rfl⟩ := exists_fuel hfuel (by decide)
    rfl
  | cons v more =>
    have hv := h v List.mem_cons_self
    rw [writeValue] at hfuel ⊢
    simp only [List.cons_append, List.nil_append, List.append_assoc, List.length_cons,
      List.length_append] at hfuel ⊢
    obtain ⟨fuel, rfl⟩ := exists_fuel hfuel (Nat.succ_pos _)
    have hshort : (writeValue layout (depth + 1) v).length +
        (writeItems layout (depth + 1) more).length < fuel := by omega
    have hskip := hv.skip_break_append layout (depth + 1) (depth + 1)
      (writeItems layout (depth + 1) more ++ (layout.break depth ++ .char ']' :: rest))
    have hread := items_writeItems (hback v List.mem_cons_self) (hfits v List.mem_cons_self)
      (fun w hw ↦ have hmem := List.mem_cons_of_mem v hw
        ⟨h w hmem, hback w hmem, hfits w hmem⟩)
      hshort depth rest
    obtain ⟨c, tail, hwritten, -, hc, -⟩ := hv.writeValue_eq_cons layout (depth + 1)
    rw [hwritten] at hskip hread ⊢
    exact value_of_items hskip hc hread

private theorem readsBack_object {fields : Fields} (hnames : (fields.map Prod.fst).Nodup)
    (hkeys : ∀ f ∈ fields, Unpaired f.1) (h : ∀ f ∈ fields, Lossless room f.2)
    (hback : ∀ f ∈ fields, ReadsBack f.2) : ReadsBack (.object fields) := by
  intro reader layout depth fuel rest hroom hfuel _
  obtain ⟨reader, rfl, hfits⟩ := survey_object hroom
  cases fields with
  | nil =>
    rw [writeValue] at hfuel ⊢
    obtain ⟨fuel, rfl⟩ := exists_fuel hfuel (by decide)
    rfl
  | cons f more =>
    obtain ⟨name, v⟩ := f
    rw [writeValue] at hfuel ⊢
    simp only [List.cons_append, List.nil_append, List.append_assoc, List.length_cons,
      List.length_append] at hfuel ⊢
    obtain ⟨fuel, rfl⟩ := exists_fuel hfuel (Nat.succ_pos _)
    have hshort : (writeValue layout (depth + 1) v).length +
        (writeFields layout (depth + 1) more).length < fuel := by omega
    have hfirst : (name, v) ∈ (name, v) :: more := List.mem_cons_self
    have hread := members_writeFields (hkeys _ hfirst) ⟨h _ hfirst, hback _ hfirst⟩
      (hfits _ hfirst)
      (fun g hg ↦ have hmem := List.mem_cons_of_mem (name, v) hg
        ⟨hkeys g hmem, ⟨h g hmem, hback g hmem⟩, hfits g hmem⟩)
      hshort depth rest
    rw [quote_append] at hread ⊢
    exact value_of_members (by rw [skip_break, skip_of_not_isSpace rfl]) (by decide) hread hnames

/-- **Read back.** The text of a value that loses nothing is read as that value. -/
theorem Lossless.readsBack (h : Lossless room v) : ReadsBack v := by
  induction h with
  | null => exact readsBack_null
  | bool b => exact readsBack_bool b
  | @int _ n _ => exact readsBack_int n
  | str hs => exact readsBack_str hs
  | list h ih => exact readsBack_list h ih
  | object hnames hkeys h ih => exact readsBack_object hnames hkeys h ih

end Nested

/-! ## Documents -/

private theorem document_writeValue {reader : Nat} (h : Lossless room v)
    (hroom : survey reader v = .ok ()) :
    document reader (writeValue layout 0 v) = .ok v := by
  have hread := h.readsBack reader layout 0 (2 * (writeValue layout 0 v).length + 2) [] hroom
    (by omega) (fun _ hc ↦ absurd hc (Option.some_ne_none _).symm)
  have hskip : skip (writeValue layout 0 v ++ []) = writeValue layout 0 v ++ [] := h.skip_append []
  rw [List.append_nil] at hread hskip
  rw [document, hskip, hread]
  rfl

private theorem read_write {reader : Nat} (h : Lossless room v) (hroom : survey reader v = .ok ())
    (layout : Layout) :
    read reader (write layout v) = .ok v := by
  obtain ⟨c, tail, hwritten, -, -, hmark⟩ := h.writeValue_eq_cons layout 0
  have hfirst : (writeValue layout 0 v).head? ≠ some (CodePoint.ofNat 0xFEFF) := by
    rw [hwritten, List.head?_cons]
    exact mt Option.some.inj hmark
  rw [read, write, Text.toList_ofList, if_neg hfirst, document_writeValue h hroom]

theorem load_write {reader : Nat} (h : Lossless room v) (hroom : survey reader v = .ok ())
    (layout : Layout)
    (subject : Text) : Source.load subject (.text reader (write layout v)) = .ok v := by
  rw [Source.load, read_write h hroom]
  rfl

end TextArt.Json
