import TextArt.Fill.Request

/-!
# Named values

Looking up, replacing and converting named values.
-/

namespace TextArt

theorem mem_of_lookup {α β : Type} [BEq α] [LawfulBEq α] {entries : List (α × β)} {key : α}
    {b : β} (h : entries.lookup key = some b) : (key, b) ∈ entries := by
  obtain ⟨before, after, rfl, -⟩ := List.lookup_eq_some_iff.1 h
  exact List.mem_append_right _ List.mem_cons_self

theorem lookup_cons_ite {α : Type} (key name : Text) (a : α) (rest : List (Text × α)) :
    List.lookup key ((name, a) :: rest) = if key = name then some a else rest.lookup key := by
  by_cases h : key = name
  · rw [if_pos h, h, List.lookup_cons_self]
  · rw [if_neg h, List.lookup_cons, beq_eq_false_iff_ne.2 h]

theorem lookup_cons_of_ne {α : Type} {key name : Text} (a : α) (rest : List (Text × α))
    (h : name ≠ key) : ((name, a) :: rest).lookup key = rest.lookup key := by
  rw [lookup_cons_ite, if_neg h.symm]

/-- A function without repeated values tells the items of a list apart. -/
theorem eq_of_nodup_map {α β : Type} {f : α → β} {items : List α} (h : (items.map f).Nodup)
    {a b : α} (ha : a ∈ items) (hb : b ∈ items) (hab : f a = f b) : a = b := by
  induction items with
  | nil => cases ha
  | cons c rest ih =>
    obtain ⟨hc, hrest⟩ := List.nodup_cons.1 h
    rcases List.mem_cons.1 ha with hac | ha <;> rcases List.mem_cons.1 hb with hbc | hb
    · exact hac.trans hbc.symm
    · rw [← hac, hab] at hc
      exact absurd (List.mem_map_of_mem hb) hc
    · rw [← hbc, ← hab] at hc
      exact absurd (List.mem_map_of_mem ha) hc
    · exact ih hrest ha hb

namespace Fields

private theorem mem_put {fields : Fields} {name : Text} {value : Value} {p : Text × Value}
    (h : p ∈ put fields name value) : p ∈ fields ∨ p = (name, value) := by
  induction fields with
  | nil => exact .inr (List.mem_singleton.1 h)
  | cons f rest ih =>
    rw [put] at h
    split at h
    · next hname =>
      rw [hname] at h
      rcases List.mem_cons.1 h with h | h
      · exact .inr h
      · exact .inl (List.mem_cons_of_mem _ h)
    · rcases List.mem_cons.1 h with h | h
      · exact .inl (h ▸ List.mem_cons_self)
      · exact (ih h).imp_left (List.mem_cons_of_mem _)

/-- Nothing but what is put in comes out. -/
theorem mem_ofList {pairs : List (Text × Value)} {p : Text × Value} (h : p ∈ ofList pairs) :
    p ∈ pairs := by
  have hfold : ∀ (pairs : List (Text × Value)) (fields : Fields),
      p ∈ pairs.foldl (fun fields p ↦ put fields p.1 p.2) fields → p ∈ fields ∨ p ∈ pairs := by
    intro pairs
    induction pairs with
    | nil => exact fun fields h ↦ .inl h
    | cons q rest ih =>
      intro fields h
      rcases ih _ h with h | h
      · rcases mem_put h with h | rfl
        · exact .inl h
        · exact .inr List.mem_cons_self
      · exact .inr (List.mem_cons_of_mem _ h)
  exact (hfold pairs [] h).resolve_left List.not_mem_nil

theorem argument_of_lookup {fields : Fields} {name : Text} {v : Value}
    (h : fields.lookup name = some v) (default : Value) : fields.argument name default = v := by
  rw [argument, h, Option.getD_some]

theorem argument_of_lookup_none {fields : Fields} {name : Text} (h : fields.lookup name = none)
    (default : Value) : fields.argument name default = default := by
  rw [argument, h, Option.getD_none]

/-- An argument is the default or one of the values that are given under its name. -/
theorem argument_cases (fields : Fields) (name : Text) (default : Value) :
    fields.lookup name = none ∧ fields.argument name default = default ∨
      ∃ v, (name, v) ∈ fields ∧ fields.argument name default = v := by
  cases h : List.lookup name fields with
  | none => exact .inl ⟨rfl, argument_of_lookup_none h default⟩
  | some v => exact .inr ⟨v, mem_of_lookup h, argument_of_lookup h default⟩

/-! ## Names that occur once -/

theorem eq_of_mem_of_mem {fields : Fields} (h : (fields.map Prod.fst).Nodup) {name : Text}
    {v w : Value} (hv : (name, v) ∈ fields) (hw : (name, w) ∈ fields) : v = w :=
  congrArg Prod.snd (eq_of_nodup_map h hv hw rfl)

theorem lookup_eq_some_iff_mem {fields : Fields} (h : (fields.map Prod.fst).Nodup) {name : Text}
    {v : Value} : fields.lookup name = some v ↔ (name, v) ∈ fields := by
  refine ⟨mem_of_lookup, fun hmem ↦ ?_⟩
  cases hlookup : List.lookup name fields with
  | none =>
    have hnone := List.lookup_eq_none_iff.1 hlookup (name, v) hmem
    simp at hnone
  | some w => rw [eq_of_mem_of_mem h (mem_of_lookup hlookup) hmem]

theorem put_of_not_mem {fields : Fields} {name : Text} (h : name ∉ fields.map Prod.fst)
    (value : Value) : put fields name value = fields ++ [(name, value)] := by
  induction fields with
  | nil => rfl
  | cons f rest ih =>
    obtain ⟨hf, hrest⟩ := not_or.1 (mt List.mem_cons.2 h)
    rw [put, if_neg (Ne.symm hf), ih hrest, List.cons_append]

theorem names_put (fields : Fields) (name : Text) (value : Value) :
    (put fields name value).map Prod.fst =
      if name ∈ fields.map Prod.fst then fields.map Prod.fst
      else fields.map Prod.fst ++ [name] := by
  by_cases h : name ∈ fields.map Prod.fst
  · rw [if_pos h]
    induction fields with
    | nil => cases h
    | cons f rest ih =>
      rw [put]
      split
      · next hf => rw [List.map_cons, List.map_cons, hf]
      · next hf =>
        rw [List.map_cons, List.map_cons, ih ((List.mem_cons.1 h).resolve_left (Ne.symm hf))]
  · rw [if_neg h, put_of_not_mem h, List.map_append]
    rfl

theorem lookup_put (fields : Fields) (name : Text) (value : Value) (key : Text) :
    (put fields name value).lookup key = if key = name then some value else fields.lookup key := by
  induction fields with
  | nil =>
    rw [put, lookup_cons_ite]
  | cons f rest ih =>
    obtain ⟨first, v⟩ := f
    rw [put]
    by_cases hfirst : first = name
    · rw [if_pos hfirst, lookup_cons_ite, lookup_cons_ite, hfirst]
      split <;> rfl
    · rw [if_neg hfirst, lookup_cons_ite, lookup_cons_ite, ih]
      by_cases hkey : key = first
      · rw [if_pos hkey, if_pos hkey, if_neg (hkey ▸ hfirst)]
      · rw [if_neg hkey, if_neg hkey]

private theorem nodup_put {fields : Fields} (h : (fields.map Prod.fst).Nodup) (name : Text)
    (value : Value) : ((put fields name value).map Prod.fst).Nodup := by
  rw [names_put]
  split
  · exact h
  · next hname =>
    refine List.nodup_append.2 ⟨h, List.nodup_cons.2 ⟨List.not_mem_nil, List.nodup_nil⟩, ?_⟩
    rintro other hother _ hlast rfl
    exact hname (List.mem_singleton.1 hlast ▸ hother)

/-! ## Many values at once -/

/-- Puts all the given values in, one after the other. -/
def update (fields late : Fields) : Fields :=
  late.foldl (fun fields p ↦ put fields p.1 p.2) fields

theorem ofList_append (pairs late : List (Text × Value)) :
    ofList (pairs ++ late) = update (ofList pairs) late :=
  List.foldl_append

theorem update_cons (fields : Fields) (p : Text × Value) (late : Fields) :
    update fields (p :: late) = update (put fields p.1 p.2) late := rfl

private theorem nodup_update {fields : Fields} (h : (fields.map Prod.fst).Nodup) (late : Fields) :
    ((update fields late).map Prod.fst).Nodup := by
  induction late generalizing fields with
  | nil => exact h
  | cons p late ih => exact ih (nodup_put h p.1 p.2)

/-- Fields that are put together have every name once. -/
theorem nodup_ofList (pairs : List (Text × Value)) : ((ofList pairs).map Prod.fst).Nodup :=
  @nodup_update [] List.nodup_nil pairs

/-- Names keep their places, and names that are new come after them. -/
theorem names_update (fields : Fields) {late : Fields} (h : (late.map Prod.fst).Nodup) :
    (update fields late).map Prod.fst =
      fields.map Prod.fst ++ (late.map Prod.fst).filter (· ∉ fields.map Prod.fst) := by
  induction late generalizing fields with
  | nil => exact (List.append_nil _).symm
  | cons p late ih =>
    obtain ⟨hp, hlate⟩ := List.nodup_cons.1 h
    rw [update_cons, ih _ hlate, names_put, List.map_cons, List.filter_cons]
    split
    · next hmem => rw [if_neg (by simpa using hmem)]
    · next hmem =>
      rw [if_pos (by simpa using hmem), List.append_assoc, List.singleton_append]
      congr 2
      -- the name that has come in is not one of those still to come
      refine List.filter_congr fun name hname ↦ ?_
      have hne : name ≠ p.1 := fun heq ↦ hp (heq ▸ hname)
      simp [hne]

private theorem mem_names_update {fields late : Fields} {name : Text} :
    name ∈ (update fields late).map Prod.fst ↔
      name ∈ fields.map Prod.fst ∨ name ∈ late.map Prod.fst := by
  induction late generalizing fields with
  | nil => simp [update]
  | cons p late ih =>
    rw [update_cons, ih, names_put, List.map_cons, List.mem_cons, or_left_comm, ← or_assoc]
    refine or_congr_left ?_
    split
    · next hmem =>
      refine ⟨.inr, fun h ↦ h.elim (fun heq ↦ heq ▸ hmem) id⟩
    · rw [List.mem_append, List.mem_singleton, or_comm]

theorem mem_names_ofList {pairs : List (Text × Value)} {name : Text} :
    name ∈ (ofList pairs).map Prod.fst ↔ name ∈ pairs.map Prod.fst := by
  refine (@mem_names_update [] pairs name).trans ?_
  simp

theorem lookup_update_of_not_mem (fields : Fields) {late : Fields} {name : Text}
    (h : name ∉ late.map Prod.fst) : (update fields late).lookup name = fields.lookup name := by
  induction late generalizing fields with
  | nil => rfl
  | cons p late ih =>
    obtain ⟨hp, hlate⟩ := not_or.1 (mt List.mem_cons.2 h)
    rw [update_cons, ih _ hlate, lookup_put, if_neg hp]

/-- The value that is put in is found, whatever the name had before. -/
theorem lookup_update_of_mem (fields : Fields) {late : Fields} (h : (late.map Prod.fst).Nodup)
    {name : Text} {value : Value} (hmem : (name, value) ∈ late) :
    (update fields late).lookup name = some value := by
  induction late generalizing fields with
  | nil => cases hmem
  | cons p late ih =>
    obtain ⟨hp, hlate⟩ := List.nodup_cons.1 h
    rw [update_cons]
    rcases List.mem_cons.1 hmem with rfl | hmem
    · rw [lookup_update_of_not_mem _ hp, lookup_put, if_pos rfl]
    · exact ih _ hlate hmem

/-- Fields in which no name occurs twice are put together as they are. -/
theorem ofList_eq_self {pairs : List (Text × Value)} (h : (pairs.map Prod.fst).Nodup) :
    ofList pairs = pairs := by
  have hfold : ∀ (rest : List (Text × Value)) (fields : Fields),
      ((fields ++ rest).map Prod.fst).Nodup →
        rest.foldl (fun fields p ↦ put fields p.1 p.2) fields = fields ++ rest := by
    intro rest
    induction rest with
    | nil => exact fun fields _ ↦ (List.append_nil fields).symm
    | cons p rest ih =>
      intro fields hnodup
      have hp : p.1 ∉ fields.map Prod.fst := by
        rw [List.map_append, List.nodup_append] at hnodup
        exact fun hmem ↦ hnodup.2.2 p.1 hmem p.1 (by simp) rfl
      rw [List.foldl_cons, put_of_not_mem hp, ih _ (by rwa [← List.append_cons]),
        ← List.append_cons]
  exact hfold pairs [] h

end Fields

/-! ## Characters -/

theorem singleChar?_singleton (c : CodePoint) : singleChar? (Text.singleton c) = some c := by
  rw [singleChar?, Text.toList_singleton]

theorem mem_of_singleChar? {s : Text} {c : CodePoint} (h : singleChar? s = some c) :
    c ∈ s.toList := by
  unfold singleChar? at h
  split at h
  · next d hchars =>
    obtain rfl := Option.some.inj h
    exact hchars ▸ List.mem_cons_self
  · cases h

theorem mem_of_mem_withoutFinalNuls {s : Text} {c : CodePoint}
    (h : c ∈ (withoutFinalNuls s).toList) : c ∈ s.toList := by
  rw [withoutFinalNuls, Text.toList_ofList, List.mem_reverse] at h
  exact List.mem_reverse.1 ((List.dropWhile_sublist _).subset h)

theorem Value.cell_singleton (c : CodePoint) : (Value.str (Text.singleton c)).cell = .ok c := by
  rw [Value.cell, Value.text?, Option.bind_some, singleChar?_singleton]

theorem Value.mem_of_cell {s : Text} {c : Cell} (h : (Value.str s).cell = .ok c) :
    c ∈ s.toList := by
  unfold cell at h
  split at h
  · next d hd =>
    obtain rfl := Except.ok.inj h
    exact mem_of_singleChar? hd
  · cases h

end TextArt
