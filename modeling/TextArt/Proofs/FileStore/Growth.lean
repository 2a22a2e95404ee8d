import TextArt.Proofs.FileStore

/-!
# Stores that grow

Making directories takes nothing away: all that was there is there as it was, and what is new is
directories (`Grows`). So a path that could be followed leads to the same location afterwards, and
one that could not be followed for another reason than a missing directory still cannot be
(`Grows.follow`). Writing a file changes a single location, which no path leads through, so the
paths to all files stay (`follow_put`).
-/

namespace TextArt.FileStore

variable {s s' s'' : FileStore} {p : Path} {l m : Location} {content : List UInt8}

/-- One store has become another, and directories are all that is new. -/
structure Grows (s s' : FileStore) : Prop where
  /-- The current directory is the same. -/
  current : s'.current = s.current
  /-- The rights of the user are the same. -/
  denied : s'.denied = s.denied
  /-- What was there is there as it was. -/
  lookup : ∀ l, s'.lookup? l = s.lookup? l ∨ s.lookup? l = none ∧ s'.lookup? l = some .directory

private theorem Grows.refl (s : FileStore) : s.Grows s := ⟨rfl, rfl, fun _ ↦ .inl rfl⟩

private theorem Grows.trans (h : s.Grows s') (h' : s'.Grows s'') : s.Grows s'' := by
  refine ⟨h'.current.trans h.current, h'.denied.trans h.denied, fun l ↦ ?_⟩
  rcases h.lookup l with hsame | ⟨hnone, hnew⟩
  · rw [← hsame]
    exact h'.lookup l
  · rcases h'.lookup l with hsame | ⟨hmissing, -⟩
    · exact .inr ⟨hnone, hsame.trans hnew⟩
    · exact absurd (hnew.symm.trans hmissing) (Option.some_ne_none _)

private theorem Grows.allows (h : s.Grows s') (l : Location) (r : Right) :
    s'.allows l r = s.allows l r := by
  rw [FileStore.allows, h.denied, FileStore.allows]

/-! ## Making directories -/

theorem ne_nil_of_lookup? (h : s.lookup? l ≠ some .directory) : l ≠ [] := by
  rintro rfl
  exact h rfl

theorem add_eq_ok {e : Entry} (h : s.add l e = .ok s') : s' = s.put l e := by
  unfold add at h
  split at h
  · exact (Except.ok.inj h).symm
  · cases h

private theorem grows_makeDirectory (h : s.makeDirectory p = .ok s') : s.Grows s' := by
  obtain ⟨l, -, h⟩ := bind_eq_ok.1 h
  split at h
  · cases h
  · next hnone =>
    obtain rfl := add_eq_ok h
    refine ⟨rfl, rfl, fun m ↦ ?_⟩
    have hl : l ≠ [] := ne_nil_of_lookup? (by rw [hnone]; exact (Option.some_ne_none _).symm)
    rw [s.lookup?_put hl]
    by_cases hm : m = l
    · rw [if_pos hm, hm]
      exact .inr ⟨hnone, rfl⟩
    · rw [if_neg hm]
      exact .inl rfl

private theorem grows_ensureDirectory (h : s.ensureDirectory p = .ok s') : s.Grows s' := by
  unfold ensureDirectory at h
  split at h
  · next hmade =>
    obtain rfl := Except.ok.inj h
    exact grows_makeDirectory hmade
  · split at h
    · obtain rfl := Except.ok.inj h
      exact .refl s
    · cases h

theorem grows_ensurePath {start : Path.Start} {names : List Text}
    (h : s.ensurePath start names = .ok s') : s.Grows s' := by
  induction names generalizing s s' with
  | nil => exact grows_ensureDirectory (mapError_eq_ok.1 h)
  | cons name before ih =>
    unfold ensurePath at h
    dsimp only at h
    split at h
    · next hmade =>
      obtain rfl := Except.ok.inj h
      exact grows_ensureDirectory hmade
    · obtain ⟨made, hbefore, hmade⟩ := bind_eq_ok.1 h
      exact (ih hbefore).trans (grows_ensureDirectory (mapError_eq_ok.1 hmade))
    · cases h

/-- Nothing else has to be made if the last directory is there or can be made at once. -/
theorem ensureDirectories_of_ensureDirectory (h : s.ensureDirectory p = .ok s') :
    s.ensureDirectories p = .ok s' := by
  obtain ⟨start, names⟩ := p
  obtain ⟨names, rfl⟩ : ∃ back, names = List.reverse back :=
    ⟨names.reverse, names.reverse_reverse.symm⟩
  rw [ensureDirectories, List.reverse_reverse]
  cases names with
  | nil => exact mapError_eq_ok.2 h
  | cons name before =>
    unfold ensurePath
    dsimp only
    rw [h]

/-! ## Following paths -/

/-- A path that is a name of a file, without a NUL and not too long, is followed name by name. -/
theorem locate_eq_follow (s : FileStore) (hname : p.text.isFileName = true)
    (hnul : CodePoint.char '\x00' ∉ p.text.toList)
    (hlong : (Text.encodeName p.text).length ≤ pathLimit) :
    s.locate p = s.follow (if p.start = .here then s.current else []) p.names := by
  rw [locate, hname, Bool.not_true, if_neg Bool.false_ne_true, Text.contains_eq,
    decide_eq_false hnul, if_neg Bool.false_ne_true, if_neg (Nat.not_lt.2 hlong)]

private theorem Grows.follow (h : s.Grows s') {names : List Text}
    (hfound : s.follow l names ≠ .error .missing) : s'.follow l names = s.follow l names := by
  induction names generalizing l with
  | nil => rfl
  | cons name rest ih =>
    unfold FileStore.follow at hfound ⊢
    rcases h.lookup l with hsame | ⟨hnone, -⟩
    · rw [hsame]
      split
      · rfl
      · rfl
      · next hdir =>
        rw [hdir] at hfound
        dsimp only at hfound
        rw [h.allows]
        split
        · rfl
        · next hpass =>
          rw [if_neg hpass] at hfound
          split
          · next hup => exact ih (by rwa [if_pos hup] at hfound)
          · next hup =>
            split
            · rfl
            · next hlong => exact ih (by rwa [if_neg hup, if_neg hlong] at hfound)
    · rw [hnone] at hfound
      exact absurd rfl hfound

private theorem Grows.locate (h : s.Grows s') (hfound : s.locate p ≠ .error .missing) :
    s'.locate p = s.locate p := by
  unfold FileStore.locate at hfound ⊢
  rw [h.current]
  split
  · rfl
  · next hname =>
    split
    · rfl
    · next hnul =>
      split
      · rfl
      · next hlong => exact h.follow (by rwa [if_neg hname, if_neg hnul, if_neg hlong] at hfound)

/-! ## Writing files -/

private theorem follow_put (hl : s.lookup? l ≠ some .directory) {names : List Text} {k : Location}
    (h : s.follow m names = .ok k) (content : List UInt8) :
    (s.put l (.file content)).follow m names = .ok k := by
  induction names generalizing m with
  | nil => exact h
  | cons name rest ih =>
    unfold follow at h ⊢
    rw [s.lookup?_put (ne_nil_of_lookup? hl)]
    split at h
    · cases h
    · cases h
    · next hdir =>
      have hother : m ≠ l := by
        rintro rfl
        exact hl hdir
      have hallows : (s.put l (.file content)).allows m .pass = s.allows m .pass := rfl
      rw [if_neg hother, hdir]
      dsimp only
      rw [hallows]
      split at h
      · cases h
      · next hpass =>
        rw [if_neg hpass]
        split
        · next hup =>
          rw [if_pos hup] at h
          exact ih h
        · next hup =>
          rw [if_neg hup] at h
          split
          · next hlong =>
            rw [if_pos hlong] at h
            cases h
          · next hlong =>
            rw [if_neg hlong] at h
            exact ih h

private theorem locate_put (hl : s.lookup? l ≠ some .directory) {k : Location}
    (h : s.locate p = .ok k)
    (content : List UInt8) : (s.put l (.file content)).locate p = .ok k := by
  unfold locate at h ⊢
  split at h
  · cases h
  · next hname =>
    rw [if_neg hname]
    split at h
    · cases h
    · next hnul =>
      rw [if_neg hnul]
      split at h
      · cases h
      · next hlong =>
        rw [if_neg hlong]
        exact follow_put hl h content

/-- A path leads to a file. -/
structure LeadsTo (s : FileStore) (p : Path) (l : Location) (content : List UInt8) : Prop where
  /-- The location of the file. -/
  locate : s.locate p = .ok l
  /-- Its bytes. -/
  lookup : s.lookup? l = some (.file content)

theorem LeadsTo.free (h : s.LeadsTo p l content) : s.lookup? l ≠ some .directory := by
  rw [h.lookup]
  rintro ⟨⟩

theorem LeadsTo.find (h : s.LeadsTo p l content) : s.find p = .ok (.file content) := by
  rw [FileStore.find, h.locate, ok_bind, h.lookup]

theorem LeadsTo.read (h : s.LeadsTo p l content) (hread : s.allows l .read = true) :
    s.read p = .ok content := read_of_find h.locate h.lookup hread

theorem LeadsTo.probe (h : s.LeadsTo p l content) : s.probe p = .ok (some (.file content)) := by
  rw [FileStore.probe, h.find]

/-- The user may write a file at a location: the file that is there, or a new one. -/
structure Accepts (s : FileStore) (l : Location) : Prop where
  /-- No directory stands in its place. -/
  free : s.lookup? l ≠ some .directory
  /-- A file that is not there may be made in the directory. -/
  make : s.lookup? l = none → s.allows l.dropLast .write = true
  /-- The file may be written. -/
  write : s.allows l .write = true

theorem Accepts.put (h : s.Accepts l) (content : List UInt8) :
    (s.put l (.file content)).Accepts l := by
  have hput : (s.put l (.file content)).lookup? l = some (.file content) := by
    rw [s.lookup?_put (ne_nil_of_lookup? h.free), if_pos rfl]
  refine ⟨?_, ?_, h.write⟩ <;>
    rw [hput] <;>
    rintro ⟨⟩

theorem write_eq_ok (hlocate : s.locate p = .ok l) (hl : s.Accepts l) (content : List UInt8) :
    s.write p content = .ok (s.put l (.file content)) := by
  rw [FileStore.write, hlocate, ok_bind]
  split
  · next hdir => exact absurd hdir hl.free
  · rw [if_pos hl.write]
  · next hnone => rw [add, if_pos (hl.make hnone)]

theorem leadsTo_put (hlocate : s.locate p = .ok l) (hl : s.lookup? l ≠ some .directory)
    (content : List UInt8) : (s.put l (.file content)).LeadsTo p l content :=
  ⟨locate_put hl hlocate content, by rw [s.lookup?_put (ne_nil_of_lookup? hl), if_pos rfl]⟩

private theorem leadsTo_of_write (h : s.write p content = .ok s') :
    ∃ l, s'.LeadsTo p l content := by
  obtain ⟨l, hlocate, h⟩ := bind_eq_ok.1 h
  have hput (hput : s' = s.put l (.file content)) (hl : s.lookup? l ≠ some .directory) :
      s'.LeadsTo p l content := hput ▸ leadsTo_put hlocate hl content
  split at h
  · cases h
  · next hentry =>
    split at h
    · refine ⟨l, hput (Except.ok.inj h).symm ?_⟩
      rw [hentry]
      rintro ⟨⟩
    · cases h
  · next hentry =>
    refine ⟨l, hput (add_eq_ok h) ?_⟩
    rw [hentry]
    rintro ⟨⟩

private theorem leadsTo_of_writeText {given text : Text} {q : Path}
    (h : s.writeText given p [] text = (.ok q, s')) :
    text.isEncodable = true ∧ ∃ l, s'.LeadsTo p l (Text.encodeUtf8 text) := by
  unfold writeText at h
  dsimp only at h
  split at h
  · cases h
  · next hwrite =>
    obtain ⟨hanswer, rfl⟩ := Prod.mk.inj h
    split at hanswer
    · next hcode =>
      rw [if_pos hcode, List.nil_append] at hwrite
      exact ⟨hcode, leadsTo_of_write hwrite⟩
    · cases hanswer

private theorem leadsTo_of_writeNew {given text : Text} {q : Path}
    (h : s.writeNew given p text = (.ok q, s')) :
    text.isEncodable = true ∧ ∃ l, s'.LeadsTo p l (Text.encodeUtf8 text) := by
  unfold writeNew at h
  split at h
  · cases h
  · exact leadsTo_of_writeText h

/-- A text that has been saved in the place of what was there is all that the file holds. -/
theorem leadsTo_of_save {settings : ExportSettings} {unique given text : Text} {q : Path}
    (h : s.save settings unique given text false = (.ok q, s')) :
    text.isEncodable = true ∧
      ∃ l, s'.LeadsTo (settings.resolve unique (.ofText given)) l (Text.encodeUtf8 text) := by
  unfold save at h
  dsimp only at h
  split at h
  · cases h
  · cases h
  · rw [if_neg Bool.false_ne_true] at h
    exact leadsTo_of_writeNew h
  · exact leadsTo_of_writeNew h

/-- A file can be written at a path: the directories that lead there are there or can be made, and
then the user may write a file and read it. -/
def Writable (s : FileStore) (p : Path) (l : Location) : Prop :=
  ∃ made, s.ensureDirectories p.parent = .ok made ∧ made.locate p = .ok l ∧ made.Accepts l ∧
    made.allows l .read = true

/-- What stands in the way of looking a path up also stands in the way of writing there, unless it
is a missing directory. -/
theorem Writable.probe (h : s.Writable p l) :
    s.probe p = .ok none ∨ ∃ content, s.probe p = .ok (some (.file content)) := by
  obtain ⟨made, hmade, hlocate, haccepts, -⟩ := h
  have hgrows : s.Grows made := grows_ensurePath hmade
  by_cases hmissing : s.locate p = .error .missing
  · left
    rw [FileStore.probe, FileStore.find, hmissing]
    rfl
  · rw [FileStore.probe, FileStore.find, ← hgrows.locate hmissing, hlocate, ok_bind]
    cases hentry : s.lookup? l with
    | none => exact .inl rfl
    | some e =>
      cases e with
      | file content => exact .inr ⟨content, rfl⟩
      | directory =>
        rcases hgrows.lookup l with hsame | ⟨hnone, -⟩
        · exact absurd (hsame.trans hentry) haccepts.free
        · rw [hnone] at hentry
          cases hentry

end TextArt.FileStore
