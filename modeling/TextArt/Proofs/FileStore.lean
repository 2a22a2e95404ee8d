import TextArt.Export.Files
import TextArt.Proofs.Containment
import TextArt.Proofs.Grid.ReadBack

/-!
# What saving and loading fail with

Almost everything that stands in the way of a file becomes a failure of the library. What does not
is a path that cannot be looked up at all (`FileStore.PathEscapes`), bytes that are no text, and
text that has no bytes.
-/

namespace TextArt

variable {escapes : Failure → Prop} {s : FileStore} {p : Path} {o : Obstacle}

/-! ## Paths that cannot be followed -/

namespace Path

/-- A name of the path holds a NUL. -/
def HasNul (p : Path) : Prop := ∃ name ∈ p.names, CodePoint.char '\x00' ∈ name.toList

/-- A name of the path has a code point that stands for no bytes. -/
def HasNoBytes (p : Path) : Prop := ∃ name ∈ p.names, name.isFileName = false

/-- The path or one of its names has more bytes than a store takes. -/
def IsTooLong (p : Path) : Prop :=
  FileStore.pathLimit < (Text.encodeName p.text).length ∨
    ∃ name ∈ p.names, FileStore.nameLimit < (Text.encodeName name).length

theorem exists_name_of_mem_text {c : CodePoint} (h : c ∈ p.text.toList) (hdot : c ≠ '.')
    (hslash : c ≠ '/') : ∃ name ∈ p.names, c ∈ name.toList := by
  have hstart : c ∉ p.start.text.toList := by
    cases p.start <;> simp [Start.text, hslash]
  unfold text at h
  split at h
  · rw [Text.toList_ofString] at h
    exact absurd (List.mem_singleton.1 h) hdot
  · rw [Text.toList_append, List.mem_append] at h
    have hnames := h.resolve_left hstart
    rw [Text.toList_intercalate] at hnames
    obtain hsep | ⟨chars, hchars, hc⟩ := Text.mem_of_mem_intercalate hnames
    · exact absurd (List.mem_singleton.1 hsep) hslash
    · obtain ⟨name, hname, rfl⟩ := List.mem_map.1 hchars
      exact ⟨name, hname, hc⟩

private theorem hasNul_of_mem_text (h : CodePoint.char '\x00' ∈ p.text.toList) : p.HasNul :=
  exists_name_of_mem_text h (by decide) (by decide)

private theorem hasNoBytes_of_text (h : p.text.isFileName = false) : p.HasNoBytes := by
  obtain ⟨c, hc, hbad⟩ := List.all_eq_false.1 h
  have hchar : ∀ d : Char, c ≠ d := by
    rintro d rfl
    exact hbad rfl
  obtain ⟨name, hname, hmem⟩ := exists_name_of_mem_text hc (hchar _) (hchar _)
  exact ⟨name, hname, List.all_eq_false.2 ⟨c, hmem, hbad⟩⟩

private theorem HasNul.of_parent (h : p.parent.HasNul) : p.HasNul := by
  obtain ⟨name, hname, hnul⟩ := h
  exact ⟨name, List.dropLast_subset _ hname, hnul⟩

private theorem HasNoBytes.of_parent (h : p.parent.HasNoBytes) : p.HasNoBytes := by
  obtain ⟨name, hname, hbytes⟩ := h
  exact ⟨name, List.dropLast_subset _ hname, hbytes⟩

/-- What an obstacle says about a path that it is met on, if it says something. -/
def Bears (p : Path) : Obstacle → Prop
  | .nul => p.HasNul
  | .unencodable => p.HasNoBytes
  | .tooLong => p.IsTooLong
  | _ => True

end Path

namespace FileStore

/-- Names are followed into no obstacle that a path bears as a whole, and a name is too long by its
own bytes. -/
theorem follow_eq_error {l : Location} {names : List Text} (h : s.follow l names = .error o) :
    o ≠ .nul ∧ o ≠ .unencodable ∧
      (o = .tooLong → ∃ name ∈ names, nameLimit < (Text.encodeName name).length) := by
  induction names generalizing l with
  | nil => cases h
  | cons name rest ih =>
    have hrest : ∀ {l}, s.follow l rest = .error o → o ≠ .nul ∧ o ≠ .unencodable ∧
        (o = .tooLong → ∃ long ∈ name :: rest, nameLimit < (Text.encodeName long).length) := by
      intro l h
      obtain ⟨hnul, hcode, hlong⟩ := ih h
      refine ⟨hnul, hcode, fun ho ↦ ?_⟩
      obtain ⟨long, hmem, hbytes⟩ := hlong ho
      exact ⟨long, List.mem_cons_of_mem _ hmem, hbytes⟩
    rw [follow] at h
    split at h
    · obtain rfl := Except.error.inj h
      exact ⟨by decide, by decide, by rintro ⟨⟩⟩
    · obtain rfl := Except.error.inj h
      exact ⟨by decide, by decide, by rintro ⟨⟩⟩
    · split at h
      · obtain rfl := Except.error.inj h
        exact ⟨by decide, by decide, by rintro ⟨⟩⟩
      split at h
      · exact hrest h
      split at h
      · next hlong =>
        obtain rfl := Except.error.inj h
        exact ⟨by decide, by decide, fun _ ↦ ⟨name, List.mem_cons_self, hlong⟩⟩
      · exact hrest h

theorem locate_eq_error (h : s.locate p = .error o) : p.Bears o := by
  unfold locate at h
  split at h
  · next hcode =>
    obtain rfl := Except.error.inj h
    exact Path.hasNoBytes_of_text (by simpa using hcode)
  split at h
  · next hnul =>
    obtain rfl := Except.error.inj h
    rw [Text.contains_eq, decide_eq_true_iff] at hnul
    exact Path.hasNul_of_mem_text hnul
  split at h
  · next hlong =>
    obtain rfl := Except.error.inj h
    exact .inl hlong
  · obtain ⟨hnul, hcode, hlong⟩ := follow_eq_error h
    cases o with
    | nul => exact absurd rfl hnul
    | unencodable => exact absurd rfl hcode
    | tooLong => exact .inr (hlong rfl)
    | _ => trivial

private theorem find_eq_error (h : s.find p = .error o) : p.Bears o := by
  rcases bind_eq_error.1 h with h | ⟨l, -, h⟩
  · exact locate_eq_error h
  · split at h
    · cases h
    · obtain rfl := Except.error.inj h
      trivial

private theorem read_eq_error (h : s.read p = .error o) : p.Bears o := by
  rcases bind_eq_error.1 h with h | ⟨l, -, h⟩
  · exact locate_eq_error h
  · split at h
    · obtain rfl := Except.error.inj h
      trivial
    · split at h
      · obtain rfl := Except.error.inj h
        trivial
      · split at h
        · cases h
        · obtain rfl := Except.error.inj h
          trivial

/-- A file that can be read is there. -/
theorem find_of_read {content : List UInt8} (h : s.read p = .ok content) :
    s.find p = .ok (.file content) := by
  obtain ⟨l, hlocate, h⟩ := bind_eq_ok.1 h
  split at h
  · cases h
  · next e hentry =>
    split at h
    · cases h
    · split at h
      · obtain rfl := Except.ok.inj h
        rw [find, hlocate, ok_bind, hentry]
      · cases h

theorem read_of_find {l : Location} {content : List UInt8} (hlocate : s.locate p = .ok l)
    (hentry : s.lookup? l = some (.file content)) (hread : s.allows l .read = true) :
    s.read p = .ok content := by
  rw [read, hlocate, ok_bind, hentry]
  dsimp only
  rw [hread]
  rfl

/-- The causes for which a path cannot be looked up at all. -/
inductive PathEscapes (s : FileStore) (p : Path) : Failure → Prop where
  /-- A name holds a NUL. -/
  | nul (h : p.HasNul) : PathEscapes s p .badValue
  /-- A name has a code point that stands for no bytes. -/
  | unencodable (h : p.HasNoBytes) : PathEscapes s p .unencodable
  /-- The path is too long. -/
  | tooLong (h : p.IsTooLong) : PathEscapes s p (.unreachable (Obstacle.message .tooLong p))
  /-- The path leads through a directory that the user may not pass. -/
  | forbidden (h : s.find p = .error .denied) :
    PathEscapes s p (.forbidden (Obstacle.message .denied p))

theorem probe_contained : Contained (s.PathEscapes p) (s.probe p) := by
  unfold probe
  split
  · exact contained_ok _
  · next h => exact contained_escape (.tooLong (find_eq_error h))
  · next h => exact contained_escape (.forbidden h)
  · exact contained_ok _

/-! ## Saving -/

private theorem write_eq_error {content : List UInt8} (h : s.write p content = .error o) :
    p.Bears o := by
  rcases bind_eq_error.1 h with h | ⟨l, -, h⟩
  · exact locate_eq_error h
  · rw [add] at h
    split at h
    · obtain rfl := Except.error.inj h
      trivial
    all_goals
      split at h
      · cases h
      · obtain rfl := Except.error.inj h
        trivial

private theorem ensureDirectory_eq_error (h : s.ensureDirectory p = .error o) : p.Bears o := by
  unfold ensureDirectory at h
  split at h
  · cases h
  · next hmake =>
    split at h
    · cases h
    · obtain rfl := Except.error.inj h
      rcases bind_eq_error.1 hmake with h | ⟨l, -, h⟩
      · exact locate_eq_error h
      · rw [add] at h
        split at h
        · obtain rfl := Except.error.inj h
          trivial
        · split at h
          · cases h
          · obtain rfl := Except.error.inj h
            trivial

private theorem ensurePath_eq_error {start : Path.Start} {names : List Text} {q : Path}
    {s' : FileStore} (h : s.ensurePath start names = .error (o, q, s')) :
    q.Bears o ∧ ∀ name ∈ q.names, name ∈ names := by
  induction names generalizing s o q s' with
  | nil =>
    obtain ⟨o', hmade, heq⟩ := mapError_eq_error.1 h
    obtain ⟨rfl, hplace⟩ := Prod.mk.inj heq
    obtain ⟨rfl, -⟩ := Prod.mk.inj hplace
    exact ⟨ensureDirectory_eq_error hmade, fun _ hname ↦ hname⟩
  | cons name before ih =>
    have hall : ∀ name' ∈ (name :: before).reverse, name' ∈ name :: before :=
      fun _ ↦ List.mem_reverse.1
    unfold ensurePath at h
    dsimp only at h
    split at h
    · cases h
    · rcases bind_eq_error.1 h with h | ⟨made, -, h⟩
      · exact (ih h).imp_right fun hq name' hname' ↦ List.mem_cons_of_mem _ (hq name' hname')
      · obtain ⟨o', hmade, heq⟩ := mapError_eq_error.1 h
        obtain ⟨rfl, hplace⟩ := Prod.mk.inj heq
        obtain ⟨rfl, -⟩ := Prod.mk.inj hplace
        exact ⟨ensureDirectory_eq_error hmade, hall⟩
    · next o' _ hmade =>
      obtain ⟨rfl, hplace⟩ := Prod.mk.inj (Except.error.inj h)
      obtain ⟨rfl, -⟩ := Prod.mk.inj hplace
      exact ⟨ensureDirectory_eq_error hmade, hall⟩

theorem writeFailure_contained {given : Text} {q : Path} (hnul : o = .nul → escapes .badValue)
    (hcode : o = .unencodable → escapes .unencodable) :
    (writeFailure given o q).isReported = true ∨ escapes (writeFailure given o q) := by
  unfold writeFailure
  split
  · exact .inr (hnul rfl)
  · exact .inr (hcode rfl)
  · exact .inl rfl
  · exact .inl rfl

/-- The causes for which a failure gets out of saving. -/
inductive SaveEscapes (s : FileStore) (p : Path) (text : Text) : Failure → Prop where
  /-- The path cannot be looked up. -/
  | path {f : Failure} (h : s.PathEscapes p f) : SaveEscapes s p text f
  /-- The text has no bytes. -/
  | text (h : text.isEncodable = false) : SaveEscapes s p text .unencodable

theorem writeText_contained {original : FileStore} {given text whole : Text}
    {before : List UInt8} (htext : text.isEncodable = false → whole.isEncodable = false) :
    Contained (original.SaveEscapes p whole) (s.writeText given p before text).1 := by
  unfold writeText
  dsimp only
  split
  · next o h =>
    refine contained_error (writeFailure_contained ?_ ?_)
    · rintro rfl
      exact .path (.nul (write_eq_error h))
    · rintro rfl
      exact .path (.unencodable (write_eq_error h))
  · split
    · exact contained_ok _
    · next hnot => exact contained_escape (.text (htext (Bool.eq_false_iff.2 hnot)))

private theorem writeNew_contained {original : FileStore} {given text : Text} :
    Contained (original.SaveEscapes p text) (s.writeNew given p text).1 := by
  unfold writeNew
  split
  · next o q made h =>
    obtain ⟨hbears, hnames⟩ := ensurePath_eq_error h
    have hparent : ∀ name ∈ q.names, name ∈ p.parent.names :=
      fun name hname ↦ List.mem_reverse.1 (hnames name hname)
    refine contained_error (writeFailure_contained ?_ ?_)
    · rintro rfl
      obtain ⟨name, hname, hnul⟩ := hbears
      exact .path (.nul (Path.HasNul.of_parent ⟨name, hparent name hname, hnul⟩))
    · rintro rfl
      obtain ⟨name, hname, hbytes⟩ := hbears
      exact .path (.unencodable (Path.HasNoBytes.of_parent ⟨name, hparent name hname, hbytes⟩))
  · exact writeText_contained id

/-- What saving can fail with, besides the failures of the library. -/
theorem save_contained {settings : ExportSettings} {unique given text : Text} {append : Bool}
    (hp : settings.resolve unique (.ofText given) = p) :
    Contained (s.SaveEscapes p text) (s.save settings unique given text append).1 := by
  unfold save
  dsimp only
  rw [hp]
  split
  · next f h => exact contained_error ((probe_contained f h).imp_right .path)
  · exact contained_reported rfl
  · split
    · refine writeText_contained fun hnot ↦ ?_
      rwa [Text.isEncodable_append, Text.isEncodable_ofString, Bool.true_and] at hnot
    · exact writeNew_contained
  · exact writeNew_contained

/-- What is saved is saved under the path that the name stands for. -/
theorem save_eq_ok {settings : ExportSettings} {unique given text : Text} {append : Bool}
    (h : (s.save settings unique given text append).1 = .ok p) :
    p = settings.resolve unique (.ofText given) := by
  have hwrite : ∀ {s : FileStore} {q : Path} {before : List UInt8} {text : Text},
      (s.writeText given q before text).1 = .ok p → p = q := by
    intro s q before text h
    unfold writeText at h
    dsimp only at h
    split at h
    · cases h
    · split at h
      · exact (Except.ok.inj h).symm
      · cases h
  have hnew : ∀ {q : Path}, (s.writeNew given q text).1 = .ok p → p = q := by
    intro q h
    unfold writeNew at h
    split at h
    · cases h
    · exact hwrite h
  unfold save at h
  dsimp only at h
  split at h
  · cases h
  · cases h
  · split at h
    · exact hwrite h
    · exact hnew h
  · exact hnew h

/-! ## Loading -/

theorem decodeText_contained {content : List UInt8}
    (h : Text.decodeUtf8 .refused content = none → escapes .undecodable) :
    Contained escapes (decodeText content) := by
  unfold decodeText
  split
  · exact contained_ok _
  · next hnone => exact contained_escape (h hnone)

/-- The causes for which a failure gets out of loading. -/
inductive LoadEscapes (s : FileStore) (p : Path) : Failure → Prop where
  /-- The path cannot be looked up. -/
  | path {f : Failure} (h : s.PathEscapes p f) : LoadEscapes s p f
  /-- The bytes of the file are no text. -/
  | bytes {content : List UInt8} (hread : s.read p = .ok content)
    (hbytes : Text.decodeUtf8 .refused content = none) : LoadEscapes s p .undecodable

/-- What loading a document can fail with, besides the failures of the library. -/
theorem loadDocument_contained : Contained (s.LoadEscapes p) (s.loadDocument p) := by
  unfold loadDocument
  split
  · next content h => exact (decodeText_contained (.bytes h)).map _
  · next h => exact contained_escape (.path (.nul (read_eq_error h)))
  · next h => exact contained_escape (.path (.unencodable (read_eq_error h)))
  · exact contained_reported rfl

private theorem readFailure_isReported (o : Obstacle) (p : Path) :
    (readFailure o p).isReported = true := by
  cases o <;> rfl

/-- What loading a drawing can fail with, besides the failures of the library. -/
theorem loadGrid_contained : Contained (s.LoadEscapes p) (s.loadGrid p) := by
  refine (probe_contained.mono fun f ↦ .path).bind ?_
  intro entry _
  split
  · exact contained_reported rfl
  · exact contained_reported rfl
  · refine (contained_mapError _ fun o _ ↦ .inl (readFailure_isReported o p)).bind ?_
    intro content hread
    refine (decodeText_contained (.bytes (mapError_eq_ok.1 hread))).bind ?_
    intro text _
    split
    · exact contained_reported rfl
    · exact contained_mapError _ fun f _ ↦ .inl rfl

end FileStore

end TextArt
