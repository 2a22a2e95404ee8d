import TextArt.Proofs.Json.Reader
import TextArt.Proofs.Recipe.Problems

/-!
# What parsing fails with

A document that is parsed is accepted, or it is refused as what it is: its text is no JSON, or there
are problems with its value, at least one of which is named. Three failures of reading are handed
on instead (`Source.Escapes`): bytes that are no text in any of the encodings of JSON, a whole
number with too many digits, and lists and objects that are nested too deeply. Checking fails with
problems only, whatever the value.
-/

namespace TextArt

open Schema

variable {registry : FillRegistry}

/-! ## Compositions -/

namespace Composition

private theorem explains_checkPlacement (v : Value) : Explains (checkPlacement v) := by
  refine (explains_record _ v).bind fun fields ↦ Explains.bind ?_ fun _ ↦ explains_ok _
  exact (explains_optional (explains_oneOf _)).both <| (explains_optional explains_anyInt).both <|
    (explains_optional explains_anyInt).both <|
    (explains_optional (explains_nullable explains_oneChar)).both (explains_noOthers fields _)

private theorem explains_checkShape (v : Value) : Explains (checkShape registry v) := by
  refine (explains_record _ v).bind fun fields ↦
    Explains.bind ?_ fun ⟨kind, params, _, pattern, fillParams, _⟩ ↦ ?_
  · exact (explains_required (explains_oneOf _)).both <|
      (explains_optional explains_anyObject).both <|
      (explains_optional explains_checkPlacement).both <|
      (explains_optional (explains_nullable explains_anyText)).both <|
      (explains_optional explains_anyObject).both (explains_noOthers fields _)
  · refine (ShapeParams.explains_check kind params).bind fun _ ↦ ?_
    exact (FillSpec.explains_check registry pattern fillParams).bind fun _ ↦ explains_ok _

theorem explains_check (v : Value) : Explains (check registry v) := by
  refine (explains_record _ v).bind fun fields ↦ Explains.bind ?_ fun _ ↦ explains_ok _
  exact (explains_required (explains_intFrom 1)).both <|
    (explains_required (explains_intFrom 1)).both <|
    (explains_optional (explains_listOf explains_checkShape)).both (explains_noOthers fields _)

end Composition

/-! ## Sources -/

namespace Json.Source

/-- The bytes of a document are no text. -/
def Garbled (source : Source) : Prop := ∃ room b, source = .bytes room b ∧ decode b = none

/-- The room that a document has, and its characters, if it is given as a text or as bytes. -/
inductive Spells : Source → Nat → List CodePoint → Prop where
  /-- A text is made of its characters. -/
  | text (room : Nat) (s : Text) : Spells (.text room s) room s.toList
  /-- Bytes are decoded. -/
  | bytes (room : Nat) {b : List UInt8} {chars : List CodePoint} (h : decode b = some chars) :
    Spells (.bytes room b) room chars

/-- The causes for which a failure of reading is handed on. -/
inductive Escapes (source : Source) : Failure → Prop where
  /-- The bytes are no text. -/
  | undecodable (h : source.Garbled) : Escapes source .undecodable
  /-- A whole number has too many digits. -/
  | digits {room : Nat} {chars : List CodePoint} (h : source.Spells room chars)
    (hlong : HasLongNumber chars) : Escapes source .badValue
  /-- Lists and objects stand inside each other for which there is no room. -/
  | nesting {room : Nat} {chars : List CodePoint} (h : source.Spells room chars)
    (hdeep : HasDeepNesting room chars) : Escapes source .tooDeep

variable {source : Source} {subject : Text} {f : Failure}

private theorem settle_eq_error {room : Nat} {chars : List CodePoint} {read : Except Fault Value}
    (hspells : source.Spells room chars)
    (hread : ∀ fault, read = .error fault → (fault.cause = .tooManyDigits → HasLongNumber chars) ∧
      (fault.cause = .tooDeep → HasDeepNesting room chars))
    (h : load.settle subject chars read = .error f) :
    (∃ reason, f = .malformedDocument subject reason) ∨ source.Escapes f := by
  unfold load.settle at h
  split at h
  · cases h
  · next fault =>
    obtain ⟨hlong, hdeep⟩ := hread fault rfl
    split at h <;> obtain rfl := Except.error.inj h
    · next hcause => exact .inr (.digits hspells (hlong hcause))
    · next hcause => exact .inr (.nesting hspells (hdeep hcause))
    · exact .inl ⟨_, rfl⟩

private theorem load_eq_error (h : source.load subject = .error f) :
    (∃ reason, f = .malformedDocument subject reason) ∨ source.Escapes f := by
  cases source with
  | value v => cases h
  | text room s => exact settle_eq_error (.text room s) (fun _ hfault ↦ read_fault hfault) h
  | bytes room b =>
    rw [load] at h
    split at h
    · next hdecode =>
      obtain rfl := Except.error.inj h
      exact .inr (.undecodable ⟨room, b, rfl, hdecode⟩)
    · next chars hdecode =>
      exact settle_eq_error (.bytes room hdecode) (fun _ hfault ↦ document_fault hfault) h

private theorem load_of_garbled (h : source.Garbled) :
    source.load subject = .error .undecodable := by
  obtain ⟨room, b, rfl, hdecode⟩ := h
  rw [load, hdecode]

end Json.Source

/-! ## Parsing -/

/-- A document is refused as what it is, and if the fault is in its value, a problem is named. -/
inductive Refuses (subject : Text) : Failure → Prop where
  /-- The text is no JSON. -/
  | malformed (reason : Text) : Refuses subject (.malformedDocument subject reason)
  /-- There are problems with the value. -/
  | invalid {problems : List Text} (h : problems ≠ []) :
    Refuses subject (.invalidDocument subject problems)

section Parsing

variable {α : Type} {subject : Text} {check : Value → Checked α} {source : Json.Source}
  {f : Failure}

theorem refuses_or_escapes (hcheck : ∀ v, Explains (check v))
    (h : (source.load subject >>= fun v ↦ (check v).outcome subject) = .error f) :
    Refuses subject f ∨ source.Escapes f := by
  rcases bind_eq_error.1 h with hload | ⟨v, -, houtcome⟩
  · refine (Json.Source.load_eq_error hload).imp_left ?_
    rintro ⟨reason, rfl⟩
    exact .malformed reason
  · obtain ⟨problems, hproblems, rfl⟩ := mapError_eq_error.1 houtcome
    refine .inl (.invalid fun hnil ↦ hcheck v ?_)
    rw [hproblems, List.map_eq_nil_iff.1 hnil]

theorem undecodable_iff (hcheck : ∀ v, Explains (check v)) :
    (source.load subject >>= fun v ↦ (check v).outcome subject) = .error .undecodable ↔
      source.Garbled := by
  constructor
  · intro h
    rcases refuses_or_escapes hcheck h with hrefuses | hescapes
    · cases hrefuses
    · cases hescapes with
      | undecodable h => exact h
  · intro h
    rw [Json.Source.load_of_garbled h]
    rfl

end Parsing

/-- A single byte, which starts no character. -/
def strayByte : Json.Source := .bytes 990 [0xFF]

theorem strayByte_garbled : strayByte.Garbled := ⟨_, _, rfl, by decide⟩

end TextArt
