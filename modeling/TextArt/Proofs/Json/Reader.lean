import Mathlib.Data.List.TakeDrop
import Mathlib.Data.List.TakeWhile
import TextArt.Json.Reader
import TextArt.Proofs.Outcome

/-!
# What the JSON reader takes off

Every function of the reader gives back an end of the characters it was given. So whatever it
complains about stands in the text: where it says that a whole number has too many digits, there are
so many digits in a row, and where it says that lists and objects are nested too deeply, more of
them start than there is room for.
-/

namespace TextArt.Json

open Text (digitLimit)

variable {α β : Type} {s rest : List CodePoint}

/-! ## Reading an end off -/

/-- There are more digits in a row than whole numbers are read with. -/
def HasLongNumber (s : List CodePoint) : Prop :=
  ∃ run, run <:+: s ∧ digitLimit < run.length ∧ ∀ c ∈ run, c.isDigit = true

theorem HasLongNumber.mono (h : HasLongNumber rest) (hrest : rest <:+ s) : HasLongNumber s := by
  obtain ⟨run, hrun, hlong, hdigits⟩ := h
  exact ⟨run, hrun.trans hrest.isInfix, hlong, hdigits⟩

/-- Whether a list or an object starts with a character. -/
def opens (c : CodePoint) : Bool := c == .char '[' || c == .char '\x7b'

/-- There are more starts of lists and objects than there is room for. -/
def HasDeepNesting (room : Nat) (s : List CodePoint) : Prop := room < s.countP opens

theorem HasDeepNesting.mono {room : Nat} (h : HasDeepNesting room rest) (hrest : rest <:+ s) :
    HasDeepNesting room s :=
  Nat.lt_of_lt_of_le h (hrest.sublist.countP_le)

private theorem HasDeepNesting.cons {room : Nat} (h : HasDeepNesting room s) {c : CodePoint}
    (hc : opens c = true) : HasDeepNesting (room + 1) (c :: s) := by
  rw [HasDeepNesting, List.countP_cons_of_pos hc]
  exact Nat.succ_lt_succ h

/-- What is left after reading is an end of what there was, only a long number is said to have too
many digits, and only many starts of lists and objects to be nested too deeply. -/
structure Reads (room : Nat) (s : List CodePoint) (r : Except Fault (α × List CodePoint)) :
    Prop where
  /-- What is left. -/
  left : ∀ a rest, r = .ok (a, rest) → rest <:+ s
  /-- What has too many digits. -/
  long : ∀ fault, r = .error fault → fault.cause = .tooManyDigits → HasLongNumber s
  /-- What is nested too deeply. -/
  deep : ∀ fault, r = .error fault → fault.cause = .tooDeep → HasDeepNesting room s

variable {room : Nat}

theorem reads_ok (h : rest <:+ s) (a : α) : Reads room s (.ok (a, rest)) where
  left a' rest' heq := by
    obtain ⟨rfl, rfl⟩ := Prod.mk.inj (Except.ok.inj heq)
    exact h
  long fault heq := by cases heq
  deep fault heq := by cases heq

theorem reads_fault {cause : Cause} (h : cause ≠ .tooManyDigits ∧ cause ≠ .tooDeep)
    (left : Nat) : Reads room s (.error ⟨cause, left⟩ : Except Fault (α × List CodePoint)) where
  left a rest heq := by cases heq
  long fault heq hcause := by
    obtain rfl := Except.error.inj heq
    exact absurd hcause h.1
  deep fault heq hcause := by
    obtain rfl := Except.error.inj heq
    exact absurd hcause h.2

private theorem reads_tooDeep (h : HasDeepNesting room s) (left : Nat) :
    Reads room s (.error ⟨.tooDeep, left⟩ : Except Fault (α × List CodePoint)) where
  left a rest heq := by cases heq
  long fault heq hcause := by
    obtain rfl := Except.error.inj heq
    cases hcause
  deep _ _ _ := h

theorem Reads.mono {r : Except Fault (α × List CodePoint)} (h : Reads room rest r)
    (hrest : rest <:+ s) : Reads room s r where
  left a rest' heq := (h.left a rest' heq).trans hrest
  long fault heq hcause := (h.long fault heq hcause).mono hrest
  deep fault heq hcause := (h.deep fault heq hcause).mono hrest

private theorem Reads.inside {r : Except Fault (α × List CodePoint)} (h : Reads room rest r)
    {c : CodePoint} (hc : opens c = true) : Reads (room + 1) (c :: rest) r where
  left a rest' heq := (h.left a rest' heq).trans (List.suffix_cons c rest)
  long fault heq hcause := (h.long fault heq hcause).mono (List.suffix_cons c rest)
  deep fault heq hcause := (h.deep fault heq hcause).cons hc

theorem Reads.bind {x : Except Fault (α × List CodePoint)}
    {f : α × List CodePoint → Except Fault (β × List CodePoint)} (hx : Reads room s x)
    (hf : ∀ a rest, rest <:+ s → Reads room rest (f (a, rest))) : Reads room s (x >>= f) where
  left b rest heq := by
    obtain ⟨⟨a, middle⟩, ha, hb⟩ := bind_eq_ok.1 heq
    have hmiddle := hx.left a middle ha
    exact ((hf a middle hmiddle).left b rest hb).trans hmiddle
  long fault heq hcause := by
    rcases bind_eq_error.1 heq with heq | ⟨⟨a, middle⟩, ha, hb⟩
    · exact hx.long fault heq hcause
    · have hmiddle := hx.left a middle ha
      exact ((hf a middle hmiddle).long fault hb hcause).mono hmiddle
  deep fault heq hcause := by
    rcases bind_eq_error.1 heq with heq | ⟨⟨a, middle⟩, ha, hb⟩
    · exact hx.deep fault heq hcause
    · have hmiddle := hx.left a middle ha
      exact ((hf a middle hmiddle).deep fault hb hcause).mono hmiddle

theorem skip_suffix (s : List CodePoint) : skip s <:+ s := List.dropWhile_suffix _

private theorem suffix_of_skip {c : CodePoint} (h : skip s = c :: rest) : rest <:+ s :=
  (List.suffix_cons c rest).trans (h ▸ skip_suffix s)

/-! ## Strings -/

theorem hex4?_suffix {n : Nat} (h : hex4? s = some (n, rest)) : rest <:+ s := by
  unfold hex4? at h
  split at h
  · next a b c d tail =>
    split at h
    · obtain ⟨-, rfl⟩ := Prod.mk.inj (Option.some.inj h)
      exact List.suffix_append [a, b, c, d] tail
    · cases h
  · cases h

private theorem pair?_suffix {high n : Nat} (h : pair? high s = some (n, rest)) : rest <:+ s := by
  unfold pair? at h
  split at h
  · split at h
    · next tail =>
      split at h
      · next low after hlow =>
        split at h
        · obtain ⟨-, rfl⟩ := Prod.mk.inj (Option.some.inj h)
          exact (hex4?_suffix hlow).trans (List.suffix_append [_, _] tail)
        · cases h
      · cases h
    · cases h
  · cases h

private theorem getD_pair?_suffix (n : Nat) (s : List CodePoint) :
    ((pair? n s).getD (n, s)).2 <:+ s := by
  cases h : pair? n s with
  | none => exact List.suffix_refl s
  | some read => exact pair?_suffix h

private theorem stringTail_reads (start fuel : Nat) (s : List CodePoint) :
    Reads room s (stringTail start fuel s) := by
  induction fuel generalizing s with
  | zero => exact reads_fault (by decide) _
  | succ fuel ih =>
    -- one more character of the string, after whatever stands for it
    have hmore : ∀ (c : CodePoint) (after : List CodePoint), after <:+ s →
        Reads room s (stringTail start fuel after >>= fun r ↦ .ok (c :: r.1, r.2)) := by
      intro c after hafter
      refine ((ih after).bind ?_).mono hafter
      intro more rest _
      exact reads_ok (List.suffix_refl rest) (c :: more)
    cases s with
    | nil => exact reads_fault (by decide) _
    | cons c rest =>
      unfold stringTail
      split
      · exact reads_ok (List.suffix_cons c rest) _
      split
      · split
        · exact reads_fault (by decide) _
        · next tail =>
          split
          · exact reads_fault (by decide) _
          · next n after hn =>
            split
            · exact reads_fault (by decide) _
            · refine hmore _ _ ?_
              refine (getD_pair?_suffix n after).trans ((hex4?_suffix hn).trans ?_)
              exact List.suffix_append [c, _] tail
        · next e tail _ =>
          split
          · exact reads_fault (by decide) _
          · exact hmore _ _ (List.suffix_append [c, e] tail)
      split
      · exact reads_fault (by decide) _
      · exact hmore c rest (List.suffix_cons c rest)

private theorem string_reads (s : List CodePoint) : Reads room s (string s) :=
  (stringTail_reads _ _ s).bind fun _ _ _ ↦ reads_ok (List.suffix_refl _) _

/-! ## Numbers -/

private theorem digitRun_fst (s : List CodePoint) :
    (digitRun s).1 = s.takeWhile CodePoint.isDigit := by
  rw [digitRun, List.span_eq_takeWhile_dropWhile]

theorem digitRun_suffix (s : List CodePoint) : (digitRun s).2 <:+ s := by
  rw [digitRun, List.span_eq_takeWhile_dropWhile]
  exact List.dropWhile_suffix _

private theorem fractionPart_suffix (s : List CodePoint) : (fractionPart s).2 <:+ s := by
  unfold fractionPart
  split
  · next tail =>
    split
    · exact List.suffix_refl _
    · exact (digitRun_suffix tail).trans (List.suffix_cons _ tail)
  · exact List.suffix_refl s

private theorem exponentPart_suffix (s : List CodePoint) : (exponentPart s).2 <:+ s := by
  have hsigned : ∀ (n : Int) (tail : List CodePoint), tail <:+ s →
      (if (digitRun tail).1.isEmpty then (none, s) else (some n, (digitRun tail).2)).2 <:+ s := by
    intro n tail htail
    split
    · exact List.suffix_refl s
    · exact (digitRun_suffix tail).trans htail
  unfold exponentPart
  dsimp only
  split
  · next tail =>
    split
    · next digits => exact hsigned _ digits (List.suffix_append [_, _] digits)
    · next digits => exact hsigned _ digits (List.suffix_append [_, _] digits)
    · exact hsigned _ tail (List.suffix_cons _ tail)
  · next tail =>
    split
    · next digits => exact hsigned _ digits (List.suffix_append [_, _] digits)
    · next digits => exact hsigned _ digits (List.suffix_append [_, _] digits)
    · exact hsigned _ tail (List.suffix_cons _ tail)
  · exact List.suffix_refl s

private theorem unsignedNumber_eq_some {negative : Bool} {r : Except Cause Value}
    (h : unsignedNumber negative s = some (r, rest)) :
    rest <:+ s ∧ ∀ cause, r = .error cause → HasLongNumber s ∧ cause = .tooManyDigits := by
  unfold unsignedNumber at h
  dsimp only at h
  split at h
  · cases h
  next d more hrun =>
  rw [digitRun_fst] at hrun
  generalize hwhole : (if d = '0' then [d] else d :: more) = whole at h
  have hrest : (exponentPart (fractionPart (s.drop whole.length)).2).2 <:+ s :=
    (exponentPart_suffix _).trans ((fractionPart_suffix _).trans (List.drop_suffix _ s))
  have hlength : whole.length ≤ (d :: more).length := by
    rw [← hwhole]
    split
    · exact Nat.succ_le_succ (Nat.zero_le _)
    · exact Nat.le_refl _
  split at h
  · split at h
    · next hlong =>
      obtain ⟨rfl, rfl⟩ := Prod.mk.inj (Option.some.inj h)
      have hdigits : HasLongNumber s := by
        refine ⟨d :: more, ?_, Nat.lt_of_lt_of_le hlong hlength, ?_⟩
        · exact hrun ▸ (List.takeWhile_prefix _).isInfix
        · exact fun c hc ↦ List.mem_takeWhile_imp (hrun ▸ hc)
      exact ⟨hrest, fun _ hcause ↦ ⟨hdigits, (Except.error.inj hcause).symm⟩⟩
    · obtain ⟨rfl, rfl⟩ := Prod.mk.inj (Option.some.inj h)
      exact ⟨hrest, fun _ hcause ↦ absurd hcause ok_ne_error⟩
  · obtain ⟨rfl, rfl⟩ := Prod.mk.inj (Option.some.inj h)
    exact ⟨hrest, fun _ hcause ↦ absurd hcause ok_ne_error⟩

private theorem number_reads (s : List CodePoint) : Reads room s (number s) := by
  unfold number
  dsimp only
  split
  · exact reads_fault (by decide) _
  · next cause rest h =>
    have hlong : HasLongNumber s ∧ cause = .tooManyDigits := by
      split at h
      · exact ((unsignedNumber_eq_some h).2 cause rfl).imp_left (·.mono (List.suffix_cons _ _))
      · exact (unsignedNumber_eq_some h).2 cause rfl
    refine ⟨fun _ _ heq ↦ (by cases heq), fun _ _ _ ↦ hlong.1, fun fault heq hcause ↦ ?_⟩
    obtain rfl := Except.error.inj heq
    exact absurd (hlong.2.symm.trans hcause) (by decide)
  · next v rest h =>
    refine reads_ok ?_ v
    split at h
    · exact (unsignedNumber_eq_some h).1.trans (List.suffix_cons _ _)
    · exact (unsignedNumber_eq_some h).1

/-! ## Values -/

private theorem scalar_reads (s : List CodePoint) : Reads room s (scalar s) := by
  unfold scalar
  split
  · next read h =>
    obtain ⟨⟨w, v⟩, -, hread⟩ := List.exists_of_findSome?_eq_some h
    obtain ⟨rest, hrest, rfl⟩ := Option.map_eq_some_iff.1 hread
    refine reads_ok ?_ v
    unfold word? at hrest
    split at hrest
    · obtain rfl := Option.some.inj hrest
      exact List.drop_suffix _ s
    · cases hrest
  · exact number_reads s

private theorem nested_reads (fuel : Nat) : ∀ room, (∀ s, Reads room s (value room fuel s)) ∧
    (∀ s, Reads room s (items room fuel s)) ∧ ∀ s, Reads room s (members room fuel s) := by
  induction fuel with
  | zero =>
    refine fun room ↦ ⟨fun s ↦ ?_, fun s ↦ ?_, fun s ↦ ?_⟩
    · rw [value]
      exact reads_fault (by decide) _
    · rw [items]
      exact reads_fault (by decide) _
    · rw [members]
      exact reads_fault (by decide) _
  | succ fuel ih =>
    intro room
    obtain ⟨hvalue, hitems, hmembers⟩ := ih room
    refine ⟨fun s ↦ ?_, fun s ↦ ?_, fun s ↦ ?_⟩
    · rw [value.eq_def]
      dsimp only
      split
      · next rest =>
        refine ((string_reads rest).bind ?_).mono (List.suffix_cons _ rest)
        exact fun text after _ ↦ reads_ok (List.suffix_refl after) _
      · next rest =>
        cases room with
        | zero => exact reads_tooDeep (List.countP_pos_iff.2 ⟨_, List.mem_cons_self, rfl⟩) _
        | succ room =>
          rw [if_neg (Nat.succ_ne_zero room), Nat.add_sub_cancel]
          split
          · next after h => exact reads_ok ((suffix_of_skip h).trans (List.suffix_cons _ rest)) _
          · have hinner := ((ih room).2.1 (skip rest)).mono (skip_suffix rest)
            refine (hinner.inside rfl).bind ?_
            exact fun items after _ ↦ reads_ok (List.suffix_refl after) _
      · next rest =>
        cases room with
        | zero => exact reads_tooDeep (List.countP_pos_iff.2 ⟨_, List.mem_cons_self, rfl⟩) _
        | succ room =>
          rw [if_neg (Nat.succ_ne_zero room), Nat.add_sub_cancel]
          split
          · next after h => exact reads_ok ((suffix_of_skip h).trans (List.suffix_cons _ rest)) _
          · have hinner := ((ih room).2.2 (skip rest)).mono (skip_suffix rest)
            refine (hinner.inside rfl).bind ?_
            exact fun fields after _ ↦ reads_ok (List.suffix_refl after) _
      · exact scalar_reads s
    · rw [items]
      refine (hvalue s).bind ?_
      intro v rest _
      dsimp only
      split
      · next after h => exact reads_ok (suffix_of_skip h) _
      · next after h =>
        refine ((hitems (skip after)).bind ?_).mono ((skip_suffix after).trans (suffix_of_skip h))
        exact fun more after _ ↦ reads_ok (List.suffix_refl after) _
      · exact reads_fault (by decide) _
    · rw [members.eq_def]
      dsimp only
      split
      · next rest =>
        refine ((string_reads rest).bind ?_).mono (List.suffix_cons _ rest)
        intro name rest _
        dsimp only
        split
        · next tail h =>
          refine ((hvalue (skip tail)).bind ?_).mono ((skip_suffix tail).trans (suffix_of_skip h))
          intro v rest _
          dsimp only
          split
          · next after h => exact reads_ok (suffix_of_skip h) _
          · next after h =>
            refine ((hmembers (skip after)).bind ?_).mono
              ((skip_suffix after).trans (suffix_of_skip h))
            exact fun more after _ ↦ reads_ok (List.suffix_refl after) _
          · exact reads_fault (by decide) _
        · exact reads_fault (by decide) _
      · exact reads_fault (by decide) _

theorem document_fault {fault : Fault} (h : document room s = .error fault) :
    (fault.cause = .tooManyDigits → HasLongNumber s) ∧
      (fault.cause = .tooDeep → HasDeepNesting room s) := by
  rcases bind_eq_error.1 h with h | ⟨⟨v, rest⟩, -, h⟩
  · have hreads := (nested_reads (2 * s.length + 2) room).1 (skip s)
    exact ⟨fun hcause ↦ (hreads.long fault h hcause).mono (skip_suffix s),
      fun hcause ↦ (hreads.deep fault h hcause).mono (skip_suffix s)⟩
  · dsimp only at h
    split at h
    · cases h
    · obtain rfl := Except.error.inj h
      exact ⟨by rintro ⟨⟩, by rintro ⟨⟩⟩

/-- A text is refused for the digits of a number or for its nesting only if it has them. -/
theorem read_fault {text : Text} {fault : Fault} (h : read room text = .error fault) :
    (fault.cause = .tooManyDigits → HasLongNumber text.toList) ∧
      (fault.cause = .tooDeep → HasDeepNesting room text.toList) := by
  unfold read at h
  dsimp only at h
  split at h
  · obtain rfl := Except.error.inj h
    exact ⟨by rintro ⟨⟩, by rintro ⟨⟩⟩
  · exact document_fault h

end TextArt.Json
