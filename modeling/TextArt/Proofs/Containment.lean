import TextArt.Proofs.Outcome

/-!
# Contained failures

Most failures are the library's own and have a message for the user. The others are marks of a
request that makes no sense, and callers hand them on. An outcome is contained but for some failures
if it fails with them or with the library's own only. What is contained is said of a sequence of
steps by saying it of each step.
-/

namespace TextArt

variable {α β : Type} {escapes : Failure → Prop}

/-- The outcome fails only with a failure of the library, or with one that may escape. -/
def Contained (escapes : Failure → Prop) (o : Outcome α) : Prop :=
  ∀ f, o = .error f → f.isReported = true ∨ escapes f

theorem contained_ok (a : α) : Contained escapes (.ok a : Outcome α) := by
  intro f h
  cases h

theorem contained_error {f : Failure} (h : f.isReported = true ∨ escapes f) :
    Contained escapes (.error f : Outcome α) := by
  intro f' hf'
  obtain rfl := Except.error.inj hf'
  exact h

theorem contained_reported {f : Failure} (h : f.isReported = true) :
    Contained escapes (.error f : Outcome α) :=
  contained_error (.inl h)

theorem contained_escape {f : Failure} (h : escapes f) :
    Contained escapes (.error f : Outcome α) :=
  contained_error (.inr h)

theorem contained_of_ok {o : Outcome α} {a : α} (h : o = .ok a) : Contained escapes o :=
  h ▸ contained_ok a

theorem Contained.mono {more : Failure → Prop} {o : Outcome α} (h : Contained escapes o)
    (hmore : ∀ f, escapes f → more f) : Contained more o :=
  fun f hf ↦ (h f hf).imp_right (hmore f)

theorem Contained.bind {x : Outcome α} {f : α → Outcome β} (hx : Contained escapes x)
    (hf : ∀ a, x = .ok a → Contained escapes (f a)) : Contained escapes (x >>= f) := by
  intro e he
  rcases bind_eq_error.1 he with he | ⟨a, ha, he⟩
  · exact hx e he
  · exact hf a ha e he

theorem Contained.map {x : Outcome α} (hx : Contained escapes x) (f : α → β) :
    Contained escapes (x.map f) := by
  intro e he
  exact hx e (map_eq_error.1 he)

theorem contained_mapError {ε : Type} (x : Except ε α) {f : ε → Failure}
    (h : ∀ e, x = .error e → (f e).isReported = true ∨ escapes (f e)) :
    Contained escapes (x.mapError f) := by
  cases x with
  | ok a => exact contained_ok a
  | error e => exact contained_error (h e rfl)

theorem contained_mapM {f : α → Outcome β} {items : List α}
    (h : ∀ a ∈ items, Contained escapes (f a)) : Contained escapes (items.mapM f) := by
  induction items with
  | nil => exact contained_ok []
  | cons a rest ih =>
    rw [List.mapM_cons]
    refine (h a List.mem_cons_self).bind ?_
    intro b _
    refine (ih fun a' ha' ↦ h a' (List.mem_cons_of_mem _ ha')).bind ?_
    intro bs _
    exact contained_ok (b :: bs)

theorem contained_foldlM {step : β → α → Outcome β} {items : List α}
    (h : ∀ b, ∀ a ∈ items, Contained escapes (step b a)) (b : β) :
    Contained escapes (items.foldlM step b) := by
  induction items generalizing b with
  | nil => exact contained_ok b
  | cons a rest ih =>
    rw [List.foldlM_cons]
    refine (h b a List.mem_cons_self).bind ?_
    intro b' _
    exact ih (fun b a' ha' ↦ h b a' (List.mem_cons_of_mem _ ha')) b'

end TextArt
