import TextArt.Proofs.Outcome
import TextArt.Script

/-!
# What a command does to a workspace

A command is turned down, and then the workspace is as it was; or it answers without touching a
piece; or it makes a piece, which comes last; or it changes the one piece that it is carried out on.
`step_of_target` opens a step for the commands that are carried out on a piece, `piece_cases` says
where the pieces after any step come from, and `Reachable` collects the workspaces that commands
lead to.
-/

namespace TextArt.Script

open Workspace

variable {context : Context} {w : Workspace}

/-! ## Pieces -/

@[simp] theorem withGrid_grid (p : Piece) : p.withGrid p.grid = p := by
  cases p <;> rfl

@[simp] theorem grid_withGrid (p : Piece) (g : Grid) : (p.withGrid g).grid = g := by
  cases p <;> rfl

@[simp] theorem withGrid_withGrid (p : Piece) (g h : Grid) :
    (p.withGrid g).withGrid h = p.withGrid h := by
  cases p <;> rfl

/-! ## Workspaces -/

@[simp] theorem Workspace.pieces_bind (w : Workspace) (name : Option Text) (i : Nat) :
    (w.bind name i).pieces = w.pieces := by
  cases name <;> rfl

@[simp] theorem Workspace.pieces_add (w : Workspace) (name : Option Text) (p : Piece) :
    (w.add name p).pieces = w.pieces ++ [p] := by
  rw [add, pieces_bind]

@[simp] theorem Workspace.pieces_replace (w : Workspace) (i : Nat) (p : Piece) :
    (w.replace i p).pieces = w.pieces.set i p := rfl

theorem Workspace.find?_eq_some {name : Text} {i : Nat} {p : Piece} :
    w.find? name = some (i, p) ↔ w.names.lookup name = some i ∧ w.pieces[i]? = some p := by
  simp only [find?, Option.bind_eq_bind, Option.bind_eq_some_iff, Option.some.injEq,
    Prod.mk.injEq]
  constructor
  · rintro ⟨i, hi, p, hp, rfl, rfl⟩
    exact ⟨hi, hp⟩
  · rintro ⟨hi, hp⟩
    exact ⟨i, hi, p, hp, rfl, rfl⟩

theorem Workspace.mem_of_find? {name : Text} {i : Nat} {p : Piece}
    (h : w.find? name = some (i, p)) : p ∈ w.pieces :=
  List.mem_of_getElem? (find?_eq_some.1 h).2

theorem getElem?_of_target {c : Command} {i : Nat} {p : Piece}
    (h : c.target.bind w.find? = some (i, p)) : w.pieces[i]? = some p := by
  obtain ⟨name, -, hfind⟩ := Option.bind_eq_some_iff.1 h
  exact (w.find?_eq_some.1 hfind).2

theorem getElem?_set_of_getElem? {α : Type} {l : List α} {i : Nat} {a : α} (h : l[i]? = some a)
    (b : α) : (l.set i b)[i]? = some b :=
  List.getElem?_set_self (List.getElem?_eq_some_iff.1 h).1

theorem pieceOf_eq_ok {arguments : Fields} {key : Text} {found : Nat × Piece} :
    pieceOf w arguments key = .ok found ↔
      ∃ name, arguments.lookup key = some (.str name) ∧ w.find? name = some found := by
  unfold pieceOf
  split
  · next name hname =>
    cases hfind : w.find? name with
    | none => simp [hname, hfind]
    | some f => simp [hname, hfind]
  · next v hother hv =>
    simp only [hv, reduceCtorEq, Option.some.injEq, false_iff]
    rintro ⟨name, rfl, -⟩
    exact hother name rfl
  · next hnone => simp [hnone]

/-! ## Outcomes of commands -/

theorem lift_eq_ok {α : Type} {o : Outcome α} {a : α} : lift o = .ok a ↔ o = .ok a := by
  unfold lift
  cases o <;> simp

theorem map_lift_eq_ok {α β : Type} {o : Outcome α} {f : α → β} {b : β} :
    (lift o).map f = .ok b ↔ ∃ a, o = .ok a ∧ f a = b := by
  simp only [map_eq_ok, lift_eq_ok]

/-! ## One command -/

theorem pieces_nextEvent (w : Workspace) (arguments : Fields) :
    (nextEvent w arguments).2.pieces = w.pieces := by
  unfold nextEvent
  split
  · split <;> rfl
  · rfl

/-- A command that makes nothing out of nothing and is not about a stream is carried out on the
piece of its target. -/
theorem step_of_target {c : Command} {i : Nat} {p : Piece}
    (hconstruct : construct? c.action c.arguments = none) (hnext : c.action ≠ "stream_next")
    (htarget : c.target.bind w.find? = some (i, p)) : step context w c = act context w i p c := by
  unfold step
  rw [hconstruct]
  dsimp only
  rw [if_neg hnext, htarget]

/-- The piece that an effect leaves behind. -/
inductive Effect.Leaves : Effect → Piece → Prop where
  /-- A piece that is made. -/
  | make (p : Piece) : Leaves (.make p) p
  /-- A piece that is changed. -/
  | change (p : Piece) (r : Result) : Leaves (.change p r) p

/-- A piece comes out of a command: it is made out of nothing, or it is what the command leaves of
the piece that it is carried out on. -/
inductive Arises (context : Context) (w : Workspace) (c : Command) (p : Piece) : Prop where
  /-- The command makes the grid of the piece. -/
  | constructed (alwaysPlain : Bool)
      (h : construct? c.action c.arguments = some (.ok (p.grid, alwaysPlain)))
  /-- The command makes the piece of another one, or changes that. -/
  | performed (i : Nat) (old : Piece) (effect : Effect)
      (htarget : c.target.bind w.find? = some (i, old))
      (h : perform context w old c.action c.arguments = .ok effect) (hleaves : effect.Leaves p)

private theorem act_piece_cases {c : Command} {i : Nat} {old p : Piece}
    (htarget : c.target.bind w.find? = some (i, old))
    (hp : p ∈ (act context w i old c).2.pieces) : p ∈ w.pieces ∨ Arises context w c p := by
  unfold act at hp
  split at hp
  · exact .inl hp
  · exact .inl hp
  · next made h =>
    rw [pieces_add, List.mem_append, List.mem_singleton] at hp
    refine hp.imp_right ?_
    rintro rfl
    exact .performed i old _ htarget h (.make p)
  · next changed r h =>
    rw [pieces_bind, pieces_replace] at hp
    refine (List.mem_or_eq_of_mem_set hp).imp_right ?_
    rintro rfl
    exact .performed i old _ htarget h (.change p r)
  · exact .inl hp

/-- **Where pieces come from.** Every piece after a command was there before it or comes out of
it. -/
theorem piece_cases {c : Command} {p : Piece} (hp : p ∈ (step context w c).2.pieces) :
    p ∈ w.pieces ∨ Arises context w c p := by
  unfold step at hp
  split at hp
  · exact .inl hp
  · next g alwaysPlain h =>
    rw [pieces_add, List.mem_append, List.mem_singleton] at hp
    refine hp.imp_right ?_
    rintro rfl
    refine .constructed alwaysPlain (h.trans ?_)
    split <;> rfl
  · split at hp
    · rw [pieces_nextEvent] at hp
      exact .inl hp
    · split at hp
      · exact .inl hp
      · next i old htarget => exact act_piece_cases htarget hp

/-! ## Many commands -/

/-- The workspace after some commands, each with random words of its own. -/
def after (context : Context) (w : Workspace) : List Command → Workspace
  | [] => w
  | c :: rest => after context.later (step context w c).2 rest

theorem after_cons (context : Context) (w : Workspace) (c : Command) (rest : List Command) :
    after context w (c :: rest) = after context.later (step context w c).2 rest := rfl

/-- The workspaces that allowed commands lead to, whether they are turned down or not, and whatever
words their fills start from. -/
inductive Reachable (settings : Settings) (fills : FillRegistry) (Allowed : Command → Prop) :
    Workspace → Prop where
  /-- At first there is no piece. -/
  | empty : Reachable settings fills Allowed .empty
  /-- Every command may follow. -/
  | step {w : Workspace} {c : Command} (entropy : Nat → List UInt32)
      (h : Reachable settings fills Allowed w) (hc : Allowed c) :
      Reachable settings fills Allowed (step ⟨settings, fills, entropy⟩ w c).2

theorem Reachable.after {Allowed : Command → Prop}
    (h : Reachable context.settings context.fills Allowed w) {commands : List Command}
    (hall : ∀ c ∈ commands, Allowed c) :
    Reachable context.settings context.fills Allowed (after context w commands) := by
  induction commands generalizing context w with
  | nil => exact h
  | cons c rest ih =>
    have hstep := h.step context.entropy (hall c List.mem_cons_self)
    exact @ih context.later _ hstep fun d hd ↦ hall d (List.mem_cons_of_mem _ hd)

/-- **Invariants.** What holds of every piece that comes out of an allowed command, if it holds of
the pieces before, holds of all pieces that can be reached. -/
theorem Reachable.invariant {settings : Settings} {fills : FillRegistry}
    {Allowed : Command → Prop} {Holds : Piece → Prop}
    (hkept : ∀ entropy w c p, (∀ q ∈ w.pieces, Holds q) → Allowed c →
      Arises ⟨settings, fills, entropy⟩ w c p → Holds p)
    (h : Reachable settings fills Allowed w) : ∀ p ∈ w.pieces, Holds p := by
  induction h with
  | empty => exact fun p hp ↦ absurd hp List.not_mem_nil
  | step entropy h hc ih =>
    intro p hp
    exact (piece_cases hp).elim (ih p) (hkept entropy _ _ p ih hc)

end TextArt.Script
