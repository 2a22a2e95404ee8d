import TextArt.Proofs.Script.Settling
import TextArt.Proofs.Script.Step

/-!
# All or nothing

A command that fails leaves everything as it was. Its arguments are accepted first, and then its
operation settles (`TextArt.Proofs.Script.Settling`), so what it does step by step is what `perform`
says it comes to (`command_allOrNothing`). `carryOut_atomic` says what that means for the workspace.
-/

namespace TextArt.Script

namespace Work

variable {α β : Type} {p q : Piece}

/-! ## Commands -/

/-- What some steps do to a piece is what a command comes to: all of it, or nothing. -/
def AllOrNothing (m : Work Result) (p : Piece) (o : Except Trouble Effect) : Prop :=
  (∃ t, o = .error t ∧ m.run p = .error t p) ∨ ∃ q r, o = .ok (.change q r) ∧ m.run p = .ok r q

theorem allOrNothing_answer {γ : Type} {accepted : Outcome Unit} {m : Work α} {o : Outcome γ}
    {f : γ → Piece} {a : γ → α} (h : m.run p = settle p (o.map fun c ↦ (f c, a c)))
    (k : α → Result) :
    AllOrNothing (demand accepted >>= fun _ ↦ m >>= fun x ↦ pure (k x)) p
      ((lift (accepted >>= fun _ ↦ o)).map fun c ↦ .change (f c) (k (a c))) := by
  have hsettle : (demand accepted >>= fun _ ↦ m >>= fun x ↦ pure (k x)).run p =
      settle p ((accepted >>= fun _ ↦ o).map fun c ↦ (f c, k (a c))) := by
    rw [map_bind_eq]
    exact demand_bind_eq fun _ _ ↦ answer_eq h k
  generalize accepted >>= (fun _ ↦ o) = outcome at hsettle ⊢
  cases outcome with
  | ok c => exact .inr ⟨_, _, rfl, hsettle⟩
  | error cause => exact .inl ⟨_, rfl, hsettle⟩

theorem map_lift_map {γ : Type} (o : Outcome α) (f : α → β) (g : β → γ) :
    (lift (o.map f)).map g = (lift o).map fun a ↦ g (f a) := by
  cases o <;> rfl

theorem allOrNothing_write {accepted : Outcome Unit} {m : Work Unit} {o : Outcome Grid}
    (h : m.run p = settle p (regrid p o)) (r : Result) :
    AllOrNothing (demand accepted >>= fun _ ↦ m >>= fun _ ↦ pure r) p
      ((lift ((accepted >>= fun _ ↦ o).map fun g ↦ (g, r))).map fun q ↦
        .change (p.withGrid q.1) q.2) := by
  rw [map_lift_map]
  exact allOrNothing_answer h fun _ ↦ r

theorem source_run {w : Workspace} {i j : Nat} (hp : w.pieces[i]? = some p)
    (hq : w.pieces[j]? = some q) : (source i j q).run p = .ok q.grid p := by
  rw [source]
  split
  · next hij =>
    subst hij
    obtain rfl := Option.some.inj (hp.symm.trans hq)
    rfl
  · rfl

theorem getElem?_of_pieceOf {w : Workspace} {arguments : Fields} {key : Text} {j : Nat}
    (h : pieceOf w arguments key = .ok (j, q)) : w.pieces[j]? = some q := by
  obtain ⟨name, -, hfind⟩ := pieceOf_eq_ok.1 h
  exact (w.find?_eq_some.1 hfind).2

section Commands

variable {w : Workspace} {i : Nat} (context : Context) (arguments : Fields)

private theorem stamp_allOrNothing (hp : w.pieces[i]? = some p) :
    AllOrNothing (stamp w i arguments) p (do
      let (_, source) ← pieceOf w arguments "source"
      let g ← lift do
        arguments.accept ["source"] ["row", "col", "char", "transparent"]
        p.grid.requestOverlay source.grid (arguments.argument "row" (.int 0))
          (arguments.argument "col" (.int 0)) (arguments.argument "char" .null)
          (arguments.argument "transparent" (.bool true))
      .ok (.change (p.withGrid g) .itself)) := by
  cases hsource : pieceOf w arguments "source" with
  | error t =>
    refine .inl ⟨t, rfl, ?_⟩
    rw [stamp, hsource]
    rfl
  | ok found =>
    obtain ⟨j, q⟩ := found
    have hread := source_run hp (getElem?_of_pieceOf hsource)
    have hstamp : stamp w i arguments =
        demand (arguments.accept ["source"] ["row", "col", "char", "transparent"]) >>= fun _ ↦
          overlay (source i j q) (arguments.argument "row" (.int 0))
            (arguments.argument "col" (.int 0)) (arguments.argument "char" .null)
            (arguments.argument "transparent" (.bool true)) >>= fun _ ↦ pure .itself := by
      rw [stamp, hsource]
      rfl
    rw [hstamp, ok_bind]
    dsimp only
    rw [← map_eq_bind]
    exact allOrNothing_answer (overlay_eq hread _ _ _ _) fun _ ↦ .itself

private theorem place_allOrNothing {c : Composite Nat} (hp : w.pieces[i]? = some (.composite c)) :
    AllOrNothing (place w i arguments) (.composite c) (do
      let (j, shape) ← pieceOf w arguments "shape"
      let c ← lift do
        arguments.accept ["shape"] ["anchor", "offset_row", "offset_col", "char"]
        c.requestShape j shape.grid (arguments.argument "anchor" (.str "center"))
          (arguments.argument "offset_row" (.int 0)) (arguments.argument "offset_col" (.int 0))
          (arguments.argument "char" .null)
      .ok (.change (.composite c) .itself)) := by
  have hplace : (place w i arguments).run (.composite c) = (do
      let (j, q) ← ask (pieceOf w arguments "shape")
      demand (arguments.accept ["shape"] ["anchor", "offset_row", "offset_col", "char"])
      addShape j (source i j q) (arguments.argument "anchor" (.str "center"))
        (arguments.argument "offset_row" (.int 0)) (arguments.argument "offset_col" (.int 0))
        (arguments.argument "char" .null)
      return .itself : Work Result).run (.composite c) := rfl
  unfold AllOrNothing
  rw [hplace]
  cases hshape : pieceOf w arguments "shape" with
  | error t => exact .inl ⟨t, rfl, rfl⟩
  | ok found =>
    obtain ⟨j, q⟩ := found
    have hread := source_run hp (getElem?_of_pieceOf hshape)
    rw [ok_bind]
    dsimp only
    rw [← map_eq_bind]
    exact allOrNothing_answer (addShape_eq hread j _ _ _ _) fun _ ↦ .itself

private theorem paintBlanks_allOrNothing :
    AllOrNothing (command context w i "paint_blanks" arguments) p
      (perform context w p "paint_blanks" arguments) := by
  have hperform : perform context w p "paint_blanks" arguments =
      (lift ((arguments.accept ["values"] ["mask"] >>= fun _ ↦
        p.grid.requestPaint (arguments.argument "values" .null)
          (arguments.argument "mask" .null)).map fun r ↦
          (r.1, Result.value (.int r.2)))).map fun q ↦ .change (p.withGrid q.1) q.2 := by
    simp only [map_bind_eq]
    simp only [map_eq_bind]
    rfl
  rw [hperform, map_lift_map]
  exact allOrNothing_answer (paintBlanks_eq _ _ p) fun n ↦ .value (.int n)

private theorem fill_allOrNothing :
    AllOrNothing (command context w i "fill" arguments) p
      (perform context w p "fill" arguments) := by
  have hperform : perform context w p "fill" arguments =
      (lift ((arguments.accept ["name"] ["params"] >>= fun _ ↦
        (arguments.argument "params" (.object [])).arguments >>= fun params ↦
          context.fills.apply (context.fillSettings 0) (arguments.argument "name" .null) p.grid
            params).map fun g ↦ (g, Result.itself))).map fun q ↦
        .change (p.withGrid q.1) q.2 := by
    simp only [map_bind_eq]
    simp only [map_eq_bind]
    rfl
  rw [hperform]
  exact allOrNothing_write (fill_eq context _ _ p) .itself

/-- **Commands.** Whatever a command finds fault with, it finds before it writes. -/
theorem command_allOrNothing {action : String} (haction : action ∈ writingActions)
    (hp : w.pieces[i]? = some p) :
    AllOrNothing (command context w i action arguments) p
      (perform context w p action arguments) := by
  have hcases : action = "set" ∨ action = "set_row" ∨ action = "paint_blanks" ∨
      action = "draw_line" ∨ action = "overlay" ∨ action = "place_at" ∨ action = "add_shape" ∨
      action = "fill" := by
    simpa [writingActions] using haction
  rcases hcases with rfl | rfl | rfl | rfl | rfl | rfl | rfl | rfl
  · exact allOrNothing_write (set_eq _ _ _ p) (.value .null)
  · exact allOrNothing_write (setRow_eq _ _ p) (.value .null)
  · exact paintBlanks_allOrNothing context arguments
  · exact allOrNothing_write (drawLine_eq _ _ _ p) (.value .null)
  · exact stamp_allOrNothing arguments hp
  · exact stamp_allOrNothing arguments hp
  · cases p with
    | plain g => exact .inl ⟨_, rfl, rfl⟩
    | composite c => exact place_allOrNothing arguments hp
  · exact fill_allOrNothing context arguments

end Commands

end Work

variable {context : Context} {w : Workspace} {c : Command}

private theorem construct?_of_writing (h : c.action ∈ writingActions) :
    construct? c.action c.arguments = none ∧ c.action ≠ "stream_next" := by
  generalize c.action = action at h
  simp only [writingActions, List.mem_cons, List.not_mem_nil, or_false] at h
  rcases h with rfl | rfl | rfl | rfl | rfl | rfl | rfl | rfl <;> exact ⟨rfl, by decide⟩

theorem replace_self {i : Nat} {p : Piece} (h : w.pieces[i]? = some p) : w.replace i p = w := by
  obtain ⟨hi, rfl⟩ := List.getElem?_eq_some_iff.1 h
  rw [Workspace.replace, List.set_getElem_self]

private theorem carryOut_eq_step (haction : c.action ∈ writingActions) :
    carryOut context w c = step context w c := by
  obtain ⟨hconstruct, hnext⟩ := construct?_of_writing haction
  cases htarget : c.target.bind w.find? with
  | none =>
    rw [carryOut, htarget, step, hconstruct]
    dsimp only
    rw [if_neg hnext, htarget]
  | some found =>
    obtain ⟨i, p⟩ := found
    have hp := getElem?_of_target htarget
    rw [step_of_target hconstruct hnext htarget, act, carryOut, htarget]
    dsimp only
    rcases Work.command_allOrNothing context c.arguments haction hp with
      ⟨t, hperform, hrun⟩ | ⟨q, r, hperform, hrun⟩
    · rw [hrun, hperform]
      dsimp only
      rw [replace_self hp]
    · rw [hrun, hperform]

/-- **Atomicity.** If a command that writes fails, for whatever reason and however far it has come,
its piece is as it was, with its old size, its old cells and its old log, and so is the whole
workspace. Taken step by step it is the command that `step` carries out at once. -/
theorem carryOut_atomic (context : Context) (w : Workspace) {c : Command}
    (haction : c.action ∈ writingActions) :
    (∀ i p t q, w.pieces[i]? = some p →
      (Work.command context w i c.action c.arguments).run p = .error t q → q = p) ∧
    (∀ t, (carryOut context w c).1 = .error t → (carryOut context w c).2 = w) ∧
    carryOut context w c = step context w c := by
  have hpiece : ∀ i p t q, w.pieces[i]? = some p →
      (Work.command context w i c.action c.arguments).run p = .error t q → q = p := by
    intro i p t q hp hrun
    rcases Work.command_allOrNothing context c.arguments haction hp with
      ⟨t', -, hrun'⟩ | ⟨q', r, -, hrun'⟩
    · obtain ⟨rfl, rfl⟩ := EStateM.Result.error.inj (hrun.symm.trans hrun')
      rfl
    · cases hrun.symm.trans hrun'
  refine ⟨hpiece, fun t ht ↦ ?_, carryOut_eq_step haction⟩
  unfold carryOut at ht ⊢
  cases htarget : c.target.bind w.find? with
  | none => rfl
  | some found =>
    obtain ⟨i, p⟩ := found
    have hp := getElem?_of_target htarget
    rw [htarget] at ht
    dsimp only at ht ⊢
    cases hrun : (Work.command context w i c.action c.arguments).run p with
    | ok r q =>
      rw [hrun] at ht
      cases ht
    | error t q =>
      obtain rfl := hpiece i p t q hp hrun
      exact replace_self hp

/-- A text that is no character, at the end of a row to be painted. -/
def paintBadly : Command :=
  ⟨"paint_blanks", some "g", none, false,
    [("values", .list [.list [.str "x", .str "yy"]])]⟩

/-- The workspace with a row of two blanks. -/
def blanksWorkspace : Workspace :=
  after .standard .empty
    [⟨"new", none, some "g", false, [("width", .int 2), ("height", .int 1)]⟩]

/-- The first blank is not painted either. -/
theorem blanks_paintBadly :
    paintBadly.action ∈ writingActions ∧
    (step .standard blanksWorkspace paintBadly).1 =
      .error (.failed (.badCharacter (.str "yy"))) ∧
    (step .standard blanksWorkspace paintBadly).2 = blanksWorkspace ∧
    blanksWorkspace.pieces.map (·.grid.lines) = [[("  " : Text)]] := by
  have haction : paintBadly.action ∈ writingActions := by decide
  obtain ⟨-, hkeeps, hstep⟩ := carryOut_atomic .standard blanksWorkspace haction
  rw [← hstep]
  have hfails : (carryOut .standard blanksWorkspace paintBadly).1 =
      .error (.failed (.badCharacter (.str "yy"))) := by
    rw [hstep]
    rfl
  exact ⟨haction, hfails, hkeeps _ hfails, by decide⟩

end TextArt.Script
