import TextArt.Proofs.Grid.Stamping
import TextArt.Proofs.Script.Step

/-!
# Stamping a piece onto a piece

A stamp changes one piece of the workspace, cell by cell: a cell under the source gets the source's
character, or the one that is given instead, unless the source is blank there and the stamp is
transparent. Everything else stays, the source included. A piece may be stamped onto itself; what is
stamped is then the piece as it was before.
-/

namespace TextArt.Script

variable {context : Context} {w : Workspace} {c : Command} {i j : Nat} {p q : Piece}
  {row col : Int} {char : Option Cell} {transparent : Bool}

/-- The command stamps the piece `q`, the `j`-th one, onto the piece `p`, the `i`-th one, with whole
numbers for its place. -/
structure Stamps (w : Workspace) (c : Command) (i j : Nat) (p q : Piece) (row col : Int)
    (char : Option Cell) (transparent : Bool) : Prop where
  /-- Both actions do the same. -/
  action : c.action = "overlay" ∨ c.action = "place_at"
  /-- What is stamped on. -/
  target : c.target.bind w.find? = some (i, p)
  /-- What is stamped. -/
  source : pieceOf w c.arguments "source" = .ok (j, q)
  /-- No argument is missing, and there is no other one. -/
  accepted : c.arguments.accept ["source"] ["row", "col", "char", "transparent"] = .ok ()
  /-- The row of the first cell of the source. -/
  row : c.arguments.argument "row" (.int 0) = .int row
  /-- Its column. -/
  col : c.arguments.argument "col" (.int 0) = .int col
  /-- The character instead of those of the source. -/
  char : c.arguments.argument "char" .null = .ofText? (char.map Text.singleton)
  /-- Whether blanks of the source are left out. -/
  transparent : c.arguments.argument "transparent" (.bool true) = .bool transparent

private theorem perform_stamp {action : String} (haction : action = "overlay" ∨ action = "place_at")
    (arguments : Fields) :
    perform context w p action arguments = (do
      let (_, source) ← pieceOf w arguments "source"
      let g ← lift do
        arguments.accept ["source"] ["row", "col", "char", "transparent"]
        p.grid.requestOverlay source.grid (arguments.argument "row" (.int 0))
          (arguments.argument "col" (.int 0)) (arguments.argument "char" .null)
          (arguments.argument "transparent" (.bool true))
      .ok (.change (p.withGrid g) .itself)) := by
  rcases haction with rfl | rfl <;> rfl

private theorem step_of_stamps (h : Stamps w c i j p q row col char transparent) :
    step context w c = (.ok .itself,
      (w.replace i (p.withGrid (p.grid.overlay q.grid row col char transparent))).bind c.name
        i) := by
  have hconstruct : construct? c.action c.arguments = none := by
    rcases h.action with haction | haction <;> rw [haction] <;> rfl
  have hnext : c.action ≠ "stream_next" := by
    rcases h.action with haction | haction <;> rw [haction] <;> decide
  have hperform : perform context w p c.action c.arguments =
      .ok (.change (p.withGrid (p.grid.overlay q.grid row col char transparent)) .itself) := by
    rw [perform_stamp h.action, h.source, h.accepted, h.row, h.col, h.char, h.transparent,
      ok_bind]
    dsimp only
    rw [ok_bind, Grid.requestOverlay_int]
    rfl
  rw [step_of_target hconstruct hnext h.target, act, hperform]

/-- **Stamping cell by cell.** A stamp at any whole-numbered place answers with its target, which
keeps its size and gets just the cells of the source that lie on it and show. All other pieces stay
as they are, the source among them if it is another one. -/
theorem step_cellUnder (context : Context) (h : Stamps w c i j p q row col char transparent) :
    ∃ changed : Grid,
      (step context w c).1 = .ok .itself ∧
      (step context w c).2.pieces[i]? = some (p.withGrid changed) ∧
      (changed.width = p.grid.width ∧ changed.height = p.grid.height) ∧
      (∀ r k, r < p.grid.height → k < p.grid.width → changed.cellAt r k =
        Grid.cellUnder q.grid row col char transparent (p.grid.cellAt r k) r k) ∧
      (∀ n, n ≠ i → (step context w c).2.pieces[n]? = w.pieces[n]?) ∧
      (j ≠ i → (step context w c).2.pieces[j]? = some q) := by
  obtain ⟨name, -, hsource⟩ := pieceOf_eq_ok.1 h.source
  have hq : w.pieces[j]? = some q := (w.find?_eq_some.1 hsource).2
  let changed := p.grid.overlay q.grid row col char transparent
  have hpieces : (step context w c).2.pieces = w.pieces.set i (p.withGrid changed) := by
    rw [step_of_stamps h, Workspace.pieces_bind, Workspace.pieces_replace]
  have hothers : ∀ n, n ≠ i → (step context w c).2.pieces[n]? = w.pieces[n]? := by
    intro n hn
    rw [hpieces, List.getElem?_set_ne (Ne.symm hn)]
  refine ⟨changed, ?_, ?_, ⟨Grid.width_overlay _ _ _ _ _ _, Grid.height_overlay _ _ _ _ _ _⟩,
    fun r k hr hk ↦ ?_, hothers, fun hj ↦ ?_⟩
  · rw [step_of_stamps h]
  · rw [hpieces, getElem?_set_of_getElem? (getElem?_of_target h.target)]
  · exact Grid.cellAt_overlay_eq_cellUnder _ _ _ _ _ _ hr hk
  · rw [hothers j hj, hq]

/-- A grid that is stamped onto itself, one row down and one column to the left. -/
def stampOnItself : Command :=
  ⟨"overlay", some "g", none, false,
    [("source", .str "g"), ("row", .int 1), ("col", .int (-1)), ("transparent", .bool false)]⟩

/-- The workspace with one grid of six letters. -/
def lettersWorkspace : Workspace :=
  after .standard .empty
    [⟨"from_string", none, some "g", false, [("content", .str "ab\ncd\nef")]⟩]

theorem letters_stampOnItself :
    (step .standard lettersWorkspace stampOnItself).2.pieces.map (·.grid.lines) =
        [[("ab" : Text), "bd", "df"]] ∧
      ∃ p, Stamps lettersWorkspace stampOnItself 0 0 p p 1 (-1) none false ∧
      ∃ changed : Grid,
        (step .standard lettersWorkspace stampOnItself).2.pieces[0]? =
          some (p.withGrid changed) ∧
        ∀ r k, r < p.grid.height → k < p.grid.width → changed.cellAt r k =
          Grid.cellUnder p.grid 1 (-1) none false (p.grid.cellAt r k) r k := by
  obtain ⟨p, hp⟩ : ∃ p, lettersWorkspace.find? "g" = some (0, p) := ⟨_, rfl⟩
  have hstamps : Stamps lettersWorkspace stampOnItself 0 0 p p 1 (-1) none false :=
    ⟨.inl rfl, hp, pieceOf_eq_ok.2 ⟨"g", rfl, hp⟩, rfl, rfl, rfl, rfl, rfl⟩
  obtain ⟨changed, -, hchanged, -, hcells, -⟩ := step_cellUnder .standard hstamps
  exact ⟨by decide, p, hstamps, changed, hchanged, hcells⟩

end TextArt.Script
