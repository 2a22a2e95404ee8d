import TextArt.Grid.Transform
import TextArt.Proofs.Grid.Stamping

/-!
# Stamps under transforms

A stamp and a transform may change places: to turn, mirror or double a stamped grid is to stamp the
transformed source onto the transformed target, at a place of its own. Halving is left out, since
the rows and columns that it drops are those of the target and not those of the source.

Both sides are compared through `Grid.cell?`, at any place inside or outside. A place of a
transformed grid shows one place of the old grid (`Transform.shown`), and a place outside shows one
outside, so nothing has to be said about the part of the source that is cut off. What is left is
that the shown places of source and target are as far apart as the stamp says
(`apply_overlay_of_shown`).
-/

namespace TextArt

/-- The place of the old grid that a place of the transformed grid shows. -/
def Transform.shown (t : Transform) (g : Grid) (row col : Int) : Int × Int :=
  match t with
  | .rotate .quarter => (g.height - 1 - col, row)
  | .rotate .half => (g.height - 1 - row, g.width - 1 - col)
  | .rotate .threeQuarters => (col, g.width - 1 - row)
  | .mirror .horizontal => (row, g.width - 1 - col)
  | .mirror .vertical => (g.height - 1 - row, col)
  | .scale .half => (2 * row, 2 * col)
  | .scale .double => (row / 2, col / 2)

/-- The numbers of columns and rows of the transformed grid. -/
def Transform.size (t : Transform) (width height : Nat) : Nat × Nat :=
  match t with
  | .rotate .half | .mirror _ => (width, height)
  | .rotate .quarter | .rotate .threeQuarters => (height, width)
  | .scale .half => ((width + 1) / 2, (height + 1) / 2)
  | .scale .double => (2 * width, 2 * height)

namespace Grid

/-! ## Transforms place by place -/

/-- A grid whose cells are made by a function shows another grid, each place one place of it, if
places inside show places inside. -/
theorem cell?_build_eq {g : Grid} {w h : Nat} {hw : 0 < w} {hh : 0 < h} {f : Nat → Nat → Cell}
    {row col up left : Int}
    (hinside : (0 ≤ row ∧ row < h ∧ 0 ≤ col ∧ col < w) ↔
      (0 ≤ up ∧ up < g.height ∧ 0 ≤ left ∧ left < g.width))
    (hcell : 0 ≤ row → 0 ≤ col → f row.toNat col.toNat = g.cellAt up.toNat left.toNat) :
    (build w h hw hh f).cell? row col = g.cell? up left := by
  by_cases h : 0 ≤ row ∧ row < h ∧ 0 ≤ col ∧ col < w
  · rw [cell?_of_inside _ h, cell?_of_inside g (hinside.1 h), cellAt_build (by omega) (by omega),
      hcell h.1 h.2.2.1]
  · rw [cell?_of_outside _ h, cell?_of_outside g (mt hinside.2 h)]

private theorem size_apply (g : Grid) (t : Transform) :
    ((g.apply t).width, (g.apply t).height) = t.size g.width g.height := by
  cases t with
  | rotate turn => cases turn <;> rfl
  | mirror axis => cases axis <;> rfl
  | scale size => cases size <;> rfl

/-- **Transforms place by place.** Every place of a transformed grid, inside or outside, shows a
place of the old grid. -/
theorem cell?_apply (g : Grid) (t : Transform) (row col : Int) :
    (g.apply t).cell? row col = g.cell? (t.shown g row col).1 (t.shown g row col).2 := by
  unfold Transform.shown
  -- the places of all seven transforms are linear in row and column
  rcases t with (_ | _ | _) | (_ | _) | (_ | _) <;>
    exact cell?_build_eq (by dsimp only; omega) fun _ _ ↦ by congr 1 <;> dsimp only <;> omega

/-! ## Stamps -/

/-- A stamp and a transform change places if the places that they show are as far apart as the stamp
says. -/
theorem apply_overlay_of_shown {t : Transform} {target source : Grid} {row col row' col' : Int}
    (hshown : ∀ i j, t.shown source (i - row') (j - col') =
      ((t.shown target i j).1 - row, (t.shown target i j).2 - col))
    (char : Option Cell) (transparent : Bool) :
    (target.overlay source row col char transparent).apply t =
      (target.apply t).overlay (source.apply t) row' col' char transparent := by
  have hsize := size_apply (target.overlay source row col char transparent) t
  rw [width_overlay, height_overlay, ← size_apply target t, Prod.mk.injEq] at hsize
  refine ext_cell? (hsize.1.trans (width_overlay _ _ _ _ _ _).symm)
    (hsize.2.trans (height_overlay _ _ _ _ _ _).symm) fun i j ↦ ?_
  have hsame : t.shown (target.overlay source row col char transparent) i j =
      t.shown target i j := by
    unfold Transform.shown
    rw [width_overlay, height_overlay]
  rw [cell?_apply, cell?_overlay, hsame, cell?_overlay, cell?_apply, cell?_apply, hshown]

/-- A stamp at one place, transformed, is the stamp of the transformed source onto the transformed
target at another place, whether blanks are stamped or not and whatever character is stamped. What
is no character is reported by both. -/
def StampMoves (t : Transform) (target source : Grid) (row col row' col' : Int) : Prop :=
  ∀ char transparent : Value,
    match optionalCell char with
    | .ok _ => ∃ result : Grid,
      target.requestOverlay source (.int row) (.int col) char transparent = .ok result ∧
      (target.apply t).requestOverlay (source.apply t) (.int row') (.int col') char transparent =
        .ok (result.apply t)
    | .error cause =>
      target.requestOverlay source (.int row) (.int col) char transparent = .error cause ∧
      (target.apply t).requestOverlay (source.apply t) (.int row') (.int col') char transparent =
        .error cause

private theorem stampMoves_of_shown {t : Transform} {target source : Grid} {row col row' col' : Int}
    (hshown : ∀ i j, t.shown source (i - row') (j - col') =
      ((t.shown target i j).1 - row, (t.shown target i j).2 - col)) :
    StampMoves t target source row col row' col' := by
  intro char transparent
  rw [requestOverlay_whole, requestOverlay_whole]
  cases optionalCell char with
  | error cause => exact ⟨rfl, rfl⟩
  | ok cell =>
    exact ⟨_, rfl, congrArg Except.ok (apply_overlay_of_shown hshown cell transparent.truthy).symm⟩

/-- **Stamps are equivariant.** A stamp at any whole-numbered place may be turned, mirrored or
doubled before or after it is made. The place moves with the corner of the source that becomes its
first cell, and a doubled stamp lies twice as far away. -/
theorem overlay_equivariant (target source : Grid) (row col : Int) :
    StampMoves (.mirror .horizontal) target source row col
        row (target.width - col - source.width) ∧
      StampMoves (.mirror .vertical) target source row col
        (target.height - row - source.height) col ∧
      StampMoves (.rotate .quarter) target source row col
        col (target.height - row - source.height) ∧
      StampMoves (.rotate .half) target source row col
        (target.height - row - source.height) (target.width - col - source.width) ∧
      StampMoves (.rotate .threeQuarters) target source row col
        (target.width - col - source.width) row ∧
      StampMoves (.scale .double) target source row col (2 * row) (2 * col) := by
  refine ⟨?_, ?_, ?_, ?_, ?_, ?_⟩ <;>
    · refine stampMoves_of_shown fun i j ↦ Prod.ext ?_ ?_ <;> simp only [Transform.shown] <;> omega

end Grid

end TextArt
