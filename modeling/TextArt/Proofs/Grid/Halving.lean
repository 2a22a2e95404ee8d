import TextArt.Proofs.Grid.Equivariance
import TextArt.Proofs.Grid.Join
import TextArt.Proofs.Grid.Symmetry

/-!
# Halving

Halving keeps of every pair of rows and of every pair of columns the first one. A turn or a
reflection that meets the rows from the last one up makes pairs of them from the other end. Of an
odd number the same rows are kept from either end. Of an even number the pairs are the same from
either end, and the other member of each is kept. So halving before and after a turn or a reflection
comes to the same unless a direction of even size is met from its end (`Transform.shown_halved`).
-/

namespace TextArt

/-- How far behind the first row and the first column of a pair a halved grid looks, if it was
turned or mirrored before it was halved. -/
def Transform.slip (t : Transform) (g : Grid) : Int × Int :=
  (if t.symmetry.flipsRows then (g.height + 1) % 2 else 0,
    if t.symmetry.flipsCols then (g.width + 1) % 2 else 0)

private theorem double_from_end (size : Nat) (k : Int) :
    (size : Int) - 1 - 2 * k = 2 * (((size + 1) / 2 : Nat) - 1 - k) + (size + 1) % 2 := by
  omega

/-- The place that a turn or a reflection shows at the first member of a pair, told by the place
that it shows of the halved grid. -/
theorem Transform.shown_halved {t : Transform} (ht : ∀ size, t ≠ .scale size) (g : Grid)
    (row col : Int) :
    t.shown g (2 * row) (2 * col) =
      (2 * (t.shown (g.scale .half) row col).1 + (t.slip g).1,
        2 * (t.shown (g.scale .half) row col).2 + (t.slip g).2) := by
  have hfirst : ∀ k : Int, 2 * k = 2 * k + 0 := fun k ↦ (Int.add_zero _).symm
  cases t with
  | rotate turn =>
    cases turn with
    | quarter => exact Prod.ext (double_from_end g.height col) (hfirst row)
    | half => exact Prod.ext (double_from_end g.height row) (double_from_end g.width col)
    | threeQuarters => exact Prod.ext (hfirst col) (double_from_end g.width row)
  | mirror axis =>
    cases axis with
    | horizontal => exact Prod.ext (hfirst row) (double_from_end g.width col)
    | vertical => exact Prod.ext (double_from_end g.height row) (hfirst col)
  | scale size => exact absurd rfl (ht size)

private theorem Transform.slip_eq_zero {t : Transform} {g : Grid} (hw : g.width % 2 = 1)
    (hh : g.height % 2 = 1) : t.slip g = (0, 0) := by
  have hwidth : ((g.width : Int) + 1) % 2 = 0 := by omega
  have hheight : ((g.height : Int) + 1) % 2 = 0 := by omega
  rw [slip, hwidth, hheight, ite_self, ite_self]

namespace Grid

variable (g : Grid)

theorem cell?_scale_half (row col : Int) :
    (g.scale .half).cell? row col = g.cell? (2 * row) (2 * col) :=
  cell?_apply g (.scale .half) row col

private theorem cell?_scale_double (row col : Int) :
    (g.scale .double).cell? row col = g.cell? (row / 2) (col / 2) :=
  cell?_apply g (.scale .double) row col

theorem cell?_scale_half_apply {t : Transform} (ht : ∀ size, t ≠ .scale size) (row col : Int) :
    ((g.apply t).scale .half).cell? row col =
      g.cell? (2 * (t.shown (g.scale .half) row col).1 + (t.slip g).1)
        (2 * (t.shown (g.scale .half) row col).2 + (t.slip g).2) := by
  rw [cell?_scale_half, cell?_apply, Transform.shown_halved ht]

theorem cell?_apply_scale_half (t : Transform) (row col : Int) :
    ((g.scale .half).apply t).cell? row col =
      g.cell? (2 * (t.shown (g.scale .half) row col).1)
        (2 * (t.shown (g.scale .half) row col).2) := by
  rw [cell?_apply, cell?_scale_half]

private theorem size_scale_half_apply {t : Transform} (ht : ∀ size, t ≠ .scale size) :
    ((g.apply t).scale .half).width = ((g.scale .half).apply t).width ∧
      ((g.apply t).scale .half).height = ((g.scale .half).apply t).height := by
  cases t with
  | rotate turn => cases turn <;> exact ⟨rfl, rfl⟩
  | mirror axis => cases axis <;> exact ⟨rfl, rfl⟩
  | scale size => exact absurd rfl (ht size)

private theorem scale_half_apply {t : Transform} (ht : ∀ size, t ≠ .scale size)
    (hw : g.width % 2 = 1)
    (hh : g.height % 2 = 1) : (g.apply t).scale .half = (g.scale .half).apply t := by
  obtain ⟨hwidth, hheight⟩ := g.size_scale_half_apply ht
  refine ext_cell? hwidth hheight fun row col ↦ ?_
  rw [cell?_scale_half_apply g ht, cell?_apply_scale_half, Transform.slip_eq_zero hw hh,
    Int.add_zero, Int.add_zero]

/-- **Halving and doubling.** A halved grid shows every second row and column, and doubled again it
shows each of them twice. Halving commutes with all turns and reflections if both sizes are odd. In
general a grid that is turned or mirrored and then halved shows the same pairs of rows and columns
as one that is halved first, but the second member of each pair in a direction of even size that is
met from its end; so a grid that is mirrored and halved shows every second row or column from the
last one on. -/
theorem halving_and_doubling :
    ((g.scale .half).width = (g.width + 1) / 2 ∧ (g.scale .half).height = (g.height + 1) / 2 ∧
      ∀ i j : Int, (g.scale .half).cell? i j = g.cell? (2 * i) (2 * j)) ∧
    (∀ i j : Int, ((g.scale .half).scale .double).cell? i j =
      g.cell? (2 * (i / 2)) (2 * (j / 2))) ∧
    (g.width % 2 = 1 → g.height % 2 = 1 → ∀ t : Transform, (∀ size, t ≠ .scale size) →
      (g.apply t).scale .half = (g.scale .half).apply t) ∧
    (∀ t : Transform, (∀ size, t ≠ .scale size) → ∀ i j : Int,
      let pair := t.shown (g.scale .half) i j
      ((g.scale .half).apply t).cell? i j = g.cell? (2 * pair.1) (2 * pair.2) ∧
      ((g.apply t).scale .half).cell? i j =
        g.cell? (2 * pair.1 + (t.slip g).1) (2 * pair.2 + (t.slip g).2)) ∧
    (∀ i j : Int, ((g.mirror .horizontal).scale .half).cell? i j =
      g.cell? (2 * i) (g.width - 1 - 2 * j)) ∧
    ∀ i j : Int, ((g.mirror .vertical).scale .half).cell? i j =
      g.cell? (g.height - 1 - 2 * i) (2 * j) := by
  refine ⟨⟨rfl, rfl, g.cell?_scale_half⟩, fun i j ↦ ?_, fun hw hh t ht ↦
    g.scale_half_apply ht hw hh, fun t ht i j ↦ ⟨g.cell?_apply_scale_half t i j,
    g.cell?_scale_half_apply ht i j⟩, fun i j ↦ ?_, fun i j ↦ ?_⟩
  · rw [cell?_scale_double, cell?_scale_half]
  · rw [cell?_scale_half]
    exact cell?_apply g (.mirror .horizontal) _ _
  · rw [cell?_scale_half]
    exact cell?_apply g (.mirror .vertical) _ _

/-- The outer two of three letters stand in a column, whether they are picked before or after the
turn; of two cells, mirroring first picks the one that would have been left out. -/
theorem letters_halving :
    (letters.width % 2 = 1 ∧ letters.height % 2 = 1 ∧
      ∀ size, Transform.rotate .quarter ≠ .scale size) ∧
    (letters.rotate .quarter).scale .half = (letters.scale .half).rotate .quarter ∧
    ((rowOfTwo.scale .half).mirror .horizontal).cell? 0 0 = some 'a' ∧
    ((rowOfTwo.mirror .horizontal).scale .half).cell? 0 0 = some ' ' := by
  have hodd : letters.width % 2 = 1 ∧ letters.height % 2 = 1 := by decide
  have hquarter : ∀ size, Transform.rotate .quarter ≠ .scale size := fun _ h ↦ by cases h
  have hmirror : ∀ size, Transform.mirror .horizontal ≠ .scale size := fun _ h ↦ by cases h
  obtain ⟨-, -, hcommutes, -⟩ := halving_and_doubling letters
  obtain ⟨-, -, -, hpairs, -⟩ := halving_and_doubling rowOfTwo
  obtain ⟨hbefore, hafter⟩ := hpairs (.mirror .horizontal) hmirror 0 0
  exact ⟨⟨hodd.1, hodd.2, hquarter⟩, hcommutes hodd.1 hodd.2 _ hquarter,
    hbefore.trans (by decide), hafter.trans (by decide)⟩

end Grid

end TextArt
