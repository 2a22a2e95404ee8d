import Mathlib.GroupTheory.SpecificGroups.Dihedral
import TextArt.Grid.Step
import TextArt.Proofs.Outcome

/-!
# Transforms as symmetries

Turns and reflections move the cells of a grid about as the symmetries of a square do, so a list of
them does what one of the eight symmetries does. Doubling a grid commutes with all of them: the
blocks that the cells have become move as the cells would have moved. A list of turns, reflections
and doublings is therefore described by two things, the product of its symmetries and the number of
its doublings.

`Grid.turned` is the action of a symmetry, given cell by cell and not through the transforms, and
`Grid.enlarged` repeated doubling. The main statements are that the first is an action
(`turned_mul`), that both commute (`turned_enlarged`) and what a list of steps comes to
(`applyAll_eq_enlarged`).
-/

namespace TextArt

/-- The symmetries of a square: `r n` is a clockwise turn by `n` quarters, and `sr n` exchanges left
and right and turns by `n` quarters after that. In a product the factor on the left comes first. -/
abbrev Symmetry := DihedralGroup 4

namespace Symmetry

/-- Whether rows become columns. -/
def swaps : Symmetry → Bool
  | .r n | .sr n => n == 1 || n == 3

/-- Whether the rows of the old grid are met from the last one up. -/
def flipsRows : Symmetry → Bool
  | .r n | .sr n => n == 1 || n == 2

/-- Whether the columns of the old grid are met from the last one on. -/
def flipsCols : Symmetry → Bool
  | .r n => n == 2 || n == 3
  | .sr n => n == 0 || n == 1

private theorem swaps_mul : ∀ p q : Symmetry, (p * q).swaps = (p.swaps ^^ q.swaps) := by
  decide

private theorem flipsRows_mul : ∀ p q : Symmetry,
    (p * q).flipsRows = (p.flipsRows ^^ if p.swaps then q.flipsCols else q.flipsRows) := by
  decide

private theorem flipsCols_mul : ∀ p q : Symmetry,
    (p * q).flipsCols = (p.flipsCols ^^ if p.swaps then q.flipsRows else q.flipsCols) := by
  decide

end Symmetry

/-- The symmetry of a step. Changes of size have none of their own. -/
def Transform.symmetry : Transform → Symmetry
  | .rotate .quarter => .r 1
  | .rotate .half => .r 2
  | .rotate .threeQuarters => .r 3
  | .mirror .horizontal => .sr 0
  | .mirror .vertical => .sr 2
  | .scale _ => 1

/-! ## Counting from either end -/

/-- The index `k`, counted from the other end of `size` indices if it is flipped. -/
def countedFrom (size : Nat) (flipped : Bool) (k : Nat) : Nat := if flipped then size - 1 - k else k

theorem countedFrom_lt {size k : Nat} (flipped : Bool) (h : k < size) :
    countedFrom size flipped k < size := by
  unfold countedFrom
  split <;> omega

private theorem countedFrom_countedFrom {size k : Nat} (a b : Bool) (h : k < size) :
    countedFrom size a (countedFrom size b k) = countedFrom size (a ^^ b) k := by
  cases a <;> cases b <;> simp only [countedFrom, Bool.false_eq_true, if_true, if_false,
    Bool.xor_true, Bool.xor_false, Bool.not_true, Bool.not_false]
  omega

private theorem countedFrom_div {size block k : Nat} (flipped : Bool) (h : k < block * size) :
    countedFrom (block * size) flipped k / block = countedFrom size flipped (k / block) := by
  cases flipped with
  | false => rfl
  | true =>
    have hdiv := Nat.mul_sub_div k block size h
    simp only [countedFrom, if_true]
    rw [Nat.sub_sub, Nat.sub_sub, Nat.add_comm 1 k, hdiv, Nat.add_comm 1]

namespace Grid

/-! ## The action -/

/-- The grid after a symmetry. -/
def turned (g : Grid) (p : Symmetry) : Grid :=
  if p.swaps then
    build g.height g.width g.height_pos g.width_pos fun i j ↦
      g.cellAt (countedFrom g.height p.flipsRows j) (countedFrom g.width p.flipsCols i)
  else
    build g.width g.height g.width_pos g.height_pos fun i j ↦
      g.cellAt (countedFrom g.height p.flipsRows i) (countedFrom g.width p.flipsCols j)

variable (g : Grid) (p q : Symmetry)

theorem width_turned : (g.turned p).width = if p.swaps then g.height else g.width := by
  unfold turned
  split <;> rfl

theorem height_turned : (g.turned p).height = if p.swaps then g.width else g.height := by
  unfold turned
  split <;> rfl

theorem cellAt_turned {i j : Nat} (hi : i < (g.turned p).height) (hj : j < (g.turned p).width) :
    (g.turned p).cellAt i j =
      g.cellAt (countedFrom g.height p.flipsRows (if p.swaps then j else i))
        (countedFrom g.width p.flipsCols (if p.swaps then i else j)) := by
  rw [height_turned] at hi
  rw [width_turned] at hj
  unfold turned
  split <;> rename_i hp <;> simp only [hp, if_true, if_false, Bool.false_eq_true] at hi hj ⊢
  · exact cellAt_build hi hj
  · exact cellAt_build hi hj

theorem turned_one : g.turned 1 = g := by
  refine ext_cellAt (width_turned g 1) (height_turned g 1) fun i j hi hj ↦ ?_
  rw [cellAt_turned g 1 hi hj]
  rfl

private theorem cellAt_turned_countedFrom (a b : Bool) {i j : Nat} (hi : i < (g.turned p).height)
    (hj : j < (g.turned p).width) :
    (g.turned p).cellAt (countedFrom (g.turned p).height a i)
        (countedFrom (g.turned p).width b j) =
      g.cellAt
        (countedFrom g.height (p.flipsRows ^^ if p.swaps then b else a) (if p.swaps then j else i))
        (countedFrom g.width (p.flipsCols ^^ if p.swaps then a else b)
          (if p.swaps then i else j)) := by
  rw [cellAt_turned g p (countedFrom_lt a hi) (countedFrom_lt b hj)]
  simp only [height_turned, width_turned] at hi hj ⊢
  cases hp : p.swaps <;> simp only [hp, Bool.false_eq_true, if_true, if_false] at hi hj ⊢
  · rw [countedFrom_countedFrom _ _ hi, countedFrom_countedFrom _ _ hj]
  · rw [countedFrom_countedFrom _ _ hi, countedFrom_countedFrom _ _ hj]

/-- **Symmetries act.** A product does what its factors do one after the other. -/
theorem turned_mul : g.turned (p * q) = (g.turned p).turned q := by
  have hw : (g.turned (p * q)).width = ((g.turned p).turned q).width := by
    simp only [width_turned, height_turned, Symmetry.swaps_mul]
    cases p.swaps <;> cases q.swaps <;> rfl
  have hh : (g.turned (p * q)).height = ((g.turned p).turned q).height := by
    simp only [width_turned, height_turned, Symmetry.swaps_mul]
    cases p.swaps <;> cases q.swaps <;> rfl
  refine ext_cellAt hw hh fun i j hi hj ↦ ?_
  -- the place in the grid turned by `p` that the second turn takes its cell from
  have hi' : (if q.swaps then j else i) < (g.turned p).height := by
    rw [hw, width_turned] at hj
    rw [hh, height_turned] at hi
    cases hq : q.swaps <;> simp only [hq, if_true, if_false, Bool.false_eq_true] at hi hj ⊢
    · exact hi
    · exact hj
  have hj' : (if q.swaps then i else j) < (g.turned p).width := by
    rw [hw, width_turned] at hj
    rw [hh, height_turned] at hi
    cases hq : q.swaps <;> simp only [hq, if_true, if_false, Bool.false_eq_true] at hi hj ⊢
    · exact hj
    · exact hi
  rw [cellAt_turned g _ hi hj, cellAt_turned (g.turned p) q (hh ▸ hi) (hw ▸ hj),
    cellAt_turned_countedFrom g p _ _ hi' hj', Symmetry.swaps_mul, Symmetry.flipsRows_mul,
    Symmetry.flipsCols_mul]
  cases p.swaps <;> cases q.swaps <;> rfl

/-- Turns and reflections are symmetries. -/
theorem apply_eq_turned {t : Transform} (h : ∀ size, t ≠ .scale size) :
    g.apply t = g.turned t.symmetry := by
  cases t with
  | rotate turn => cases turn <;> rfl
  | mirror axis => cases axis <;> rfl
  | scale size => exact absurd rfl (h size)

/-! ## Doubling -/

/-- The grid doubled `k` times: every cell becomes a block of `2 ^ k` rows and columns. -/
def enlarged (k : Nat) : Grid :=
  build (2 ^ k * g.width) (2 ^ k * g.height) (Nat.mul_pos (Nat.two_pow_pos k) g.width_pos)
    (Nat.mul_pos (Nat.two_pow_pos k) g.height_pos) fun i j ↦ g.cellAt (i / 2 ^ k) (j / 2 ^ k)

@[simp] theorem width_enlarged (k : Nat) : (g.enlarged k).width = 2 ^ k * g.width := rfl

@[simp] theorem height_enlarged (k : Nat) : (g.enlarged k).height = 2 ^ k * g.height := rfl

theorem cellAt_enlarged {k i j : Nat} (hi : i < 2 ^ k * g.height) (hj : j < 2 ^ k * g.width) :
    (g.enlarged k).cellAt i j = g.cellAt (i / 2 ^ k) (j / 2 ^ k) := cellAt_build hi hj

theorem enlarged_zero : g.enlarged 0 = g := by
  refine ext_cellAt (Nat.one_mul _) (Nat.one_mul _) fun i j hi hj ↦ ?_
  rw [cellAt_enlarged g hi hj, Nat.pow_zero, Nat.div_one, Nat.div_one]

private theorem scale_double_enlarged (k : Nat) :
    (g.enlarged k).scale .double = g.enlarged (k + 1) := by
  have hsize : ∀ n, 2 * (2 ^ k * n) = 2 ^ (k + 1) * n := fun n ↦ by
    rw [Nat.pow_succ', Nat.mul_assoc]
  refine ext_cellAt (hsize _) (hsize _) fun i j hi hj ↦ ?_
  have hi' : i < 2 * (2 ^ k * g.height) := hi
  have hj' : j < 2 * (2 ^ k * g.width) := hj
  rw [cellAt_scale_double _ hi' hj', cellAt_enlarged g (by omega) (by omega),
    cellAt_enlarged g (hsize g.height ▸ hi') (hsize g.width ▸ hj'), Nat.div_div_eq_div_mul,
    Nat.div_div_eq_div_mul, ← Nat.pow_succ']

private theorem scale_half_enlarged (k : Nat) :
    (g.enlarged (k + 1)).scale .half = g.enlarged k := by
  have hsize : ∀ n, (2 ^ (k + 1) * n + 1) / 2 = 2 ^ k * n := fun n ↦ by
    rw [Nat.pow_succ', Nat.mul_assoc]
    omega
  refine ext_cellAt (hsize _) (hsize _) fun i j hi hj ↦ ?_
  have hi' : i < 2 ^ k * g.height := hsize g.height ▸ hi
  have hj' : j < 2 ^ k * g.width := hsize g.width ▸ hj
  rw [cellAt_scale_half _ hi hj, cellAt_enlarged g, cellAt_enlarged g hi' hj', Nat.pow_succ',
    Nat.mul_div_mul_left _ _ Nat.two_pos, Nat.mul_div_mul_left _ _ Nat.two_pos]
  · rw [Nat.pow_succ', Nat.mul_assoc]
    omega
  · rw [Nat.pow_succ', Nat.mul_assoc]
    omega

/-- **Doubling commutes with symmetries.** The blocks move as the cells would have moved. -/
theorem turned_enlarged (k : Nat) : (g.enlarged k).turned p = (g.turned p).enlarged k := by
  have hw : ((g.enlarged k).turned p).width = 2 ^ k * (g.turned p).width := by
    simp only [width_turned, width_enlarged, height_enlarged]
    split <;> rfl
  have hh : ((g.enlarged k).turned p).height = 2 ^ k * (g.turned p).height := by
    simp only [height_turned, width_enlarged, height_enlarged]
    split <;> rfl
  refine ext_cellAt hw hh fun i j hi hj ↦ ?_
  have hi' : i < 2 ^ k * (g.turned p).height := hh ▸ hi
  have hj' : j < 2 ^ k * (g.turned p).width := hw ▸ hj
  rw [cellAt_turned _ p hi hj, cellAt_enlarged _ hi' hj',
    cellAt_turned g p (Nat.div_lt_of_lt_mul hi') (Nat.div_lt_of_lt_mul hj')]
  simp only [height_turned, width_turned, height_enlarged, width_enlarged] at hi' hj' ⊢
  cases hp : p.swaps <;> simp only [hp, Bool.false_eq_true, if_true, if_false] at hi' hj' ⊢
  · rw [cellAt_enlarged g (countedFrom_lt _ hi') (countedFrom_lt _ hj'), countedFrom_div _ hi',
      countedFrom_div _ hj']
  · rw [cellAt_enlarged g (countedFrom_lt _ hj') (countedFrom_lt _ hi'), countedFrom_div _ hi',
      countedFrom_div _ hj']

/-! ## Lists of steps -/

/-- Steps that do not halve a grid turn it by the product of their symmetries and double it as often
as one of them does. -/
theorem applyAll_enlarged_turned {steps : List Transform} (h : .scale .half ∉ steps) (k : Nat) :
    ((g.turned p).enlarged k).applyAll steps =
      (g.turned (p * (steps.map Transform.symmetry).prod)).enlarged
        (k + steps.count (.scale .double)) := by
  induction steps generalizing p k with
  | nil => rw [List.map_nil, List.prod_nil, mul_one, List.count_nil, Nat.add_zero]; rfl
  | cons t rest ih =>
    rw [List.mem_cons, not_or] at h
    rw [applyAll, List.foldl_cons, ← applyAll, List.map_cons, List.prod_cons, ← mul_assoc]
    by_cases hscale : ∃ size, t = .scale size
    · -- one more doubling, and the product stays as it is
      obtain ⟨size, rfl⟩ := hscale
      obtain rfl : size = .double := by
        cases size with
        | half => exact absurd rfl h.1
        | double => rfl
      rw [List.count_cons_self, apply, scale_double_enlarged, ih p h.2, Transform.symmetry, mul_one,
        Nat.add_right_comm, Nat.add_assoc]
    · -- the step slips past the doublings and multiplies the product from the right
      have ht : ∀ size, t ≠ .scale size := fun size heq ↦ hscale ⟨size, heq⟩
      rw [List.count_cons_of_ne (ht _), apply_eq_turned _ ht, turned_enlarged, ← turned_mul,
        ih _ h.2]

private theorem applyAll_eq_enlarged {steps : List Transform} (h : .scale .half ∉ steps) :
    g.applyAll steps = (g.turned (steps.map Transform.symmetry).prod).enlarged
      (steps.count (.scale .double)) := by
  have happly := applyAll_enlarged_turned g 1 h 0
  rwa [turned_one, enlarged_zero, one_mul, Nat.zero_add] at happly

private theorem applyAll_replicate_half (k : Nat) :
    (g.enlarged k).applyAll (List.replicate k (.scale .half)) = g := by
  induction k with
  | zero => exact enlarged_zero g
  | succ k ih =>
    rw [List.replicate_succ, applyAll, List.foldl_cons, ← applyAll, apply, scale_half_enlarged, ih]

private theorem applyAll_append (first more : List Transform) :
    g.applyAll (first ++ more) = (g.applyAll first).applyAll more := List.foldl_append

end Grid

/-! ## Requested steps -/

/-- A step as it is usually written. -/
def Transform.written : Transform → WrittenStep
  | .rotate turn => .rotate turn.degrees
  | .mirror axis => .mirror axis.name
  | .scale size => .scale size.factor

private theorem Transform.ofStep_written (t : Transform) :
    Transform.ofStep t.written.toValue = .ok t := by
  cases t with
  | rotate turn => cases turn <;> rfl
  | mirror axis => cases axis <;> rfl
  | scale size => cases size <;> rfl

theorem Transform.mapM_ofStep_written (steps : List Transform) :
    (steps.map fun t ↦ t.written.toValue).mapM Transform.ofStep = .ok steps := by
  induction steps with
  | nil => rfl
  | cons t rest ih =>
    rw [List.map_cons, List.mapM_cons, ofStep_written, ok_bind, ih]
    rfl

namespace Grid

variable (g : Grid)

private theorem requestTransform_of_read {items : List Value} {steps : List Transform}
    (hread : items.mapM Transform.ofStep = .ok steps) :
    g.requestTransform (.list items) = .ok (g.applyAll steps) := by
  rw [requestTransform, Value.parts, ok_bind, hread]
  rfl

/-- **Lists of transforms.** Steps that turn, mirror or double a grid come to two things, the
product `p` of their symmetries and the number `k` of doublings: the grid is turned by `p`, and
every cell becomes a block of `2 ^ k` rows and columns. So lists that agree in both do the same, a
list without doublings whose product is trivial does nothing, and `k` halvings at the end leave just
the symmetry. -/
theorem requestTransform_eq_turned {items : List Value} {steps : List Transform}
    (hread : items.mapM Transform.ofStep = .ok steps) (hgrow : .scale .half ∉ steps) :
    let p := (steps.map Transform.symmetry).prod
    let k := steps.count (.scale .double)
    ∃ out, g.requestTransform (.list items) = .ok out ∧
      out.width = 2 ^ k * (g.turned p).width ∧ out.height = 2 ^ k * (g.turned p).height ∧
      (∀ i j, i < out.height → j < out.width →
        out.cellAt i j = (g.turned p).cellAt (i / 2 ^ k) (j / 2 ^ k)) ∧
      (∀ items' steps', items'.mapM Transform.ofStep = .ok steps' → .scale .half ∉ steps' →
        (steps'.map Transform.symmetry).prod = p → steps'.count (.scale .double) = k →
          g.requestTransform (.list items') = .ok out) ∧
      (k = 0 → p = 1 → out = g) ∧
      g.requestTransform (.list (items ++
          List.replicate k (Transform.scale .half).written.toValue)) = .ok (g.turned p) := by
  intro p k
  have happly : g.applyAll steps = (g.turned p).enlarged k := applyAll_eq_enlarged g hgrow
  refine ⟨(g.turned p).enlarged k, ?_, rfl, rfl, fun i j hi hj ↦ cellAt_enlarged _ hi hj,
    ?_, ?_, ?_⟩
  · rw [requestTransform_of_read g hread, happly]
  · intro items' steps' hread' hgrow' hp hk
    rw [requestTransform_of_read g hread', applyAll_eq_enlarged g hgrow', hp, hk]
  · intro hk hp
    rw [hk, hp, turned_one, enlarged_zero]
  · have hhalves : (items ++ List.replicate k (Transform.scale .half).written.toValue).mapM
        Transform.ofStep = .ok (steps ++ List.replicate k (.scale .half)) := by
      have hwritten := Transform.mapM_ofStep_written (List.replicate k (.scale .half))
      rw [List.map_replicate] at hwritten
      rw [List.mapM_append, hread, hwritten]
      rfl
    rw [requestTransform_of_read g hhalves, applyAll_append, happly, applyAll_replicate_half]

/-- A row of three letters. -/
def letters : Grid :=
  build 3 1 (by decide) (by decide) fun _ j ↦ if j = 0 then 'a' else if j = 1 then 'b' else 'c'

/-- Turned, doubled and mirrored the row is a column of blocks, and halved it is a plain column. -/
theorem letters_requestTransform :
    let steps : List Transform := [.rotate .quarter, .scale .double, .mirror .horizontal]
    let items := steps.map fun t ↦ t.written.toValue
    .scale .half ∉ steps ∧
    (∃ out, letters.requestTransform (.list items) = .ok out ∧ out.width = 2 ∧ out.height = 6 ∧
      out.cellAt 3 1 = 'b') ∧
    letters.requestTransform (.list (items ++
      [(Transform.scale .half).written.toValue])) = .ok (letters.turned (.sr 3)) := by
  intro steps items
  have hgrow : .scale .half ∉ steps := by decide
  obtain ⟨out, hout, hw, hh, hcell, -, -, hhalved⟩ :=
    requestTransform_eq_turned letters (Transform.mapM_ofStep_written steps) hgrow
  refine ⟨hgrow, ⟨out, hout, hw, hh, ?_⟩, hhalved⟩
  rw [hcell 3 1 (by rw [hh]; decide) (by rw [hw]; decide)]
  decide

end Grid

end TextArt
