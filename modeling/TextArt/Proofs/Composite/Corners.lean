import TextArt.Proofs.Composite
import TextArt.Proofs.Grid.Equivariance
import TextArt.Proofs.Grid.Symmetry

/-!
# Corners change places

The offsets of a shape at a corner point inwards, so they are counted from the sides that meet
there. A reflection turns the near side of a canvas into the far one and keeps distances: a shape
that is placed at a corner lies, after the reflection, at the corner on the other side, with the
same offsets. A half turn is two reflections and leads to the corner across.

Rows and columns do not matter to each other in this, so the argument is one about a single
direction (`countedBack_insetFrom`): a place in the shape, counted from the other end of the shape,
is the place on the canvas, counted from the other end of the canvas, less the place of the shape.
That the shape may be larger than the canvas, or be pushed out of it, makes no difference.
-/

namespace TextArt

/-! ## One direction -/

/-- The place of a part in a whole, at an offset inwards from the near end or from the far one. -/
def insetFrom (size part : Nat) (far : Bool) (offset : Int) : Int :=
  if far then size - part - offset else offset

/-- The index of the same cell, counted from the other end if asked for. -/
def countedBack (size : Nat) (flipped : Bool) (i : Int) : Int :=
  if flipped then size - 1 - i else i

private theorem countedBack_insetFrom (size part : Nat) (far flipped : Bool) (offset i : Int) :
    countedBack part flipped (i - insetFrom size part (far ^^ flipped) offset) =
      countedBack size flipped i - insetFrom size part far offset := by
  cases flipped with
  | false => rw [Bool.xor_false]; rfl
  | true =>
    rw [Bool.xor_true]
    cases far <;> simp only [countedBack, insetFrom, Bool.not_true, Bool.not_false, if_true,
      Bool.false_eq_true, if_false] <;> omega

/-! ## Corners -/

/-- A corner of a canvas. -/
structure Corner where
  /-- Whether it is at the bottom. -/
  bottom : Bool
  /-- Whether it is on the right. -/
  right : Bool
  deriving DecidableEq, Repr

namespace Corner

/-- The anchor at a corner. -/
def anchor : Corner → Anchor
  | ⟨false, false⟩ => .topLeft
  | ⟨false, true⟩ => .topRight
  | ⟨true, false⟩ => .bottomLeft
  | ⟨true, true⟩ => .bottomRight

/-- The corner that a corner becomes; rows and columns keep their direction. -/
def moved (k : Corner) (t : Transform) : Corner :=
  ⟨k.bottom ^^ t.symmetry.flipsRows, k.right ^^ t.symmetry.flipsCols⟩

private theorem origin_anchor (k : Corner) (canvas shape : Grid) (down across : Int) :
    k.anchor.origin canvas shape down across =
      (insetFrom canvas.height shape.height k.bottom down,
        insetFrom canvas.width shape.width k.right across) := by
  obtain ⟨_ | _, _ | _⟩ := k <;> rfl

end Corner

namespace Transform

/-- Rows stay rows and columns stay columns, and their numbers stay as they are. -/
def KeepsSides (t : Transform) : Prop := (∀ size, t ≠ .scale size) ∧ t.symmetry.swaps = false

variable {t : Transform} (ht : t.KeepsSides)
include ht

private theorem KeepsSides.size_apply (g : Grid) :
    (g.apply t).width = g.width ∧ (g.apply t).height = g.height := by
  rw [Grid.apply_eq_turned g ht.1, Grid.width_turned, Grid.height_turned, ht.2]
  exact ⟨rfl, rfl⟩

private theorem KeepsSides.shown_eq (g : Grid) (i j : Int) :
    t.shown g i j = (countedBack g.height t.symmetry.flipsRows i,
      countedBack g.width t.symmetry.flipsCols j) := by
  obtain ⟨hsize, hswaps⟩ := ht
  match t, hswaps with
  | .rotate .half, _ => rfl
  | .mirror .horizontal, _ => rfl
  | .mirror .vertical, _ => rfl
  | .scale size, _ => exact absurd rfl (hsize size)

/-- **A shape at a corner.** Transformed, the canvas is as if the transformed shape had been placed
at the corner that the corner becomes. -/
theorem KeepsSides.apply_overlay (k : Corner) (canvas shape : Grid) (down across : Int)
    (char : Option Cell) :
    let place := k.anchor.origin canvas shape down across
    let place' := (k.moved t).anchor.origin (canvas.apply t) (shape.apply t) down across
    (canvas.overlay shape place.1 place.2 char true).apply t =
      (canvas.apply t).overlay (shape.apply t) place'.1 place'.2 char true := by
  obtain ⟨hcw, hch⟩ := ht.size_apply canvas
  obtain ⟨hsw, hsh⟩ := ht.size_apply shape
  intro place place'
  refine Grid.apply_overlay_of_shown (fun i j ↦ ?_) char true
  simp only [place, place', Corner.origin_anchor, hcw, hch, hsw, hsh, ht.shown_eq]
  exact Prod.ext (countedBack_insetFrom _ _ _ _ _ _) (countedBack_insetFrom _ _ _ _ _ _)

end Transform

/-! ## Requests -/

/-- To place a shape at one anchor and transform the canvas is to transform both and place the shape
at another anchor with the same offsets, whatever character is stamped. -/
def Anchor.Carries (t : Transform) (a b : Anchor) : Prop :=
  ∀ (ι : Type) (canvas shape : Grid) (log log' : List (Layer ι)) (mark mark' : ι)
    (down across : Int) (char : Option Cell),
    ∃ placed moved : Composite ι,
      (⟨canvas, log⟩ : Composite ι).requestShape mark shape (.str a.name) (.int down) (.int across)
        (.ofText? (char.map Text.singleton)) = .ok placed ∧
      (⟨canvas.apply t, log'⟩ : Composite ι).requestShape mark' (shape.apply t) (.str b.name)
        (.int down) (.int across) (.ofText? (char.map Text.singleton)) = .ok moved ∧
      moved.canvas = placed.canvas.apply t

/-- A transform exchanges two anchors. -/
def Anchor.Exchanges (t : Transform) (a b : Anchor) : Prop := Carries t a b ∧ Carries t b a

private theorem Transform.KeepsSides.carries {t : Transform} (ht : t.KeepsSides) (k : Corner) :
    Anchor.Carries t k.anchor (k.moved t).anchor := by
  intro ι canvas shape log log' mark mark' down across char
  exact ⟨_, _, Composite.requestShape_name .., Composite.requestShape_name ..,
    (ht.apply_overlay k canvas shape down across char).symm⟩

private theorem Transform.keepsSides_mirror (axis : Axis) : (Transform.mirror axis).KeepsSides := by
  refine ⟨fun _ ↦ nofun, ?_⟩
  cases axis <;> rfl

private theorem Transform.keepsSides_half : (Transform.rotate .half).KeepsSides :=
  ⟨fun _ ↦ nofun, rfl⟩

/-- **Corners are mirror images of each other.** A reflection from left to right exchanges the
anchors on the left with those on the right, a reflection from top to bottom those at the top with
those at the bottom, and a half turn exchanges corners that lie across. -/
theorem Anchor.corners_exchanged :
    (Exchanges (.mirror .horizontal) .topLeft .topRight ∧
      Exchanges (.mirror .horizontal) .bottomLeft .bottomRight) ∧
    (Exchanges (.mirror .vertical) .topLeft .bottomLeft ∧
      Exchanges (.mirror .vertical) .topRight .bottomRight) ∧
    Exchanges (.rotate .half) .topLeft .bottomRight ∧
    Exchanges (.rotate .half) .topRight .bottomLeft := by
  have hleft := (Transform.keepsSides_mirror .horizontal).carries
  have hdown := (Transform.keepsSides_mirror .vertical).carries
  have hturn := Transform.keepsSides_half.carries
  exact ⟨⟨⟨hleft ⟨false, false⟩, hleft ⟨false, true⟩⟩, hleft ⟨true, false⟩, hleft ⟨true, true⟩⟩,
    ⟨⟨hdown ⟨false, false⟩, hdown ⟨true, false⟩⟩, hdown ⟨false, true⟩, hdown ⟨true, true⟩⟩,
    ⟨hturn ⟨false, false⟩, hturn ⟨true, true⟩⟩, hturn ⟨false, true⟩, hturn ⟨true, false⟩⟩

end TextArt
