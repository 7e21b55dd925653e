import Compositing.Proofs.Rendering.Pictures

/-!
# Layers

What drawing does to each pixel of a frame. An image that is drawn in its own size is a layer: its words
are laid over the frame one by one, from the layer's origin on, and none is read twice or left out. The
parts of a layer that hang over the edges of the frame do not matter for the rest.
-/

namespace Compositing

/-- The word at a column and a row of what an image shows. -/
def Image.word (image : Image) (column row : Nat) : UInt32 :=
  let stored := if image.yInverted then image.size.height.toNat - 1 - row else row
  image.pixels.getD (stored * image.size.width.toNat + column) 0

/-- An image at a place of a frame. -/
structure Layer where
  placement : Placement
  image : Image

namespace Framebuffer

/-- The word of a pixel. -/
def pixel? (fb : Framebuffer) (x y : Nat) : Option UInt32 := fb.pixels[y * fb.size.width.toNat + x]?

/-- The pixel stands in the placement. -/
def Covers (p : Placement) (x y : Nat) : Prop :=
  0 ≤ (x : Int) - p.origin.x.toInt ∧ (x : Int) - p.origin.x.toInt < p.size.width.toNat ∧
    0 ≤ (y : Int) - p.origin.y.toInt ∧ (y : Int) - p.origin.y.toInt < p.size.height.toNat

instance (p : Placement) (x y : Nat) : Decidable (Covers p x y) :=
  inferInstanceAs (Decidable (_ ∧ _))

/-- The pixel of the image that is shown at a pixel of the framebuffer. -/
def shown (image : Image) (p : Placement) (x y : Nat) : UInt32 :=
  image.sample p.size ((x : Int) - p.origin.x.toInt).toNat ((y : Int) - p.origin.y.toInt).toNat

section

variable {fb : Framebuffer} {x y : Nat}

/-- The place of a pixel in its framebuffer. -/
theorem index_lt {size : Size} (within : x < size.width.toNat) (within' : y < size.height.toNat) :
    y * size.width.toNat + x < size.pixelCount := by
  -- The rows up to this one fit into the frame.
  have rows : (y + 1) * size.width.toNat ≤ size.height.toNat * size.width.toNat :=
    Nat.mul_le_mul_right _ within'
  rw [Nat.succ_mul] at rows
  rw [Size.pixelCount, Nat.mul_comm size.width.toNat]
  omega

/-- The column and the row of a pixel, found again from its place. -/
theorem column_place (within : x < fb.size.width.toNat) :
    (y * fb.size.width.toNat + x) % fb.size.width.toNat = x := by
  rw [Nat.mul_comm, Nat.mul_add_mod, Nat.mod_eq_of_lt within]

theorem row_place (within : x < fb.size.width.toNat) :
    (y * fb.size.width.toNat + x) / fb.size.width.toNat = y := by
  rw [Nat.mul_comm, Nat.mul_add_div (by omega), Nat.div_eq_of_lt within, Nat.add_zero]

theorem pixel?_draw_covers (image : Image) (p : Placement) (y : Nat) (within : x < fb.size.width.toNat) :
    (fb.draw image p).pixel? x y = (fb.pixel? x y).map fun old =>
      if Covers p x y then image.draw (shown image p x y) old else old := by
  have same : (fb.draw image p).size = fb.size := rfl
  rw [pixel?, pixel?, same]
  simp only [draw, Array.getElem?_mapIdx, column_place within, row_place within]
  rfl

/-- The layers that the items come to. -/
def layers (picture? : SurfaceId → Option Image) (items : List PaintItem) : List Layer :=
  items.filterMap fun item => (picture? item.surface).map fun image => ⟨item.placement, image⟩

theorem size_drawPictures (picture? : SurfaceId → Option Image) (items : List PaintItem) :
    (fb.drawPictures picture? items).size = fb.size := by
  unfold drawPictures
  induction items generalizing fb with
  | nil => rfl
  | cons item items ih =>
    rw [List.foldl_cons, ih]
    split <;> rfl

end

end Framebuffer

end Compositing
