import Compositing.Buffer
import Compositing.Pixel

/-!
# Framebuffers and images

A framebuffer holds one word for each pixel, row by row. An image is a picture of a buffer as it was
when it was imported. Drawing stretches an image over a placement: the pixel at an offset into the
placement comes from the proportional place of the image, rounded down, and what lies outside the
framebuffer is left out.
-/

namespace Compositing

structure Image where
  size : Size
  pixels : Array UInt32
  /-- Rows are stored from the bottom up. -/
  yInverted : Bool
  /-- The alpha bits of the pixels mean something. -/
  hasAlpha : Bool
  pixels_size : pixels.size = size.pixelCount

namespace Image

/-- The pixel shown at a column and a row of an area that the image is stretched over. -/
def sample (image : Image) (area : Size) (column row : Nat) : UInt32 :=
  let x := column * image.size.width.toNat / area.width.toNat
  let y := row * image.size.height.toNat / area.height.toNat
  -- Only the row is turned over; columns are read as they are.
  let stored := if image.yInverted then image.size.height.toNat - 1 - y else y
  image.pixels.getD (stored * image.size.width.toNat + x) 0

/-- A pixel of the image drawn on what is there. -/
def draw (image : Image) (source destination : UInt32) : UInt32 :=
  if image.hasAlpha then Pixel.blend source destination else Pixel.solid source

end Image

structure Framebuffer where
  size : Size
  pixels : Array UInt32
  pixels_size : pixels.size = size.pixelCount

namespace Framebuffer

/-- Every pixel is the same word. -/
def filled (size : Size) (word : UInt32) : Framebuffer :=
  ⟨size, Array.replicate size.pixelCount word, by simp⟩

instance : Inhabited Framebuffer := ⟨filled Size.zero 0⟩

/-- The most bytes that can be asked for. -/
def maxBytes : Nat := 9223372036854775807

/-- A black, transparent framebuffer, if its words can be asked for. -/
def allocate? (size : Size) : Option Framebuffer :=
  if size.pixelCount * 4 ≤ maxBytes then some (filled size 0) else none

def fill (fb : Framebuffer) (word : UInt32) : Framebuffer := filled fb.size word

/-- Draws an image over a placement. -/
def draw (fb : Framebuffer) (image : Image) (p : Placement) : Framebuffer where
  size := fb.size
  pixels := fb.pixels.mapIdx fun i old =>
    let column : Int := ((i % fb.size.width.toNat : Nat) : Int) - p.origin.x.toInt
    let row : Int := ((i / fb.size.width.toNat : Nat) : Int) - p.origin.y.toInt
    -- Pixels outside the placement keep their word, so a placement may stick out.
    if 0 ≤ column ∧ column < p.size.width.toNat ∧ 0 ≤ row ∧ row < p.size.height.toNat then
      image.draw (image.sample p.size column.toNat row.toNat) old
    else old
  pixels_size := by rw [Array.size_mapIdx, fb.pixels_size]

end Framebuffer

end Compositing
