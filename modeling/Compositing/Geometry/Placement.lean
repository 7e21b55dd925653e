/-!
# Placements

Points, sizes, and the rectangle at a point with a size. Corners are signed and sizes unsigned, so
unlike a `Rectangle` a placement never has a negative extent and its edges are exact integers.
-/

namespace Compositing

structure Point where
  x : Int32
  y : Int32
  deriving DecidableEq, Repr, Inhabited

structure Size where
  width : UInt32
  height : UInt32
  deriving DecidableEq, Repr, Inhabited

namespace Size

def zero : Size := ⟨0, 0⟩

/-- Neither side is zero. -/
def isProper (s : Size) : Bool := s.width != 0 && s.height != 0

/-- The number of pixels. -/
def pixelCount (s : Size) : Nat := s.width.toNat * s.height.toNat

end Size

/-- Where something is shown on an output, and how large. -/
structure Placement where
  origin : Point
  size : Size
  deriving DecidableEq, Repr, Inhabited

namespace Placement

def zero : Placement := ⟨⟨0, 0⟩, Size.zero⟩

/-- The point lies between the edges, the right and the lower one excluded. -/
def contains (p : Placement) (x y : Int32) : Bool :=
  p.origin.x.toInt ≤ x.toInt && p.origin.y.toInt ≤ y.toInt &&
  x.toInt < p.origin.x.toInt + p.size.width.toNat &&
  y.toInt < p.origin.y.toInt + p.size.height.toNat

end Placement

end Compositing
