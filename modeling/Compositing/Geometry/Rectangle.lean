import Compositing.Geometry.Saturating

/-!
# Rectangles

An axis-aligned rectangle given by its upper left corner and its extent. It covers the points from
its corner up to, but not including, its right and bottom edges. A rectangle whose extent is not
positive in both directions is empty.

Cutting one rectangle out of another leaves at most four pieces: a band above the cut, a band below
it, and the parts to its left and to its right.
-/

namespace Compositing

structure Rectangle where
  x : Int32
  y : Int32
  width : Int32
  height : Int32
  deriving DecidableEq, Repr, Inhabited

namespace Rectangle

def zero : Rectangle := ⟨0, 0, 0, 0⟩

/-- The plane used for unbounded regions. None of its edges saturates. -/
def plane : Rectangle := ⟨-1073741824, -1073741824, 2147483647, 2147483647⟩

def isEmpty (r : Rectangle) : Bool := r.width ≤ 0 || r.height ≤ 0

/-- The first column to the right of the rectangle. -/
def right (r : Rectangle) : Int32 := saturatingAdd r.x r.width

/-- The first row below the rectangle. -/
def bottom (r : Rectangle) : Int32 := saturatingAdd r.y r.height

/-- The product of the extents, zero for an empty rectangle. -/
def area (r : Rectangle) : Int := if r.isEmpty then 0 else r.width.toInt * r.height.toInt

def contains (r : Rectangle) (x y : Int32) : Bool :=
  !r.isEmpty && r.x ≤ x && x < r.right && r.y ≤ y && y < r.bottom

/-- The rectangle between two columns and two rows. An extent beyond the coordinate range is cut to
the largest coordinate. -/
def ofEdges (left top right bottom : Int32) : Rectangle :=
  ⟨left, top, clampCoordinate (right.toInt - left.toInt), clampCoordinate (bottom.toInt - top.toInt)⟩

def intersection (r s : Rectangle) : Option Rectangle :=
  if r.isEmpty || s.isEmpty then none
  else
    let left := max r.x s.x
    let top := max r.y s.y
    let right := min r.right s.right
    let bottom := min r.bottom s.bottom
    -- Edges saturate before they are compared.
    if left < right ∧ top < bottom then some (ofEdges left top right bottom) else none

def intersects (r s : Rectangle) : Bool := (r.intersection s).isSome

/-- The rectangle moved by an offset; its extent stays, its corner saturates. -/
def translate (r : Rectangle) (dx dy : Int32) : Rectangle :=
  { r with x := saturatingAdd r.x dx, y := saturatingAdd r.y dy }

def pieceIf (present : Bool) (piece : Rectangle) : List Rectangle :=
  if present then [piece] else []

/-- What is left of `r` around a hole inside it: above, below, left and right of the hole. -/
def around (r hole : Rectangle) : List Rectangle :=
  pieceIf (r.y < hole.y) (ofEdges r.x r.y r.right hole.y) ++
  pieceIf (hole.bottom < r.bottom) (ofEdges r.x hole.bottom r.right r.bottom) ++
  pieceIf (r.x < hole.x) (ofEdges r.x hole.y hole.x hole.bottom) ++
  pieceIf (hole.right < r.right) (ofEdges hole.right hole.y r.right hole.bottom)

def subtract (r cut : Rectangle) : List Rectangle :=
  match r.intersection cut with
  | some hole => r.around hole
  | none => if r.isEmpty then [] else [r]

/-- The rectangle that two neighbours form together: one above the other with the same columns, or
one beside the other with the same rows. -/
def merge? (r s : Rectangle) : Option Rectangle :=
  if r.x = s.x ∧ r.width = s.width ∧ r.bottom = s.y then
    some (ofEdges r.x r.y r.right s.bottom)
  else if r.x = s.x ∧ r.width = s.width ∧ s.bottom = r.y then
    some (ofEdges r.x s.y r.right r.bottom)
  else if r.y = s.y ∧ r.height = s.height ∧ r.right = s.x then
    some (ofEdges r.x r.y s.right r.bottom)
  else if r.y = s.y ∧ r.height = s.height ∧ s.right = r.x then
    some (ofEdges s.x r.y r.right r.bottom)
  else none

end Rectangle

end Compositing
