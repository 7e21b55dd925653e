import Compositing.Geometry.Placement
import Compositing.Ident

/-!
# Client buffers

A buffer holds the pixels a client wants to show. Its size and format are fixed when it is
registered; its contents, if they are mapped, always hold one word for each pixel.
-/

namespace Compositing

inductive BufferMemory where
  /-- Shared memory that can be read directly. -/
  | shared
  /-- A device buffer, known by a descriptor only. -/
  | device
  deriving DecidableEq, Repr, Inhabited

inductive PixelFormat where
  /-- Eight bits each of alpha, red, green and blue; colours premultiplied by alpha. -/
  | argb
  /-- As `argb`, with the alpha bits ignored. -/
  | xrgb
  /-- A plane of luma followed by interleaved chroma. -/
  | nv12
  deriving DecidableEq, Repr, Inhabited

def PixelFormat.hasAlpha : PixelFormat → Bool
  | argb => true
  | xrgb | nv12 => false

inductive BufferError where
  | notRegistered (buffer : BufferId)
  | invalidSize (size : Size)
  | contentsSize (expected actual : Nat)
  | notBusy (buffer : BufferId)
  deriving DecidableEq, Repr

def BufferError.message : BufferError → String
  | notRegistered b => s!"buffer BufferId({b.number}) is not registered"
  | invalidSize s => s!"invalid buffer dimensions {s.width.toNat}x{s.height.toNat}"
  | contentsSize expected actual =>
    s!"buffer contents hold {actual} pixels, expected {expected}"
  | notBusy b => s!"buffer BufferId({b.number}) is not busy"

structure Buffer where
  id : BufferId
  memory : BufferMemory
  size : Size
  /-- Bytes from one row to the next. -/
  stride : UInt32
  format : PixelFormat
  /-- Rows are stored from the bottom up. -/
  yInverted : Bool := false
  owner : Option ClientId := none
  /-- The mapped pixel words, row by row. -/
  contents : Option (Array UInt32) := none
  /-- How many renders in flight read the buffer. -/
  busyCount : Nat := 0
  /-- The compositor let go of the buffer while it was busy. -/
  releasePending : Bool := false
  /-- The client destroyed the buffer while it was busy. -/
  destroyPending : Bool := false
  contents_size : ∀ pixels ∈ contents, pixels.size = size.pixelCount := by simp

def Buffer.isBusy (b : Buffer) : Bool := 0 < b.busyCount

end Compositing
