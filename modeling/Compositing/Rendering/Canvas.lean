import Compositing.Colour
import Compositing.Framebuffer
import Compositing.Rendering.Error
import Compositing.Table

/-!
# Canvases

A canvas renders in system memory: it has a framebuffer and the images imported for drawing. Once it
is terminated it keeps nothing but its last size, and refuses all work.
-/

namespace Compositing

inductive Canvas where
  | live (framebuffer : Framebuffer) (images : Table ImageId Image)
  | terminated (size : Size)

namespace Canvas

/-- The name under which canvases refuse work. -/
def backendName : String := "software"

/-- Work that begins with asking the host for the memory of a framebuffer, which one without pixels does
not need. -/
def granted {α : Type} (size : Size) (short : Bool) (work : Except RenderError α) :
    Except RenderError α :=
  if short = true ∧ 0 < size.pixelCount then .error (.outOfMemory "framebuffer") else work

def ofSize (size : Size) : Except RenderError Canvas :=
  match Framebuffer.allocate? size with
  | some fb => .ok (live fb Table.empty)
  | none => .error (.outOfMemory "framebuffer")

def size : Canvas → Size
  | live fb _ => fb.size
  | terminated size => size

def pixels : Canvas → Array UInt32
  | live fb _ => fb.pixels
  | terminated _ => #[]

def images : Canvas → Table ImageId Image
  | live _ images => images
  | terminated _ => Table.empty

def checkLive : Canvas → Except RenderError Unit
  | live _ _ => .ok ()
  | terminated _ => .error .terminated

/-- The picture of a buffer as it is now. Only mapped shared memory of a format with one word for each
pixel can be read. -/
def imageOf (b : Buffer) : Except RenderError Image :=
  match b.memory, mapped : b.contents with
  -- The memory is looked at before the format.
  | .shared, some pixels =>
    if b.format = .nv12 then .error (.unsupported backendName "import of NV12 buffers")
    else
      .ok
        { size := b.size, pixels, yInverted := b.yInverted, hasAlpha := b.format.hasAlpha
          pixels_size := b.contents_size pixels mapped }
  | _, _ => .error (.unsupported backendName "import of unmapped buffers")

def createImage (c : Canvas) (id : ImageId) (b : Buffer) : Except RenderError Canvas :=
  match c with
  | live fb images => (imageOf b).map fun image => live fb (images.insert id image)
  | terminated _ => .error .terminated

/-- Drops an image. Gives whether it was there. -/
def destroyImage (c : Canvas) (id : ImageId) : Bool × Canvas :=
  match c with
  | live fb images => (images.contains id, live fb (images.erase id))
  | terminated _ => (false, c)

/-- Changes the size. A new size blanks the canvas, the old one leaves it alone. -/
def resize (c : Canvas) (size : Size) : Except RenderError Canvas :=
  match c with
  | live fb images =>
    if size = fb.size then .ok c
    else
      match Framebuffer.allocate? size with
      | some fresh => .ok (live fresh images)
      | none => .error (.outOfMemory "framebuffer")
  | terminated _ => .error .terminated

/-- Whether a change of size takes a new framebuffer. -/
def takesMemory (c : Canvas) (size : Size) : Bool :=
  match c with
  | live fb _ => size ≠ fb.size
  | terminated _ => false

def clear (c : Canvas) (colour : Colour) : Canvas :=
  match c with
  | live fb images => live (fb.fill colour.pack) images
  | terminated _ => c

def draw (c : Canvas) (id : ImageId) (p : Placement) : Except RenderError Canvas :=
  match c with
  | live fb images =>
    match images.get? id with
    | some image => .ok (live (fb.draw image p) images)
    | none => .error (.imageNotFound id)
  | terminated _ => .error .terminated

def terminate (c : Canvas) : Canvas := terminated c.size

end Canvas

end Compositing
