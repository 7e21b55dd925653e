import Compositing.Rendering.Contexts

/-!
# Rendering an output

The renderer of an output holds its render context and the images of the surfaces it shows. A render
pass makes the context current, clears the frame, draws the items from bottom to top and presents.
-/

namespace Compositing

/-- A surface to draw, and where. -/
structure PaintItem where
  surface : SurfaceId
  placement : Placement
  deriving DecidableEq, Repr, Inhabited

structure Renderer where
  handle : RenderHandle
  images : Table SurfaceId ImageId := Table.empty

namespace Renderer

def withContext (r : Renderer) (context : RenderContext) : Renderer :=
  { r with handle := { r.handle with context } }

def image? (r : Renderer) (surface : SurfaceId) : Option ImageId := r.images.get? surface

/-- Drops the image of a surface, if it has one. -/
def detach (r : Renderer) (surface : SurfaceId) : Renderer :=
  match r.images.get? surface with
  | some old =>
    { r.withContext (r.handle.context.destroyImage old).2 with images := r.images.erase surface }
  | none => r

/-- What an import leaves: the renderer, the name for the next image, and what the host was told. -/
structure Import where
  renderer : Renderer
  nextImage : ImageId
  events : List Event

/-- Imports a buffer as the image of a surface, in place of the one before. A buffer that cannot be
imported leaves the surface without an image. -/
def attach (r : Renderer) (device : DeviceAnswers) (nextImage : ImageId) (surface : SurfaceId)
    (buffer : Option Buffer) : Import :=
  -- The old image goes first, also when the new buffer cannot be imported.
  let bare := r.detach surface
  match buffer with
  | none => ⟨bare, nextImage, []⟩
  | some b =>
    let step := bare.handle.context.createImage device nextImage b
    let next := bare.withContext step.context
    match step.result with
    | .ok _ =>
      ⟨{ next with images := next.images.insert surface nextImage }, nextImage.next, step.events⟩
    | .error _ => ⟨next, nextImage, step.events⟩

/-- Changes the size of the frames. A context that cannot follow stays as it is. -/
def resize (r : Renderer) (device : DeviceAnswers) (size : Size) : Renderer × List Event :=
  let step := r.handle.context.resize device size
  (r.withContext step.context, step.events)

/-- Draws the items that have an image, until the context refuses one. -/
def drawItems (r : Renderer) (device : DeviceAnswers) (items : List PaintItem) :
    RenderContext.Step :=
  items.foldl
    (fun done item =>
      match done.result, r.image? item.surface with
      | .ok _, some image =>
        let step := done.context.draw device image item.placement
        { step with events := done.events ++ step.events }
      -- An item without an image is passed over; after a refusal nothing more is drawn.
      | _, _ => done)
    ⟨.ok (), r.handle.context, []⟩

structure Pass where
  result : Except RenderError Unit
  contexts : Contexts
  renderer : Renderer
  events : List Event

def repaint (r : Renderer) (contexts : Contexts) (device : DeviceAnswers) (screen : Screen)
    (background : Colour) (items : List PaintItem) : Pass :=
  let bound := contexts.bind device r.handle
  let current := { r with handle := bound.handle }
  match bound.result with
  | .error e => ⟨.error e, bound.contexts, current, bound.events⟩
  | .ok _ =>
    let cleared := current.withContext (current.handle.context.clear background)
    let drawn := cleared.drawItems device items
    let painted := cleared.withContext drawn.context
    match drawn.result with
    | .error e => ⟨.error e, bound.contexts, painted, bound.events ++ drawn.events⟩
    | .ok _ =>
      -- The context is current already, so swapping only presents.
      let shown := bound.contexts.swap device painted.handle screen
      ⟨shown.result, shown.contexts, { painted with handle := shown.handle },
        bound.events ++ drawn.events ++ shown.events⟩

/-- Drops every image and terminates the context. -/
def terminate (r : Renderer) (contexts : Contexts) : Contexts × List Event :=
  let bare := r.images.keys.foldl detach r
  contexts.terminate bare.handle

end Renderer

end Compositing
