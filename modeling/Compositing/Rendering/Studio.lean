import Compositing.Buffer.Pool
import Compositing.Rendering.Context

/-!
# Canvases in use

A studio has the canvases that were set up, and the buffers that images are made of. Names of images are
drawn from one counter for all of its canvases.
-/

namespace Compositing

/-- What is asked of a canvas by its holder. The host can be short of memory at any time. -/
inductive CanvasRequest where
  | createImage (buffer : BufferId)
  | destroyImage (image : ImageId)
  | clear (colour : Colour)
  | draw (image : ImageId) (placement : Placement)
  | resize (size : Size) (short : Bool)
  | bind
  | swap (screen : Screen)
  | terminate

inductive StudioRequest where
  | setUp (size : Size) (short : Bool)
  | ask (canvas : ContextId) (request : CanvasRequest)
  /-- Clients go on using their buffers. -/
  | buffers (request : PoolRequest)

inductive StudioReply where
  | opened (canvas : ContextId)
  | imported (image : ImageId)
  /-- Whether the image was there. -/
  | dropped (found : Bool)
  | done
  | refused (error : RenderError)
  /-- There is no canvas, or no buffer, of that name. -/
  | unknown
  | buffers (reply : PoolReply)
  deriving DecidableEq, Repr

/-- The name that was handed out for an image. -/
def StudioReply.imported? : StudioReply → Option ImageId
  | imported image => some image
  | _ => none

namespace Canvas

/-- The reply to a request and the canvas afterwards; a refused request leaves the canvas as it was. -/
def settle (c : Canvas) (reply : StudioReply) (result : Except RenderError Canvas) :
    StudioReply × Canvas :=
  match result with
  | .ok after => (reply, after)
  | .error e => (.refused e, c)

/-- What a request does to a canvas, given the buffers as they are now and the next name of an image. -/
def handle (c : Canvas) (pool : BufferPool) (next : ImageId) (request : CanvasRequest) :
    StudioReply × Canvas :=
  match request with
  | .createImage buffer =>
    match pool.get? buffer with
    | some b => c.settle (.imported next) (c.createImage next b)
    | none => (.unknown, c)
  | .destroyImage image =>
    let (found, rest) := c.destroyImage image
    (.dropped found, rest)
  | .clear colour => (.done, c.clear colour)
  | .draw image p => c.settle .done (c.draw image p)
  | .resize size short =>
    c.settle .done (granted size (short && c.takesMemory size) (c.resize size))
  | .bind => c.settle .done (c.checkLive.map fun _ => c)
  | .swap screen => c.settle .done ((RenderContext.flipCanvas c screen).1.map fun _ => c)
  | .terminate => (.done, c.terminate)

end Canvas

structure Studio where
  canvases : Table ContextId Canvas := Table.empty
  pool : BufferPool := .empty
  nextCanvas : ContextId := ⟨1⟩
  nextImage : ImageId := ⟨1⟩

namespace Studio

def empty : Studio := {}

def handle (studio : Studio) (request : StudioRequest) : StudioReply × Studio :=
  match request with
  | .setUp size short =>
    match Canvas.granted size short (Canvas.ofSize size) with
    | .ok canvas =>
      (.opened studio.nextCanvas,
        { studio with
          canvases := studio.canvases.insert studio.nextCanvas canvas
          nextCanvas := studio.nextCanvas.next })
    | .error e => (.refused e, studio)
  | .ask id request =>
    match studio.canvases.get? id with
    | some c =>
      let (reply, after) := c.handle studio.pool studio.nextImage request
      (reply,
        { studio with
          canvases := studio.canvases.insert id after
          -- A name is used up only by an import that went well.
          nextImage := if reply.imported?.isSome then studio.nextImage.next else studio.nextImage })
    | none => (.unknown, studio)
  | .buffers request =>
    let (reply, pool) := studio.pool.handle request
    (.buffers reply, { studio with pool })

def run (studio : Studio) (requests : List StudioRequest) : Studio :=
  requests.foldl (fun studio request => (studio.handle request).2) studio

/-- The replies to requests that come one after the other. -/
def replies (studio : Studio) : List StudioRequest → List StudioReply
  | [] => []
  | request :: rest => (studio.handle request).1 :: (studio.handle request).2.replies rest

end Studio

end Compositing
