import Compositing.Event
import Compositing.Rendering.Canvas

/-!
# Render contexts

A context draws and presents the frames of one output. What it does depends on its engine:

* `memory` renders on a canvas and hands its pixels to the screen;
* `device` does the same, but a device of the host is asked first and can refuse;
* `native` leaves drawing to a device of the host, which always accepts what is drawn.

Each operation gives its result, the context afterwards and the events, in the order they happen.
-/

namespace Compositing

inductive Engine where
  | memory (canvas : Canvas)
  /-- With the count of images imported and not destroyed. -/
  | device (canvas : Canvas) (images : Nat)
  | native

structure RenderContext where
  id : ContextId
  backend : String
  engine : Engine

/-- How the host answers its contexts while it is asked for one thing. -/
structure DeviceAnswers where
  /-- What the device of the named backend says to a call for a context: it goes along, or gives the
  reason why not. -/
  call : ContextId → String → DeviceCall → Except RenderError Unit
  /-- Whether memory is too short for a framebuffer of that size. -/
  short : ContextId → Size → Bool

/-- Where a context's frames go: the screen's name, and its answer if it gets a frame now. -/
structure Screen where
  name : String
  answer : Except String Unit

inductive BufferQuery where
  | width
  | height
  | yInverted
  deriving DecidableEq, Repr, Inhabited

def BufferQuery.answer (q : BufferQuery) (b : Buffer) : Nat :=
  match q with
  | width => b.size.width.toNat
  | height => b.size.height.toNat
  | yInverted => b.yInverted.toNat

namespace RenderContext

/-- The result of an operation, the context afterwards, and what the host was told. -/
structure Step where
  result : Except RenderError Unit
  context : RenderContext
  events : List Event

/-- The event of a call on the device that the context belongs to. -/
def told (ctx : RenderContext) (call : DeviceCall) : Event := .device ctx.backend (some ctx.id) call

/-- Makes a call on the device that the context belongs to. -/
def ask (ctx : RenderContext) (device : DeviceAnswers) (call : DeviceCall) :
    Except RenderError Unit × List Event :=
  (device.call ctx.id ctx.backend call, [ctx.told call])

/-- The context with another canvas, if it renders in memory. -/
def withCanvas (ctx : RenderContext) (canvas : Canvas) : RenderContext :=
  match ctx.engine with
  | .memory _ => { ctx with engine := .memory canvas }
  | .device _ images => { ctx with engine := .device canvas images }
  | .native => ctx

/-- The canvas of a context that renders in memory. -/
def canvas? (ctx : RenderContext) : Option Canvas :=
  match ctx.engine with
  | .memory canvas | .device canvas _ => some canvas
  | .native => none

/-- Work on the canvas, after the device of the host, if there is one, has gone along with it. -/
def onCanvas (ctx : RenderContext) (device : DeviceAnswers) (call : DeviceCall)
    (work : Canvas → Except RenderError Canvas) : Step :=
  match ctx.engine with
  | .memory canvas =>
    match work canvas with
    | .ok done => ⟨.ok (), ctx.withCanvas done, []⟩
    | .error e => ⟨.error e, ctx, []⟩
  | .device canvas _ =>
    let (answer, events) := ctx.ask device call
    -- The device is asked even if the canvas then refuses.
    match answer.bind fun _ => work canvas with
    | .ok done => ⟨.ok (), ctx.withCanvas done, events⟩
    | .error e => ⟨.error e, ctx, events⟩
  | .native => ⟨.ok (), ctx, []⟩

def bind (ctx : RenderContext) (device : DeviceAnswers) : Step :=
  match ctx.engine with
  | .native =>
    let (answer, events) := ctx.ask device .bind
    ⟨answer, ctx, events⟩
  | _ => ctx.onCanvas device .bind fun canvas => canvas.checkLive.map fun _ => canvas

def flip (screen : Screen) (frame : Frame) : Except RenderError Unit × List Event :=
  match screen.answer with
  | .ok _ => (.ok (), [.screen (.flipped screen.name frame)])
  | .error reason => (.error (.pageFlip reason), [.screen (.flipFailed screen.name)])

def flipCanvas (canvas : Canvas) (screen : Screen) : Except RenderError Unit × List Event :=
  match canvas.checkLive with
  | .ok _ => flip screen (.pixels canvas.size canvas.pixels)
  | .error e => (.error e, [])

def swap (ctx : RenderContext) (device : DeviceAnswers) (screen : Screen) : Step :=
  let present (call : DeviceCall) (handOver : Except RenderError Unit × List Event) : Step :=
    let (answer, asked) := ctx.ask device call
    match answer with
    | .ok _ => ⟨handOver.1, ctx, asked ++ handOver.2⟩
    | .error e => ⟨.error e, ctx, asked⟩
  match ctx.engine with
  | .memory canvas =>
    let (result, events) := flipCanvas canvas screen
    ⟨result, ctx, events⟩
  | .device canvas images => present (.swap (some images)) (flipCanvas canvas screen)
  | .native => present (.swap none) (flip screen .native)

def terminate (ctx : RenderContext) : RenderContext × List Event :=
  match ctx.engine with
  | .memory canvas => (ctx.withCanvas canvas.terminate, [])
  | .device canvas images =>
    (ctx.withCanvas canvas.terminate, [ctx.told (.terminate (some images))])
  | .native => (ctx, [ctx.told (.terminate none)])

/-- Lets clients share buffers with the context through the host's display. -/
def shareDisplay (ctx : RenderContext) (device : DeviceAnswers) (display : UInt64) :
    Except RenderError Unit × List Event :=
  match ctx.engine with
  | .device _ _ => ctx.ask device (.shareDisplay display)
  | _ => (.error (.unsupported ctx.backend "bind_to_display"), [])

def createImage (ctx : RenderContext) (device : DeviceAnswers) (id : ImageId) (b : Buffer) : Step :=
  let step := ctx.onCanvas device (.importBuffer b.id) fun canvas => canvas.createImage id b
  match step.result, step.context.engine with
  -- Only images that were imported are counted.
  | .ok _, .device canvas images =>
    { step with context := { step.context with engine := .device canvas (images + 1) } }
  | _, _ => step

/-- Drops an image. Gives whether it was there. -/
def destroyImage (ctx : RenderContext) (id : ImageId) : Bool × RenderContext :=
  match ctx.engine with
  | .memory canvas =>
    let (found, rest) := canvas.destroyImage id
    (found, { ctx with engine := .memory rest })
  | .device canvas images =>
    let (found, rest) := canvas.destroyImage id
    (found, { ctx with engine := .device rest (if found then images - 1 else images) })
  | .native => (true, ctx)

def resize (ctx : RenderContext) (device : DeviceAnswers) (size : Size) : Step :=
  ctx.onCanvas device (.resize size) fun canvas =>
    -- The old framebuffer is enough for the old size.
    Canvas.granted size (device.short ctx.id size && canvas.takesMemory size) (canvas.resize size)

def clear (ctx : RenderContext) (colour : Colour) : RenderContext :=
  match ctx.canvas? with
  | some canvas => ctx.withCanvas (canvas.clear colour)
  | none => ctx

/-- The address of an entry point of the backend. No engine offers any. -/
def entryPoint? (_ctx : RenderContext) (_name : String) : Option UInt64 := none

def draw (ctx : RenderContext) (device : DeviceAnswers) (id : ImageId) (p : Placement) : Step :=
  ctx.onCanvas device (.draw id p) fun canvas => canvas.draw id p

end RenderContext

end Compositing
