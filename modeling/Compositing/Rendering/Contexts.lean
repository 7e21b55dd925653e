import Compositing.Rendering.Context

/-!
# Choosing backends and sharing them out

Backends are probed in order for every screen, and the first that can be set up makes the screen's
context. One context at a time is current. A context whose frame the screen did not take is degraded:
nothing is presented through it until that is cleared.
-/

namespace Compositing

/-- How a backend comes to its contexts. -/
inductive Construction where
  /-- Rendering in memory, always there. -/
  | memory
  | missing (reason : String)
  /-- A device of the host that shows what is rendered in memory. -/
  | device
  /-- A device of the host that renders by itself. -/
  | native
  deriving DecidableEq, Repr

structure Backend where
  name : String
  construction : Construction
  deriving DecidableEq, Repr

namespace Backend

def builtinNames : List String := ["egl", "software"]

/-- The names probed when nothing else is configured. -/
def defaultNames : List String := ["software"]

def software : Backend := ⟨"software", .memory⟩

def egl : Backend := ⟨"egl", .missing "built without the `egl` feature"⟩

def builtin (name : String) : Except RenderError Backend :=
  match name with
  | "egl" => .ok egl
  | "software" => .ok software
  | _ => .error (.unknownBackend name)

/-- Sets up a context for a screen of a size. Gives also what the host was told. -/
def construct (b : Backend) (device : DeviceAnswers) (id : ContextId) (size : Size) :
    Except RenderError RenderContext × List Event :=
  let make (engine : Engine) : RenderContext := { id, backend := b.name, engine }
  let answer := device.call id b.name .construct
  let asked : List Event := [.device b.name none .construct]
  let canvas := Canvas.granted size (device.short id size) (Canvas.ofSize size)
  match b.construction with
  | .memory => (canvas.map fun canvas => make (.memory canvas), [])
  | .missing reason => (.error (.construction b.name reason), [])
  | .device =>
    (answer.bind fun _ => canvas.map fun canvas => make (.device canvas 0), asked)
  | .native => (answer.map fun _ => make .native, asked)

end Backend

structure RenderHandle where
  context : RenderContext
  /-- A screen did not take a frame of the context, and that was not cleared since. -/
  degraded : Bool := false

namespace RenderHandle

def id (h : RenderHandle) : ContextId := h.context.id

def clearDegraded (h : RenderHandle) : RenderHandle := { h with degraded := false }

end RenderHandle

/-- The backends, and which context is current. -/
structure Contexts where
  backends : List Backend
  bound : Option ContextId := none
  nextId : ContextId := ⟨1⟩

namespace Contexts

def ofNames (names : List String) : Except RenderError Contexts := do
  let backends ← names.mapM Backend.builtin
  return { backends }

/-- Probes the built-in backends that are tried when nothing else is configured. -/
def standard : Contexts := { backends := [Backend.software] }

/-- Takes a constructed context into use. Its name is used up. -/
def adopt (cs : Contexts) (context : RenderContext) : RenderHandle × Contexts :=
  ({ context }, { cs with nextId := context.id.next })

/-- The first backend of a list that can be set up, with what the host was told. -/
def probe (device : DeviceAnswers) (id : ContextId) (size : Size) :
    List Backend → Option RenderContext × List Event
  | [] => (none, [])
  | b :: rest =>
    match b.construct device id size with
    | (.ok context, told) => (some context, told)
    | (.error _, told) =>
      let (found, later) := probe device id size rest
      (found, told ++ later)

def create (cs : Contexts) (device : DeviceAnswers) (size : Size) :
    Except RenderError RenderHandle × Contexts × List Event :=
  match probe device cs.nextId size cs.backends with
  | (some context, told) =>
    let (handle, cs) := cs.adopt context
    (.ok handle, cs, told)
  | (none, told) => (.error (.noUsableBackend (cs.backends.map (·.name))), cs, told)

/-- What binding or presenting gives: the result, the contexts and the handle afterwards, and what the
host was told. -/
structure Step where
  result : Except RenderError Unit
  contexts : Contexts
  handle : RenderHandle
  events : List Event

/-- Makes a context current. Nothing is done if it is already. -/
def bind (cs : Contexts) (device : DeviceAnswers) (h : RenderHandle) : Step :=
  if cs.bound = some h.id then ⟨.ok (), cs, h, []⟩
  else
    let step := h.context.bind device
    let handle := { h with context := step.context }
    match step.result with
    | .ok _ => ⟨.ok (), { cs with bound := some h.id }, handle, step.events⟩
    | .error e => ⟨.error e, cs, handle, step.events⟩

/-- Presents what was drawn in a context that is current. A frame the screen does not take degrades the
context; that is no error. -/
def present (h : RenderHandle) (device : DeviceAnswers) (screen : Screen) :
    Except RenderError Unit × RenderHandle × List Event :=
  if h.degraded then (.ok (), h, [])
  else
    let step := h.context.swap device screen
    let handle := { h with context := step.context }
    match step.result with
    -- Only a refused flip degrades the context. What else fails is an error of the pass.
    | .error (.pageFlip _) => (.ok (), { handle with degraded := true }, step.events)
    | result => (result, handle, step.events)

def swap (cs : Contexts) (device : DeviceAnswers) (h : RenderHandle) (screen : Screen) : Step :=
  let bound := cs.bind device h
  match bound.result with
  | .error _ => bound
  | .ok _ =>
    let (result, handle, told) := present bound.handle device screen
    ⟨result, bound.contexts, handle, bound.events ++ told⟩

/-- Terminates a context, which is not current any more. -/
def terminate (cs : Contexts) (h : RenderHandle) : Contexts × List Event :=
  ({ cs with bound := if cs.bound = some h.id then none else cs.bound }, h.context.terminate.2)

end Contexts

end Compositing
