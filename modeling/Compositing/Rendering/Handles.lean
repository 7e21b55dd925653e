import Compositing.Rendering.Contexts

/-!
# Handles in use

Whoever has a context created holds a handle of it. A context is terminated when it is handed back, and
else when its handle is given up.
-/

namespace Compositing

namespace RenderHandle

/-- What is terminated when a handle is given up: its context, unless that was done before. Gives the
context as that leaves it, and what the host was told. -/
def drop (h : RenderHandle) (terminated : Bool) : List (RenderContext × List Event) :=
  if terminated then [] else [h.context.terminate]

end RenderHandle

/-- What is asked of contexts by those who hold their handles. -/
inductive HandleRequest where
  | create (size : Size)
  /-- Takes a context into use that was set up elsewhere. -/
  | adopt (backend : String) (engine : Engine)
  | bind (context : ContextId)
  | swap (context : ContextId) (screen : Screen)
  | clearDegraded (context : ContextId)
  | terminate (context : ContextId)
  | drop (context : ContextId)

/-- The contexts with the handles that are held, and what became of the others. -/
structure Rack where
  contexts : Contexts
  handles : Table ContextId RenderHandle := Table.empty
  /-- The contexts that were terminated, each as often as it was, as that left them. -/
  ended : List RenderContext := []
  log : List Event := []

namespace Rack

def ofBackends (backends : List Backend) : Rack := { contexts := { backends } }

def tell (rack : Rack) (events : List Event) : Rack := { rack with log := rack.log ++ events }

/-- Notes which contexts were terminated. -/
def note (rack : Rack) (terminated : List (RenderContext × List Event)) : Rack :=
  { rack.tell (terminated.flatMap Prod.snd) with
    ended := rack.ended ++ terminated.map Prod.fst }

/-- Keeps the handle of a context that was taken into use. -/
def hold (rack : Rack) (h : RenderHandle) : Rack :=
  { rack with handles := rack.handles.insert h.id h }

/-- Takes over what binding or presenting a context gave. -/
def settle (rack : Rack) (step : Contexts.Step) : Rack :=
  { rack with
    contexts := step.contexts
    handles := rack.handles.insert step.handle.id step.handle }.tell step.events

/-- What a request does. One about a handle that is not held does nothing. -/
def handle (rack : Rack) (device : DeviceAnswers) (request : HandleRequest) : Rack :=
  let held (context : ContextId) (work : RenderHandle → Rack) : Rack :=
    (rack.handles.get? context).elim rack work
  match request with
  | .create size =>
    let (result, contexts, events) := rack.contexts.create device size
    let rack := { rack with contexts }.tell events
    match result with
    | .ok h => rack.hold h
    | .error _ => rack
  | .adopt backend engine =>
    let (h, contexts) := rack.contexts.adopt ⟨rack.contexts.nextId, backend, engine⟩
    { rack with contexts }.hold h
  | .bind context => held context fun h => rack.settle (rack.contexts.bind device h)
  | .swap context screen => held context fun h => rack.settle (rack.contexts.swap device h screen)
  | .clearDegraded context => held context fun h => rack.hold h.clearDegraded
  | .terminate context =>
    held context fun h =>
      let (contexts, events) := rack.contexts.terminate h
      let rack := { rack with contexts, handles := rack.handles.erase context }
      -- The handle is given up at once, and its context is terminated by then.
      (rack.note [(h.context.terminate.1, events)]).note (h.drop true)
  | .drop context =>
    held context fun h =>
      { rack with handles := rack.handles.erase context }.note (h.drop false)

/-- What the holder of a handle is answered who asks to make its context current, or to present what was
drawn in it. -/
def answer? (rack : Rack) (device : DeviceAnswers) (request : HandleRequest) :
    Option (Except RenderError Unit) :=
  match request with
  | .bind context => (rack.handles.get? context).map fun h => (rack.contexts.bind device h).result
  | .swap context screen =>
    (rack.handles.get? context).map fun h => (rack.contexts.swap device h screen).result
  | _ => none

def run (rack : Rack) (requests : List (DeviceAnswers × HandleRequest)) : Rack :=
  requests.foldl (fun rack (device, request) => rack.handle device request) rack

end Rack

end Compositing
