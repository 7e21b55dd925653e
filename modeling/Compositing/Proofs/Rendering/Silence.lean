import Compositing.Rendering.Renderer

/-!
# Rendering speaks to neither clients nor the policy

Contexts, backends and renderers tell screens and devices what they do, and nobody else.
-/

namespace Compositing

/-- What the transport is told by a list of events. -/
def transportEvents (events : List Event) : List TransportEvent :=
  events.filterMap fun
    | .transport event => some event
    | _ => none

@[simp] theorem transportEvents_nil : transportEvents [] = [] := rfl

@[simp] theorem transportEvents_append (first second : List Event) :
    transportEvents (first ++ second) = transportEvents first ++ transportEvents second :=
  List.filterMap_append

@[simp] theorem transportEvents_map (events : List TransportEvent) :
    transportEvents (events.map .transport) = events := by
  rw [transportEvents, List.filterMap_map]
  exact List.filterMap_some

/-- What the policy is told by a list of events. -/
def policyEvents (events : List Event) : List PolicyEvent :=
  events.filterMap fun
    | .policy event => some event
    | _ => none

@[simp] theorem policyEvents_nil : policyEvents [] = [] := rfl

@[simp] theorem policyEvents_append (first second : List Event) :
    policyEvents (first ++ second) = policyEvents first ++ policyEvents second :=
  List.filterMap_append

@[simp] theorem policyEvents_cons (event : PolicyEvent) (events : List Event) :
    policyEvents (.policy event :: events) = event :: policyEvents events := rfl

@[simp] theorem policyEvents_map_transport (events : List TransportEvent) :
    policyEvents (events.map .transport) = [] := by
  rw [policyEvents, List.filterMap_map]
  simp

/-- The event goes to a screen or to a device. -/
def Event.isTechnical : Event → Bool
  | screen _ | device _ _ _ => true
  | transport _ | policy _ => false

def Technical (events : List Event) : Prop := events.all Event.isTechnical = true

@[simp] theorem technical_nil : Technical [] := rfl

@[simp] theorem technical_append {first second : List Event} :
    Technical (first ++ second) ↔ Technical first ∧ Technical second := by
  simp [Technical]

theorem Technical.filterMap_eq_nil {α : Type} {events : List Event} (technical : Technical events)
    {hear : Event → Option α} (deaf : ∀ event, event.isTechnical = true → hear event = none) :
    events.filterMap hear = [] :=
  List.filterMap_eq_nil_iff.2 fun event member =>
    deaf event (List.all_eq_true.1 technical event member)

@[simp] theorem transportEvents_of_technical {events : List Event} (technical : Technical events) :
    transportEvents events = [] :=
  technical.filterMap_eq_nil fun event technical => by cases event <;> first | rfl | cases technical

@[simp] theorem policyEvents_of_technical {events : List Event} (technical : Technical events) :
    policyEvents events = [] :=
  technical.filterMap_eq_nil fun event technical => by cases event <;> first | rfl | cases technical

/-! ### Contexts -/

namespace RenderContext

variable (ctx : RenderContext) (device : DeviceAnswers)

@[simp] theorem technical_told (call : DeviceCall) (events : List Event) :
    Technical (ctx.told call :: events) ↔ Technical events := .rfl

@[simp] theorem technical_onCanvas (call : DeviceCall)
    (work : Canvas → Except RenderError Canvas) :
    Technical (ctx.onCanvas device call work).events := by
  unfold onCanvas
  split
  · split <;> rfl
  · simp only [ask]
    split <;> rfl
  · rfl

@[simp] theorem technical_bind : Technical (ctx.bind device).events := by
  unfold bind
  split
  · rfl
  · exact technical_onCanvas ..

theorem technical_flip (screen : Screen) (frame : Frame) :
    Technical (flip screen frame).2 := by
  unfold flip
  split <;> rfl

theorem technical_flipCanvas (canvas : Canvas) (screen : Screen) :
    Technical (flipCanvas canvas screen).2 := by
  unfold flipCanvas
  split
  · exact technical_flip ..
  · rfl

@[simp] theorem technical_swap (screen : Screen) :
    Technical (ctx.swap device screen).events := by
  unfold swap
  simp only [ask]
  split
  · exact technical_flipCanvas ..
  · split <;> simp [technical_flipCanvas]
  · split <;> simp [technical_flip]

@[simp] theorem technical_terminate : Technical ctx.terminate.2 := by
  unfold terminate
  split <;> rfl

@[simp] theorem technical_shareDisplay (display : UInt64) :
    Technical (ctx.shareDisplay device display).2 := by
  unfold shareDisplay
  split <;> rfl

@[simp] theorem technical_createImage (id : ImageId) (b : Buffer) :
    Technical (ctx.createImage device id b).events := by
  unfold createImage
  simp only
  split <;> simp

end RenderContext

/-! ### Backends -/

theorem Backend.technical_construct (b : Backend) (device : DeviceAnswers) (id : ContextId)
    (size : Size) : Technical (b.construct device id size).2 := by
  unfold construct
  simp only
  split <;> rfl

namespace Contexts

variable (cs : Contexts) (device : DeviceAnswers)

theorem technical_probe (id : ContextId) (size : Size) (backends : List Backend) :
    Technical (probe device id size backends).2 := by
  induction backends with
  | nil => rfl
  | cons b rest ih =>
    have asked := b.technical_construct device id size
    unfold probe
    split <;> simp_all

@[simp] theorem technical_create (size : Size) :
    Technical (cs.create device size).2.2 := by
  have probed := technical_probe device cs.nextId size cs.backends
  unfold create
  split <;> simp_all

@[simp] theorem technical_bind (h : RenderHandle) :
    Technical (cs.bind device h).events := by
  unfold bind
  split
  · rfl
  · simp only
    split <;> exact RenderContext.technical_bind ..

theorem technical_present (h : RenderHandle) (screen : Screen) :
    Technical (present h device screen).2.2 := by
  unfold present
  split
  · rfl
  · simp only
    split <;> exact RenderContext.technical_swap ..

@[simp] theorem technical_swap (h : RenderHandle) (screen : Screen) :
    Technical (cs.swap device h screen).events := by
  unfold swap
  simp only
  split
  · exact technical_bind ..
  · simp [technical_present]

end Contexts

/-! ### Renderers -/

namespace Renderer

variable (r : Renderer) (device : DeviceAnswers)

@[simp] theorem technical_attach (next : ImageId) (k : SurfaceId) (b : Option Buffer) :
    Technical (r.attach device next k b).events := by
  unfold attach
  split
  · rfl
  · simp only
    split <;> exact RenderContext.technical_createImage ..

@[simp] theorem technical_resize (size : Size) :
    Technical (r.resize device size).2 :=
  RenderContext.technical_onCanvas ..

@[simp] theorem technical_drawItems (items : List PaintItem) :
    Technical (r.drawItems device items).events := by
  unfold drawItems
  -- However much was drawn before an item, the transport was told nothing of it.
  generalize start : (⟨.ok (), r.handle.context, []⟩ : RenderContext.Step) = done
  have silent : Technical done.events := start ▸ rfl
  clear start
  induction items generalizing done with
  | nil => exact silent
  | cons item items ih =>
    rw [List.foldl_cons]
    apply ih
    split
    · simp [silent, RenderContext.draw]
    · exact silent

@[simp] theorem technical_repaint (contexts : Contexts) (screen : Screen)
    (background : Colour) (items : List PaintItem) :
    Technical (r.repaint contexts device screen background items).events := by
  unfold repaint
  simp only
  split
  · simp
  · split <;> simp

@[simp] theorem technical_terminate (contexts : Contexts) :
    Technical (r.terminate contexts).2 :=
  RenderContext.technical_terminate _

end Renderer

end Compositing
