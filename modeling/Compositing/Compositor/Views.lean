import Compositing.Compositor.State

/-!
# Views of the compositor

Creating and destroying views, moving them between outputs, focus, and what clients and the policy ask
of them.
-/

namespace Compositing.Compositor

/-! ### Lifetime -/

/-- Takes a view out of the compositor, with its protocol object, its place on its output and the
focus. Gives whether it was there. -/
def discardView (c : Compositor) (id : ViewId) : Bool × Compositor :=
  match c.views.get? id with
  | none => (false, c)
  | some view =>
    let c := { c with views := c.views.erase id }
    let c := c.destroyResource view.role
    let c :=
      match view.output with
      | some output =>
        c.modifyOutput output fun o => ((o.removeView id).detach view.surface).schedule
      | none => c
    -- The surface may take another role afterwards.
    let c := c.modifySurface view.surface fun s => { s with view := none }
    (true, { c with focused := if c.focused = some id then none else c.focused })

/-- Destroys a view; its surface stays. -/
def destroyView (c : Compositor) (id : ViewId) : Compositor :=
  match c.discardView id with
  | (true, c) => c.tellPolicy (.viewDestroyed id)
  | (false, c) => c

/-- Makes a view of a surface that got a role. Gives none if the policy rejects it. -/
def createView (c : Compositor) (host : Host) (surface : SurfaceId) (role : Handle) :
    Except CompositorError (Option ViewId) × Compositor :=
  match c.surfaces.get? surface with
  | none => (.error (.invalidHandle "surface"), c)
  | some target =>
    if target.view.isSome then (.error (.invalidHandle "surface without a role"), c)
    else
      let id := c.nextIds.view
      let c := c.modifySurface surface fun s => { s with view := some id }
      let c :=
        { c with
          views := c.views.insert id (View.ofRole id surface role)
          nextIds := { c.nextIds with view := id.next } }
      let c := (c.own role (.view id)).tellPolicy (.viewCreated id)
      if host.acceptView id then (.ok (some id), c) else (.ok none, (c.discardView id).2)

/-! ### Outputs -/

def leaveOutput (c : Compositor) (view : ViewId) (surface : SurfaceId) (output : Option OutputId) :
    Compositor :=
  match output with
  | some output => c.modifyOutput output fun o => ((o.removeView view).detach surface).schedule
  | none => c

/-- The view joins an output, which imports the buffer that its surface shows. -/
def joinOutput (c : Compositor) (host : Host) (view : ViewId) (surface : SurfaceId)
    (output : Option OutputId) : Compositor :=
  match output.bind fun id => (c.outputs.get? id).map fun o => (id, o) with
  | none => c
  | some (id, o) =>
    let joined := o.addView view
    match joined.renderer, (c.surfaces.get? surface).bind (·.buffer) with
    -- The surface may have been committed while no output showed it.
    | some renderer, some buffer =>
      let attached :=
        renderer.attach host.device c.nextIds.image surface (c.buffers.get? buffer)
      let c := c.modifyOutput id fun _ =>
        { joined with renderer := some attached.renderer }.schedule
      { c with nextIds := { c.nextIds with image := attached.nextImage } }.tell attached.events
    | _, _ => c.modifyOutput id fun _ => joined.schedule

/-- Moves a view to an output, or off all outputs. Gives whether both exist. -/
def setViewOutput (c : Compositor) (host : Host) (id : ViewId) (output : Option OutputId) :
    Bool × Compositor :=
  if output.any fun o => !c.outputs.contains o then (false, c)
  else
    match c.views.get? id with
    | none => (false, c)
    | some view =>
      if view.output = output then (true, c)
      else
        let c := c.modifyView id fun v => { v with output }
        -- The old output drops the image before the new one imports it.
        let c := c.leaveOutput id view.surface view.output
        let c := c.joinOutput host id view.surface output
        (true, c.tellPolicy (.moved id view.output output))

/-! ### State and focus -/

def setViewState (c : Compositor) (id : ViewId) (bits : UInt32) (on : Bool) : Compositor :=
  match c.views.get? id with
  | none => c
  | some view =>
    let (changed, view) := view.switchState bits on
    let c := c.modifyView id fun _ => view
    if changed then c.scheduleView id else c

/-- Gives the focus to a view, or to none; a view that does not exist counts as none. -/
def focusView (c : Compositor) (view : Option ViewId) : Compositor :=
  let view := view.filter c.views.contains
  if view = c.focused then c
  else
    let c :=
      match c.focused with
      | some old =>
        (c.setViewState old activatedBit false).tellPolicy (.focusChanged old false)
      | none => c
    let c :=
      match view with
      | some new => (c.setViewState new activatedBit true).tellPolicy (.focusChanged new true)
      | none => c
    -- The bit of the state moves before the focus itself does.
    { c with focused := view }

def setViewType (c : Compositor) (id : ViewId) (bits : UInt32) (on : Bool) : Compositor :=
  c.modifyView id fun v => v.switchType bits on

def setViewMask (c : Compositor) (id : ViewId) (mask : UInt32) : Compositor :=
  match c.views.get? id with
  | none => c
  | some view =>
    if view.mask = mask then c
    else (c.modifyView id fun v => { v with mask }).scheduleView id

def setViewGeometry (c : Compositor) (id : ViewId) (geometry : Placement) : Compositor :=
  if c.views.contains id then (c.modifyView id fun v => { v with geometry }).scheduleView id
  else c

/-- A client asks for a geometry, which the policy may claim for itself. -/
def requestGeometry (c : Compositor) (host : Host) (id : ViewId) (geometry : Placement) :
    Compositor :=
  if c.views.contains id then
    -- The policy hears of the request also if it then claims it.
    let c := c.tellPolicy (.geometryRequested id geometry)
    if host.claimGeometry id geometry then c else c.setViewGeometry id geometry
  else c

/-- A client asks to set or clear bits of the state, which the policy may claim for itself. -/
def requestState (c : Compositor) (host : Host) (id : ViewId) (bits : UInt32) (on : Bool) :
    Compositor :=
  if c.views.contains id then
    let c := c.tellPolicy (.stateRequested id bits on)
    if host.claimState id bits on then c else c.setViewState id bits on
  else c

/-- Sets the parent of a view, another view, or none. Gives whether both exist. -/
def setViewParent (c : Compositor) (id : ViewId) (parent : Option ViewId) : Bool × Compositor :=
  if parent.any fun p => p == id || !c.views.contains p then (false, c)
  else if c.views.contains id then (true, c.modifyView id fun v => { v with parent })
  else (false, c)

/-- Gives a view a text. It keeps the old one if the host has no memory for the new one. -/
def setViewText (c : Compositor) (host : Host) (id : ViewId) (what text : String)
    (set : View → View) : Except CompositorError Unit × Compositor :=
  if c.views.contains id then
    -- An empty text takes no memory.
    if host.textShort id text = true ∧ text ≠ "" then (.error (.resourceExhausted what), c)
    else (.ok (), c.modifyView id set)
  else (.error (.invalidHandle "view"), c)

def setViewTitle (c : Compositor) (host : Host) (id : ViewId) (title : String) :
    Except CompositorError Unit × Compositor :=
  c.setViewText host id "view title" title fun v => { v with title }

def setViewClass (c : Compositor) (host : Host) (id : ViewId) (className : String) :
    Except CompositorError Unit × Compositor :=
  c.setViewText host id "view class" className fun v => { v with className }

def setViewAppId (c : Compositor) (host : Host) (id : ViewId) (appId : String) :
    Except CompositorError Unit × Compositor :=
  c.setViewText host id "view app id" appId fun v => { v with appId }

/-! ### Stacking -/

/-- Moves a view in the paint order of its output. Gives whether it could be moved. -/
def restackView (c : Compositor) (id : ViewId) (move : Output.Restack) : Bool × Compositor :=
  match (c.outputOf? id).bind c.outputs.get? with
  | none => (false, c)
  | some output =>
    match output.restack? id move with
    | some moved => (true, c.modifyOutput output.id fun _ => moved.schedule)
    | none => (false, c)

end Compositing.Compositor
