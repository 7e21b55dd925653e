import Compositing.Compositor.State

/-!
# Outputs of the compositor

Adding and removing outputs, and changing their resolution, sleep and mask.
-/

namespace Compositing.Compositor

/-- Takes an output out of the compositor: its views are shown nowhere, its context is terminated.
Gives whether it was there. -/
def discardOutput (c : Compositor) (id : OutputId) : Bool × Compositor :=
  match c.outputs.get? id with
  | none => (false, c)
  | some output =>
    let c :=
      { c with outputs := c.outputs.erase id, outputOrder := c.outputOrder.filter (· ≠ id) }
    let c :=
      -- The views stay, and are shown nowhere.
      output.creationOrder.foldl
        (fun c view => c.modifyView view fun v => { v with output := none }) c
    match output.renderer with
    | none => (true, c)
    | some renderer =>
      let (contexts, events) := renderer.terminate c.contexts
      (true, { c with contexts }.tell events)

def removeOutput (c : Compositor) (id : OutputId) : Compositor :=
  match c.discardOutput id with
  | (true, c) => c.tellPolicy (.outputDestroyed id)
  | (false, c) => c

/-- Probes the backends for a screen of a reported size and brings the context, if there is one, to the
resolution of the output. -/
def openRenderer (c : Compositor) (host : Host) (reported resolution : Size) :
    Option Renderer × Compositor :=
  let (result, contexts, events) := c.contexts.create host.device reported
  let c := { c with contexts }.tell events
  match result with
  | .error _ => (none, c)
  | .ok handle =>
    let (renderer, events) := Renderer.resize { handle } host.device resolution
    (some renderer, c.tell events)

/-- Adds an output for a screen that reports a size. Without a working backend it is kept if another
output has one. Gives none if the policy rejects it. -/
def addOutput (c : Compositor) (host : Host) (name : String) (reported : Size) :
    Except CompositorError (Option OutputId) × Compositor :=
  let resolution := if reported.isProper then reported else c.config.output.defaultResolution
  let id := c.nextIds.output
  let (renderer, c) := c.openRenderer host reported resolution
  let c :=
    { c with
      outputs := c.outputs.insert id { id, name, resolution, renderer }
      outputOrder := c.outputOrder ++ [id]
      nextIds := { c.nextIds with output := id.next } }
  -- The policy never hears of an output that cannot be kept.
  if c.outputs.values.all fun o => o.renderer.isNone then
    (.error .noRenderableOutput, (c.discardOutput id).2)
  else
    let c := c.tellPolicy (.outputCreated id)
    if host.acceptOutput id then (.ok (some id), c.scheduleOutput id)
    else (.ok none, (c.discardOutput id).2)

def setOutputResolution (c : Compositor) (host : Host) (id : OutputId) (resolution : Size) :
    Compositor :=
  match c.outputs.get? id with
  | none => c
  | some output =>
    if output.resolution = resolution then c
    else
      let (renderer, events) :=
        match output.renderer with
        | some r =>
          let (r, events) := r.resize host.device resolution
          (some r, events)
        | none => (none, [])
      -- The output takes the new resolution even if its context did not follow.
      let c := c.modifyOutput id fun o => { o with resolution, renderer }.schedule
      (c.tell events).tellPolicy (.resolutionChanged id output.resolution resolution)

/-- An output that sleeps is not rendered; one that wakes up is due. -/
def setOutputSleep (c : Compositor) (id : OutputId) (sleeping : Bool) : Compositor :=
  c.modifyOutput id fun o =>
    let o := { o with sleeping }
    if sleeping then o else o.schedule

def setOutputMask (c : Compositor) (id : OutputId) (mask : UInt32) : Compositor :=
  c.modifyOutput id fun o => { o with mask }.schedule

/-- Lets clients share buffers with the context of every output. Gives how many contexts accepted. -/
def shareDisplay (c : Compositor) (host : Host) (display : UInt64) : Nat × Compositor :=
  c.outputs.values.foldl
    (fun (accepted, c) output =>
      match output.renderer with
      | none => (accepted, c)
      | some renderer =>
        let (result, events) := renderer.handle.context.shareDisplay host.device display
        (accepted + result.toBool.toNat, c.tell events))
    (0, c)

end Compositing.Compositor
