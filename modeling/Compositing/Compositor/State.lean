import Compositing.Error
import Compositing.Host
import Compositing.Output
import Compositing.Surface
import Compositing.View

/-!
# The state of the compositor

All objects lie in tables and refer to each other by name, so a reference to an object that is gone
finds nothing. The index of resources tells which object a protocol object belongs to. What the host
was told is kept in the log, in order.
-/

namespace Compositing

/-- The object that a protocol object belongs to. -/
inductive Owner where
  | surface (id : SurfaceId)
  | region (id : RegionId)
  | callback (surface : SurfaceId)
  | view (id : ViewId)
  deriving DecidableEq, Repr

structure RegionObject where
  link : Link
  region : Region := Region.empty
  deriving DecidableEq, Repr

structure NextIds where
  surface : SurfaceId := ⟨1⟩
  region : RegionId := ⟨1⟩
  view : ViewId := ⟨1⟩
  output : OutputId := ⟨1⟩
  image : ImageId := ⟨1⟩
  deriving DecidableEq, Repr

structure Compositor where
  config : Config
  contexts : Contexts
  buffers : BufferPool := BufferPool.empty
  surfaces : Table SurfaceId Surface := Table.empty
  regions : Table RegionId RegionObject := Table.empty
  views : Table ViewId View := Table.empty
  outputs : Table OutputId Output := Table.empty
  /-- The names of the outputs, in the order they were added. -/
  outputOrder : List OutputId := []
  resources : Table Handle Owner := Table.empty
  focused : Option ViewId := none
  nextIds : NextIds := {}
  /-- What the host was told and has not collected yet. -/
  log : List Event := []

namespace Compositor

/-- A compositor that probes an explicit list of backends. -/
def ofBackends (config : Config) (backends : List Backend) : Compositor :=
  { config, contexts := { backends } }

/-- A compositor that probes the backends named in its configuration, which has to be acceptable. -/
def ofConfig (config : Config) : Except CompositorError Compositor := do
  let (checked, config) := config.validate
  let _ ← checked.mapError CompositorError.config
  let contexts ← (Contexts.ofNames config.render.backends).mapError CompositorError.render
  return { config, contexts }

/-! ### The log -/

def tell (c : Compositor) (events : List Event) : Compositor := { c with log := c.log ++ events }

def tellTransport (c : Compositor) (event : TransportEvent) : Compositor :=
  c.tell [.transport event]

def tellPolicy (c : Compositor) (event : PolicyEvent) : Compositor := c.tell [.policy event]

def collect (c : Compositor) : List Event × Compositor := (c.log, { c with log := [] })

/-! ### Reading -/

def surfaceOf? (c : Compositor) (handle : Handle) : Option SurfaceId :=
  match c.resources.get? handle with
  | some (.surface id) => some id
  | _ => none

def region? (c : Compositor) (id : RegionId) : Option Region := (c.regions.get? id).map (·.region)

def outputOf? (c : Compositor) (view : ViewId) : Option OutputId :=
  (c.views.get? view).bind (·.output)

def outputOfSurface? (c : Compositor) (surface : SurfaceId) : Option OutputId :=
  ((c.surfaces.get? surface).bind (·.view)).bind c.outputOf?

/-- The parent of a view, as long as it exists. -/
def parentOf? (c : Compositor) (view : ViewId) : Option ViewId :=
  ((c.views.get? view).bind (·.parent)).filter c.views.contains

/-- The view some places further than the topmost one of an output. -/
def topmost? (c : Compositor) (output : OutputId) (offset : Nat) : Option ViewId :=
  (c.outputs.get? output).bind fun o => Stack.topmost o.paintOrder offset

/-! ### Changing one object -/

def modifySurface (c : Compositor) (id : SurfaceId) (f : Surface → Surface) : Compositor :=
  { c with surfaces := c.surfaces.modify id f }

def modifyRegion (c : Compositor) (id : RegionId) (f : Region → Region) : Compositor :=
  { c with regions := c.regions.modify id fun r => { r with region := f r.region } }

def modifyView (c : Compositor) (id : ViewId) (f : View → View) : Compositor :=
  { c with views := c.views.modify id f }

def modifyOutput (c : Compositor) (id : OutputId) (f : Output → Output) : Compositor :=
  { c with outputs := c.outputs.modify id f }

/-! ### Repaints -/

def scheduleOutput (c : Compositor) (output : OutputId) : Compositor :=
  c.modifyOutput output Output.schedule

/-- The output that shows a view, if any, has to be rendered. -/
def scheduleView (c : Compositor) (view : ViewId) : Compositor :=
  match c.outputOf? view with
  | some output => c.scheduleOutput output
  | none => c

/-- The output that shows a surface, if any, has to be rendered. -/
def scheduleSurface (c : Compositor) (surface : SurfaceId) : Compositor :=
  match c.outputOfSurface? surface with
  | some output => c.scheduleOutput output
  | none => c

/-! ### Protocol objects -/

/-- Asks for a protocol object. A client whose object could not be created is told so. -/
def createResource (c : Compositor) (host : Host) (kind : ResourceKind) (client : ClientId)
    (id : UInt32) (what : String) : Except CompositorError Handle × Compositor :=
  match host.createResource kind client id with
  | .ok handle => (.ok handle, c.tellTransport (.created kind handle))
  | .error _ => (.error (.resourceExhausted what), c.tellTransport (.noMemory client))

/-- Enters a protocol object into the index. -/
def own (c : Compositor) (handle : Handle) (owner : Owner) : Compositor :=
  { c with resources := c.resources.insert handle owner }

def disown (c : Compositor) (handle : Handle) : Compositor :=
  { c with resources := c.resources.erase handle }

/-- Destroys the protocol object of a link that was cut, if it was live. -/
def destroyResource (c : Compositor) (handle : Option Handle) : Compositor :=
  match handle with
  -- The index forgets the handle before the transport hears of it.
  | some h => (c.disown h).tellTransport (.destroyed h)
  | none => c

/-! ### Buffers -/

/-- Lets go of a buffer, and tells its owner if no render reads it. -/
def releaseBuffer (c : Compositor) (buffer : BufferId) : Compositor :=
  match c.buffers.release buffer with
  | .ok (.released, buffers) => { c with buffers }.tellTransport (.bufferRelease buffer)
  | .ok (_, buffers) => { c with buffers }
  | .error _ => c

/-- A render that read a buffer ended. Completes a release that was parked until then. -/
def renderComplete (c : Compositor) (buffer : BufferId) : Compositor :=
  match c.buffers.clearBusy buffer with
  -- The owner hears only of a release that had to wait.
  | .ok (some .released, buffers) => { c with buffers }.tellTransport (.bufferRelease buffer)
  | .ok (_, buffers) => { c with buffers }
  | .error _ => c

def destroyBuffer (c : Compositor) (buffer : BufferId) :
    Except CompositorError BufferRelease × Compositor :=
  match c.buffers.destroy buffer with
  | .ok (release, buffers) => (.ok release, { c with buffers })
  | .error e => (.error (.buffer e), c)

end Compositor

end Compositing
