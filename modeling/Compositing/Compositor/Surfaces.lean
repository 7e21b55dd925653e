import Compositing.Compositor.Views

/-!
# Surfaces and regions of the compositor

What clients ask of their surfaces and regions, how commits reach the outputs, and how surfaces come
to an end: by their protocol object, whichever side destroys it, or by their last reference.
-/

namespace Compositing.Compositor

/-! ### Creation and requests -/

def createSurface (c : Compositor) (host : Host) (client : ClientId) (id : UInt32) :
    Except CompositorError SurfaceId × Compositor :=
  match c.createResource host .surface client id "surface" with
  | (.error e, c) => (.error e, c)
  | (.ok handle, c) =>
    let surface := c.nextIds.surface
    let c := c.own handle (.surface surface)
    (.ok surface,
      { c with
        surfaces := c.surfaces.insert surface (Surface.ofHandle surface handle)
        nextIds := { c.nextIds with surface := surface.next } })

/-- Asks for a frame callback at the next commit. One that it replaces is cancelled. -/
def requestFrame (c : Compositor) (host : Host) (surface : SurfaceId) (callback : UInt32) :
    Except CompositorError Unit × Compositor :=
  match c.surfaces.get? surface with
  | none => (.error (.invalidHandle "surface"), c)
  | some s =>
    match c.createResource host .callback s.client callback "frame callback" with
    | (.error e, c) => (.error e, c)
    | (.ok handle, c) =>
      let (replaced, s) := s.setCallback handle
      let c := (c.own handle (.callback surface)).modifySurface surface fun _ => s
      (.ok (), c.destroyResource replaced)

/-- Passes newly attached content of a surface on to the output that shows it. -/
def importContent (c : Compositor) (host : Host) (surface : SurfaceId) (content : Option Buffer) :
    Compositor :=
  match (c.outputOfSurface? surface).bind c.outputs.get? with
  | none => c
  | some output =>
    match output.renderer with
    | none => c
    | some renderer =>
      let attached := renderer.attach host.device c.nextIds.image surface content
      let c := c.modifyOutput output.id fun o => { o with renderer := some attached.renderer }
      { c with nextIds := { c.nextIds with image := attached.nextImage } }.tell attached.events

/-- Applies the pending state of a surface. The buffer that is no longer shown is let go. -/
def commitSurface (c : Compositor) (host : Host) (id : SurfaceId) :
    Option CommitOutcome × Compositor :=
  match c.surfaces.get? id with
  | none => (none, c)
  | some s =>
    let commit := s.commit c.buffers
    let c := c.modifySurface id fun _ => commit.surface
    -- Content reaches the output before the buffer it replaces is let go.
    let c := if commit.outcome.attached then c.importContent host id commit.content else c
    let c :=
      match commit.outcome.superseded with
      | some buffer => c.releaseBuffer buffer
      | none => c
    -- The output is due even if the commit changed nothing.
    (some commit.outcome, c.scheduleSurface id)

/-! ### Lifetime -/

/-- Frees a surface: its protocol object, its view, its callbacks, the buffer it shows and its images
go. -/
def freeSurface (c : Compositor) (id : SurfaceId) : Compositor :=
  match c.surfaces.get? id with
  | none => c
  | some s =>
    -- The surface leaves its table first, so nothing that follows frees it again.
    let c := { c with surfaces := c.surfaces.erase id }
    let c := c.destroyResource s.resource
    let c :=
      match s.view with
      | some view => c.destroyView view
      | none => c
    let c := s.allCallbacks.foldl (fun c callback => c.destroyResource (some callback)) c
    let c :=
      match s.buffer with
      | some buffer => c.releaseBuffer buffer
      | none => c
    { c with outputs := c.outputs.map fun _ o => o.detach id }

/-- Takes a reference that keeps a surface. Gives whether it exists. -/
def acquireSurface (c : Compositor) (id : SurfaceId) : Bool × Compositor :=
  (c.surfaces.contains id, c.modifySurface id Surface.acquire)

/-- Drops a reference to a surface, which is freed with its last one. -/
def releaseSurface (c : Compositor) (id : SurfaceId) : Compositor :=
  match (c.surfaces.get? id).map Surface.release with
  | none => c
  | some (last, s) =>
    let c := c.modifySurface id fun _ => s
    if last then c.freeSurface id else c

/-- The protocol object of a surface is gone: its view goes, and the reference it held. -/
def surfaceResourceGone (c : Compositor) (id : SurfaceId) : Compositor :=
  let c :=
    match (c.surfaces.get? id).bind (·.view) with
    | some view => c.destroyView view
    | none => c
  c.releaseSurface id

/-- Destroys the protocol object of a surface, unless it is gone already. -/
def destroySurface (c : Compositor) (id : SurfaceId) : Compositor :=
  match (c.surfaces.get? id).bind (·.resource) with
  | none => c
  | some handle =>
    -- With the link cut, freeing the surface does not destroy the object again.
    let c := c.modifySurface id fun s => s.detachResource.2
    (c.destroyResource (some handle)).surfaceResourceGone id

/-! ### Regions -/

def createRegion (c : Compositor) (host : Host) (client : ClientId) (id : UInt32) :
    Except CompositorError RegionId × Compositor :=
  match c.createResource host .region client id "region" with
  | (.error e, c) => (.error e, c)
  | (.ok handle, c) =>
    let region := c.nextIds.region
    let c := c.own handle (.region region)
    (.ok region,
      { c with
        regions := c.regions.insert region { link := .live handle }
        nextIds := { c.nextIds with region := region.next } })

def destroyRegion (c : Compositor) (id : RegionId) : Compositor :=
  match c.regions.get? id with
  | none => c
  | some r => { c with regions := c.regions.erase id }.destroyResource r.link.handle?

/-! ### Reports of the transport -/

/-- The transport reports that a protocol object is gone. One that the compositor destroyed itself is
not in the index any more, and nothing happens. -/
def resourceDestroyed (c : Compositor) (handle : Handle) : Compositor :=
  match c.resources.get? handle with
  | none => c
  | some owner =>
    let c := c.disown handle
    match owner with
    | .surface id => (c.modifySurface id fun s => s.detachResource.2).surfaceResourceGone id
    | .region id => { c with regions := c.regions.erase id }
    | .callback surface => c.modifySurface surface fun s => s.forgetCallback handle
    | .view id => (c.modifyView id fun v => { v with link := .detached }).destroyView id

end Compositing.Compositor
