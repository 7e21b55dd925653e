import Compositing.Compositor.Frames

/-!
# Requests

Everything that clients, the policy, the devices and the transport can ask of the compositor, as one
type, and what each request does. A run of the compositor is a list of requests, each with the host's
answers to it.
-/

namespace Compositing

inductive Request where
  -- Surfaces
  | createSurface (client : ClientId) (id : UInt32)
  | attach (surface : SurfaceId) (buffer : Option BufferId) (offset : Point)
  | damage (surface : SurfaceId) (area : Rectangle)
  | setOpaque (surface : SurfaceId) (region : Option RegionId)
  | setInput (surface : SurfaceId) (region : Option RegionId)
  | frame (surface : SurfaceId) (callback : UInt32)
  | commit (surface : SurfaceId)
  | scheduleSurface (surface : SurfaceId)
  | acquire (surface : SurfaceId)
  | release (surface : SurfaceId)
  | destroySurface (surface : SurfaceId)
  | resourceDestroyed (handle : Handle)
  -- Buffers
  | pool (request : PoolRequest)
  | destroyBuffer (buffer : BufferId)
  | renderComplete (buffer : BufferId)
  -- Regions
  | createRegion (client : ClientId) (id : UInt32)
  | addToRegion (region : RegionId) (area : Rectangle)
  | subtractFromRegion (region : RegionId) (area : Rectangle)
  | destroyRegion (region : RegionId)
  -- Views
  | createView (surface : SurfaceId) (role : Handle)
  | destroyView (view : ViewId)
  | setViewOutput (view : ViewId) (output : Option OutputId)
  | focus (view : Option ViewId)
  | setViewGeometry (view : ViewId) (geometry : Placement)
  | requestGeometry (view : ViewId) (geometry : Placement)
  | setViewState (view : ViewId) (bits : UInt32) (on : Bool)
  | requestState (view : ViewId) (bits : UInt32) (on : Bool)
  | setViewType (view : ViewId) (bits : UInt32) (on : Bool)
  | setViewMask (view : ViewId) (mask : UInt32)
  | setViewParent (view : ViewId) (parent : Option ViewId)
  | setTitle (view : ViewId) (text : String)
  | setClass (view : ViewId) (text : String)
  | setAppId (view : ViewId) (text : String)
  | restack (view : ViewId) (move : Output.Restack)
  -- Outputs
  | addOutput (name : String) (reported : Size)
  | removeOutput (output : OutputId)
  | setResolution (output : OutputId) (resolution : Size)
  | setSleep (output : OutputId) (sleeping : Bool)
  | setOutputMask (output : OutputId) (mask : UInt32)
  | scheduleOutput (output : OutputId)
  | shareDisplay (display : UInt64)
  | render (time : UInt32)

/-- What a request is answered. -/
inductive Reply where
  | done
  | flag (value : Bool)
  | count (value : Nat)
  | surface (id : SurfaceId)
  | region (id : RegionId)
  | view (id : Option ViewId)
  | output (id : Option OutputId)
  | committed (outcome : Option CommitOutcome)
  | pool (reply : PoolReply)
  | failed (error : CompositorError)

namespace Compositor

/-- The reply to a result that may be a failure. -/
def settle {α : Type} (reply : α → Reply) (result : Except CompositorError α × Compositor) :
    Reply × Compositor :=
  match result.1 with
  | .ok value => (reply value, result.2)
  | .error e => (.failed e, result.2)

/-- The reply to a request, and the compositor afterwards. -/
def handle (c : Compositor) (host : Host) (request : Request) : Reply × Compositor :=
  let quiet (c : Compositor) : Reply × Compositor := (.done, c)
  let flagged (result : Bool × Compositor) : Reply × Compositor := (.flag result.1, result.2)
  let counted (result : Nat × Compositor) : Reply × Compositor := (.count result.1, result.2)
  match request with
  | .createSurface client id => settle .surface (c.createSurface host client id)
  | .attach surface buffer offset => quiet (c.modifySurface surface (·.attach buffer offset))
  | .damage surface area => quiet (c.modifySurface surface (·.addDamage area))
  | .setOpaque surface region =>
    quiet (c.modifySurface surface (·.setOpaque (region.bind c.region?)))
  | .setInput surface region =>
    quiet (c.modifySurface surface (·.setInput (region.bind c.region?)))
  | .frame surface callback => settle (fun _ => .done) (c.requestFrame host surface callback)
  | .commit surface =>
    let (outcome, c) := c.commitSurface host surface
    (.committed outcome, c)
  | .scheduleSurface surface => quiet (c.scheduleSurface surface)
  | .acquire surface => flagged (c.acquireSurface surface)
  | .release surface => quiet (c.releaseSurface surface)
  | .destroySurface surface => quiet (c.destroySurface surface)
  | .resourceDestroyed handle => quiet (c.resourceDestroyed handle)
  | .pool request =>
    let (reply, buffers) := c.buffers.handle request
    (.pool reply, { c with buffers })
  | .destroyBuffer buffer =>
    settle (fun release => .pool (.ended (some release))) (c.destroyBuffer buffer)
  | .renderComplete buffer => quiet (c.renderComplete buffer)
  | .createRegion client id => settle .region (c.createRegion host client id)
  | .addToRegion region area => quiet (c.modifyRegion region (·.insertRect area))
  | .subtractFromRegion region area => quiet (c.modifyRegion region (·.eraseRect area))
  | .destroyRegion region => quiet (c.destroyRegion region)
  | .createView surface role => settle .view (c.createView host surface role)
  | .destroyView view => quiet (c.destroyView view)
  | .setViewOutput view output => flagged (c.setViewOutput host view output)
  | .focus view => quiet (c.focusView view)
  | .setViewGeometry view geometry => quiet (c.setViewGeometry view geometry)
  | .requestGeometry view geometry => quiet (c.requestGeometry host view geometry)
  | .setViewState view bits on => quiet (c.setViewState view bits on)
  | .requestState view bits on => quiet (c.requestState host view bits on)
  | .setViewType view bits on => quiet (c.setViewType view bits on)
  | .setViewMask view mask => quiet (c.setViewMask view mask)
  | .setViewParent view parent => flagged (c.setViewParent view parent)
  | .setTitle view text => settle (fun _ => .done) (c.setViewTitle host view text)
  | .setClass view text => settle (fun _ => .done) (c.setViewClass host view text)
  | .setAppId view text => settle (fun _ => .done) (c.setViewAppId host view text)
  | .restack view move => flagged (c.restackView view move)
  | .addOutput name reported => settle .output (c.addOutput host name reported)
  | .removeOutput output => quiet (c.removeOutput output)
  | .setResolution output resolution => quiet (c.setOutputResolution host output resolution)
  | .setSleep output sleeping => quiet (c.setOutputSleep output sleeping)
  | .setOutputMask output mask => quiet (c.setOutputMask output mask)
  | .scheduleOutput output => quiet (c.scheduleOutput output)
  | .shareDisplay display => counted (c.shareDisplay host display)
  | .render time => counted (c.renderOutputs host time)

/-- Handles requests one after the other, and drops the replies. -/
def run (c : Compositor) (requests : List (Host × Request)) : Compositor :=
  requests.foldl (fun c (host, request) => (c.handle host request).2) c

end Compositor

end Compositing
