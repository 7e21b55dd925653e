import Compositing.Buffer.Pool
import Compositing.Event
import Compositing.Region
import Compositing.Resource

/-!
# Surfaces

A surface keeps its state twice. Requests change only the pending half; `commit` alone moves it to
the committed half, which is what gets shown. Committed regions lie within the bounds of the
committed buffer.
-/

namespace Compositing

/-- One half of the state of a surface. -/
structure SurfaceState where
  /-- Pending: the buffer attached since the last commit. Committed: the buffer shown. -/
  buffer : Option BufferId := none
  offset : Point := ⟨0, 0⟩
  opaqueRegion : Region := Region.empty
  inputRegion : Region := Region.plane
  damage : Region := Region.empty
  newlyAttached : Bool := false
  deriving DecidableEq, Repr, Inhabited

/-- What a commit changed. -/
structure CommitOutcome where
  attached : Bool := false
  sizeChanged : Bool := false
  opaqueChanged : Bool := false
  /-- The buffer that was shown until this commit put another in its place. -/
  superseded : Option BufferId := none
  deriving DecidableEq, Repr, Inhabited

structure Surface where
  id : SurfaceId
  client : ClientId
  link : Link
  /-- How many holders keep the surface, its protocol object among them. -/
  refCount : Nat := 1
  pending : SurfaceState := {}
  committed : SurfaceState := {}
  /-- The size of the committed buffer. -/
  size : Size := Size.zero
  pendingCallback : Option Handle := none
  /-- Committed frame callbacks, oldest first. -/
  callbacks : List Handle := []
  view : Option ViewId := none
  deriving DecidableEq, Repr, Inhabited

namespace Surface

/-- A surface for a protocol object, which holds the first reference. -/
def ofHandle (id : SurfaceId) (handle : Handle) : Surface :=
  { id, client := handle.client, link := .live handle }

def resource (s : Surface) : Option Handle := s.link.handle?

def buffer (s : Surface) : Option BufferId := s.committed.buffer

/-- The surface has committed content. -/
def isMapped (s : Surface) : Bool := s.size.isProper

/-! ### Requests -/

/-- Attaches a buffer for the next commit, or none to stop showing one. -/
def attach (s : Surface) (buffer : Option BufferId) (offset : Point) : Surface :=
  { s with pending := { s.pending with buffer, offset, newlyAttached := true } }

def addDamage (s : Surface) (r : Rectangle) : Surface :=
  { s with pending := { s.pending with damage := s.pending.damage.insertRect r } }

/-- Sets the pending opaque region; without one nothing is opaque. -/
def setOpaque (s : Surface) (region : Option Region) : Surface :=
  { s with pending := { s.pending with opaqueRegion := region.getD Region.empty } }

/-- Sets the pending input region; without one the whole surface takes input. -/
def setInput (s : Surface) (region : Option Region) : Surface :=
  { s with pending := { s.pending with inputRegion := region.getD Region.plane } }

/-- Keeps a frame callback for the next commit. Gives the one that it replaces. -/
def setCallback (s : Surface) (callback : Handle) : Option Handle × Surface :=
  (s.pendingCallback, { s with pendingCallback := some callback })

/-! ### Commit -/

/-- The rectangle that committed regions are cut to. -/
def bounds (s : Surface) : Rectangle :=
  ⟨0, 0, coordinateOfLength s.size.width, coordinateOfLength s.size.height⟩

/-- Moves a pending attach to the committed half. Gives the record of the attached buffer, if there is
one to import. -/
def commitBuffer (s : Surface) (pool : BufferPool) : Surface × CommitOutcome × Option Buffer :=
  if s.pending.newlyAttached then
    let buffer := s.pending.buffer
    let record := buffer.bind pool.get?
    let size := record.elim Size.zero (·.size)
    let outcome : CommitOutcome :=
      { attached := true
        sizeChanged := size ≠ s.size
        -- A buffer that is attached again is still shown.
        superseded := if buffer = s.committed.buffer then none else s.committed.buffer }
    ({ s with
        size
        pending := { s.pending with buffer := none }
        committed := { s.committed with buffer } }, outcome, record)
  else (s, {}, none)

/-- Moves the offset, the regions and the frame callback to the committed half. Gives whether the
opaque region covers other points than before. -/
def commitRegions (s : Surface) : Surface × Bool :=
  let bounds := s.bounds
  let visible := s.pending.opaqueRegion.clip bounds
  -- Regions are compared by coverage, and an equal one keeps its rectangles.
  let changed := !visible.sameCoverage s.committed.opaqueRegion
  ({ s with
      pending :=
        { s.pending with offset := ⟨0, 0⟩, newlyAttached := false, damage := Region.empty }
      committed :=
        { s.committed with
          offset := s.pending.offset
          damage := (s.committed.damage.union s.pending.damage).clip bounds
          opaqueRegion := if changed then visible else s.committed.opaqueRegion
          inputRegion := s.pending.inputRegion.clip bounds }
      pendingCallback := none
      callbacks := s.callbacks ++ s.pendingCallback.toList }, changed)

structure Commit where
  surface : Surface
  outcome : CommitOutcome
  content : Option Buffer

def commit (s : Surface) (pool : BufferPool) : Commit :=
  let (attached, outcome, content) := s.commitBuffer pool
  let (surface, opaqueChanged) := attached.commitRegions
  { surface, outcome := { outcome with opaqueChanged }, content }

/-! ### What a render pass takes -/

def takeDamage (s : Surface) : Region × Surface :=
  (s.committed.damage, { s with committed := { s.committed with damage := Region.empty } })

/-- Hands over the committed frame callbacks, oldest first. -/
def takeCallbacks (s : Surface) : List Handle × Surface := (s.callbacks, { s with callbacks := [] })

/-- Every frame callback the surface still has, the pending one last. -/
def allCallbacks (s : Surface) : List Handle := s.callbacks ++ s.pendingCallback.toList

/-! ### The end of a frame callback -/

/-- The frame was shown: the client is told, and the callback's protocol object is gone. -/
def fireCallback (callback : Handle) (time : UInt32) : List TransportEvent :=
  [.frameDone callback time, .destroyed callback]

/-- The frame will not be shown: only the protocol object goes. -/
def cancelCallback (callback : Handle) : TransportEvent := .destroyed callback

/-! ### Lifetime -/

def acquire (s : Surface) : Surface := { s with refCount := s.refCount + 1 }

/-- Drops a reference. Gives whether none is left. -/
def release (s : Surface) : Bool × Surface :=
  -- The count stops at zero, so a release too many gives true again.
  (s.refCount - 1 == 0, { s with refCount := s.refCount - 1 })

def detachResource (s : Surface) : Option Handle × Surface :=
  let (handle, link) := s.link.detach
  (handle, { s with link })

/-- Forgets a frame callback whose protocol object is gone. -/
def forgetCallback (s : Surface) (callback : Handle) : Surface :=
  if s.pendingCallback = some callback then { s with pendingCallback := none }
  else { s with callbacks := s.callbacks.erase callback }

end Surface

end Compositing
