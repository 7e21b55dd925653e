import Compositing.Geometry.Placement
import Compositing.Resource

/-!
# What the host is told

The compositor reaches the outside only through its host: the transport that talks to clients, the
policy that decides on windows, the screens that show frames, and the backends the host supplies.
Everything it tells them is an event, and the events of all four are kept in one order.
-/

namespace Compositing

inductive TransportEvent where
  | created (kind : ResourceKind) (handle : Handle)
  | destroyed (handle : Handle)
  /-- Post the protocol's error for exhausted memory to a client. -/
  | noMemory (client : ClientId)
  | frameDone (callback : Handle) (time : UInt32)
  /-- The owner may use the buffer again. -/
  | bufferRelease (buffer : BufferId)
  deriving DecidableEq, Repr

inductive PolicyEvent where
  | outputCreated (output : OutputId)
  | outputDestroyed (output : OutputId)
  | resolutionChanged (output : OutputId) (before after : Size)
  | viewCreated (view : ViewId)
  | viewDestroyed (view : ViewId)
  | focusChanged (view : ViewId) (focused : Bool)
  | geometryRequested (view : ViewId) (geometry : Placement)
  | stateRequested (view : ViewId) (bits : UInt32) (on : Bool)
  | moved (view : ViewId) (before after : Option OutputId)
  deriving DecidableEq, Repr

inductive Frame where
  | native
  | pixels (size : Size) (words : Array UInt32)
  deriving DecidableEq, Repr

inductive ScreenEvent where
  | flipped (screen : String) (frame : Frame)
  /-- A flip that the screen did not do. -/
  | flipFailed (screen : String)
  deriving DecidableEq, Repr

/-- What a backend that the host supplies is asked to do. Where the library counts the images of a
context, presenting and terminating it tell how many there are. -/
inductive DeviceCall where
  | construct
  | bind
  | swap (images : Option Nat)
  | terminate (images : Option Nat)
  | resize (size : Size)
  | draw (image : ImageId) (placement : Placement)
  | importBuffer (buffer : BufferId)
  | shareDisplay (display : UInt64)
  deriving DecidableEq, Repr

inductive Event where
  | transport (event : TransportEvent)
  | policy (event : PolicyEvent)
  | screen (event : ScreenEvent)
  /-- A call on a backend of the host, on behalf of a context if there is one yet. -/
  | device (backend : String) (context : Option ContextId) (call : DeviceCall)
  deriving DecidableEq, Repr

end Compositing
