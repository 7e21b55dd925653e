import Compositing.Rendering.Context

/-!
# The host's answers

What the host decides while the compositor handles one request: whether protocol objects can be
created and memory can be had, what the policy accepts and claims, and how devices and screens answer.
-/

namespace Compositing

structure Host where
  createResource : ResourceKind → ClientId → UInt32 → Except TransportError Handle
  /-- Whether the policy accepts a new output. -/
  acceptOutput : OutputId → Bool
  /-- Whether the policy accepts a new view. -/
  acceptView : ViewId → Bool
  /-- Whether the policy itself takes care of a client's request for a geometry. -/
  claimGeometry : ViewId → Placement → Bool
  /-- Whether the policy itself takes care of a client's request for a state. -/
  claimState : ViewId → UInt32 → Bool → Bool
  /-- Whether memory is too short for a text of a view. -/
  textShort : ViewId → String → Bool
  device : DeviceAnswers
  /-- How the screen of an output answers a frame. -/
  screen : OutputId → Except String Unit

end Compositing
