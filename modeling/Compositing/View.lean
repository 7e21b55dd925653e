import Compositing.Geometry.Placement
import Compositing.Resource

/-!
# Views

A view is a surface that got a role in the window system. It can be placed, stacked and focused, and
the policy reads what state and what type of window it is.
-/

namespace Compositing

/-- The bit of a view's state that marks the focused view. -/
def activatedBit : UInt32 := 16

/-- Sets bits of a word, or clears them. -/
def switchBits (word bits : UInt32) (on : Bool) : UInt32 :=
  if on then word ||| bits else word &&& ~~~bits

structure View where
  id : ViewId
  surface : SurfaceId
  /-- The protocol object of the role. -/
  link : Link
  output : Option OutputId := none
  geometry : Placement := Placement.zero
  /-- The view is visible on outputs whose mask shares a bit with this one. -/
  mask : UInt32 := 1
  state : UInt32 := 0
  typeBits : UInt32 := 0
  parent : Option ViewId := none
  title : String := ""
  className : String := ""
  appId : String := ""
  deriving DecidableEq, Repr, Inhabited

namespace View

/-- A view of a surface whose role has a protocol object. -/
def ofRole (id : ViewId) (surface : SurfaceId) (role : Handle) : View :=
  { id, surface, link := .live role }

def role (v : View) : Option Handle := v.link.handle?

def visibleOn (v : View) (outputMask : UInt32) : Bool := v.mask &&& outputMask != 0

/-- Sets or clears bits of the state. Gives whether that changed it. -/
def switchState (v : View) (bits : UInt32) (on : Bool) : Bool × View :=
  let state := switchBits v.state bits on
  (state != v.state, { v with state })

def switchType (v : View) (bits : UInt32) (on : Bool) : View :=
  { v with typeBits := switchBits v.typeBits bits on }

end View

end Compositing
