import Compositing.Rendering.Renderer
import Compositing.Stack

/-!
# Outputs

An output is a screen with the views it shows, in two orders: the paint order runs from bottom to top
and decides what is drawn over what, the creation order changes only when a view joins or leaves.
-/

namespace Compositing

structure Output where
  id : OutputId
  name : String
  resolution : Size
  paintOrder : List ViewId := []
  creationOrder : List ViewId := []
  mask : UInt32 := 1
  sleeping : Bool := false
  /-- What the output shows may have changed since it was last rendered. -/
  pendingRender : Bool := false
  /-- None, if no backend could be set up for the screen. -/
  renderer : Option Renderer := none

namespace Output

def schedule (o : Output) : Output := { o with pendingRender := true }

/-- The view joins both orders, on top, unless it is there already. -/
def addView (o : Output) (view : ViewId) : Output :=
  if view ∈ o.creationOrder then o
  else
    { o with paintOrder := o.paintOrder ++ [view], creationOrder := o.creationOrder ++ [view] }

def removeView (o : Output) (view : ViewId) : Output :=
  { o with
    paintOrder := o.paintOrder.filter (· ≠ view)
    creationOrder := o.creationOrder.filter (· ≠ view) }

def detach (o : Output) (surface : SurfaceId) : Output :=
  { o with renderer := o.renderer.map (·.detach surface) }

inductive Restack where
  | front
  | back
  | below (other : ViewId)
  | above (other : ViewId)
  deriving DecidableEq, Repr

/-- Moves a view in the paint order, unless it or the view it is moved beside is not there. -/
def restack? (o : Output) (view : ViewId) (move : Restack) : Option Output :=
  let beside (other : ViewId) (stack : List ViewId) : Option Output :=
    if view ≠ other ∧ view ∈ o.paintOrder ∧ other ∈ o.paintOrder then
      some { o with paintOrder := stack }
    else none
  match move with
  | .front =>
    if view ∈ o.paintOrder then some { o with paintOrder := Stack.toFront o.paintOrder view }
    else none
  | .back =>
    if view ∈ o.paintOrder then some { o with paintOrder := Stack.toBack o.paintOrder view }
    else none
  | .below other => beside other (Stack.below o.paintOrder view other)
  | .above other => beside other (Stack.above o.paintOrder view other)

end Output

end Compositing
