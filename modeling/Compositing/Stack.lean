import Compositing.Ident

/-!
# Stacks of views

A stack lists views from the bottom to the top; each view occurs once. The operations move one view
and leave the order of the others alone.
-/

namespace Compositing.Stack

def toFront (stack : List ViewId) (view : ViewId) : List ViewId := stack.erase view ++ [view]

def toBack (stack : List ViewId) (view : ViewId) : List ViewId := view :: stack.erase view

def insertBelow (view other : ViewId) : List ViewId → List ViewId
  | [] => []
  | v :: rest => if v = other then view :: v :: rest else v :: insertBelow view other rest

def insertAbove (view other : ViewId) : List ViewId → List ViewId
  | [] => []
  | v :: rest => if v = other then v :: view :: rest else v :: insertAbove view other rest

/-- Moves a view of the stack directly below another one. -/
def below (stack : List ViewId) (view other : ViewId) : List ViewId :=
  insertBelow view other (stack.erase view)

/-- Moves a view of the stack directly above another one. -/
def above (stack : List ViewId) (view other : ViewId) : List ViewId :=
  insertAbove view other (stack.erase view)

/-- The view some places further than the topmost one: the first place further is the bottom, the
second the one above it, and so on around. -/
def topmost (stack : List ViewId) (offset : Nat) : Option ViewId :=
  stack[(offset % stack.length + stack.length - 1) % stack.length]?

end Compositing.Stack
