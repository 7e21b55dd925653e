/-!
# Names of objects

Every kind of object has names of its own type, so a view cannot be looked up where an output is
meant. A name is a number drawn from the counter of its kind; the number zero is never drawn.
-/

namespace Compositing

/-- A client connection, as the transport numbers it. -/
structure ClientId where
  raw : UInt64
  deriving DecidableEq, Repr, Inhabited

structure SurfaceId where
  number : Nat
  deriving DecidableEq, Repr, Inhabited

structure RegionId where
  number : Nat
  deriving DecidableEq, Repr, Inhabited

structure BufferId where
  number : Nat
  deriving DecidableEq, Repr, Inhabited

structure ViewId where
  number : Nat
  deriving DecidableEq, Repr, Inhabited

structure OutputId where
  number : Nat
  deriving DecidableEq, Repr, Inhabited

/-- A client buffer as one render context has imported it. -/
structure ImageId where
  number : Nat
  deriving DecidableEq, Repr, Inhabited

/-- A render context. -/
structure ContextId where
  number : Nat
  deriving DecidableEq, Repr, Inhabited

/-! ### The name after a given one -/

def SurfaceId.next (id : SurfaceId) : SurfaceId := ⟨id.number + 1⟩

def RegionId.next (id : RegionId) : RegionId := ⟨id.number + 1⟩

def BufferId.next (id : BufferId) : BufferId := ⟨id.number + 1⟩

def ViewId.next (id : ViewId) : ViewId := ⟨id.number + 1⟩

def OutputId.next (id : OutputId) : OutputId := ⟨id.number + 1⟩

def ImageId.next (id : ImageId) : ImageId := ⟨id.number + 1⟩

def ContextId.next (id : ContextId) : ContextId := ⟨id.number + 1⟩

end Compositing
