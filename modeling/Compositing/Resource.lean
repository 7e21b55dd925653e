import Compositing.Ident

/-!
# Protocol objects

Clients see protocol objects, and the transport knows each by its owner and the number the owner
chose. An object of the compositor keeps a link to its protocol object. The link is cut before either
side is torn down, whichever side begins, so that the other is told exactly once.
-/

namespace Compositing

/-- The kinds of protocol objects that the compositor asks the transport to create. -/
inductive ResourceKind where
  | surface
  | region
  | callback
  deriving DecidableEq, Repr, Inhabited

/-- A protocol object as the transport knows it. -/
structure Handle where
  client : ClientId
  id : UInt32
  deriving DecidableEq, Repr, Inhabited

/-- The protocol side of an object. -/
inductive Link where
  | live (handle : Handle)
  | detached
  deriving DecidableEq, Repr, Inhabited

namespace Link

def handle? : Link → Option Handle
  | live h => some h
  | detached => none

def isLive (l : Link) : Bool := l.handle?.isSome

/-- Cuts the link, and gives the handle it held. Only the first cut gives one. -/
def detach (l : Link) : Option Handle × Link := (l.handle?, detached)

end Link

/-- Why the transport could not create a protocol object. -/
inductive TransportError where
  | noMemory (kind : ResourceKind) (client : ClientId)
  | clientGone (client : ClientId)
  deriving DecidableEq, Repr

def ResourceKind.label : ResourceKind → String
  | surface => "Surface"
  | region => "Region"
  | callback => "Callback"

def TransportError.message : TransportError → String
  | noMemory kind client =>
    s!"out of memory creating {kind.label} object for client ClientId({client.raw.toNat})"
  | clientGone client => s!"client ClientId({client.raw.toNat}) is no longer connected"

end Compositing
