import Compositing.Compositor.Request

/-!
# Counts in machine words

The references to a surface and the renders that read a buffer are counted in words of 32 bits. `handle`
counts them without end. `handle?` does the same with words, and gives nothing where a count has no
word. A count only grows where a surface is acquired, where a buffer is marked busy, and in render
passes, which do both for everything they draw.
-/

namespace Compositing

/-- The number, if it is an unsigned word of 32 bits. -/
def countWord? (n : Nat) : Option Nat := if n < UInt32.size then some n else none

namespace Surface

def acquire? (s : Surface) : Option Surface :=
  (countWord? (s.refCount + 1)).map fun refCount => { s with refCount }

end Surface

namespace BufferPool

def markBusy? (pool : BufferPool) (id : BufferId) :
    Option (Except BufferError (Nat × BufferPool)) :=
  match pool.lookup id with
  | .error e => some (.error e)
  | .ok b => (countWord? (b.busyCount + 1)).map fun busyCount =>
    .ok (busyCount, pool.update id { b with busyCount })

def handle? (pool : BufferPool) (request : PoolRequest) : Option (PoolReply × BufferPool) :=
  match request with
  | .markBusy id => (pool.markBusy? id).map (pool.settle .busy)
  | request => some (pool.handle request)

end BufferPool

namespace Compositor

def acquireSurface? (c : Compositor) (id : SurfaceId) : Option (Bool × Compositor) :=
  match c.surfaces.get? id with
  | none => some (false, c)
  | some s => s.acquire?.map fun s => (true, c.modifySurface id fun _ => s)

def beginItem? (c : Compositor) (item : PaintItem) : Option (Option BufferId × Compositor) :=
  match c.surfaces.get? item.surface with
  | none => some (none, c)
  | some s => do
    let held ← s.acquire?
    let c := c.modifySurface item.surface fun _ => held
    match s.buffer with
    | none => return (none, c)
    | some buffer =>
      match ← c.buffers.markBusy? buffer with
      | .ok (_, buffers) => return (some buffer, { c with buffers })
      | .error _ => return (none, c)

def beginItems? (c : Compositor) (items : List PaintItem) :
    Option (List BufferId × Compositor) :=
  items.foldlM
    (fun (busy, c) item => do
      let (buffer, c) ← c.beginItem? item
      return (busy ++ buffer.toList, c))
    ([], c)

def renderOutput? (c : Compositor) (host : Host) (id : OutputId) (time : UInt32) :
    Option (Bool × Compositor) :=
  match (c.outputs.get? id).filter (·.renderer.isSome) with
  | none => some (false, c)
  | some output => do
    let items := c.paintItems output
    let (busy, c) ← c.beginItems? items
    -- From here on counts only fall.
    return c.completePass host id time items busy

def renderOutputs? (c : Compositor) (host : Host) (time : UInt32) : Option (Nat × Compositor) :=
  c.dueOutputs.foldlM
    (fun (count, c) id => do
      let c := c.modifyOutput id fun o => { o with pendingRender := false }
      let (well, c) ← c.renderOutput? host id time
      return (count + well.toNat, c))
    (0, c)

/-- The reply to a request and the compositor afterwards, if all counts have words. -/
def handle? (c : Compositor) (host : Host) (request : Request) : Option (Reply × Compositor) :=
  match request with
  | .acquire surface => (c.acquireSurface? surface).map fun (known, c) => (.flag known, c)
  | .pool request =>
    (c.buffers.handle? request).map fun (reply, buffers) => (.pool reply, { c with buffers })
  | .render time => (c.renderOutputs? host time).map fun (count, c) => (.count count, c)
  | request => some (c.handle host request)

/-- Handles requests one after the other, for as long as all counts have words. -/
def run? (c : Compositor) (requests : List (Host × Request)) : Option Compositor :=
  requests.foldlM (fun c (host, request) => (c.handle? host request).map Prod.snd) c

end Compositor

end Compositing
