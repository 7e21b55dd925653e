import Compositing.Buffer
import Compositing.Table

/-!
# The buffer pool

The pool owns every client buffer. While renders in flight read a buffer it can be neither given
back to its client nor freed: a release or a destruction that comes too early is parked, and
completes when the last of those renders ends.
-/

namespace Compositing

/-- What became of a buffer that the compositor or its client let go of. -/
inductive BufferRelease where
  | released
  /-- The buffer is no longer registered. -/
  | freed
  | deferred
  deriving DecidableEq, Repr, Inhabited

structure BufferPool where
  buffers : Table BufferId Buffer := Table.empty
  /-- Buffers with a parked release or destruction. -/
  deferred : List BufferId := []
  nextId : BufferId := ⟨1⟩

namespace BufferPool

def empty : BufferPool := {}

instance : Inhabited BufferPool := ⟨empty⟩

def get? (pool : BufferPool) (id : BufferId) : Option Buffer := pool.buffers.get? id

def contains (pool : BufferPool) (id : BufferId) : Bool := pool.buffers.contains id

def size (pool : BufferPool) : Nat := pool.buffers.size

def isEmpty (pool : BufferPool) : Bool := pool.buffers.isEmpty

/-- The buffer of that name, or the refusal to work on one that is not registered. -/
def lookup (pool : BufferPool) (id : BufferId) : Except BufferError Buffer :=
  match pool.get? id with
  | some b => .ok b
  | none => .error (.notRegistered id)

def update (pool : BufferPool) (id : BufferId) (b : Buffer) : BufferPool :=
  { pool with buffers := pool.buffers.insert id b }

def drop (pool : BufferPool) (id : BufferId) : BufferPool :=
  { pool with buffers := pool.buffers.erase id }

def park (pool : BufferPool) (id : BufferId) : BufferPool :=
  if id ∈ pool.deferred then pool else { pool with deferred := pool.deferred ++ [id] }

/-- Notes that no request for a buffer is parked any more. -/
def unpark (pool : BufferPool) (id : BufferId) : BufferPool :=
  { pool with deferred := pool.deferred.filter (· ≠ id) }

structure Description where
  memory : BufferMemory
  size : Size
  stride : UInt32
  format : PixelFormat
  owner : Option ClientId

/-- Takes a new buffer into the pool. Both of its sides must be positive. -/
def register (pool : BufferPool) (d : Description) : Except BufferError (BufferId × BufferPool) :=
  if d.size.isProper then
    let buffer : Buffer :=
      { id := pool.nextId, memory := d.memory, size := d.size, stride := d.stride,
        format := d.format, owner := d.owner }
    .ok (pool.nextId,
      { pool with buffers := pool.buffers.insert pool.nextId buffer, nextId := pool.nextId.next })
  else .error (.invalidSize d.size)

/-- Maps pixel words into a buffer. There must be one for each pixel. -/
def setContents (pool : BufferPool) (id : BufferId) (pixels : Array UInt32) :
    Except BufferError BufferPool := do
  let b ← pool.lookup id
  if fits : pixels.size = b.size.pixelCount then
    return pool.update id { b with contents := some pixels, contents_size := by simpa using fits }
  else throw (.contentsSize b.size.pixelCount pixels.size)

def setYInverted (pool : BufferPool) (id : BufferId) (inverted : Bool) :
    Except BufferError BufferPool := do
  let b ← pool.lookup id
  return pool.update id { b with yInverted := inverted }

/-- A render begins to read the buffer. Gives the number of those that now do. -/
def markBusy (pool : BufferPool) (id : BufferId) : Except BufferError (Nat × BufferPool) := do
  let b ← pool.lookup id
  return (b.busyCount + 1, pool.update id { b with busyCount := b.busyCount + 1 })

/-- A render ends. When it was the last one, a parked request completes, a destruction before a
release. -/
def clearBusy (pool : BufferPool) (id : BufferId) :
    Except BufferError (Option BufferRelease × BufferPool) := do
  let b ← pool.lookup id
  match b.busyCount with
  | 0 => throw (.notBusy id)
  | n + 1 =>
    let idle : Buffer := { b with busyCount := n }
    if 0 < n then return (none, pool.update id idle)
    -- Both requests may be parked. The buffer then goes without a release.
    else if b.destroyPending then return (some .freed, (pool.unpark id).drop id)
    else if b.releasePending then
      return (some .released, (pool.unpark id).update id { idle with releasePending := false })
    else return (none, (pool.unpark id).update id idle)

def release (pool : BufferPool) (id : BufferId) :
    Except BufferError (BufferRelease × BufferPool) := do
  let b ← pool.lookup id
  if b.isBusy then return (.deferred, (pool.park id).update id { b with releasePending := true })
  else return (.released, pool)

def destroy (pool : BufferPool) (id : BufferId) :
    Except BufferError (BufferRelease × BufferPool) := do
  let b ← pool.lookup id
  if b.isBusy then return (.deferred, (pool.park id).update id { b with destroyPending := true })
  else return (.freed, pool.drop id)

end BufferPool

/-! ### Requests -/

inductive PoolRequest where
  | register (description : BufferPool.Description)
  | setContents (buffer : BufferId) (pixels : Array UInt32)
  | setYInverted (buffer : BufferId) (inverted : Bool)
  | markBusy (buffer : BufferId)
  | clearBusy (buffer : BufferId)
  | release (buffer : BufferId)
  | destroy (buffer : BufferId)

inductive PoolReply where
  | registered (buffer : BufferId)
  | done
  | busy (count : Nat)
  /-- What became of the buffer, if anything did. -/
  | ended (release : Option BufferRelease)
  | refused (error : BufferError)
  deriving DecidableEq, Repr

namespace BufferPool

/-- The reply to a request and the pool afterwards; a refused request leaves the pool as it was. -/
def settle {α : Type} (pool : BufferPool) (reply : α → PoolReply)
    (result : Except BufferError (α × BufferPool)) : PoolReply × BufferPool :=
  match result with
  | .ok (value, after) => (reply value, after)
  | .error e => (.refused e, pool)

def handle (pool : BufferPool) (request : PoolRequest) : PoolReply × BufferPool :=
  let quiet (result : Except BufferError BufferPool) :=
    pool.settle (fun _ : Unit => .done) (result.map fun after => ((), after))
  match request with
  | .register d => pool.settle .registered (pool.register d)
  | .setContents id pixels => quiet (pool.setContents id pixels)
  | .setYInverted id inverted => quiet (pool.setYInverted id inverted)
  | .markBusy id => pool.settle .busy (pool.markBusy id)
  | .clearBusy id => pool.settle .ended (pool.clearBusy id)
  | .release id => pool.settle (fun r => .ended (some r)) (pool.release id)
  | .destroy id => pool.settle (fun r => .ended (some r)) (pool.destroy id)

end BufferPool

end Compositing
