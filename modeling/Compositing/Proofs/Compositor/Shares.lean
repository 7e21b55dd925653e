import Compositing.Proofs.Compositor.Albums
import Mathlib.Data.Set.Basic

/-!
# Clients side by side

A client works with its share of the objects. If two clients work with shares that are apart, what
comes of it is what comes of their work one by one: `Merged A B a b d` says that `d` is so made of `a`,
where the client of the share `A` alone was at work, and of `b`, where only the other one was. What is
in no share may be touched by both, and then in the same way. Each thing that a request does to one
object keeps two compositors in step: the lemmas on `Along`.
-/

namespace Compositing

/-! ### Tables that agree on some keys -/

/-- Beyond a set of keys the tables hold the same. -/
def Table.AgreeOff {κ α : Type} [DecidableEq κ] (S : Set κ) (t t' : Table κ α) : Prop :=
  ∀ k ∉ S, t'.get? k = t.get? k

namespace Table.AgreeOff

variable {κ α : Type} [DecidableEq κ] {S : Set κ} {t t' : Table κ α} {k : κ}

theorem modify (agree : t.AgreeOff S t') (k : κ) (f : α → α) :
    (t.modify k f).AgreeOff S (t'.modify k f) := by
  intro x off
  rw [get?_modify, get?_modify, agree x off]

theorem modify_in (agree : t.AgreeOff S t') (member : k ∈ S) (f : α → α) :
    t.AgreeOff S (t'.modify k f) := by
  intro x off
  rw [get?_modify, if_neg (fun same : x = k => off (same ▸ member)), agree x off]

theorem erase (agree : t.AgreeOff S t') (k : κ) : (t.erase k).AgreeOff S (t'.erase k) := by
  intro x off
  rw [get?_erase, get?_erase, agree x off]

theorem erase_in (agree : t.AgreeOff S t') (member : k ∈ S) : t.AgreeOff S (t'.erase k) := by
  intro x off
  rw [get?_erase, if_neg (fun same : x = k => off (same ▸ member)), agree x off]

theorem insert (agree : t.AgreeOff S t') (k : κ) (v : α) :
    (t.insert k v).AgreeOff S (t'.insert k v) := by
  intro x off
  rw [get?_insert, get?_insert, agree x off]

theorem insert_in (agree : t.AgreeOff S t') (member : k ∈ S) (v : α) :
    t.AgreeOff S (t'.insert k v) := by
  intro x off
  rw [get?_insert, if_neg (fun same : x = k => off (same ▸ member)), agree x off]

/-- What the tables hold for a key of the set does not matter. -/
theorem insert_both (agree : t.AgreeOff S t') (member : k ∈ S) (v w : α) :
    (t.insert k v).AgreeOff S (t'.insert k w) := by
  intro x off
  have other : x ≠ k := fun same => off (same ▸ member)
  rw [get?_insert, get?_insert, if_neg other, if_neg other, agree x off]

/-- Two tables that agree with the same ones are the same. -/
theorem eq_of_both {S' : Set κ} {u u' v : Table κ α} (left : t.AgreeOff S u) (right : v.AgreeOff S' u)
    (left' : t.AgreeOff S u') (right' : v.AgreeOff S' u') (off : k ∉ S ∨ k ∉ S') :
    u'.get? k = u.get? k := by
  rcases off with off | off
  · rw [left' k off, left k off]
  · rw [right' k off, right k off]

end Table.AgreeOff

namespace BufferPool

variable (pool : BufferPool) (x : BufferId)

theorem buffers_park : (pool.park x).buffers = pool.buffers := by
  unfold park
  split <;> rfl

theorem nextId_park : (pool.park x).nextId = pool.nextId := by
  unfold park
  split <;> rfl

end BufferPool

/-! ### Shares -/

/-- What a client works with: some surfaces, regions and buffers, and protocol objects, among them those
that are made for it meanwhile. -/
structure Share where
  client : ClientId
  surfaces : Set SurfaceId
  regions : Set RegionId
  buffers : Set BufferId
  handles : Set Handle

/-- Nothing belongs to both shares. -/
structure Share.Apart (A B : Share) : Prop where
  clients : A.client ≠ B.client
  surfaces : Disjoint A.surfaces B.surfaces
  regions : Disjoint A.regions B.regions
  buffers : Disjoint A.buffers B.buffers
  handles : Disjoint A.handles B.handles

theorem Share.Apart.symm {A B : Share} (apart : A.Apart B) : B.Apart A :=
  ⟨apart.clients.symm, apart.surfaces.symm, apart.regions.symm, apart.buffers.symm,
    apart.handles.symm⟩

/-- The event is about a protocol object or a buffer of the share, or for its client. -/
def Share.Concerned (A : Share) : TransportEvent → Prop
  | .created _ h | .destroyed h | .frameDone h _ => h ∈ A.handles
  | .noMemory client => client = A.client
  | .bufferRelease x => x ∈ A.buffers

/-- The surface neither shows nor awaits a buffer of the share, nor holds a protocol object of it. -/
structure Surface.Avoids (B : Share) (s : Surface) : Prop where
  shown : ∀ x, s.buffer = some x → x ∉ B.buffers
  pending : ∀ x, s.pending.buffer = some x → x ∉ B.buffers
  resource : ∀ h, s.resource = some h → h ∉ B.handles
  callbacks : ∀ h ∈ s.allCallbacks, h ∉ B.handles

/-- A buffer that was perhaps let go of once more. -/
def Buffer.letGo (b : Buffer) (again : Bool) : Buffer :=
  { b with releasePending := b.releasePending || again }

/-- The compositor let go of a buffer that is still being read. -/
def BufferPool.releases (pool : BufferPool) (x : BufferId) : Bool :=
  (pool.get? x).any (·.releasePending)

/-- Beyond some surfaces, a renderer keeps what the other one does. -/
def Renderer.Half (S : Set SurfaceId) (r r' : Renderer) : Prop :=
  r'.bare = r.bare ∧ ∀ k ∉ S, r'.kept? k = r.kept? k

/-- The output has those of the views that are still there, and keeps the same for surfaces of its own
share. -/
structure Output.Half (B : Share) (views : Table ViewId View) (p q : Output) : Prop where
  rest :
    { q with
      paintOrder := p.paintOrder
      creationOrder := p.creationOrder
      pendingRender := p.pendingRender
      renderer := p.renderer } = p
  paint : q.paintOrder = p.paintOrder.filter views.contains
  creation : q.creationOrder = p.creationOrder.filter views.contains
  renderer : Option.Rel (Renderer.Half B.surfaces) p.renderer q.renderer

namespace Compositor

/-- As far as the share `B` is not concerned, `d` is as `a`. What is in no share is as both in `a` and
in `b`. -/
structure Half (A B : Share) (a b d : Compositor) : Prop where
  config : d.config = a.config
  contexts : d.contexts = a.contexts
  surfaces : a.surfaces.AgreeOff B.surfaces d.surfaces
  regions : a.regions.AgreeOff B.regions d.regions
  buffers : a.buffers.buffers.AgreeOff A.buffersᶜ d.buffers.buffers
  lent : ∀ x ∉ A.buffers, x ∉ B.buffers →
    d.buffers.get? x = (a.buffers.get? x).map (·.letGo (b.buffers.releases x))
  nextBuffer : d.buffers.nextId = a.buffers.nextId
  views : ∀ v w, w.surface ∉ B.surfaces → (d.views.get? v = some w ↔ a.views.get? v = some w)
  outputs : ∀ o, Option.Rel (Output.Half B d.views) (a.outputs.get? o) (d.outputs.get? o)
  order : d.outputOrder = a.outputOrder
  focused : d.focused = a.focused.filter d.views.contains
  resources : a.resources.AgreeOff A.handlesᶜ d.resources
  others : ∀ h ∉ A.handles, h ∉ B.handles →
    d.resources.get? h = (a.resources.get? h).bind fun _ => b.resources.get? h
  nextIds : { d.nextIds with image := a.nextIds.image } = a.nextIds
  avoids : ∀ k s, a.surfaces.get? k = some s → k ∉ B.surfaces → s.Avoids B
  roles : ∀ v w, a.views.get? v = some w → w.surface ∉ B.surfaces →
    ∀ h, w.role = some h → h ∉ B.handles
  client : ∀ k ∈ A.surfaces, ∀ s, a.surfaces.get? k = some s → s.client = A.client

/-- What two clients did, each with its share, is what they did one by one. -/
structure Merged (A B : Share) (a b d : Compositor) : Prop where
  apart : A.Apart B
  left : Half A B a b d
  right : Half B A b a d
  due : ∀ o p q r, a.outputs.get? o = some p → b.outputs.get? o = some q →
    d.outputs.get? o = some r → r.pendingRender = (p.pendingRender || q.pendingRender)
  deferred : ∀ x, x ∈ d.buffers.deferred ↔ x ∈ a.buffers.deferred ∨ x ∈ b.buffers.deferred

variable {A B : Share} {a b d : Compositor}

theorem Merged.symm (merged : Merged A B a b d) : Merged B A b a d where
  apart := merged.apart.symm
  left := merged.right
  right := merged.left
  due o p q r first second third := by
    rw [merged.due o q p r second first third, Bool.or_comm]
  deferred x := (merged.deferred x).trans or_comm

/-! ### What both sides have -/

section

variable (merged : Merged A B a b d)
include merged

theorem Merged.surface {k : SurfaceId} (own : k ∈ A.surfaces) :
    d.surfaces.get? k = a.surfaces.get? k :=
  merged.left.surfaces k (merged.apart.surfaces.notMem_of_mem_left own)

theorem Merged.avoids {k : SurfaceId} {s : Surface} (own : k ∈ A.surfaces)
    (found : a.surfaces.get? k = some s) : s.Avoids B :=
  merged.left.avoids k s found (merged.apart.surfaces.notMem_of_mem_left own)

theorem Merged.region {r : RegionId} (own : r ∈ A.regions) : d.region? r = a.region? r := by
  rw [region?, region?, merged.left.regions r (merged.apart.regions.notMem_of_mem_left own)]

/-- A buffer that the other share does not have is the same, but perhaps let go of. -/
theorem Merged.buffer {x : BufferId} (other : x ∉ B.buffers) :
    ∃ again, d.buffers.get? x = (a.buffers.get? x).map (·.letGo again) := by
  by_cases own : x ∈ A.buffers
  · refine ⟨false, ?_⟩
    have same : (·.letGo false : Buffer → Buffer) = id := by
      funext p
      simp only [Buffer.letGo, Bool.or_false, id]
    rw [same, Option.map_id]
    exact merged.left.buffers x fun off => off own
  · exact ⟨_, merged.left.lent x own other⟩

end

/-! ### Changes to one object -/

section

variable (merged : Merged A B a b d)
include merged

theorem Merged.tell (events events' : List Event) : Merged A B (a.tell events) b (d.tell events') :=
  ⟨merged.apart, { merged.left with }, { merged.right with }, merged.due, merged.deferred⟩

theorem Merged.modifySurface {k : SurfaceId} (own : k ∈ A.surfaces) {f : Surface → Surface}
    (keeps : ∀ s, a.surfaces.get? k = some s → (f s).Avoids B ∧ (f s).client = s.client) :
    Merged A B (a.modifySurface k f) b (d.modifySurface k f) := by
  refine ⟨merged.apart,
    { merged.left with surfaces := merged.left.surfaces.modify k f, avoids := ?_, client := ?_ },
    { merged.right with surfaces := merged.right.surfaces.modify_in own f },
    merged.due, merged.deferred⟩
  · intro x s found off
    simp only [Compositor.modifySurface, Table.get?_modify] at found
    split at found
    next same =>
      obtain ⟨t, there, rfl⟩ := Option.map_eq_some_iff.1 found
      exact (keeps t (same ▸ there)).1
    next => exact merged.left.avoids x s found off
  · intro x own' s found
    simp only [Compositor.modifySurface, Table.get?_modify] at found
    split at found
    next same =>
      obtain ⟨t, there, rfl⟩ := Option.map_eq_some_iff.1 found
      exact (keeps t (same ▸ there)).2.trans (merged.left.client x own' t there)
    next => exact merged.left.client x own' s found

theorem Merged.eraseSurface {k : SurfaceId} (own : k ∈ A.surfaces) :
    Merged A B { a with surfaces := a.surfaces.erase k } b
      { d with surfaces := d.surfaces.erase k } := by
  refine ⟨merged.apart,
    { merged.left with surfaces := merged.left.surfaces.erase k, avoids := ?_, client := ?_ },
    { merged.right with surfaces := merged.right.surfaces.erase_in own },
    merged.due, merged.deferred⟩
  · intro x s found off
    rw [Table.get?_erase, Option.ite_none_left_eq_some] at found
    exact merged.left.avoids x s found.2 off
  · intro x own' s found
    rw [Table.get?_erase, Option.ite_none_left_eq_some] at found
    exact merged.left.client x own' s found.2

theorem Merged.modifyRegion {r : RegionId} (own : r ∈ A.regions) (f : Region → Region) :
    Merged A B (a.modifyRegion r f) b (d.modifyRegion r f) :=
  ⟨merged.apart, { merged.left with regions := merged.left.regions.modify r _ },
    { merged.right with regions := merged.right.regions.modify_in own _ }, merged.due, merged.deferred⟩

theorem Merged.own {h : Handle} (own : h ∈ A.handles) (o : Owner) :
    Merged A B (a.own h o) b (d.own h o) := by
  have other : h ∉ B.handles := merged.apart.handles.notMem_of_mem_left own
  -- A new object is in the share, so what is in none keeps its entry.
  have kept (c : Compositor) {x : Handle} (off : x ∉ A.handles) :
      (c.own h o).resources.get? x = c.resources.get? x := by
    simp only [Compositor.own, Table.get?_insert, if_neg (fun same : x = h => off (same ▸ own))]
  have left : ∀ x ∉ A.handles, x ∉ B.handles → (d.own h o).resources.get? x =
      ((a.own h o).resources.get? x).bind fun _ => b.resources.get? x := fun x off off' => by
    rw [kept d off, kept a off, merged.left.others x off off']
  have right : ∀ x ∉ B.handles, x ∉ A.handles → (d.own h o).resources.get? x =
      (b.resources.get? x).bind fun _ => (a.own h o).resources.get? x := fun x off off' => by
    rw [kept d off', kept a off', merged.right.others x off off']
  exact ⟨merged.apart,
    { merged.left with resources := merged.left.resources.insert h o, others := left },
    { merged.right with resources := merged.right.resources.insert_in other o, others := right },
    merged.due, merged.deferred⟩

theorem Merged.disown {h : Handle} (other : h ∉ B.handles) :
    Merged A B (a.disown h) b (d.disown h) := by
  -- The object may be in no share. It is in the index as long as neither client destroyed it.
  have left : ∀ x ∉ A.handles, x ∉ B.handles → (d.disown h).resources.get? x =
      ((a.disown h).resources.get? x).bind fun _ => b.resources.get? x := fun x off off' => by
    simp only [Compositor.disown, Table.get?_erase]
    split
    · rfl
    · exact merged.left.others x off off'
  have right : ∀ x ∉ B.handles, x ∉ A.handles → (d.disown h).resources.get? x =
      (b.resources.get? x).bind fun _ => (a.disown h).resources.get? x := fun x off off' => by
    simp only [Compositor.disown, Table.get?_erase]
    split
    · cases b.resources.get? x <;> rfl
    · exact merged.right.others x off off'
  exact ⟨merged.apart,
    { merged.left with resources := merged.left.resources.erase h, others := left },
    { merged.right with resources := merged.right.resources.erase_in other, others := right },
    merged.due, merged.deferred⟩

end

/-! ### What the transport hears -/

/-- Two compositors are kept in step. The transport hears the same of both, and nothing that concerns
the other share. -/
structure Along (A B : Share) (b : Compositor) (past past' : List TransportEvent)
    (a d : Compositor) : Prop where
  merged : Merged A B a b d
  told : ∃ told, transportEvents a.log = past ++ told ∧ transportEvents d.log = past' ++ told ∧
    ∀ e ∈ told, ¬B.Concerned e

variable {past past' : List TransportEvent}

section

variable (along : Along A B b past past' a d)
include along

theorem Along.tell {events : List Event} (spared : ∀ e ∈ transportEvents events, ¬B.Concerned e) :
    Along A B b past past' (a.tell events) (d.tell events) := by
  obtain ⟨told, left, right, spared'⟩ := along.told
  refine ⟨along.merged.tell events events, told ++ transportEvents events, ?_, ?_, fun e member => ?_⟩
  · simp only [Compositor.tell, transportEvents_append, left, List.append_assoc]
  · simp only [Compositor.tell, transportEvents_append, right, List.append_assoc]
  · exact (List.mem_append.1 member).elim (spared' e) (spared e)

theorem Along.tellTransport {event : TransportEvent} (spared : ¬B.Concerned event) :
    Along A B b past past' (a.tellTransport event) (d.tellTransport event) :=
  along.tell fun _ member => List.mem_singleton.1 member ▸ spared

theorem Along.tellPolicy (event : PolicyEvent) :
    Along A B b past past' (a.tellPolicy event) (d.tellPolicy event) :=
  along.tell fun _ member => nomatch member

theorem Along.quiet {a' d' : Compositor} (merged : Merged A B a' b d') (left : a'.log = a.log)
    (right : d'.log = d.log) : Along A B b past past' a' d' :=
  ⟨merged, by rw [left, right]; exact along.told⟩

theorem Along.destroyResource (handle : Option Handle)
    (other : ∀ h, handle = some h → h ∉ B.handles) :
    Along A B b past past' (a.destroyResource handle) (d.destroyResource handle) := by
  cases handle with
  | none => exact along
  | some h =>
    have disowned := along.quiet (along.merged.disown (other h rfl)) rfl rfl
    exact disowned.tellTransport (other h rfl)

theorem Along.createResource {host : Host} {kind : ResourceKind} {client : ClientId} {id : UInt32}
    (other : client ≠ B.client)
    (others : ∀ h, host.createResource kind client id = .ok h → h ∉ B.handles) (what : String) :
    (d.createResource host kind client id what).1 = (a.createResource host kind client id what).1 ∧
    Along A B b past past' (a.createResource host kind client id what).2
      (d.createResource host kind client id what).2 := by
  unfold Compositor.createResource
  split
  next h made => exact ⟨rfl, along.tellTransport (others h made)⟩
  next => exact ⟨rfl, along.tellTransport other⟩

end

/-! ### Buffers -/

section

variable {c : Compositor} {x : BufferId} {p : Buffer}

theorem releaseBuffer_of_absent (absent : c.buffers.get? x = none) : c.releaseBuffer x = c := by
  simp [releaseBuffer, BufferPool.release, BufferPool.lookup_of_absent absent, bind, Except.bind]

theorem releaseBuffer_of_found (found : c.buffers.get? x = some p) : c.releaseBuffer x =
    if p.isBusy then
      { c with buffers := (c.buffers.park x).update x { p with releasePending := true } }
    else c.tellTransport (.bufferRelease x) := by
  cases busy : p.isBusy <;>
    simp [releaseBuffer, BufferPool.release, BufferPool.lookup_of_found found, bind, Except.bind,
      busy, pure, Except.pure]

theorem destroyBuffer_of_absent (absent : c.buffers.get? x = none) :
    c.destroyBuffer x = (.error (.buffer (.notRegistered x)), c) := by
  simp [destroyBuffer, BufferPool.destroy, BufferPool.lookup_of_absent absent, bind, Except.bind]

theorem destroyBuffer_of_found (found : c.buffers.get? x = some p) : c.destroyBuffer x =
    if p.isBusy then
      (.ok .deferred,
        { c with buffers := (c.buffers.park x).update x { p with destroyPending := true } })
    else (.ok .freed, { c with buffers := c.buffers.drop x }) := by
  cases busy : p.isBusy <;>
    simp [destroyBuffer, BufferPool.destroy, BufferPool.lookup_of_found found, bind, Except.bind,
      busy, pure, Except.pure]

end

section

variable (merged : Merged A B a b d) {x : BufferId}
include merged

/-- A request about the buffer is parked, on both sides. -/
theorem Merged.parked (p q : Buffer) (y : BufferId) :
    y ∈ ((d.buffers.park x).update x q).deferred ↔
      y ∈ ((a.buffers.park x).update x p).deferred ∨ y ∈ b.buffers.deferred := by
  rw [BufferPool.mem_deferred_update, BufferPool.mem_deferred_update, BufferPool.mem_deferred_park,
    BufferPool.mem_deferred_park, merged.deferred, or_assoc]

theorem Merged.parkOwn (own : x ∈ A.buffers) (p : Buffer) :
    Merged A B { a with buffers := (a.buffers.park x).update x p } b
      { d with buffers := (d.buffers.park x).update x p } := by
  have other : x ∉ B.buffers := merged.apart.buffers.notMem_of_mem_left own
  have kept (c : Compositor) {y : BufferId} (off : y ∉ A.buffers) :
      ((c.buffers.park x).update x p).get? y = c.buffers.get? y := by
    rw [BufferPool.get?_update, if_neg (fun same : y = x => off (same ▸ own)), BufferPool.get?_park]
  refine ⟨merged.apart,
    { merged.left with buffers := ?_, lent := fun y off off' => ?_, nextBuffer := ?_ },
    { merged.right with buffers := ?_, lent := fun y off off' => ?_, nextBuffer := ?_ },
    merged.due, merged.parked p p⟩
  · simp only [BufferPool.update, BufferPool.buffers_park]
    exact merged.left.buffers.insert x p
  · rw [kept d off, kept a off, merged.left.lent y off off']
  · simpa only [BufferPool.update, BufferPool.nextId_park] using merged.left.nextBuffer
  · simp only [BufferPool.update, BufferPool.buffers_park]
    exact merged.right.buffers.insert_in other p
  · rw [kept d off', merged.right.lent y off off', BufferPool.releases, BufferPool.releases,
      kept a off']
  · simpa only [BufferPool.update, BufferPool.nextId_park] using merged.right.nextBuffer

/-- A buffer that is in no share is let go of. -/
theorem Merged.parkLent (own : x ∉ A.buffers) (other : x ∉ B.buffers) {p q : Buffer}
    (found : a.buffers.get? x = some p) (found' : d.buffers.get? x = some q) :
    Merged A B { a with buffers := (a.buffers.park x).update x { p with releasePending := true } } b
      { d with buffers := (d.buffers.park x).update x { q with releasePending := true } } := by
  have kept (c : Compositor) (p : Buffer) {y : BufferId} (off : y ≠ x) :
      ((c.buffers.park x).update x p).get? y = c.buffers.get? y := by
    rw [BufferPool.get?_update, if_neg off, BufferPool.get?_park]
  have here (c : Compositor) (p : Buffer) : ((c.buffers.park x).update x p).get? x = some p := by
    rw [BufferPool.get?_update, if_pos rfl]
  -- What `b` has of the buffer stays. On that side it shows that `a` lets go of it now.
  refine ⟨merged.apart,
    { merged.left with buffers := ?_, lent := fun y off off' => ?_, nextBuffer := ?_ },
    { merged.right with buffers := ?_, lent := fun y off off' => ?_, nextBuffer := ?_ },
    merged.due, merged.parked _ _⟩
  · simp only [BufferPool.update, BufferPool.buffers_park]
    exact merged.left.buffers.insert_both own _ _
  · by_cases same : y = x
    · subst same
      have before := merged.left.lent y own other
      rw [found, found', Option.map_some, Option.some.injEq] at before
      rw [here, here, Option.map_some, before]
      simp [Buffer.letGo]
    · rw [kept d _ same, kept a _ same, merged.left.lent y off off']
  · simpa only [BufferPool.update, BufferPool.nextId_park] using merged.left.nextBuffer
  · simp only [BufferPool.update, BufferPool.buffers_park]
    exact merged.right.buffers.insert_in other _
  · by_cases same : y = x
    · subst same
      have before := merged.right.lent y other own
      rw [found'] at before
      obtain ⟨r, there, eq⟩ := Option.map_eq_some_iff.1 before.symm
      rw [here, BufferPool.releases, here, there, ← eq]
      simp [Buffer.letGo]
    · rw [kept d _ same, merged.right.lent y off off', BufferPool.releases, BufferPool.releases,
        kept a _ same]
  · simpa only [BufferPool.update, BufferPool.nextId_park] using merged.right.nextBuffer

theorem Merged.dropBuffer (own : x ∈ A.buffers) :
    Merged A B { a with buffers := a.buffers.drop x } b { d with buffers := d.buffers.drop x } := by
  have other : x ∉ B.buffers := merged.apart.buffers.notMem_of_mem_left own
  have kept (c : Compositor) {y : BufferId} (off : y ∉ A.buffers) :
      (c.buffers.drop x).get? y = c.buffers.get? y := by
    rw [BufferPool.get?_drop, if_neg (fun same : y = x => off (same ▸ own))]
  refine ⟨merged.apart,
    { merged.left with buffers := merged.left.buffers.erase x, lent := fun y off off' => ?_ },
    { merged.right with buffers := merged.right.buffers.erase_in other, lent := fun y off off' => ?_ },
    merged.due, merged.deferred⟩
  · rw [kept d off, kept a off, merged.left.lent y off off']
  · rw [kept d off', merged.right.lent y off off', BufferPool.releases, BufferPool.releases,
      kept a off']

end

section

variable (along : Along A B b past past' a d) {x : BufferId}
include along

theorem Along.releaseBuffer (other : x ∉ B.buffers) :
    Along A B b past past' (a.releaseBuffer x) (d.releaseBuffer x) := by
  obtain ⟨again, same⟩ := along.merged.buffer other
  cases found : a.buffers.get? x with
  | none =>
    rw [found, Option.map_none] at same
    rw [releaseBuffer_of_absent found, releaseBuffer_of_absent same]
    exact along
  | some p =>
    rw [found, Option.map_some] at same
    -- Only busy buffers are let go of without a word, and both sides agree on which are busy.
    have busy : (p.letGo again).isBusy = p.isBusy := rfl
    rw [releaseBuffer_of_found found, releaseBuffer_of_found same, busy]
    split
    · refine along.quiet ?_ rfl rfl
      by_cases own : x ∈ A.buffers
      · exact along.merged.parkOwn own _
      · exact along.merged.parkLent own other found same
    · exact along.tellTransport other

theorem Along.destroyBuffer (own : x ∈ A.buffers) :
    (d.destroyBuffer x).1 = (a.destroyBuffer x).1 ∧
    Along A B b past past' (a.destroyBuffer x).2 (d.destroyBuffer x).2 := by
  have same : d.buffers.get? x = a.buffers.get? x :=
    along.merged.left.buffers x fun off => off own
  cases found : a.buffers.get? x with
  | none =>
    rw [destroyBuffer_of_absent found, destroyBuffer_of_absent (same.trans found)]
    exact ⟨rfl, along⟩
  | some p =>
    rw [destroyBuffer_of_found found, destroyBuffer_of_found (same.trans found)]
    split
    · exact ⟨rfl, along.quiet (along.merged.parkOwn own _) rfl rfl⟩
    · exact ⟨rfl, along.quiet (along.merged.dropBuffer own) rfl rfl⟩

end

end Compositor

end Compositing
