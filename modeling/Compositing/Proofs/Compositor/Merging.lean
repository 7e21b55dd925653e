import Compositing.Proofs.Compositor.SharedOutputs
import Compositing.Proofs.Compositor.Unheard

/-!
# Requests of clients side by side

A request of one client does the same where the other client is at work too, as far as the share of
the first is concerned: the same reply, the same change to the objects of the share and the same word to
the transport. Main statement: `Merged.handle`.
-/

namespace Compositing

/-- The client of the share asks for something that is about its share only. -/
def Request.Within (A : Share) (host : Host) : Request → Prop
  | .attach k buffer _ => k ∈ A.surfaces ∧ ∀ x, buffer = some x → x ∈ A.buffers
  | .damage k _ | .commit k | .destroySurface k => k ∈ A.surfaces
  | .setOpaque k region | .setInput k region =>
    k ∈ A.surfaces ∧ ∀ r, region = some r → r ∈ A.regions
  | .addToRegion r _ | .subtractFromRegion r _ => r ∈ A.regions
  | .frame k callback => k ∈ A.surfaces ∧
    ∀ h, host.createResource .callback A.client callback = .ok h → h ∈ A.handles
  | .destroyBuffer x => x ∈ A.buffers
  | _ => False

/-! ### Surfaces that stay in their share -/

namespace Surface

variable {B : Share} {s : Surface}

/-- What a surface has of its client: buffers and protocol objects. -/
def belongings (s : Surface) :
    ClientId × Option BufferId × Option BufferId × Option Handle × List Handle :=
  (s.client, s.buffer, s.pending.buffer, s.resource, s.allCallbacks)

theorem Avoids.same (avoids : s.Avoids B) {s' : Surface} (same : s'.belongings = s.belongings) :
    s'.Avoids B := by
  simp only [belongings, Prod.mk.injEq] at same
  obtain ⟨-, shown, pending, resource, callbacks⟩ := same
  exact ⟨shown ▸ avoids.shown, pending ▸ avoids.pending, resource ▸ avoids.resource,
    callbacks ▸ avoids.callbacks⟩

theorem Avoids.setCallback (avoids : s.Avoids B) {h : Handle} (other : h ∉ B.handles) :
    (s.setCallback h).2.Avoids B := by
  refine ⟨avoids.shown, avoids.pending, avoids.resource, fun x member => ?_⟩
  rcases List.mem_append.1 member with old | new
  · exact avoids.callbacks x (List.mem_append_left _ old)
  · cases List.mem_singleton.1 new
    exact other

theorem Avoids.commit (avoids : s.Avoids B) (pool : BufferPool) : (s.commit pool).surface.Avoids B := by
  obtain ⟨link, callbacks⟩ := s.commit_handles pool
  have buffers : ((s.commit pool).surface.buffer = s.pending.buffer ∨
      (s.commit pool).surface.buffer = s.buffer) ∧
      ((s.commit pool).surface.pending.buffer = none ∨
        (s.commit pool).surface.pending.buffer = s.pending.buffer) := by
    simp only [Surface.commit, Surface.commitRegions, Surface.commitBuffer, Surface.buffer]
    split
    · exact ⟨.inl rfl, .inl rfl⟩
    · exact ⟨.inr rfl, .inr rfl⟩
  refine ⟨fun x there => ?_, fun x there => ?_, ?_, ?_⟩
  · rcases buffers.1 with pending | shown
    · exact avoids.pending x (pending ▸ there)
    · exact avoids.shown x (shown ▸ there)
  · rcases buffers.2 with none | pending
    · rw [none] at there
      cases there
    · exact avoids.pending x (pending ▸ there)
  · rw [Surface.resource, link]
    exact avoids.resource
  · rw [callbacks]
    exact avoids.callbacks

/-- A commit does not tell whether the compositor let go of the buffer that it reads. -/
theorem commit_calm (s : Surface) (pool pool' : BufferPool)
    (same : ∀ x, s.pending.buffer = some x →
      (pool'.get? x).map Buffer.calm = (pool.get? x).map Buffer.calm) :
    (s.commit pool').surface = (s.commit pool).surface ∧
    (s.commit pool').outcome = (s.commit pool).outcome ∧
    (s.commit pool').notice?.map (·.map Buffer.calm) =
      (s.commit pool).notice?.map (·.map Buffer.calm) := by
  have record : (s.pending.buffer.bind pool'.get?).map Buffer.calm =
      (s.pending.buffer.bind pool.get?).map Buffer.calm := by
    cases pending : s.pending.buffer with
    | none => rfl
    | some x => exact same x pending
  have size (b : Option Buffer) :
      b.elim Size.zero (·.size) = (b.map Buffer.calm).elim Size.zero (·.size) := by
    cases b <;> rfl
  have sizes : (s.pending.buffer.bind pool'.get?).elim Size.zero (·.size) =
      (s.pending.buffer.bind pool.get?).elim Size.zero (·.size) := by
    rw [size, record, ← size]
  simp only [Surface.commit, Surface.commitBuffer, sizes, Commit.notice?]
  split
  · exact ⟨rfl, rfl, congrArg some record⟩
  · exact ⟨rfl, rfl, rfl⟩

theorem commit_client (s : Surface) (pool : BufferPool) :
    (s.commit pool).surface.client = s.client := by
  simp only [Surface.commit, Surface.commitBuffer]
  split <;> rfl

end Surface

namespace Compositor

variable {A B : Share} {a b d : Compositor} {past past' : List TransportEvent}

/-! ### Changes that the transport does not hear of -/

section

variable (along : Along A B b past past' a d)
include along

theorem Along.unheard {a' d' : Compositor} (merged : Merged A B a' b d') (left : Unheard a a')
    (right : Unheard d d') : Along A B b past past' a' d' := by
  obtain ⟨told, before, before', spared⟩ := along.told
  obtain ⟨more, after, silent⟩ := left.told
  obtain ⟨more', after', silent'⟩ := right.told
  refine ⟨merged, told, ?_, ?_, spared⟩
  · rw [after, transportEvents_append, silent, List.append_nil, before]
  · rw [after', transportEvents_append, silent', List.append_nil, before']

theorem Along.importContent (linked : a.Linked) (orderly : a.Orderly) (orderly' : d.Orderly)
    {k : SurfaceId} (own : k ∈ A.surfaces) (host : Host) {content content' : Option Buffer}
    (same : content'.map Buffer.calm = content.map Buffer.calm) :
    Along A B b past past' (a.importContent host k content) (d.importContent host k content') :=
  along.unheard (along.merged.importContent linked orderly orderly' own host same)
    (unheard_importContent host k content) (unheard_importContent host k content')

theorem Along.scheduleSurface {k : SurfaceId} (shown : d.outputOfSurface? k = a.outputOfSurface? k) :
    Along A B b past past' (a.scheduleSurface k) (d.scheduleSurface k) := by
  refine along.unheard ?_ (unheard_scheduleSurface k) (unheard_scheduleSurface k)
  unfold Compositor.scheduleSurface
  rw [shown]
  split
  · exact along.merged.scheduleOutput _
  · exact along.merged

theorem Along.notice (linked : a.Linked) (orderly : a.Orderly) (orderly' : d.Orderly)
    {k : SurfaceId} (own : k ∈ A.surfaces) (host : Host) {notice notice' : Option (Option Buffer)}
    (same : notice'.map (·.map Buffer.calm) = notice.map (·.map Buffer.calm)) :
    Along A B b past past' (notice.elim a (a.importContent host k))
      (notice'.elim d (d.importContent host k)) := by
  cases notice <;> cases notice'
  case none.none => exact along
  case some.some => exact along.importContent linked orderly orderly' own host (Option.some.inj same)
  all_goals cases same

theorem Along.letGo {x : Option BufferId} (other : ∀ y, x = some y → y ∉ B.buffers) :
    Along A B b past past' (a.letGo x) (d.letGo x) := by
  cases x with
  | none => exact along
  | some y => exact along.releaseBuffer (other y rfl)

end

/-! ### Where a surface is shown -/

section

variable {c c' : Compositor} {k : SurfaceId}

theorem outputOfSurface?_of_tables (surfaces : c'.surfaces = c.surfaces) (views : c'.views = c.views) :
    c'.outputOfSurface? k = c.outputOfSurface? k :=
  outputOfSurface?_same (fun x => by rw [surfaces]) views k

/-- Neither an import nor a release moves a surface. -/
theorem outputOfSurface?_notice (host : Host) (notice : Option (Option Buffer)) :
    (notice.elim c (c.importContent host k)).outputOfSurface? k = c.outputOfSurface? k := by
  cases notice with
  | none => rfl
  | some content =>
    obtain ⟨-, -, surfaces, views, -⟩ := c.importContent_fields host k content
    exact outputOfSurface?_of_tables surfaces views

theorem outputOfSurface?_letGo (x : Option BufferId) :
    (c.letGo x).outputOfSurface? k = c.outputOfSurface? k := by
  obtain ⟨-, -, surfaces, views, -⟩ := c.letGo_fields x
  exact outputOfSurface?_of_tables surfaces views

theorem elim_releaseBuffer (x : Option BufferId) : x.elim c c.releaseBuffer = c.letGo x := by
  cases x <;> rfl

end

/-! ### Frame callbacks and commits -/

section

variable {c : Compositor} {host : Host} {k : SurfaceId} {s : Surface} {callback : UInt32}

theorem requestFrame_of_refused (found : c.surfaces.get? k = some s) {e : TransportError}
    (refused : host.createResource .callback s.client callback = .error e) :
    c.requestFrame host k callback =
      (.error (.resourceExhausted "frame callback"), c.tellTransport (.noMemory s.client)) := by
  simp [requestFrame, createResource, found, refused]

theorem requestFrame_of_made (found : c.surfaces.get? k = some s) {h : Handle}
    (made : host.createResource .callback s.client callback = .ok h) :
    c.requestFrame host k callback = (.ok (),
      (((c.tellTransport (.created .callback h)).own h (.callback k)).modifySurface k
        fun _ => (s.setCallback h).2).destroyResource s.pendingCallback) := by
  simp [requestFrame, createResource, found, made, Surface.setCallback]

end

section

variable (along : Along A B b past past' a d) {k : SurfaceId}
include along

theorem Along.modifySurface (own : k ∈ A.surfaces) {f : Surface → Surface}
    (keeps : ∀ s, a.surfaces.get? k = some s → (f s).Avoids B ∧ (f s).client = s.client) :
    Along A B b past past' (a.modifySurface k f) (d.modifySurface k f) :=
  along.quiet (along.merged.modifySurface own keeps) rfl rfl

theorem Along.keepBelongings (own : k ∈ A.surfaces) {f : Surface → Surface}
    (same : ∀ s, (f s).belongings = s.belongings) :
    Along A B b past past' (a.modifySurface k f) (d.modifySurface k f) :=
  along.modifySurface own fun s found =>
    ⟨(along.merged.avoids own found).same (same s), congrArg Prod.fst (same s)⟩

theorem Along.requestFrame (own : k ∈ A.surfaces) (host : Host) {callback : UInt32}
    (fresh : ∀ h, host.createResource .callback A.client callback = .ok h → h ∈ A.handles) :
    (d.requestFrame host k callback).1 = (a.requestFrame host k callback).1 ∧
    Along A B b past past' (a.requestFrame host k callback).2 (d.requestFrame host k callback).2 := by
  have same := along.merged.surface own
  cases found : a.surfaces.get? k with
  | none =>
    have found' := same.trans found
    simp only [Compositor.requestFrame, found, found', true_and]
    exact along
  | some s =>
    have client := along.merged.left.client k own s found
    have avoids := along.merged.avoids own found
    have apart := along.merged.apart
    cases made : host.createResource .callback s.client callback with
    | error e =>
      rw [requestFrame_of_refused found made, requestFrame_of_refused (same.trans found) made]
      exact ⟨rfl, along.tellTransport (client ▸ apart.clients)⟩
    | ok h =>
      have own' : h ∈ A.handles := fresh h (client ▸ made)
      have other : h ∉ B.handles := apart.handles.notMem_of_mem_left own'
      rw [requestFrame_of_made found made, requestFrame_of_made (same.trans found) made]
      have told := along.tellTransport (show ¬B.Concerned (.created .callback h) from other)
      have owned := told.quiet (told.merged.own own' (.callback k)) rfl rfl
      have stored := owned.modifySurface own (f := fun _ => (s.setCallback h).2) fun t there => by
        cases found.symm.trans there
        exact ⟨avoids.setCallback other, rfl⟩
      -- The callback that is replaced was the surface's own already.
      refine ⟨rfl, stored.destroyResource _ fun x pending => avoids.callbacks x ?_⟩
      simp [Surface.allCallbacks, pending]

theorem Along.commitSurface (linked : a.Linked) (orderly : a.Orderly) (orderly' : d.Orderly)
    (own : k ∈ A.surfaces) (host : Host) :
    (d.commitSurface host k).1 = (a.commitSurface host k).1 ∧
    Along A B b past past' (a.commitSurface host k).2 (d.commitSurface host k).2 := by
  have same := along.merged.surface own
  cases found : a.surfaces.get? k with
  | none =>
    have found' := same.trans found
    simp only [Compositor.commitSurface, found, found', true_and]
    exact along
  | some s =>
    have avoids := along.merged.avoids own found
    -- A commit reads the pool for the buffer that is pending, and not whether it was let go of.
    obtain ⟨surface, outcome, content⟩ := s.commit_calm a.buffers d.buffers
      fun x pending => by
        obtain ⟨again, buffer⟩ := along.merged.buffer (avoids.pending x pending)
        rw [buffer, Option.map_map]
        rfl
    rw [commitSurface_found found host, commitSurface_found (same.trans found) host]
    refine ⟨congrArg some outcome, ?_⟩
    rw [surface, outcome, elim_releaseBuffer, elim_releaseBuffer]
    obtain ⟨id, view, -⟩ := commit_surface s a.buffers
    have links : (s.commit a.buffers).surface.links = s.links := by
      rw [Surface.links, id, view, Surface.links]
    have stored := along.modifySurface own (f := fun _ => (s.commit a.buffers).surface)
      fun t there => by
      cases found.symm.trans there
      exact ⟨avoids.commit a.buffers, s.commit_client a.buffers⟩
    -- Neither the import nor the release moves the surface, so both sides make one output due.
    have linked' := linked.same (modifySurface_sameLinks found links)
    have told := stored.notice linked' (orderly.same rfl rfl) (orderly'.same rfl rfl) own host content
    have released := told.letGo (x := (s.commit a.buffers).outcome.superseded) fun x superseded => by
      rw [s.superseded_commit, Option.ite_none_left_eq_some] at superseded
      exact avoids.shown x superseded.2
    refine released.scheduleSurface ?_
    rw [outputOfSurface?_letGo, outputOfSurface?_notice, outputOfSurface?_letGo,
      outputOfSurface?_notice]
    exact stored.merged.outputOfSurface? linked' own

end

/-! ### Views and surfaces that end -/

section

variable (along : Along A B b past past' a d) {k : SurfaceId}
include along

theorem Along.destroyView (linked : d.Linked) (orderly : a.Orderly) (orderly' : d.Orderly) {v : ViewId}
    {w : View} (found : a.views.get? v = some w) (own : w.surface ∈ A.surfaces) :
    Along A B b past past' (a.destroyView v) (d.destroyView v) := by
  have foreign := along.merged.apart.surfaces.notMem_of_mem_left own
  have roles := along.merged.left.roles v w found foreign
  rw [destroyView_eq found, destroyView_eq (along.merged.view found own)]
  have unlisted := along.quiet (along.merged.unlist linked orderly orderly' found own) rfl rfl
  have destroyed := unlisted.destroyResource _ roles
  have cut := destroyed.keepBelongings own (f := fun s => { s with view := none }) fun _ => rfl
  exact cut.tellPolicy _

theorem Along.destroyCallbacks {callbacks : List Handle} (other : ∀ h ∈ callbacks, h ∉ B.handles) :
    Along A B b past past' (callbacks.foldl (fun c callback => c.destroyResource (some callback)) a)
      (callbacks.foldl (fun c callback => c.destroyResource (some callback)) d) := by
  induction callbacks generalizing a d with
  | nil => exact along
  | cons h rest ih =>
    refine ih (along.destroyResource _ fun x same => ?_) fun x member => other x (.tail _ member)
    cases same
    exact other h (.head _)

theorem Along.clearSurface (orderly : a.Orderly) (orderly' : d.Orderly) (own : k ∈ A.surfaces)
    {s : Surface} (avoids : s.Avoids B) :
    Along A B b past past' (a.clearSurface k s) (d.clearSurface k s) := by
  have released := (along.destroyCallbacks avoids.callbacks).letGo avoids.shown
  have tends (c : Compositor) := (tends_destroyCallbacks (c := c) s.allCallbacks).trans
    (tends_letGo s.buffer)
  exact released.quiet (released.merged.detachImages ((tends a).orderly orderly)
    ((tends d).orderly orderly') own) rfl rfl

theorem Along.releaseSurface (orderly : a.Orderly) (orderly' : d.Orderly) (own : k ∈ A.surfaces)
    (bare : ∀ s, a.surfaces.get? k = some s → s.view = none) :
    Along A B b past past' (a.releaseSurface k) (d.releaseSurface k) := by
  have same := along.merged.surface own
  unfold Compositor.releaseSurface
  rw [same]
  cases found : a.surfaces.get? k with
  | none => exact along
  | some s =>
    have avoids := along.merged.avoids own found
    have avoids' : s.release.2.Avoids B := avoids.same rfl
    simp only [Option.map_some]
    split
    -- With the last reference go the surface's own belongings, and no view.
    · have hidden : s.release.2.view = none := bare s found
      rw [freeSurface_found found, freeSurface_found (same.trans found), hidden]
      have erased := along.quiet (along.merged.eraseSurface own) rfl rfl
      have destroyed := erased.destroyResource s.release.2.resource avoids'.resource
      refine destroyed.clearSurface ?_ ?_ own avoids'
      · exact (tends_destroyResource _).orderly (orderly.same rfl rfl)
      · exact (tends_destroyResource _).orderly (orderly'.same rfl rfl)
    · refine along.modifySurface own fun t there => ?_
      cases found.symm.trans there
      exact ⟨avoids', rfl⟩

theorem Along.surfaceResourceGone (linked : a.Linked) (linked' : d.Linked) (orderly : a.Orderly)
    (orderly' : d.Orderly) (own : k ∈ A.surfaces) :
    Along A B b past past' (a.surfaceResourceGone k) (d.surfaceResourceGone k) := by
  have same := along.merged.surface own
  unfold Compositor.surfaceResourceGone
  rw [same]
  cases shown : (a.surfaces.get? k).bind (·.view) with
  | none =>
    refine along.releaseSurface orderly orderly' own fun s found => ?_
    rwa [found] at shown
  | some v =>
    obtain ⟨s, found, shown⟩ := Option.bind_eq_some_iff.1 shown
    obtain ⟨w, there, rfl⟩ := linked.view_exists k s v found shown
    refine (along.destroyView linked' orderly orderly' there own).releaseSurface
      ((tends_destroyView v).orderly orderly) ((tends_destroyView v).orderly orderly') own ?_
    intro t left
    rw [(destroyView_found there).surfaces, Table.get?_modify, if_pos rfl, found] at left
    cases left
    rfl

theorem Along.destroySurface (linked : a.Linked) (linked' : d.Linked) (orderly : a.Orderly)
    (orderly' : d.Orderly) (own : k ∈ A.surfaces) :
    Along A B b past past' (a.destroySurface k) (d.destroySurface k) := by
  have same := along.merged.surface own
  unfold Compositor.destroySurface
  rw [same]
  cases resource : (a.surfaces.get? k).bind (·.resource) with
  | none => exact along
  | some h =>
    obtain ⟨s, found, resource⟩ := Option.bind_eq_some_iff.1 resource
    have avoids := along.merged.avoids own found
    have cut := along.modifySurface own (f := fun s => s.detachResource.2) fun t there =>
      ⟨⟨(along.merged.avoids own there).shown, (along.merged.avoids own there).pending, nofun,
        (along.merged.avoids own there).callbacks⟩, rfl⟩
    have destroyed := cut.destroyResource (some h) fun x there =>
      avoids.resource x (resource.trans there)
    -- Without its link the surface is still where it was, on both sides.
    have quiet (c : Compositor) :
        Quiet c ((c.modifySurface k fun s => s.detachResource.2).destroyResource (some h)) := by
      refine .trans ?_ (quiet_destroyResource _)
      exact quiet_modifySurface_of_keeps k (fun _ => rfl) fun _ => rfl
    have tends (c : Compositor) :
        Tends c ((c.modifySurface k fun s => s.detachResource.2).destroyResource (some h)) :=
      (tends_modifySurface k _).trans (tends_destroyResource _)
    exact destroyed.surfaceResourceGone (linked.same (quiet a).sameLinks)
      (linked'.same (quiet d).sameLinks) ((tends a).orderly orderly) ((tends d).orderly orderly') own

end

/-! ### Every request -/

theorem settle_congr {α : Type} {reply : α → Reply}
    {result result' : Except CompositorError α × Compositor} (same : result'.1 = result.1) :
    (settle reply result').1 = (settle reply result).1 := by
  unfold settle
  rw [same]
  split <;> rfl

/-- A request of one client does the same where the other one is at work too. -/
theorem Merged.handle (merged : Merged A B a b d) (reached : a.Reachable) (reached' : d.Reachable)
    {host : Host} {request : Request} (within : request.Within A host) :
    (d.handle host request).1 = (a.handle host request).1 ∧
    Along A B b (transportEvents a.log) (transportEvents d.log) (a.handle host request).2
      (d.handle host request).2 := by
  have along : Along A B b (transportEvents a.log) (transportEvents d.log) a d :=
    ⟨merged, [], (List.append_nil _).symm, (List.append_nil _).symm, nofun⟩
  have linked := reached.linked
  have linked' := reached'.linked
  have orderly := reached.orderly
  have orderly' := reached'.orderly
  -- A region that is read for a surface is in the same share.
  have region {r : Option RegionId} (own : ∀ x, r = some x → x ∈ A.regions) :
      r.bind d.region? = r.bind a.region? := by
    cases r with
    | none => rfl
    | some x => exact merged.region (own x rfl)
  cases request with
  | attach k x offset =>
    obtain ⟨own, buffer⟩ := within
    refine ⟨rfl, along.modifySurface own fun s found => ⟨?_, rfl⟩⟩
    have avoids := merged.avoids own found
    exact ⟨avoids.shown, fun y there => merged.apart.buffers.notMem_of_mem_left (buffer y there),
      avoids.resource, avoids.callbacks⟩
  | damage k area => exact ⟨rfl, along.keepBelongings within fun _ => rfl⟩
  | setOpaque k r =>
    simp only [Compositor.handle, region within.2, true_and]
    exact along.keepBelongings within.1 fun _ => rfl
  | setInput k r =>
    simp only [Compositor.handle, region within.2, true_and]
    exact along.keepBelongings within.1 fun _ => rfl
  | addToRegion r area =>
    exact ⟨rfl, along.quiet (merged.modifyRegion within (·.insertRect area)) rfl rfl⟩
  | subtractFromRegion r area =>
    exact ⟨rfl, along.quiet (merged.modifyRegion within (·.eraseRect area)) rfl rfl⟩
  | frame k callback =>
    obtain ⟨reply, requested⟩ := along.requestFrame within.1 host within.2
    simp only [Compositor.handle, settle_snd]
    exact ⟨settle_congr reply, requested⟩
  | commit k =>
    obtain ⟨outcome, committed⟩ := along.commitSurface linked orderly orderly' within host
    exact ⟨congrArg Reply.committed outcome, committed⟩
  | destroySurface k =>
    exact ⟨rfl, along.destroySurface linked linked' orderly orderly' within⟩
  | destroyBuffer x =>
    obtain ⟨reply, destroyed⟩ := along.destroyBuffer within
    simp only [Compositor.handle, settle_snd]
    exact ⟨settle_congr reply, destroyed⟩
  | _ => cases within

end Compositor

end Compositing
