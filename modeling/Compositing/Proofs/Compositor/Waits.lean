import Compositing.Proofs.Compositor.Balance
import Compositing.Proofs.Compositor.Dues
import Compositing.Proofs.Compositor.Lifetimes

/-!
# Where waits begin and end

Commits, frame requests, the end of a surface, reports of the transport and render passes: what each
does to the pool and to what clients wait for. Nothing else matters to either, except for requests that
are about buffers themselves.
-/

namespace Compositing

/-- The pool when a surface does not show the buffer any more, and what the owner is told. -/
def BufferPool.letGo (pool : BufferPool) : Option BufferId → BufferPool × List TransportEvent
  | none => (pool, [])
  | some b => ((pool.handle (.release b)).2, returned b (pool.handle (.release b)).1)

namespace Surface

/-- What the surface shows after its next commit. -/
def toShow (s : Surface) : Option BufferId :=
  if s.pending.newlyAttached then s.pending.buffer else s.buffer

theorem commit_dues (s : Surface) (pool : BufferPool) :
    (s.commit pool).surface.dues = ⟨s.toShow, none, s.allCallbacks⟩ ∧
      (s.commit pool).outcome.superseded = if s.toShow = s.buffer then none else s.buffer := by
  by_cases attached : s.pending.newlyAttached = true <;>
    simp [commit, commitBuffer, commitRegions, attached, dues, toShow, buffer, allCallbacks]

end Surface

/-- Requests that neither are about a buffer, nor can begin or end a wait. -/
def Request.isPlain : Request → Bool
  | frame _ _ | commit _ | release _ | destroySurface _ | resourceDestroyed _ | pool _
  | destroyBuffer _ | renderComplete _ | render _ => false
  | _ => true

/-- What is asked of the pool by a request about buffers. -/
def Request.poolRequest? : Request → Option PoolRequest
  | pool r => some r
  | destroyBuffer b => some (.destroy b)
  | renderComplete b => some (.clearBusy b)
  | _ => none

namespace Compositor

variable {c c' c'' : Compositor}

/-! ### Buffers -/

theorem effect_buffers (buffers : BufferPool) : Effect c { c with buffers } buffers c.dues [] :=
  ⟨rfl, dues_of_surfaces rfl, [], by simp, rfl⟩

theorem effect_given (buffers : BufferPool) (event : TransportEvent) :
    Effect c ({ c with buffers }.tellTransport event) buffers c.dues [event] :=
  ⟨rfl, dues_of_surfaces rfl, [.transport event], rfl, rfl⟩

theorem effect_releaseBuffer (c : Compositor) (b : BufferId) :
    Effect c (c.releaseBuffer b) (c.buffers.handle (.release b)).2 c.dues
      (returned b (c.buffers.handle (.release b)).1) := by
  unfold releaseBuffer
  simp only [BufferPool.handle, BufferPool.settle]
  split
  next pool done => simpa [done, returned] using effect_given (c := c) pool (.bufferRelease b)
  next outcome pool other done =>
    have silent : returned b (.ended (some outcome)) = [] := by cases outcome <;> simp_all [returned]
    simpa [done, silent] using effect_buffers (c := c) pool
  next e done => simpa [done, returned] using Effect.refl c

theorem effect_letGo (c : Compositor) (b : Option BufferId) :
    Effect c (c.letGo b) (c.buffers.letGo b).1 c.dues (c.buffers.letGo b).2 := by
  cases b with
  | none => exact .refl c
  | some b => exact effect_releaseBuffer c b

theorem effect_renderComplete (c : Compositor) (b : BufferId) :
    Effect c (c.renderComplete b) (c.buffers.handle (.clearBusy b)).2 c.dues
      (returned b (c.buffers.handle (.clearBusy b)).1) := by
  unfold renderComplete
  simp only [BufferPool.handle, BufferPool.settle]
  split
  next pool done => simpa [done, returned] using effect_given (c := c) pool (.bufferRelease b)
  next outcome pool other done =>
    have silent : returned b (.ended outcome) = [] := by
      rcases outcome with _ | _ | _ | _ <;> simp_all [returned]
    simpa [done, silent] using effect_buffers (c := c) pool
  next e done => simpa [done, returned] using Effect.refl c

theorem effect_destroyBuffer (c : Compositor) (b : BufferId) :
    Effect c (c.destroyBuffer b).2 (c.buffers.handle (.destroy b)).2 c.dues [] := by
  unfold destroyBuffer
  simp only [BufferPool.handle, BufferPool.settle]
  split
  next outcome pool done => simpa [done] using effect_buffers (c := c) pool
  next e done => simpa [done] using Effect.refl c

/-- What clients are told of the answer of the pool. Only the end of a render matters to them. -/
def answered (c : Compositor) : Request → List TransportEvent
  | .renderComplete b => returned b (c.buffers.handle (.clearBusy b)).1
  | _ => []

theorem effect_asked (host : Host) {request : Request} {r : PoolRequest}
    (asks : request.poolRequest? = some r) : Effect c (c.handle host request).2
      (c.buffers.handle r).2 c.dues (c.answered request) := by
  cases request <;> cases asks
  case pool => exact effect_buffers _
  case destroyBuffer b =>
    rw [show (c.handle host (.destroyBuffer b)).2 = (c.destroyBuffer b).2 from settle_snd _ _]
    exact effect_destroyBuffer c b
  case renderComplete b => exact effect_renderComplete c b

/-! ### Commits and frame requests -/

/-- A commit shows what was attached, lets go of what was shown before, and takes the callback. -/
theorem effect_commitSurface {k : SurfaceId} {s : Surface} (found : c.surfaces.get? k = some s)
    (host : Host) : Effect c (c.commitSurface host k).2
      (c.buffers.letGo (if s.toShow = s.buffer then none else s.buffer)).1
      (Function.update c.dues k ⟨s.toShow, none, s.allCallbacks⟩)
      (c.buffers.letGo (if s.toShow = s.buffer then none else s.buffer)).2 := by
  obtain ⟨dues, superseded⟩ := s.commit_dues c.buffers
  have applied : Effect c (c.modifySurface k fun _ => (s.commit c.buffers).surface) c.buffers
      (Function.update c.dues k ⟨s.toShow, none, s.allCallbacks⟩) [] :=
    ⟨rfl, dues ▸ dues_modifySurface found _, [], by simp [modifySurface], rfl⟩
  simp only [commitSurface, found]
  generalize c.modifySurface k (fun _ => (s.commit c.buffers).surface) = d at applied ⊢
  have imported : Effect c (if (s.commit c.buffers).outcome.attached then
      d.importContent host k (s.commit c.buffers).content else d) c.buffers
      (Function.update c.dues k ⟨s.toShow, none, s.allCallbacks⟩) [] := by
    split
    · exact applied.unheard (unheard_importContent host k _)
    · exact applied
  generalize (if (s.commit c.buffers).outcome.attached then
    d.importContent host k (s.commit c.buffers).content else d) = e at imported ⊢
  rw [← superseded]
  have released := imported.trans (effect_letGo e (s.commit c.buffers).outcome.superseded)
  rw [imported.buffers, imported.dues, List.nil_append] at released
  exact released.unheard (unheard_scheduleSurface k)

/-- A callback replaces one that waits. -/
theorem notified_requestFrame (host : Host) (k : SurfaceId) (callback : UInt32) :
    (c.brought? host (.frame k callback) = none → Aside c (c.requestFrame host k callback).2) ∧
    ∀ h, c.brought? host (.frame k callback) = some h →
      Notified c (c.requestFrame host k callback).2 c.buffers
        (Function.update c.dues k { c.dues k with waiting := some h }) [] := by
  have brought : c.brought? host (.frame k callback) = (c.surfaces.get? k).bind fun s =>
    (host.createResource .callback s.client callback).toOption := rfl
  rw [brought]
  unfold requestFrame
  cases found : c.surfaces.get? k with
  | none => exact ⟨fun _ => .refl c, by simp⟩
  | some s =>
    simp only [createResource, Option.bind_some]
    cases made : host.createResource .callback s.client callback with
    | error => exact ⟨fun _ => aside_tell rfl, by simp [Except.toOption]⟩
    | ok handle =>
      refine ⟨by simp [Except.toOption], fun h same => ?_⟩
      obtain rfl : handle = h := by simpa [Except.toOption] using same
      change Notified c ((((c.tellTransport (.created .callback handle)).own handle
        (.callback k)).modifySurface k fun _ => (s.setCallback handle).2).destroyResource
          (s.setCallback handle).1) _ _ _
      have owned : Aside c ((c.tellTransport (.created .callback handle)).own handle (.callback k)) :=
        (aside_tell rfl).trans (aside_own _ _)
      have found' : ((c.tellTransport (.created .callback handle)).own handle
        (.callback k)).surfaces.get? k = some s := found
      generalize (c.tellTransport (.created .callback handle)).own handle (.callback k) = d
        at owned found' ⊢
      have set : Notified d (d.modifySurface k fun _ => (s.setCallback handle).2) d.buffers
          (Function.update d.dues k { d.dues k with waiting := some handle }) [] :=
        ⟨[], rfl, rfl, (dues_modifySurface found' _).trans (by simp [dues_found found']; rfl), [],
          by simp [modifySurface], rfl⟩
      rw [owned.buffers, owned.dues] at set
      exact (Notified.after owned set).before (aside_destroyResource _ _)

/-! ### The end of a surface -/

/-- All that the client of a surface waits for is over, and the buffer that was shown is let go. -/
def Freed (c : Compositor) (k : SurfaceId) (c' : Compositor) : Prop :=
  Notified c c' (c.buffers.letGo (c.dues k).shown).1 (Function.update c.dues k {})
    (c.buffers.letGo (c.dues k).shown).2

/-- At most one surface comes to its end. -/
def MayFree (c c' : Compositor) : Prop := Aside c c' ∨ ∃ k, c.Freed k c'

theorem letGo_notices (pool : BufferPool) (b : Option BufferId) :
    (pool.letGo b).2.filter TransportEvent.isNotice = (pool.letGo b).2 := by
  cases b with
  | none => rfl
  | some b =>
    simp only [BufferPool.letGo]
    unfold returned
    split <;> rfl

theorem notified_letGo (c : Compositor) (b : Option BufferId) :
    Notified c (c.letGo b) (c.buffers.letGo b).1 c.dues (c.buffers.letGo b).2 :=
  letGo_notices c.buffers b ▸ (effect_letGo c b).notified

theorem Freed.after {k : SurfaceId} (aside : Aside c c') (freed : c'.Freed k c'') :
    c.Freed k c'' := by
  unfold Freed at freed ⊢
  rw [← aside.buffers, ← aside.dues]
  exact Notified.after aside freed

theorem MayFree.after (aside : Aside c c') (freeing : MayFree c' c'') : MayFree c c'' := by
  rcases freeing with still | ⟨k, freed⟩
  · exact .inl (aside.trans still)
  · exact .inr ⟨k, Freed.after aside freed⟩

theorem freed_freeSurface (c : Compositor) (k : SurfaceId) : c.Freed k (c.freeSurface k) := by
  unfold Freed
  cases found : c.surfaces.get? k with
  | none =>
    have nothing : c.freeSurface k = c := by simp [freeSurface, found]
    have same : Function.update c.dues k {} = c.dues := by
      rw [← dues_absent found, Function.update_eq_self]
    rw [nothing, dues_absent found, same]
    exact Aside.refl c
  | some s =>
    have erased : Notified c { c with surfaces := c.surfaces.erase k } c.buffers
        (Function.update c.dues k {}) [] := by
      refine ⟨[], rfl, rfl, ?_, [], by simp, rfl⟩
      funext x
      by_cases here : x = k <;> simp [dues, Table.get?_erase, here]
    have unlinked := erased.before (aside_destroyResource _ s.resource)
    have cleared {d : Compositor} (viewless : Notified c d c.buffers (Function.update c.dues k {}) []) :
        Notified c (d.clearSurface k s) (c.buffers.letGo s.buffer).1 (Function.update c.dues k {})
          (c.buffers.letGo s.buffer).2 := by
      have cancelled := viewless.before (aside_foldl (f := fun c callback =>
        c.destroyResource (some callback)) (fun c h => aside_destroyResource c (some h))
          s.allCallbacks _)
      have released := cancelled.trans (notified_letGo _ s.buffer)
      rw [cancelled.buffers, cancelled.dues, List.nil_append] at released
      exact released.before (aside_of_log rfl rfl rfl)
    rw [freeSurface_eq found, dues_found found]
    cases s.view with
    | some v => exact cleared (unlinked.before (aside_destroyView v))
    | none => exact cleared unlinked

theorem mayFree_releaseSurface (k : SurfaceId) : MayFree c (c.releaseSurface k) := by
  unfold releaseSurface
  cases found : c.surfaces.get? k with
  | none => exact .inl (.refl c)
  | some s =>
    have released : Unheard c (c.modifySurface k fun _ => s.release.2) :=
      unheard_modifySurface k fun t there => by cases found.symm.trans there; rfl
    simp only [Option.map_some]
    split
    · exact .inr ⟨k, Freed.after released.aside (freed_freeSurface _ k)⟩
    · exact .inl released.aside

theorem mayFree_surfaceResourceGone (k : SurfaceId) : MayFree c (c.surfaceResourceGone k) := by
  unfold surfaceResourceGone
  cases (c.surfaces.get? k).bind (·.view) with
  | none => exact mayFree_releaseSurface k
  | some v => exact .after (aside_destroyView v) (mayFree_releaseSurface k)

/-- Nothing that clients wait for hangs on the link of a surface. -/
theorem aside_detachResource (k : SurfaceId) :
    Aside c (c.modifySurface k fun s => s.detachResource.2) :=
  aside_modifySurface k fun _ _ => rfl

theorem mayFree_destroySurface (k : SurfaceId) : MayFree c (c.destroySurface k) := by
  unfold destroySurface
  split
  · exact .inl (.refl c)
  · exact .after ((aside_detachResource k).trans (aside_destroyResource _ _))
      (mayFree_surfaceResourceGone k)

/-- A report is about a callback, which its surface forgets, or it may be the end of a surface. -/
theorem resourceDestroyed_cases (h : Handle) : MayFree c (c.resourceDestroyed h) ∨
    ∃ k s, c.resources.get? h = some (.callback k) ∧ c.surfaces.get? k = some s ∧
      Notified c (c.resourceDestroyed h) c.buffers
        (Function.update c.dues k (s.forgetCallback h).dues) [] := by
  unfold resourceDestroyed
  have forgot := aside_disown (c := c) h
  cases known : c.resources.get? h with
  | none => exact .inl (.inl (.refl c))
  | some owner =>
    cases owner with
    | surface k =>
      exact .inl (.after (forgot.trans (aside_detachResource k)) (mayFree_surfaceResourceGone k))
    | region r => exact .inl (.inl (forgot.trans (aside_of_log rfl rfl rfl)))
    | view v =>
      have cut : Aside (c.disown h) ((c.disown h).modifyView v fun w => { w with link := .detached }) :=
        aside_of_log rfl rfl rfl
      exact .inl (.inl ((forgot.trans cut).trans (aside_destroyView v)))
    | callback k =>
      cases found : c.surfaces.get? k with
      | none =>
        refine .inl (.inl (forgot.trans (aside_modifySurface k fun s there => ?_)))
        simp [found] at there
      | some s =>
        have found' : (c.disown h).surfaces.get? k = some s := found
        refine .inr ⟨k, s, rfl, found, Notified.after forgot ⟨[], rfl, rfl, ?_, [], ?_, rfl⟩⟩
        · exact dues_modifySurface found' _
        · simp [modifySurface]

/-! ### Render passes -/

/-- The callbacks of a surface are fired. -/
def handOver (waits : SurfaceId → Dues) (k : SurfaceId) : SurfaceId → Dues :=
  Function.update waits k { waits k with due := [] }

/-- What clients are told when the callbacks of some surfaces are fired. -/
def fired (time : UInt32) (waits : SurfaceId → Dues) : List SurfaceId → List TransportEvent
  | [] => []
  | k :: rest => (waits k).due.flatMap (Surface.fireCallback · time) ++
      fired time (handOver waits k) rest

theorem handOver_of_none {waits : SurfaceId → Dues} {k : SurfaceId} (none : (waits k).due = []) :
    handOver waits k = waits := by
  rw [handOver, ← none, Function.update_eq_self]

theorem effect_fireAll (callbacks : List Handle) (time : UInt32) (c : Compositor) :
    Effect c (callbacks.foldl (fun c callback =>
      (c.tell ((Surface.fireCallback callback time).map .transport)).disown callback) c) c.buffers
      c.dues (callbacks.flatMap (Surface.fireCallback · time)) := by
  induction callbacks generalizing c with
  | nil => exact .refl c
  | cons callback callbacks ih =>
    have first : Effect c
        ((c.tell ((Surface.fireCallback callback time).map .transport)).disown callback) c.buffers
        c.dues (Surface.fireCallback callback time) :=
      ⟨rfl, dues_of_surfaces rfl, _, rfl, rfl⟩
    have both := first.trans (ih _)
    rw [first.buffers, first.dues] at both
    exact both

/-- The callbacks that were committed are fired, and the pending one stays. -/
theorem effect_finishItem (c : Compositor) (time : UInt32) (item : PaintItem) :
    Effect c (c.finishItem time item) c.buffers (handOver c.dues item.surface)
      ((c.dues item.surface).due.flatMap (Surface.fireCallback · time)) := by
  unfold finishItem
  cases found : c.surfaces.get? item.surface with
  | none =>
    have nothing : (c.dues item.surface).due = [] := by rw [dues_absent found]
    rw [handOver_of_none nothing, nothing]
    exact .refl c
  | some s =>
    have taken : Effect c (c.modifySurface item.surface fun _ => s.takeDamage.2.takeCallbacks.2)
        c.buffers (handOver c.dues item.surface) [] := by
      refine ⟨rfl, (dues_modifySurface found _).trans ?_, [], by simp [modifySurface], rfl⟩
      rw [handOver, dues_found found]
      rfl
    have both := taken.trans (effect_fireAll s.callbacks time _)
    rw [taken.buffers, taken.dues] at both
    rw [dues_found found]
    exact both

theorem effect_finishItems (time : UInt32) (items : List PaintItem) (c : Compositor) :
    Effect c (items.foldl (fun c item => c.finishItem time item) c) c.buffers
      ((items.map (·.surface)).foldl handOver c.dues)
      (fired time c.dues (items.map (·.surface))) := by
  induction items generalizing c with
  | nil => exact .refl c
  | cons item items ih =>
    have first := effect_finishItem c time item
    have both := first.trans (ih (c.finishItem time item))
    rw [first.buffers, first.dues] at both
    exact both

/-- A pass fires the callbacks of what it draws. It gives back no buffer, and leaves the pool as it
was. -/
theorem effect_pass (tidy : c.buffers.Tidy) (held : c.Held) (host : Host) (time : UInt32)
    (o : OutputId) : Effect c (c.pass host time o) c.buffers ((c.drawn o).foldl handOver c.dues)
      (fired time c.dues (c.drawn o)) := by
  have cleared := unheard_modifyOutput (c := c) o fun p => { p with pendingRender := false }
  rcases c.bare_or_found o with bare | ⟨p, r, found, renderer⟩
  · rw [pass_eq_of_bare host time bare, drawn_of_bare bare]
    exact cleared.effect
  · have painted := cleared.trans (unheard_repaintOutput host o (c.paintItems p))
    have finished := painted.effect.trans (effect_finishItems time (c.paintItems p) _)
    rw [painted.buffers, painted.dues] at finished
    rw [pass_eq tidy held host time found renderer, drawn_found found renderer]
    exact finished

theorem tidy_pass (tidy : c.buffers.Tidy) (held : c.Held) (host : Host) (time : UInt32)
    (o : OutputId) : (c.pass host time o).buffers.Tidy :=
  (effect_pass tidy held host time o).buffers.symm ▸ tidy

theorem held_pass (held : c.Held) (host : Host) (time : UInt32) (o : OutputId) :
    (c.pass host time o).Held :=
  (pass_rendered held host time o).held held

/-! ### Requests -/

theorem aside_handle (linked : c.Linked) (host : Host) {request : Request}
    (plain : request.isPlain = true) : Aside c (c.handle host request).2 := by
  by_cases unheard : request.isUnheard = true
  · exact (unheard_handle host unheard).aside
  · cases request
    all_goals try simp only [handle, settle_snd]
    case createSurface client id => exact aside_createSurface linked host client id
    case createRegion client id => exact aside_createRegion host client id
    case destroyRegion r => exact aside_destroyRegion r
    case createView k role => exact aside_createView host k role
    case destroyView v => exact aside_destroyView v
    all_goals first | exact absurd rfl unheard | cases plain

end Compositor

end Compositing
