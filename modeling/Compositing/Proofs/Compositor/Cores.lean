import Compositing.Proofs.Compositor.Waits

/-!
# What requests make of surfaces

A surface keeps its holders, its link and both halves of its state until a request about it changes
them: views come and go, and frames take only damage and callbacks. `turn` says what each request
makes of a surface, and `core?_handle` that nothing else becomes of it.
-/

namespace Compositing

namespace Surface

/-- What neither views nor frames change of a surface, but for its holders. -/
def body (s : Surface) : Link × Size × SurfaceState × SurfaceState :=
  (s.link, s.size, s.pending, { s.committed with damage := Region.empty })

def core (s : Surface) : Nat × Link × Size × SurfaceState × SurfaceState := (s.refCount, s.body)

theorem core_eq {s s' : Surface} (same : s'.core = s.core) :
    s'.refCount = s.refCount ∧ s'.resource = s.resource ∧ s'.size = s.size ∧
    s'.pending = s.pending ∧ s'.buffer = s.buffer ∧
    s'.committed.inputRegion = s.committed.inputRegion := by
  simp only [core, body, Prod.mk.injEq, SurfaceState.mk.injEq] at same
  simp [resource, buffer, same]

/-- The surface with one holder fewer, if there is another. -/
def drop? (s : Surface) : Option Surface := if s.release.1 then none else some s.release.2

/-- The end of the protocol object, which is one of the holders. -/
def unlink? (s : Surface) : Option Surface := s.detachResource.2.drop?

theorem drop?_core {s s' : Surface} (same : s'.core = s.core) :
    s'.drop?.map core = s.drop?.map core := by
  obtain ⟨refs, body⟩ := Prod.mk.inj same
  unfold drop? release
  simp only [refs]
  split
  · rfl
  · exact congrArg (fun b => some (s.refCount - 1, b)) body

theorem forgetCallback_core (s : Surface) (callback : Handle) :
    (s.forgetCallback callback).core = s.core := by
  unfold forgetCallback
  split <;> rfl

end Surface

namespace Compositor

variable {c c' : Compositor}

/-- What is left of a surface that views and frames may change. -/
def core? (c : Compositor) (k : SurfaceId) : Option (Nat × Link × Size × SurfaceState × SurfaceState) :=
  (c.surfaces.get? k).map Surface.core

/-- What a request makes of a surface, or of a name that stands for none, up to its core. -/
def turn (c : Compositor) (host : Host) (k : SurfaceId) (s : Option Surface) :
    Request → Option Surface
  | .createSurface client id =>
    match host.createResource .surface client id with
    | .ok handle => if k = c.nextIds.surface then some (.ofHandle k handle) else s
    | .error _ => s
  | .attach x buffer offset => if k = x then s.map (·.attach buffer offset) else s
  | .damage x area => if k = x then s.map (·.addDamage area) else s
  | .setOpaque x region => if k = x then s.map (·.setOpaque (region.bind c.region?)) else s
  | .setInput x region => if k = x then s.map (·.setInput (region.bind c.region?)) else s
  | .commit x => if k = x then s.map fun s => (s.commit c.buffers).surface else s
  | .acquire x => if k = x then s.map (·.acquire) else s
  | .release x => if k = x then s.bind (·.drop?) else s
  -- A surface that lost its protocol object does not lose it again.
  | .destroySurface x =>
    if k = x then s.bind fun s => if s.resource.isSome then s.unlink? else some s else s
  | .resourceDestroyed handle => if c.surfaceOf? handle = some k then s.bind (·.unlink?) else s
  | _ => s

/-! ### Operations that leave the cores alone -/

theorem core?_of_surfaces (surfaces : c'.surfaces = c.surfaces) (k : SurfaceId) :
    c'.core? k = c.core? k := by
  rw [core?, surfaces, core?]

theorem map_modifySurface {β : Type} {part : Surface → β} (id : SurfaceId) {f : Surface → Surface}
    (same : ∀ s, c.surfaces.get? id = some s → part (f s) = part s) (k : SurfaceId) :
    ((c.modifySurface id f).surfaces.get? k).map part = (c.surfaces.get? k).map part :=
  map_of_rel (Table.rel_modify c.surfaces id k (R := fun s s' => part s' = part s) (fun _ => rfl)
    same) fun _ _ kept => kept

theorem core?_modifySurface_same (id : SurfaceId) {f : Surface → Surface}
    (same : ∀ s, c.surfaces.get? id = some s → (f s).core = s.core) (k : SurfaceId) :
    (c.modifySurface id f).core? k = c.core? k :=
  map_modifySurface id same k

theorem core?_modifySurface (id : SurfaceId) (f : Surface → Surface) (k : SurfaceId) :
    (c.modifySurface id f).core? k =
      if k = id then (c.surfaces.get? k).map fun s => (f s).core else c.core? k := by
  simp only [core?, modifySurface_fields, Table.get?_modify]
  split
  · rw [Option.map_map]; rfl
  · rfl

theorem discardView_core? (v : ViewId) (k : SurfaceId) :
    (c.discardView v).2.core? k = c.core? k := by
  cases found : c.views.get? v with
  | none => rw [discardView_of_absent found]
  | some view =>
    exact (core?_of_surfaces (discardView_found found).2.surfaces k).trans
      (core?_modifySurface_same (f := fun s => { s with view := none }) _ (fun _ _ => rfl) k)

theorem destroyView_core? (v : ViewId) (k : SurfaceId) : (c.destroyView v).core? k = c.core? k := by
  cases found : c.views.get? v with
  | none => rw [destroyView_of_absent found]
  | some view =>
    exact (core?_of_surfaces (destroyView_found found).surfaces k).trans
      (core?_modifySurface_same (f := fun s => { s with view := none }) _ (fun _ _ => rfl) k)

theorem createView_core? (host : Host) (x : SurfaceId) (role : Handle) (k : SurfaceId) :
    (c.createView host x role).2.core? k = c.core? k := by
  have marked := core?_modifySurface_same (c := c) (f := fun s =>
    { s with view := some c.nextIds.view }) x (fun _ _ => rfl) k
  unfold createView
  split
  · rfl
  · split
    · rfl
    · simp only
      split
      · exact marked
      · rw [discardView_core?]
        exact marked

theorem requestFrame_core? (host : Host) (x : SurfaceId) (callback : UInt32) (k : SurfaceId) :
    (c.requestFrame host x callback).2.core? k = c.core? k := by
  unfold requestFrame
  split
  · rfl
  next s found =>
    have made := c.createResource_fields host .callback s.client callback "frame callback"
    generalize c.createResource host .callback s.client callback "frame callback" = making at made
    obtain ⟨result, d⟩ := making
    obtain ⟨-, -, -, surfaces, -⟩ := made
    cases result with
    | error => exact core?_of_surfaces surfaces k
    | ok handle =>
      have pending : ((d.own handle (.callback x)).modifySurface x fun _ =>
          (s.setCallback handle).2).core? k = d.core? k := by
        refine core?_modifySurface_same (c := d.own handle (.callback x)) x (fun t there => ?_) k
        cases found.symm.trans ((congrArg (·.get? x) surfaces).symm.trans there)
        rfl
      exact (core?_of_surfaces (by simp) k).trans (pending.trans (core?_of_surfaces surfaces k))

/-! ### Commits -/

theorem scheduleSurface_surfaces (c : Compositor) (k : SurfaceId) :
    (c.scheduleSurface k).surfaces = c.surfaces := (c.scheduleSurface_fields k).2.2.1

theorem commitSurface_core? (host : Host) (x k : SurfaceId) : (c.commitSurface host x).2.core? k =
    if k = x then (c.surfaces.get? k).map fun s => (s.commit c.buffers).surface.core
    else c.core? k := by
  cases found : c.surfaces.get? x with
  | none =>
    simp only [commitSurface, found]
    split
    next here => simp [core?, here, found]
    next => rfl
  | some s =>
    -- What follows the commit proper is about outputs and buffers.
    have same {d : Compositor} (surfaces :
        d.surfaces = (c.modifySurface x fun _ => (s.commit c.buffers).surface).surfaces) :
        d.core? k = if k = x then (c.surfaces.get? k).map fun s => (s.commit c.buffers).surface.core
          else c.core? k := by
      rw [core?_of_surfaces surfaces, core?_modifySurface]
      split
      next here => rw [here, found]; rfl
      next => rfl
    apply same
    simp only [commitSurface, found, scheduleSurface_surfaces]
    split <;> split <;> simp [importContent_fields]

/-! ### Views and outputs -/

theorem setViewOutput_surfaces (host : Host) (v : ViewId) (target : Option OutputId) :
    (c.setViewOutput host v target).2.surfaces = c.surfaces := by
  have joined (d : Compositor) (k : SurfaceId) :
      (d.joinOutput host v k target).surfaces = d.surfaces := by
    unfold joinOutput
    split
    · rfl
    · simp only
      split <;> simp
  unfold setViewOutput
  split
  · rfl
  · split
    · rfl
    · split
      · rfl
      · simp [joined]

theorem setViewState_surfaces (v : ViewId) (bits : UInt32) (on : Bool) :
    (c.setViewState v bits on).surfaces = c.surfaces := by
  unfold setViewState
  split
  · rfl
  · simp only
    split <;> simp [scheduleView_fields]

theorem focusView_surfaces (target : Option ViewId) : (c.focusView target).surfaces = c.surfaces := by
  unfold focusView
  simp only
  split
  · rfl
  · split <;> split <;> simp [setViewState_surfaces]

theorem setViewMask_surfaces (v : ViewId) (mask : UInt32) :
    (c.setViewMask v mask).surfaces = c.surfaces := by
  unfold setViewMask
  split
  · rfl
  · split <;> simp [scheduleView_fields]

theorem setViewGeometry_surfaces (v : ViewId) (geometry : Placement) :
    (c.setViewGeometry v geometry).surfaces = c.surfaces := by
  unfold setViewGeometry
  split <;> simp [scheduleView_fields]

theorem requestGeometry_surfaces (host : Host) (v : ViewId) (geometry : Placement) :
    (c.requestGeometry host v geometry).surfaces = c.surfaces := by
  unfold requestGeometry
  split
  · simp only
    split <;> simp [setViewGeometry_surfaces]
  · rfl

theorem requestState_surfaces (host : Host) (v : ViewId) (bits : UInt32) (on : Bool) :
    (c.requestState host v bits on).surfaces = c.surfaces := by
  unfold requestState
  split
  · simp only
    split <;> simp [setViewState_surfaces]
  · rfl

theorem setViewParent_surfaces (v : ViewId) (parent : Option ViewId) :
    (c.setViewParent v parent).2.surfaces = c.surfaces := by
  unfold setViewParent
  split
  · rfl
  · split <;> simp

theorem setViewText_surfaces (host : Host) (v : ViewId) (what text : String) (set : View → View) :
    (c.setViewText host v what text set).2.surfaces = c.surfaces := by
  rcases c.setViewText_eq host v what text set with given | same
  · rw [given]
    simp
  · rw [same]

theorem restackView_surfaces (v : ViewId) (move : Output.Restack) :
    (c.restackView v move).2.surfaces = c.surfaces := by
  unfold restackView
  split
  · rfl
  · split <;> simp

theorem discardOutput_surfaces (o : OutputId) : (c.discardOutput o).2.surfaces = c.surfaces := by
  unfold discardOutput
  split
  · rfl
  next p _ =>
    have hidden := (foldl_hideView_fields p.creationOrder
      { c with outputs := c.outputs.erase o, outputOrder := c.outputOrder.filter (· ≠ o) }).2.2.2.1
    simp only
    split
    · exact hidden
    · exact hidden

theorem removeOutput_surfaces (o : OutputId) : (c.removeOutput o).surfaces = c.surfaces := by
  have discarded := discardOutput_surfaces (c := c) o
  unfold removeOutput
  split
  next eq => rw [eq] at discarded; simpa using discarded
  next eq => rw [eq] at discarded; exact discarded

theorem addOutput_surfaces (host : Host) (name : String) (reported : Size) :
    (c.addOutput host name reported).2.surfaces = c.surfaces := by
  have opened (resolution : Size) := (c.openRenderer_fields host reported resolution).2.2.1
  unfold addOutput
  simp only
  generalize (if reported.isProper then reported else c.config.output.defaultResolution) = resolution
  split
  · simp [discardOutput_surfaces, opened]
  · split
    · simp [scheduleOutput, opened]
    · simp [discardOutput_surfaces, opened]

theorem setOutputResolution_surfaces (host : Host) (o : OutputId) (resolution : Size) :
    (c.setOutputResolution host o resolution).surfaces = c.surfaces := by
  unfold setOutputResolution
  split
  · rfl
  · split <;> simp

theorem shareDisplay_surfaces (host : Host) (display : UInt64) :
    (c.shareDisplay host display).2.surfaces = c.surfaces := by
  refine foldl_related (R := fun s t : Nat × Compositor => t.2.surfaces = s.2.surfaces)
    (fun _ => rfl) (fun _ _ _ first second => second.trans first) (fun s p => ?_) c.outputs.values
    (0, c)
  obtain ⟨accepted, d⟩ := s
  simp only
  split <;> simp

/-! ### Regions and buffers -/

theorem createRegion_surfaces (host : Host) (client : ClientId) (id : UInt32) :
    (c.createRegion host client id).2.surfaces = c.surfaces := by
  have made := (c.createResource_fields host .region client id "region").2.2.2.1
  unfold createRegion
  split
  next eq => rw [eq] at made; exact made
  next eq => rw [eq] at made; simpa using made

theorem destroyRegion_surfaces (r : RegionId) : (c.destroyRegion r).surfaces = c.surfaces := by
  unfold destroyRegion
  split <;> simp

theorem destroyBuffer_surfaces (b : BufferId) : (c.destroyBuffer b).2.surfaces = c.surfaces := by
  unfold destroyBuffer
  split <;> rfl

/-! ### New surfaces and lost ones -/

theorem createSurface_core? (host : Host) (client : ClientId) (id : UInt32) (k : SurfaceId) :
    (c.createSurface host client id).2.core? k =
      (c.turn host k (c.surfaces.get? k) (.createSurface client id)).map Surface.core := by
  simp only [createSurface, createResource, turn]
  cases host.createResource .surface client id with
  | error => rfl
  | ok handle =>
    simp only [core?, Table.get?_insert, own_fields, tellTransport_fields]
    split
    next here => rw [here]
    next => rfl

theorem freeSurface_core? (x k : SurfaceId) :
    (c.freeSurface x).core? k = if k = x then none else c.core? k := by
  cases found : c.surfaces.get? x with
  | none =>
    have nothing : c.freeSurface x = c := by simp [freeSurface, found]
    rw [nothing]
    split
    next here => simp [core?, here, found]
    next => rfl
  | some s =>
    -- Once the surface is out of its table, what follows changes no core.
    have erased : (({ c with surfaces := c.surfaces.erase x } : Compositor).destroyResource
        s.resource).core? k = if k = x then none else c.core? k := by
      simp only [core?, destroyResource_fields, Table.get?_erase]
      split <;> rfl
    rw [freeSurface_eq found, core?_of_surfaces (clearSurface_fields _ x s).2.2.1]
    split
    · rw [destroyView_core?, erased]
    · exact erased

theorem releaseSurface_core? (x k : SurfaceId) : (c.releaseSurface x).core? k =
    if k = x then ((c.surfaces.get? k).bind (·.drop?)).map Surface.core else c.core? k := by
  unfold releaseSurface
  cases found : c.surfaces.get? x with
  | none =>
    simp only [Option.map_none]
    split
    next here => simp [core?, here, found]
    next => rfl
  | some s =>
    have dropped : s.drop? = if s.release.1 then none else some s.release.2 := rfl
    have released := core?_modifySurface (c := c) x (fun _ => s.release.2) k
    simp only [Option.map_some]
    split
    next last =>
      rw [freeSurface_core?]
      split
      next here => simp [here, found, dropped, last]
      next other => rw [released, if_neg other]
    next others =>
      rw [released]
      split
      next here => simp [here, found, dropped, others]
      next => rfl

/-- The protocol object of a surface ends with the reference it held. -/
theorem surfaceResourceGone_core? {x : SurfaceId} {s : Surface} (found : c.surfaces.get? x = some s)
    (k : SurfaceId) : (c.surfaceResourceGone x).core? k =
      if k = x then s.drop?.map Surface.core else c.core? k := by
  unfold surfaceResourceGone
  -- The view that goes first leaves the core of its surface alone.
  have same {d : Compositor} (cores : ∀ k, d.core? k = c.core? k) : (d.releaseSurface x).core? k =
      if k = x then s.drop?.map Surface.core else c.core? k := by
    rw [releaseSurface_core?, cores]
    split
    next here =>
      have there : d.core? x = some s.core := by rw [cores, core?, found]; rfl
      obtain ⟨t, there, core⟩ := Option.map_eq_some_iff.1 there
      rw [here, there]
      exact Surface.drop?_core core
    next => rfl
  cases (c.surfaces.get? x).bind (·.view) with
  | none => exact same fun _ => rfl
  | some v => exact same (destroyView_core? v)

theorem unlinked_core? {d : Compositor} {x : SurfaceId}
    (surfaces : d.surfaces = c.surfaces.modify x fun s => s.detachResource.2) (k : SurfaceId) :
    (d.surfaceResourceGone x).core? k =
      if k = x then ((c.surfaces.get? k).bind (·.unlink?)).map Surface.core else c.core? k := by
  have cut : d.core? k = (c.modifySurface x fun s => s.detachResource.2).core? k :=
    core?_of_surfaces surfaces k
  cases found : c.surfaces.get? x with
  | none =>
    have absent : d.surfaces.get? x = none := by simp [surfaces, Table.get?_modify, found]
    have nothing : d.surfaceResourceGone x = d := by
      simp [surfaceResourceGone, absent, releaseSurface]
    rw [nothing, cut, core?_modifySurface]
    split
    next here => rw [here, found]; rfl
    next => rfl
  | some s =>
    have there : d.surfaces.get? x = some s.detachResource.2 := by
      simp [surfaces, Table.get?_modify, found]
    rw [surfaceResourceGone_core? there, cut, core?_modifySurface]
    split
    next here => rw [here, found]; rfl
    next => rfl

theorem destroySurface_core? (host : Host) (x k : SurfaceId) : (c.destroySurface x).core? k =
    (c.turn host k (c.surfaces.get? k) (.destroySurface x)).map Surface.core := by
  simp only [destroySurface, turn]
  cases live : (c.surfaces.get? x).bind (·.resource) with
  | none =>
    simp only
    split
    next here =>
      subst here
      cases found : c.surfaces.get? k with
      | none => simp [core?, found]
      | some s => simp_all [core?]
    next => rfl
  | some handle =>
    obtain ⟨s, found, resource⟩ := Option.bind_eq_some_iff.1 live
    simp only
    rw [unlinked_core? (c := c) (by simp)]
    split
    next here => simp [here, found, resource]
    next => rfl

theorem resourceDestroyed_core? (host : Host) (handle : Handle) (k : SurfaceId) :
    (c.resourceDestroyed handle).core? k =
      (c.turn host k (c.surfaces.get? k) (.resourceDestroyed handle)).map Surface.core := by
  unfold resourceDestroyed
  split
  next nobody => simp [turn, surfaceOf?, nobody, core?]
  next owner named =>
    cases owner with
    | surface x =>
      simp only [turn, surfaceOf?, named, Option.some.injEq]
      rw [unlinked_core? (c := c) (by simp)]
      simp only [eq_comm (a := x)]
      split <;> rfl
    | region => simp [turn, surfaceOf?, named, core?]
    | callback x =>
      simp only [turn, surfaceOf?, named, reduceCtorEq, if_false]
      exact core?_modifySurface_same (c := c.disown handle) x
        (fun s _ => s.forgetCallback_core handle) k
    | view v =>
      simp only [turn, surfaceOf?, named, reduceCtorEq, if_false]
      rw [destroyView_core?]
      rfl

/-! ### Render passes -/

theorem repaintOutput_surfaces (host : Host) (o : OutputId) (items : List PaintItem) :
    (c.repaintOutput host o items).2.surfaces = c.surfaces := by
  unfold repaintOutput
  split
  · rfl
  · split <;> simp

theorem finishItems_core? (time : UInt32) (items : List PaintItem) (k : SurfaceId) :
    (items.foldl (fun c item => c.finishItem time item) c).core? k = c.core? k := by
  induction items generalizing c with
  | nil => rfl
  | cons item items ih =>
    rw [List.foldl_cons, ih, finishItem_eq, core?, finished, Table.get?_map, Option.map_map]
    refine congrArg (Option.map · _) (funext fun s => ?_)
    rw [Function.comp]
    split <;> rfl

theorem pass_core? (tidy : c.buffers.Tidy) (held : c.Held) (host : Host) (time : UInt32)
    (o : OutputId) (k : SurfaceId) : (c.pass host time o).core? k = c.core? k := by
  rcases c.bare_or_found o with bare | ⟨p, r, found, renderer⟩
  · rw [pass_eq_of_bare host time bare]
    exact core?_of_surfaces (by simp) k
  · rw [pass_eq tidy held host time found renderer, finishItems_core?]
    exact core?_of_surfaces (by simp [repaintOutput_surfaces]) k

theorem render_core? (tidy : c.buffers.Tidy) (held : c.Held) (host : Host) (time : UInt32)
    (k : SurfaceId) : (c.handle host (.render time)).2.core? k = c.core? k := by
  rw [handle_render]
  generalize c.dueOutputs = due
  induction due generalizing c with
  | nil => rfl
  | cons o due ih =>
    exact (ih (tidy_pass tidy held host time o) (held_pass held host time o)).trans
      (pass_core? tidy held host time o k)

/-! ### Every request -/

/-- A request makes of every surface what its turn says, up to views and what frames take. -/
theorem core?_handle (tidy : c.buffers.Tidy) (held : c.Held) (host : Host) (request : Request)
    (k : SurfaceId) : (c.handle host request).2.core? k =
      (c.turn host k (c.surfaces.get? k) request).map Surface.core := by
  have modified (x : SurfaceId) (f : Surface → Surface) : (c.modifySurface x f).core? k =
      (if k = x then (c.surfaces.get? k).map f else c.surfaces.get? k).map Surface.core := by
    rw [core?_modifySurface]
    split
    · rw [Option.map_map]; rfl
    · rfl
  cases request
  case render time => exact render_core? tidy held host time k
  all_goals simp only [handle, settle_snd]
  case createSurface client id => exact createSurface_core? host client id k
  case attach x b offset => exact modified x _
  case damage x area => exact modified x _
  case setOpaque x region => exact modified x _
  case setInput x region => exact modified x _
  case acquire x => exact modified x _
  case frame x callback => exact requestFrame_core? host x callback k
  case commit x =>
    rw [commitSurface_core?, turn]
    split
    · rw [Option.map_map]; rfl
    · rfl
  case release x =>
    rw [releaseSurface_core?, turn]
    split <;> rfl
  case destroySurface x => exact destroySurface_core? host x k
  case resourceDestroyed handle => exact resourceDestroyed_core? host handle k
  case createView x role => exact createView_core? host x role k
  case destroyView v => exact destroyView_core? v k
  all_goals apply core?_of_surfaces
  case scheduleSurface x => exact scheduleSurface_surfaces c x
  case pool request => rfl
  case destroyBuffer b => exact destroyBuffer_surfaces b
  case renderComplete b => simp
  case createRegion client id => exact createRegion_surfaces host client id
  case addToRegion r _ | subtractFromRegion r _ => rfl
  case destroyRegion r => exact destroyRegion_surfaces r
  case setViewOutput v o => exact setViewOutput_surfaces host v o
  case focus target => exact focusView_surfaces target
  case setViewGeometry v geometry => exact setViewGeometry_surfaces v geometry
  case requestGeometry v geometry => exact requestGeometry_surfaces host v geometry
  case setViewState v bits on => exact setViewState_surfaces v bits on
  case requestState v bits on => exact requestState_surfaces host v bits on
  case setViewType v bits on => rfl
  case setViewMask v mask => exact setViewMask_surfaces v mask
  case setViewParent v parent => exact setViewParent_surfaces v parent
  case setTitle v _ | setClass v _ | setAppId v _ => exact setViewText_surfaces host v _ _ _
  case restack v move => exact restackView_surfaces v move
  case addOutput name reported => exact addOutput_surfaces host name reported
  case removeOutput o => exact removeOutput_surfaces o
  case setResolution o resolution => exact setOutputResolution_surfaces host o resolution
  case setSleep o sleeping => rfl
  case setOutputMask o _ | scheduleOutput o => rfl
  case shareDisplay display => exact shareDisplay_surfaces host display

/-- What a request can make of a surface, told by its size, its buffers and its input region. -/
inductive Turned (c : Compositor) (k : SurfaceId) (request : Request) : Surface → Prop
  | made (handle : Handle) : Turned c k request (.ofHandle k handle)
  | attached {s : Surface} {buffer : Option BufferId} {offset : Point}
      (found : c.surfaces.get? k = some s) (asked : request = .attach k buffer offset) :
      Turned c k request (s.attach buffer offset)
  | inputSet {s : Surface} {region : Option RegionId} (found : c.surfaces.get? k = some s)
      (asked : request = .setInput k region) :
      Turned c k request (s.setInput (region.bind c.region?))
  | committed {s : Surface} (found : c.surfaces.get? k = some s) (asked : request = .commit k) :
      Turned c k request (s.commit c.buffers).surface
  | kept {s s' : Surface} (found : c.surfaces.get? k = some s) (size : s'.size = s.size)
      (committed : s'.committed = s.committed) (buffer : s'.pending.buffer = s.pending.buffer)
      (input : s'.pending.inputRegion = s.pending.inputRegion) : Turned c k request s'

theorem turned_drop? {k : SurfaceId} {request : Request} {s s' t : Surface}
    (found : c.surfaces.get? k = some s) (dropped : t.drop? = some s') (size : t.size = s.size)
    (committed : t.committed = s.committed) (pending : t.pending = s.pending) :
    Turned c k request s' := by
  unfold Surface.drop? at dropped
  split at dropped
  · cases dropped
  · cases dropped
    exact .kept found size committed (congrArg _ pending) (congrArg _ pending)

theorem turned_turn {host : Host} {k : SurfaceId} {request : Request} {s' : Surface}
    (turned : c.turn host k (c.surfaces.get? k) request = some s') : Turned c k request s' := by
  have same (found : c.surfaces.get? k = some s') : Turned c k request s' :=
    .kept found rfl rfl rfl rfl
  have mapped {x : SurfaceId} {f : Surface → Surface}
      (step : k = x → ∀ s, c.surfaces.get? k = some s → Turned c k request (f s))
      (turned : (if k = x then (c.surfaces.get? k).map f else c.surfaces.get? k) = some s') :
      Turned c k request s' := by
    split at turned
    next here =>
      obtain ⟨s, found, rfl⟩ := Option.map_eq_some_iff.1 turned
      exact step here s found
    next => exact same turned
  cases request
  case createSurface client id =>
    simp only [turn] at turned
    split at turned
    · split at turned
      · exact Option.some.inj turned ▸ .made _
      · exact same turned
    · exact same turned
  case attach x b offset =>
    exact mapped (f := (·.attach b offset)) (fun here s found => .attached found (here ▸ rfl)) turned
  case damage x area =>
    exact mapped (f := (·.addDamage area)) (fun _ s found => .kept found rfl rfl rfl rfl) turned
  case setOpaque x region =>
    exact mapped (f := (·.setOpaque (region.bind c.region?)))
      (fun _ s found => .kept found rfl rfl rfl rfl) turned
  case setInput x region =>
    exact mapped (f := (·.setInput (region.bind c.region?)))
      (fun here s found => .inputSet found (here ▸ rfl)) turned
  case acquire x =>
    exact mapped (f := Surface.acquire) (fun _ s found => .kept found rfl rfl rfl rfl) turned
  case commit x => exact mapped (fun here s found => .committed found (here ▸ rfl)) turned
  case release x =>
    simp only [turn] at turned
    split at turned
    · obtain ⟨s, found, dropped⟩ := Option.bind_eq_some_iff.1 turned
      exact turned_drop? found dropped rfl rfl rfl
    · exact same turned
  case destroySurface x =>
    simp only [turn] at turned
    split at turned
    · obtain ⟨s, found, dropped⟩ := Option.bind_eq_some_iff.1 turned
      split at dropped
      · exact turned_drop? found dropped rfl rfl rfl
      · exact same (Option.some.inj dropped ▸ found)
    · exact same turned
  case resourceDestroyed h =>
    simp only [turn] at turned
    split at turned
    · obtain ⟨s, found, dropped⟩ := Option.bind_eq_some_iff.1 turned
      exact turned_drop? found dropped rfl rfl rfl
    · exact same turned
  all_goals exact same turned

/-- A surface is found after a request only as what the request made of it. -/
theorem turned_handle (tidy : c.buffers.Tidy) (held : c.Held) {host : Host} {request : Request}
    {k : SurfaceId} {s' : Surface} (found : (c.handle host request).2.surfaces.get? k = some s') :
    ∃ s, Turned c k request s ∧ s'.core = s.core := by
  have core : (c.handle host request).2.core? k = some s'.core := by rw [core?, found]; rfl
  rw [core?_handle tidy held] at core
  obtain ⟨s, turned, same⟩ := Option.map_eq_some_iff.1 core
  exact ⟨s, turned_turn turned, same.symm⟩

end Compositor

end Compositing
