import Compositing.Proofs.Compositor.Standings
import Compositing.Proofs.Rendering.Tending
import Compositing.Proofs.Surface.Commits

/-!
# What requests do with contexts

Only requests that add or remove outputs take contexts into use or end them, and only render passes make
one current. With all others every output keeps its renderer, and drops or imports images at most:
`tends_handle`.
-/

namespace Compositing

/-- The renderer of an output is tended, while the name for the next image moves on. -/
def Output.Tends (next next' : ImageId) (p p' : Output) : Prop :=
  Option.Rel (fun r r' => Renderer.Tended (r, next) (r', next')) p.renderer p'.renderer

namespace Output

/-- The name of the image of a surface, if there is one. -/
def imageOf? (p : Output) (k : SurfaceId) : Option ImageId := p.renderer.bind (·.images.get? k)

theorem tends_of_renderer {next next' : ImageId} (le : next.number ≤ next'.number) {p p' : Output}
    (same : p'.renderer = p.renderer) : p.Tends next next' p' := by
  unfold Tends
  rw [same]
  exact rel_refl (fun r => .single (.later r le)) _

theorem tends_detach (next : ImageId) (p : Output) (k : SurfaceId) : p.Tends next next (p.detach k) :=
  rel_map fun r _ => .single (.detach r next k)

theorem tends_attach {next : ImageId} {p p' : Output} {r : Renderer} {device : DeviceAnswers}
    {k : SurfaceId} {content : Option Buffer} (before : p.renderer = some r)
    (after : p'.renderer = some (r.attach device next k content).renderer) :
    p.Tends next (r.attach device next k content).nextImage p' := by
  unfold Tends
  rw [before, after]
  exact .some (.single (.attach r next device k content))

theorem Tends.named {next next' : ImageId} {p p' : Output} (tends : p.Tends next next' p')
    {k : SurfaceId} {i : ImageId} (there : p'.imageOf? k = some i) :
    p.imageOf? k = some i ∨ next.number ≤ i.number ∧ i.number < next'.number := by
  obtain ⟨r', renderer', there⟩ := Option.bind_eq_some_iff.1 there
  obtain ⟨r, renderer, tended⟩ := found_of_rel tends renderer'
  refine (Renderer.named_tended tended there).imp_left fun old => ?_
  exact Option.bind_eq_some_iff.2 ⟨r, renderer, old⟩

end Output

/-- A request that adds or removes an output, or renders. -/
def Request.aboutContexts : Request → Bool
  | addOutput .. | removeOutput _ | render _ => true
  | _ => false

namespace Compositor

variable {c c' c'' : Compositor}

/-- The name that an output has for the image of a surface. -/
def imageAt? (c : Compositor) (o : OutputId) (k : SurfaceId) : Option ImageId :=
  (c.outputs.get? o).bind (·.imageOf? k)

structure Tends (c c' : Compositor) : Prop where
  contexts : c'.contexts = c.contexts
  nextImage : c.nextIds.image.number ≤ c'.nextIds.image.number
  outputs : ∀ o, Option.Rel (Output.Tends c.nextIds.image c'.nextIds.image)
    (c.outputs.get? o) (c'.outputs.get? o)
  /-- The name of a new image is drawn meanwhile, and for this image alone. -/
  named : ∀ o k i, c'.imageAt? o k = some i → c.imageAt? o k = some i ∨
    (c.nextIds.image.number ≤ i.number ∧ i.number < c'.nextIds.image.number ∧
      ∀ o' k', c'.imageAt? o' k' = some i → c.imageAt? o' k' = some i ∨ (o' = o ∧ k' = k))

theorem Tends.trans (first : Tends c c') (second : Tends c' c'') : Tends c c'' where
  contexts := second.contexts.trans first.contexts
  nextImage := first.nextImage.trans second.nextImage
  outputs o := rel_trans (first.outputs o) (second.outputs o) fun _ _ _ before after =>
    rel_trans before after fun _ _ _ => Relation.ReflTransGen.trans
  named o k i there := by
    rcases second.named o k i there with between | ⟨low, high, alone⟩
    · rcases first.named o k i between with old | ⟨low, high, alone⟩
      · exact .inl old
      · refine .inr ⟨low, high.trans_le second.nextImage, fun o' k' other => ?_⟩
        -- What came later has a later name.
        rcases second.named o' k' i other with before | ⟨later, -⟩
        · exact alone o' k' before
        · omega
    · refine .inr ⟨first.nextImage.trans low, high, fun o' k' other => ?_⟩
      rcases alone o' k' other with before | same
      · exact (first.named o' k' i before).imp_right fun earlier => by omega
      · exact .inr same

theorem imageAt?_eq_some {o : OutputId} {k : SurfaceId} {i : ImageId} :
    c.imageAt? o k = some i ↔ ∃ p, c.outputs.get? o = some p ∧ p.imageOf? k = some i :=
  Option.bind_eq_some_iff

theorem imageAt?_found {o : OutputId} {p : Output} {r : Renderer} (found : c.outputs.get? o = some p)
    (renderer : p.renderer = some r) (k : SurfaceId) : c.imageAt? o k = r.images.get? k := by
  rw [imageAt?, found, Option.bind_some, Output.imageOf?, renderer, Option.bind_some]

/-- No name is drawn for a new image. -/
theorem tends_of_outputs (contexts : c'.contexts = c.contexts)
    (nextImage : c'.nextIds.image = c.nextIds.image)
    (outputs : ∀ o, Option.Rel (Output.Tends c.nextIds.image c.nextIds.image)
      (c.outputs.get? o) (c'.outputs.get? o)) : Tends c c' where
  contexts := contexts
  nextImage := Nat.le_of_eq (by rw [nextImage])
  outputs := nextImage ▸ outputs
  named o k i there := by
    obtain ⟨p', found', there⟩ := imageAt?_eq_some.1 there
    obtain ⟨p, found, tends⟩ := found_of_rel (outputs o) found'
    rcases tends.named there with old | new
    · exact .inl (imageAt?_eq_some.2 ⟨p, found, old⟩)
    · omega

/-- The other tables do not matter. -/
theorem tends_of_tables (contexts : c'.contexts = c.contexts) (outputs : c'.outputs = c.outputs)
    (nextImage : c'.nextIds.image = c.nextIds.image) : Tends c c' := by
  refine tends_of_outputs contexts nextImage fun o => ?_
  rw [outputs]
  exact rel_refl (fun p => Output.tends_of_renderer (Nat.le_refl _) rfl) _

theorem Tends.refl (c : Compositor) : Tends c c := tends_of_tables rfl rfl rfl

theorem tends_foldl {α : Type} {f : Compositor → α → Compositor} (step : ∀ c a, Tends c (f c a))
    (l : List α) (c : Compositor) : Tends c (l.foldl f c) :=
  foldl_related Tends.refl (fun _ _ _ => Tends.trans) step l c

/-! ### Changing one object -/

theorem tends_modifyOutput (o : OutputId) {f : Output → Output}
    (tends : ∀ p, c.outputs.get? o = some p → p.Tends c.nextIds.image c.nextIds.image (f p)) :
    Tends c (c.modifyOutput o f) :=
  tends_of_outputs rfl rfl fun x => Table.rel_modify c.outputs o x
    (fun _ => Output.tends_of_renderer (Nat.le_refl _) rfl) tends

theorem tends_modifyOutput_of_renderer (o : OutputId) {f : Output → Output}
    (same : ∀ p, c.outputs.get? o = some p → (f p).renderer = p.renderer) :
    Tends c (c.modifyOutput o f) :=
  tends_modifyOutput o fun p found => Output.tends_of_renderer (Nat.le_refl _) (same p found)

theorem tends_scheduleOutput (o : OutputId) : Tends c (c.scheduleOutput o) :=
  tends_modifyOutput_of_renderer o fun _ _ => rfl

theorem tends_scheduleView (v : ViewId) : Tends c (c.scheduleView v) := by
  unfold scheduleView
  split
  · exact tends_scheduleOutput _
  · exact .refl c

theorem tends_scheduleSurface (k : SurfaceId) : Tends c (c.scheduleSurface k) := by
  unfold scheduleSurface
  split
  · exact tends_scheduleOutput _
  · exact .refl c

theorem tends_modifySurface (k : SurfaceId) (f : Surface → Surface) :
    Tends c (c.modifySurface k f) :=
  tends_of_tables rfl rfl rfl

theorem tends_modifyView (v : ViewId) (f : View → View) : Tends c (c.modifyView v f) :=
  tends_of_tables rfl rfl rfl

theorem tends_tellPolicy (event : PolicyEvent) : Tends c (c.tellPolicy event) :=
  tends_of_tables rfl rfl rfl

theorem tends_destroyResource (handle : Option Handle) : Tends c (c.destroyResource handle) := by
  cases handle <;> exact tends_of_tables rfl rfl rfl

/-- One output imports an image for a surface. -/
theorem tends_import {o : OutputId} {p : Output} {r : Renderer} (found : c.outputs.get? o = some p)
    (renderer : p.renderer = some r) (device : DeviceAnswers) (k : SurfaceId)
    (content : Option Buffer) {f : Output → Output}
    (replaced : (f p).renderer = some (r.attach device c.nextIds.image k content).renderer)
    (outputs : c'.outputs = c.outputs.modify o f) (contexts : c'.contexts = c.contexts)
    (nextImage : c'.nextIds.image = (r.attach device c.nextIds.image k content).nextImage) :
    Tends c c' where
  contexts := contexts
  nextImage := nextImage ▸ r.nextImage_attach device k content
  outputs x := by
    rw [outputs, Table.get?_modify, nextImage]
    split
    next here =>
      refine rel_map fun q there => ?_
      cases (here ▸ there).symm.trans found
      exact Output.tends_attach renderer replaced
    next =>
      refine rel_refl (fun q => ?_) _
      exact Output.tends_of_renderer (r.nextImage_attach device k content) rfl
  named := by
    have imported {x y i} (there : c'.imageAt? x y = some i) : c.imageAt? x y = some i ∨
        (x = o ∧ y = k ∧ i = c.nextIds.image ∧ c'.nextIds.image = c.nextIds.image.next) := by
      obtain ⟨p', found', there⟩ := imageAt?_eq_some.1 there
      rw [outputs, Table.get?_modify] at found'
      split at found'
      next here =>
        rw [here, found, Option.map_some, Option.some.injEq] at found'
        rw [← found', Output.imageOf?, replaced, Option.bind_some] at there
        refine (r.named_attach device _ k content there).imp (fun old => ?_) fun new => ?_
        · exact (imageAt?_found (here ▸ found) renderer y).trans old
        · exact ⟨here, new.1, new.2.1, nextImage.trans new.2.2⟩
      next => exact .inl (imageAt?_eq_some.2 ⟨p', found', there⟩)
    intro x y i there
    refine (imported there).imp_right fun brought => ?_
    obtain ⟨here, own, new, drawn⟩ := brought
    refine ⟨Nat.le_of_eq (by rw [new]), by rw [new, drawn]; exact Nat.lt_succ_self _, ?_⟩
    intro x' y' other
    exact (imported other).imp_right fun new' => ⟨new'.1.trans here.symm, new'.2.1.trans own.symm⟩

/-! ### Surfaces, buffers and regions -/

theorem tends_createResource (host : Host) (kind : ResourceKind) (client : ClientId) (id : UInt32)
    (what : String) : Tends c (c.createResource host kind client id what).2 := by
  unfold createResource
  split <;> exact tends_of_tables rfl rfl rfl

theorem tends_createSurface (host : Host) (client : ClientId) (id : UInt32) :
    Tends c (c.createSurface host client id).2 := by
  have asked := tends_createResource (c := c) host .surface client id "surface"
  unfold createSurface
  generalize c.createResource host .surface client id "surface" = asking at asked ⊢
  obtain ⟨result, d⟩ := asking
  cases result with
  | error e => exact asked
  | ok handle => exact asked.trans (tends_of_tables rfl rfl rfl)

theorem tends_createRegion (host : Host) (client : ClientId) (id : UInt32) :
    Tends c (c.createRegion host client id).2 := by
  have asked := tends_createResource (c := c) host .region client id "region"
  unfold createRegion
  generalize c.createResource host .region client id "region" = asking at asked ⊢
  obtain ⟨result, d⟩ := asking
  cases result with
  | error e => exact asked
  | ok handle => exact asked.trans (tends_of_tables rfl rfl rfl)

theorem tends_requestFrame (host : Host) (k : SurfaceId) (callback : UInt32) :
    Tends c (c.requestFrame host k callback).2 := by
  unfold requestFrame
  split
  · exact .refl c
  next s _ =>
    have asked := tends_createResource (c := c) host .callback s.client callback "frame callback"
    generalize c.createResource host .callback s.client callback "frame callback" = asking at asked ⊢
    obtain ⟨result, d⟩ := asking
    cases result with
    | error e => exact asked
    | ok handle =>
      refine .trans ?_ (tends_destroyResource _)
      exact asked.trans (tends_of_tables rfl rfl rfl)

theorem tends_releaseBuffer (b : BufferId) : Tends c (c.releaseBuffer b) := by
  obtain ⟨-, contexts, -, -, outputs, -, -, nextIds⟩ := c.releaseBuffer_fields b
  exact tends_of_tables contexts outputs (congrArg NextIds.image nextIds)

theorem tends_renderComplete (b : BufferId) : Tends c (c.renderComplete b) := by
  obtain ⟨-, contexts, -, -, outputs, -, -, nextIds⟩ := c.renderComplete_fields b
  exact tends_of_tables contexts outputs (congrArg NextIds.image nextIds)

theorem tends_destroyBuffer (b : BufferId) : Tends c (c.destroyBuffer b).2 := by
  unfold destroyBuffer
  split <;> exact tends_of_tables rfl rfl rfl

theorem tends_destroyRegion (r : RegionId) : Tends c (c.destroyRegion r) := by
  unfold destroyRegion
  split
  · exact .refl c
  · refine .trans ?_ (tends_destroyResource _)
    exact tends_of_tables rfl rfl rfl

theorem tends_importContent (named : ∀ o p, c.outputs.get? o = some p → p.id = o) (host : Host)
    (k : SurfaceId) (content : Option Buffer) : Tends c (c.importContent host k content) := by
  unfold importContent
  split
  · exact .refl c
  next p there =>
    split
    · exact .refl c
    next r renderer =>
      obtain ⟨o, -, found⟩ := Option.bind_eq_some_iff.1 there
      -- The output is changed under its own name, and is what was found there.
      refine tends_import found renderer host.device k content (f := fun q =>
        { q with renderer := some (r.attach host.device c.nextIds.image k content).renderer })
        rfl ?_ rfl rfl
      rw [← named o p found]
      rfl

theorem tends_commitSurface (linked : c.Linked) (host : Host) (k : SurfaceId) :
    Tends c (c.commitSurface host k).2 := by
  cases found : c.surfaces.get? k with
  | none =>
    simp only [commitSurface, found]
    exact .refl c
  | some s =>
    rw [commitSurface_found found host]
    refine .trans ?_ (tends_scheduleSurface k)
    have stored := tends_modifySurface (c := c) k fun _ => (s.commit c.buffers).surface
    have told : Tends c ((s.commit c.buffers).notice?.elim
        (c.modifySurface k fun _ => (s.commit c.buffers).surface)
        ((c.modifySurface k fun _ => (s.commit c.buffers).surface).importContent host k)) := by
      cases (s.commit c.buffers).notice? with
      | none => exact stored
      | some content =>
        refine stored.trans (tends_importContent ?_ host k content)
        exact fun o p there => (linked.output_named o p there).1
    cases (s.commit c.buffers).outcome.superseded with
    | none => exact told
    | some b => exact told.trans (tends_releaseBuffer b)

/-! ### Views and surfaces that end -/

theorem WithoutView.tends {v : ViewId} {view : View} (without : WithoutView c c' v view) :
    Tends c c' := by
  refine tends_of_outputs without.contexts (by rw [without.nextIds]) fun o => ?_
  rw [without.outputs, Table.get?_modifyAt]
  split
  · exact rel_map fun p _ => Output.tends_detach _ (p.removeView v) view.surface
  · exact rel_refl (fun p => Output.tends_of_renderer (Nat.le_refl _) rfl) _

theorem tends_discardView (v : ViewId) : Tends c (c.discardView v).2 := by
  cases found : c.views.get? v with
  | none =>
    rw [discardView_of_absent found]
    exact .refl c
  | some view => exact (discardView_found found).2.tends

theorem tends_destroyView (v : ViewId) : Tends c (c.destroyView v) := by
  cases found : c.views.get? v with
  | none =>
    rw [destroyView_of_absent found]
    exact .refl c
  | some view => exact (destroyView_found found).tends

theorem tends_createView (host : Host) (k : SurfaceId) (role : Handle) :
    Tends c (c.createView host k role).2 := by
  unfold createView
  split
  · exact .refl c
  · split
    · exact .refl c
    · simp only
      split
      · exact tends_of_tables rfl rfl rfl
      · refine .trans ?_ (tends_discardView _)
        exact tends_of_tables rfl rfl rfl

theorem tends_detachImages (k : SurfaceId) :
    Tends c { c with outputs := c.outputs.map fun _ o => o.detach k } := by
  refine tends_of_outputs rfl rfl fun o => ?_
  rw [Table.get?_map]
  exact rel_map fun p _ => Output.tends_detach _ p k

theorem tends_letGo (b : Option BufferId) : Tends c (c.letGo b) := by
  cases b with
  | none => exact .refl c
  | some b => exact tends_releaseBuffer b

theorem tends_destroyCallbacks (callbacks : List Handle) :
    Tends c (callbacks.foldl (fun c callback => c.destroyResource (some callback)) c) :=
  tends_foldl (fun _ callback => tends_destroyResource (some callback)) callbacks c

theorem tends_clearSurface (k : SurfaceId) (s : Surface) : Tends c (c.clearSurface k s) :=
  ((tends_destroyCallbacks s.allCallbacks).trans (tends_letGo s.buffer)).trans (tends_detachImages k)

theorem tends_freeSurface (k : SurfaceId) : Tends c (c.freeSurface k) := by
  cases found : c.surfaces.get? k with
  | none =>
    simp only [freeSurface, found]
    exact .refl c
  | some s =>
    have erased : Tends c { c with surfaces := c.surfaces.erase k } := tends_of_tables rfl rfl rfl
    have unlinked := erased.trans (tends_destroyResource s.resource)
    rw [freeSurface_eq found]
    refine .trans ?_ (tends_clearSurface k s)
    split
    · exact unlinked.trans (tends_destroyView _)
    · exact unlinked

theorem tends_releaseSurface (k : SurfaceId) : Tends c (c.releaseSurface k) := by
  unfold releaseSurface
  split
  · exact .refl c
  · simp only
    split
    · exact (tends_modifySurface k _).trans (tends_freeSurface k)
    · exact tends_modifySurface k _

theorem tends_surfaceResourceGone (k : SurfaceId) : Tends c (c.surfaceResourceGone k) := by
  unfold surfaceResourceGone
  simp only
  split
  · exact (tends_destroyView _).trans (tends_releaseSurface k)
  · exact tends_releaseSurface k

theorem tends_destroySurface (k : SurfaceId) : Tends c (c.destroySurface k) := by
  unfold destroySurface
  split
  · exact .refl c
  · refine .trans ?_ (tends_surfaceResourceGone k)
    exact (tends_modifySurface k _).trans (tends_destroyResource _)

theorem tends_resourceDestroyed (handle : Handle) : Tends c (c.resourceDestroyed handle) := by
  unfold resourceDestroyed
  split
  · exact .refl c
  next owner _ =>
    have disowned : Tends c (c.disown handle) := tends_of_tables rfl rfl rfl
    simp only
    cases owner with
    | surface k =>
      exact (disowned.trans (tends_modifySurface k _)).trans (tends_surfaceResourceGone k)
    | region r => exact disowned.trans (tends_of_tables rfl rfl rfl)
    | callback k => exact disowned.trans (tends_modifySurface k _)
    | view v => exact (disowned.trans (tends_modifyView v _)).trans (tends_destroyView v)

/-! ### Views that are changed -/

theorem tends_leaveOutput (v : ViewId) (k : SurfaceId) (o : Option OutputId) :
    Tends c (c.leaveOutput v k o) := by
  unfold leaveOutput
  split
  · exact tends_modifyOutput _ fun p _ => Output.tends_detach _ (p.removeView v) k
  · exact .refl c

theorem renderer_addView (p : Output) (v : ViewId) : (p.addView v).renderer = p.renderer := by
  unfold Output.addView
  split <;> rfl

theorem tends_joinOutput (host : Host) (v : ViewId) (k : SurfaceId) (target : Option OutputId) :
    Tends c (c.joinOutput host v k target) := by
  unfold joinOutput
  split
  · exact .refl c
  next o p there =>
    obtain ⟨x, -, there⟩ := Option.bind_eq_some_iff.1 there
    obtain ⟨q, found, same⟩ := Option.map_eq_some_iff.1 there
    cases same
    have added := renderer_addView p v
    simp only
    split
    next r b renderer _ =>
      exact tends_import found (added.symm.trans renderer) host.device k (c.buffers.get? b)
        (f := fun _ => { p.addView v with
          renderer := some (r.attach host.device c.nextIds.image k (c.buffers.get? b)).renderer
          }.schedule) rfl rfl rfl rfl
    · refine tends_modifyOutput_of_renderer o fun q found' => ?_
      cases found.symm.trans found'
      exact added

theorem tends_setViewOutput (host : Host) (v : ViewId) (target : Option OutputId) :
    Tends c (c.setViewOutput host v target).2 := by
  unfold setViewOutput
  split
  · exact .refl c
  · split
    · exact .refl c
    next view _ =>
      split
      · exact .refl c
      · exact (((tends_modifyView v _).trans (tends_leaveOutput v _ _)).trans
          (tends_joinOutput host v _ target)).trans (tends_tellPolicy _)

theorem tends_setViewState (v : ViewId) (bits : UInt32) (on : Bool) :
    Tends c (c.setViewState v bits on) := by
  unfold setViewState
  split
  · exact .refl c
  · simp only
    split
    · exact (tends_modifyView v _).trans (tends_scheduleView v)
    · exact tends_modifyView v _

theorem tends_focusView (target : Option ViewId) : Tends c (c.focusView target) := by
  have switched (d : Compositor) (v : Option ViewId) (on : Bool) : Tends d (d.switchFocus v on) := by
    cases v with
    | none => exact .refl d
    | some v => exact (tends_setViewState v activatedBit on).trans (tends_tellPolicy _)
  rw [focusView_eq]
  split
  · exact .refl c
  · exact ((switched c c.focused false).trans (switched _ (target.filter c.views.contains) true)).trans
      (tends_of_tables rfl rfl rfl)

theorem tends_setViewMask (v : ViewId) (mask : UInt32) : Tends c (c.setViewMask v mask) := by
  unfold setViewMask
  split
  · exact .refl c
  · split
    · exact .refl c
    · exact (tends_modifyView v _).trans (tends_scheduleView v)

theorem tends_setViewGeometry (v : ViewId) (geometry : Placement) :
    Tends c (c.setViewGeometry v geometry) := by
  unfold setViewGeometry
  split
  · exact (tends_modifyView v _).trans (tends_scheduleView v)
  · exact .refl c

theorem tends_requestGeometry (host : Host) (v : ViewId) (geometry : Placement) :
    Tends c (c.requestGeometry host v geometry) := by
  unfold requestGeometry
  split
  · simp only
    split
    · exact tends_tellPolicy _
    · exact (tends_tellPolicy _).trans (tends_setViewGeometry v geometry)
  · exact .refl c

theorem tends_requestState (host : Host) (v : ViewId) (bits : UInt32) (on : Bool) :
    Tends c (c.requestState host v bits on) := by
  unfold requestState
  split
  · simp only
    split
    · exact tends_tellPolicy _
    · exact (tends_tellPolicy _).trans (tends_setViewState v bits on)
  · exact .refl c

theorem tends_setViewParent (v : ViewId) (parent : Option ViewId) :
    Tends c (c.setViewParent v parent).2 := by
  unfold setViewParent
  split
  · exact .refl c
  · split
    · exact tends_modifyView v _
    · exact .refl c

theorem tends_setViewText (host : Host) (v : ViewId) (what text : String) (set : View → View) :
    Tends c (c.setViewText host v what text set).2 := by
  rcases c.setViewText_eq host v what text set with given | same
  · rw [given]
    exact tends_modifyView v _
  · rw [same]
    exact .refl c

theorem tends_restackView (linked : c.Linked) (v : ViewId) (move : Output.Restack) :
    Tends c (c.restackView v move).2 := by
  unfold restackView
  split
  · exact .refl c
  next p there =>
    obtain ⟨o, -, found⟩ := Option.bind_eq_some_iff.1 there
    split
    next moved eq =>
      obtain ⟨stack, rfl, -⟩ := restack?_perm eq
      rw [(linked.output_named o p found).1]
      refine tends_modifyOutput_of_renderer o fun q found' => ?_
      cases found.symm.trans found'
      rfl
    next => exact .refl c

/-! ### Outputs -/

theorem tends_setOutputResolution (host : Host) (o : OutputId) (resolution : Size) :
    Tends c (c.setOutputResolution host o resolution) := by
  cases found : c.outputs.get? o with
  | none =>
    simp only [setOutputResolution, found]
    exact .refl c
  | some p =>
    unfold setOutputResolution
    rw [found]
    simp only
    split
    · exact .refl c
    · have resized : Tends c (c.modifyOutput o fun q => { q with
          resolution
          renderer := p.renderer.map fun r : Renderer => (r.resize host.device resolution).1
          }.schedule) := by
        refine tends_modifyOutput o fun q there => ?_
        cases found.symm.trans there
        exact rel_map fun r _ => .single (.resize r _ host.device resolution)
      cases renderer : p.renderer <;> rw [renderer] at resized
      · exact resized.trans (tends_of_tables rfl rfl rfl)
      · exact resized.trans (tends_of_tables rfl rfl rfl)

theorem tends_shareDisplay (host : Host) (display : UInt64) :
    Tends c (c.shareDisplay host display).2 := by
  unfold shareDisplay
  refine foldl_related (R := fun s t => Tends s.2 t.2) (fun s => .refl s.2)
    (fun _ _ _ => Tends.trans) (fun s p => ?_) c.outputs.values (0, c)
  obtain ⟨accepted, d⟩ := s
  simp only
  split
  · exact .refl d
  · exact tends_of_tables rfl rfl rfl

/-! ### Every request -/

theorem tends_handle (linked : c.Linked) (host : Host) {request : Request}
    (other : request.aboutContexts = false) : Tends c (c.handle host request).2 := by
  cases request <;> simp only [handle, settle_snd]
  case createSurface client id => exact tends_createSurface host client id
  case attach k _ _ | damage k _ | setOpaque k _ | setInput k _ => exact tends_modifySurface k _
  case frame k callback => exact tends_requestFrame host k callback
  case commit k => exact tends_commitSurface linked host k
  case scheduleSurface k => exact tends_scheduleSurface k
  case acquire k => exact tends_modifySurface k _
  case release k => exact tends_releaseSurface k
  case destroySurface k => exact tends_destroySurface k
  case resourceDestroyed handle => exact tends_resourceDestroyed handle
  case pool request => exact tends_of_tables rfl rfl rfl
  case destroyBuffer b => exact tends_destroyBuffer b
  case renderComplete b => exact tends_renderComplete b
  case createRegion client id => exact tends_createRegion host client id
  case addToRegion r _ | subtractFromRegion r _ => exact tends_of_tables rfl rfl rfl
  case destroyRegion r => exact tends_destroyRegion r
  case createView k role => exact tends_createView host k role
  case destroyView v => exact tends_destroyView v
  case setViewOutput v target => exact tends_setViewOutput host v target
  case focus target => exact tends_focusView target
  case setViewGeometry v geometry => exact tends_setViewGeometry v geometry
  case requestGeometry v geometry => exact tends_requestGeometry host v geometry
  case setViewState v bits on => exact tends_setViewState v bits on
  case requestState v bits on => exact tends_requestState host v bits on
  case setViewType v bits on => exact tends_modifyView v _
  case setViewMask v mask => exact tends_setViewMask v mask
  case setViewParent v parent => exact tends_setViewParent v parent
  case setTitle v _ | setClass v _ | setAppId v _ => exact tends_setViewText host v _ _ _
  case restack v move => exact tends_restackView linked v move
  case addOutput | removeOutput | render => cases other
  case setResolution o resolution => exact tends_setOutputResolution host o resolution
  case setSleep o sleeping =>
    refine tends_modifyOutput_of_renderer o fun p _ => ?_
    simp only
    split <;> rfl
  case setOutputMask o mask => exact tends_modifyOutput_of_renderer o fun _ _ => rfl
  case scheduleOutput o => exact tends_scheduleOutput o
  case shareDisplay display => exact tends_shareDisplay host display

end Compositor

end Compositing
