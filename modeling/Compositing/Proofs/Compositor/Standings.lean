import Compositing.Proofs.Compositor.Notices

/-!
# What views and outputs keep

A view keeps its state and its parent, and an output its resolution and the size of its frames, until a
request is about just that. `settled_handle` goes through all requests once. `SameStandings` is the
half of it that is about views, and `SameFormats` the half about outputs, for the requests that change
the other half.
-/

namespace Compositing

/-- The state of a view and its parent. -/
def View.standing (v : View) : UInt32 × Option ViewId := (v.state, v.parent)

/-! ### The size of frames -/

namespace Renderer

/-- The size of the frames that are rendered in memory. -/
def frameSize? (r : Renderer) : Option Size := r.software?.map (·.1.size)

theorem frameSize?_detach (r : Renderer) (k : SurfaceId) : (r.detach k).frameSize? = r.frameSize? := by
  rw [frameSize?, software?_detach, Option.map_map]
  rfl

theorem frameSize?_attach (r : Renderer) (device : DeviceAnswers) (next : ImageId) (k : SurfaceId)
    (content : Option Buffer) : (r.attach device next k content).renderer.frameSize? = r.frameSize? := by
  rw [← r.frameSize?_detach k]
  unfold attach
  cases content with
  | none => rfl
  | some b =>
    simp only
    split
    next done =>
      refine map_of_rel (RenderContext.software?_createImage_ok done) ?_
      rintro s s' ⟨_, _, rfl⟩
      rfl
    next failed =>
      exact congrArg (Option.map (·.1.size)) (RenderContext.software?_createImage_error failed).1

theorem frameSize?_blank (r : Renderer) : r.blank.frameSize? = r.frameSize? := by
  have cleared : r.blank.software? = r.software?.map fun s => (s.1.fill Colour.black.pack, s.2) :=
    RenderContext.software?_clear Colour.black
  rw [frameSize?, cleared, Option.map_map]
  rfl

end Renderer

namespace Output

/-- The size of the frames that are rendered in memory for the output. -/
def frameSize? (p : Output) : Option Size := p.renderer.bind (·.frameSize?)

/-- The resolution of an output, and the size of its frames. -/
def format (p : Output) : Size × Option Size := (p.resolution, p.frameSize?)

theorem format_eq {p p' : Output} (resolution : p'.resolution = p.resolution)
    (frames : p'.frameSize? = p.frameSize?) : p'.format = p.format := by
  rw [format, resolution, frames, format]

theorem format_detach (p : Output) (k : SurfaceId) : (p.detach k).format = p.format := by
  refine format_eq rfl ?_
  cases renderer : p.renderer with
  | none => simp [frameSize?, detach, renderer]
  | some r => simp [frameSize?, detach, renderer, Renderer.frameSize?_detach]

theorem format_addView (p : Output) (v : ViewId) : (p.addView v).format = p.format := by
  unfold addView
  split <;> rfl

/-- An import is none of a frame. -/
theorem format_attach {p : Output} {r : Renderer} (renderer : p.renderer = some r)
    (device : DeviceAnswers) (next : ImageId) (k : SurfaceId) (content : Option Buffer) :
    ({ p with renderer := some (r.attach device next k content).renderer } : Output).format =
      p.format := by
  refine format_eq rfl ?_
  simp [frameSize?, renderer, Renderer.frameSize?_attach]

theorem format_of_blank {p p' : Output} (same : p'.blank = p.blank) : p'.format = p.format := by
  have blank (q : Output) : q.blank.format = q.format := by
    refine format_eq rfl ?_
    cases renderer : q.renderer with
    | none => simp [frameSize?, Output.blank, renderer]
    | some r => simp [frameSize?, Output.blank, renderer, Renderer.frameSize?_blank]
  rw [← blank, same, blank]

end Output

namespace Request

/-- A request about the state of views, their parents or the focus. -/
def aboutStanding : Request → Bool
  | focus _ | setViewState .. | requestState .. | setViewParent .. => true
  | _ => false

/-- A request that makes an output or gives it a resolution. -/
def aboutFormat : Request → Bool
  | addOutput .. | setResolution .. => true
  | _ => false

end Request

namespace Compositor

variable {c c' c'' : Compositor}

/-! ### The two halves -/

/-- No view got another state, another parent or the focus, and none lost it but with its end. A new
view begins without all three. -/
structure SameStandings (c c' : Compositor) : Prop where
  nextView : c.nextIds.view.number ≤ c'.nextIds.view.number
  views : ∀ v w', c'.views.get? v = some w' →
    (∃ w, c.views.get? v = some w ∧ w'.standing = w.standing ∧
      (c'.focused = some v ↔ c.focused = some v)) ∨
    (c.nextIds.view.number ≤ v.number ∧ w'.standing = (0, none) ∧ c'.focused ≠ some v)

/-- No output is new, and none got another resolution or frames of another size. -/
def SameFormats (c c' : Compositor) : Prop :=
  ∀ o p', c'.outputs.get? o = some p' → ∃ p, c.outputs.get? o = some p ∧ p'.format = p.format

structure Settled (c c' : Compositor) : Prop where
  standings : SameStandings c c'
  formats : SameFormats c c'

theorem SameStandings.trans (first : SameStandings c c') (second : SameStandings c' c'') :
    SameStandings c c'' where
  nextView := first.nextView.trans second.nextView
  views v w'' found := by
    rcases second.views v w'' found with ⟨w', found', standing', focus'⟩ | ⟨new, bare⟩
    · rcases first.views v w' found' with ⟨w, old, standing, focus⟩ | ⟨new, bare, unfocused⟩
      · exact .inl ⟨w, old, standing'.trans standing, focus'.trans focus⟩
      · exact .inr ⟨new, standing'.trans bare, fun now => unfocused (focus'.1 now)⟩
    · exact .inr ⟨first.nextView.trans new, bare⟩

theorem SameFormats.trans (first : SameFormats c c') (second : SameFormats c' c'') :
    SameFormats c c'' := by
  intro o p'' found
  obtain ⟨p', found', format'⟩ := second o p'' found
  obtain ⟨p, there, format⟩ := first o p' found'
  exact ⟨p, there, format'.trans format⟩

theorem Settled.trans (first : Settled c c') (second : Settled c' c'') : Settled c c'' :=
  ⟨first.standings.trans second.standings, first.formats.trans second.formats⟩

/-- The views that are left are as they were, up to what is no standing. -/
theorem sameStandings_of_views (nextView : c'.nextIds.view = c.nextIds.view)
    (focused : c'.focused = c.focused)
    (views : ∀ v w', c'.views.get? v = some w' →
      ∃ w, c.views.get? v = some w ∧ w'.standing = w.standing) : SameStandings c c' where
  nextView := by rw [nextView]
  views v w' found := by
    obtain ⟨w, there, same⟩ := views v w' found
    exact .inl ⟨w, there, same, by rw [focused]⟩

theorem sameStandings_of_tables (views : c'.views = c.views) (focused : c'.focused = c.focused)
    (nextView : c'.nextIds.view = c.nextIds.view) : SameStandings c c' :=
  sameStandings_of_views nextView focused fun _ w found => ⟨w, views ▸ found, rfl⟩

theorem sameFormats_of_outputs (outputs : c'.outputs = c.outputs) : SameFormats c c' :=
  fun _ p found => ⟨p, outputs ▸ found, rfl⟩

/-- The other tables do not matter. -/
theorem settled_of_tables (views : c'.views = c.views) (outputs : c'.outputs = c.outputs)
    (focused : c'.focused = c.focused) (nextView : c'.nextIds.view = c.nextIds.view) : Settled c c' :=
  ⟨sameStandings_of_tables views focused nextView, sameFormats_of_outputs outputs⟩

theorem Settled.refl (c : Compositor) : Settled c c := settled_of_tables rfl rfl rfl rfl

/-! ### Changing one object -/

theorem settled_tell (events : List Event) : Settled c (c.tell events) :=
  settled_of_tables rfl rfl rfl rfl

theorem settled_tellPolicy (event : PolicyEvent) : Settled c (c.tellPolicy event) :=
  settled_tell _

theorem settled_modifySurface (k : SurfaceId) (f : Surface → Surface) :
    Settled c (c.modifySurface k f) :=
  settled_of_tables rfl rfl rfl rfl

theorem settled_destroyResource (handle : Option Handle) : Settled c (c.destroyResource handle) := by
  cases handle <;> exact settled_of_tables rfl rfl rfl rfl

theorem sameFormats_modifyOutput (o : OutputId) {f : Output → Output}
    (same : ∀ p, c.outputs.get? o = some p → (f p).format = p.format) :
    SameFormats c (c.modifyOutput o f) := fun x _ found =>
  found_of_rel (R := fun p p' => p'.format = p.format)
    (Table.rel_modify c.outputs o x (fun _ => rfl) same) found

theorem settled_modifyOutput (o : OutputId) {f : Output → Output}
    (same : ∀ p, c.outputs.get? o = some p → (f p).format = p.format) :
    Settled c (c.modifyOutput o f) :=
  ⟨sameStandings_of_tables rfl rfl rfl, sameFormats_modifyOutput o same⟩

theorem settled_modifyView (v : ViewId) {f : View → View}
    (same : ∀ w, c.views.get? v = some w → (f w).standing = w.standing) :
    Settled c (c.modifyView v f) where
  standings := sameStandings_of_views rfl rfl fun x _ found =>
    found_of_rel (R := fun w w' => w'.standing = w.standing)
      (Table.rel_modify c.views v x (fun _ => rfl) same) found
  formats := sameFormats_of_outputs rfl

theorem settled_scheduleOutput (o : OutputId) : Settled c (c.scheduleOutput o) :=
  settled_modifyOutput o fun _ _ => rfl

theorem settled_scheduleView (v : ViewId) : Settled c (c.scheduleView v) := by
  unfold scheduleView
  split
  · exact settled_scheduleOutput _
  · exact .refl c

theorem settled_scheduleSurface (k : SurfaceId) : Settled c (c.scheduleSurface k) := by
  unfold scheduleSurface
  split
  · exact settled_scheduleOutput _
  · exact .refl c

/-! ### Surfaces, buffers and regions -/

theorem settled_createResource (host : Host) (kind : ResourceKind) (client : ClientId) (id : UInt32)
    (what : String) : Settled c (c.createResource host kind client id what).2 := by
  obtain ⟨-, -, -, -, views, outputs, -, focused, nextIds⟩ :=
    c.createResource_fields host kind client id what
  exact settled_of_tables views outputs focused (congrArg NextIds.view nextIds)

theorem settled_createSurface (host : Host) (client : ClientId) (id : UInt32) :
    Settled c (c.createSurface host client id).2 := by
  have asked := settled_createResource (c := c) host .surface client id "surface"
  unfold createSurface
  generalize c.createResource host .surface client id "surface" = asking at asked ⊢
  obtain ⟨result, d⟩ := asking
  cases result with
  | error e => exact asked
  | ok handle => exact asked.trans (settled_of_tables rfl rfl rfl rfl)

theorem settled_createRegion (host : Host) (client : ClientId) (id : UInt32) :
    Settled c (c.createRegion host client id).2 := by
  have asked := settled_createResource (c := c) host .region client id "region"
  unfold createRegion
  generalize c.createResource host .region client id "region" = asking at asked ⊢
  obtain ⟨result, d⟩ := asking
  cases result with
  | error e => exact asked
  | ok handle => exact asked.trans (settled_of_tables rfl rfl rfl rfl)

theorem settled_requestFrame (host : Host) (k : SurfaceId) (callback : UInt32) :
    Settled c (c.requestFrame host k callback).2 := by
  unfold requestFrame
  split
  · exact .refl c
  next s _ =>
    have asked := settled_createResource (c := c) host .callback s.client callback "frame callback"
    generalize c.createResource host .callback s.client callback "frame callback" = asking at asked ⊢
    obtain ⟨result, d⟩ := asking
    cases result with
    | error e => exact asked
    | ok handle =>
      refine .trans ?_ (settled_destroyResource _)
      exact asked.trans (settled_of_tables rfl rfl rfl rfl)

theorem settled_releaseBuffer (b : BufferId) : Settled c (c.releaseBuffer b) := by
  obtain ⟨-, -, -, views, outputs, -, focused, nextIds⟩ := c.releaseBuffer_fields b
  exact settled_of_tables views outputs focused (congrArg NextIds.view nextIds)

theorem settled_renderComplete (b : BufferId) : Settled c (c.renderComplete b) := by
  obtain ⟨-, -, -, views, outputs, -, focused, nextIds⟩ := c.renderComplete_fields b
  exact settled_of_tables views outputs focused (congrArg NextIds.view nextIds)

theorem settled_destroyBuffer (b : BufferId) : Settled c (c.destroyBuffer b).2 := by
  unfold destroyBuffer
  split
  · exact settled_of_tables rfl rfl rfl rfl
  · exact .refl c

theorem settled_destroyRegion (r : RegionId) : Settled c (c.destroyRegion r) := by
  unfold destroyRegion
  split
  · exact .refl c
  · refine .trans ?_ (settled_destroyResource _)
    exact settled_of_tables rfl rfl rfl rfl

theorem settled_importContent (named : ∀ o p, c.outputs.get? o = some p → p.id = o) (host : Host)
    (k : SurfaceId) (content : Option Buffer) : Settled c (c.importContent host k content) := by
  unfold importContent
  split
  · exact .refl c
  next p there =>
    split
    · exact .refl c
    next r renderer =>
      obtain ⟨o, -, found⟩ := Option.bind_eq_some_iff.1 there
      -- The output is changed under its own name, and is what was found there.
      rw [named o p found]
      refine (settled_modifyOutput o fun q found' => ?_).trans (settled_of_tables rfl rfl rfl rfl)
      cases found.symm.trans found'
      exact Output.format_attach renderer ..

theorem settled_commitSurface (linked : c.Linked) (host : Host) (k : SurfaceId) :
    Settled c (c.commitSurface host k).2 := by
  unfold commitSurface
  split
  · exact .refl c
  next s _ =>
    simp only
    have imported (attached : Bool) : Settled c (if attached = true then
        (c.modifySurface k fun _ => (s.commit c.buffers).surface).importContent host k
          (s.commit c.buffers).content
        else c.modifySurface k fun _ => (s.commit c.buffers).surface) := by
      split
      · refine (settled_modifySurface k _).trans (settled_importContent ?_ host k _)
        exact fun o p found => (linked.output_named o p found).1
      · exact settled_modifySurface k _
    refine .trans ?_ (settled_scheduleSurface k)
    split
    · exact (imported _).trans (settled_releaseBuffer _)
    · exact imported _

/-! ### Views that begin and end -/

theorem WithoutView.settled {v : ViewId} {view : View} (without : WithoutView c c' v view) :
    Settled c c' where
  standings := by
    refine ⟨by rw [without.nextIds], fun x w' found => ?_⟩
    rw [without.views, Table.get?_erase] at found
    split at found
    · cases found
    next other =>
      refine .inl ⟨w', found, rfl, ?_⟩
      rw [without.focused]
      split
      next here => simp [here, Ne.symm other]
      next => rfl
  formats o p' found := by
    rw [without.outputs, Table.get?_modifyAt] at found
    split at found
    · obtain ⟨p, there, rfl⟩ := Option.map_eq_some_iff.1 found
      exact ⟨p, there, Output.format_detach (p.removeView v) view.surface⟩
    · exact ⟨p', found, rfl⟩

theorem settled_discardView (v : ViewId) : Settled c (c.discardView v).2 := by
  cases found : c.views.get? v with
  | none =>
    rw [discardView_of_absent found]
    exact .refl c
  | some view => exact (discardView_found found).2.settled

theorem settled_destroyView (v : ViewId) : Settled c (c.destroyView v) := by
  cases found : c.views.get? v with
  | none =>
    rw [destroyView_of_absent found]
    exact .refl c
  | some view => exact (destroyView_found found).settled

theorem WithView.settled {view : View} (entered : WithView c c' view) (linked : c.Linked)
    (bare : view.standing = (0, none)) : Settled c c' where
  standings := by
    refine ⟨by rw [entered.nextIds]; exact Nat.le_succ _, fun v w' found => ?_⟩
    rw [entered.views, Table.get?_insert] at found
    rw [entered.focused]
    split at found
    next new =>
      cases found
      refine .inr ⟨by rw [new], bare, fun same => ?_⟩
      -- The focus is on a view that is there, which the new one was not.
      obtain ⟨w, there⟩ := linked.focus_exists v same
      rw [new, linked.view_absent] at there
      cases there
    next => exact .inl ⟨w', found, rfl, .rfl⟩
  formats := sameFormats_of_outputs entered.outputs

theorem settled_createView (linked : c.Linked) (host : Host) (k : SurfaceId) (role : Handle) :
    Settled c (c.createView host k role).2 := by
  unfold createView
  split
  · exact .refl c
  · split
    · exact .refl c
    · simp only
      have entered (surfaces : Table SurfaceId Surface) (resources : Table Handle Owner) : WithView c
          (({ c with
            surfaces, resources
            views := c.views.insert c.nextIds.view (View.ofRole c.nextIds.view k role)
            nextIds := { c.nextIds with view := c.nextIds.view.next } } : Compositor).tellPolicy
              (.viewCreated c.nextIds.view)) (View.ofRole c.nextIds.view k role) :=
        ⟨rfl, rfl, rfl, rfl, rfl, rfl, rfl⟩
      split
      · exact (entered _ _).settled linked rfl
      -- The policy does not want the view.
      · exact ((entered _ _).settled linked rfl).trans (settled_discardView _)

theorem settled_clearSurface (k : SurfaceId) (s : Surface) : Settled c (c.clearSurface k s) := by
  obtain ⟨-, -, -, views, outputs, -, focused, nextIds⟩ := c.clearSurface_fields k s
  refine ⟨sameStandings_of_tables views focused (congrArg NextIds.view nextIds), fun o p' found => ?_⟩
  rw [outputs, Table.get?_map] at found
  obtain ⟨p, there, rfl⟩ := Option.map_eq_some_iff.1 found
  exact ⟨p, there, p.format_detach k⟩

theorem settled_freeSurface (k : SurfaceId) : Settled c (c.freeSurface k) := by
  cases found : c.surfaces.get? k with
  | none =>
    simp only [freeSurface, found]
    exact .refl c
  | some s =>
    have erased : Settled c { c with surfaces := c.surfaces.erase k } :=
      settled_of_tables rfl rfl rfl rfl
    have unlinked := erased.trans (settled_destroyResource s.resource)
    rw [freeSurface_eq found]
    refine .trans ?_ (settled_clearSurface k s)
    split
    · exact unlinked.trans (settled_destroyView _)
    · exact unlinked

theorem settled_releaseSurface (k : SurfaceId) : Settled c (c.releaseSurface k) := by
  unfold releaseSurface
  split
  · exact .refl c
  · simp only
    split
    · exact (settled_modifySurface k _).trans (settled_freeSurface k)
    · exact settled_modifySurface k _

theorem settled_surfaceResourceGone (k : SurfaceId) : Settled c (c.surfaceResourceGone k) := by
  unfold surfaceResourceGone
  simp only
  split
  · exact (settled_destroyView _).trans (settled_releaseSurface k)
  · exact settled_releaseSurface k

theorem settled_destroySurface (k : SurfaceId) : Settled c (c.destroySurface k) := by
  unfold destroySurface
  split
  · exact .refl c
  · refine .trans ?_ (settled_surfaceResourceGone k)
    exact (settled_modifySurface k _).trans (settled_destroyResource _)

theorem settled_resourceDestroyed (handle : Handle) : Settled c (c.resourceDestroyed handle) := by
  unfold resourceDestroyed
  split
  · exact .refl c
  next owner _ =>
    have disowned : Settled c (c.disown handle) := settled_of_tables rfl rfl rfl rfl
    simp only
    cases owner with
    | surface k =>
      exact (disowned.trans (settled_modifySurface k _)).trans (settled_surfaceResourceGone k)
    | region r => exact disowned.trans (settled_of_tables rfl rfl rfl rfl)
    | callback k => exact disowned.trans (settled_modifySurface k _)
    | view v =>
      refine (disowned.trans ?_).trans (settled_destroyView v)
      exact settled_modifyView v fun _ _ => rfl

/-! ### Views that are changed -/

theorem settled_joinOutput (host : Host) (v : ViewId) (k : SurfaceId) (target : Option OutputId) :
    Settled c (c.joinOutput host v k target) := by
  unfold joinOutput
  split
  · exact .refl c
  next o p there =>
    obtain ⟨x, -, there⟩ := Option.bind_eq_some_iff.1 there
    obtain ⟨q, found, same⟩ := Option.map_eq_some_iff.1 there
    cases same
    have added := p.format_addView v
    simp only
    split
    next r _ renderer _ =>
      refine (settled_modifyOutput o fun p found' => ?_).trans (settled_of_tables rfl rfl rfl rfl)
      cases found.symm.trans found'
      exact (Output.format_attach renderer ..).trans added
    · refine settled_modifyOutput o fun p found' => ?_
      cases found.symm.trans found'
      exact added

theorem settled_leaveOutput (v : ViewId) (k : SurfaceId) (o : Option OutputId) :
    Settled c (c.leaveOutput v k o) := by
  unfold leaveOutput
  split
  · exact settled_modifyOutput _ fun p _ => Output.format_detach (p.removeView v) k
  · exact .refl c

theorem settled_setViewOutput (host : Host) (v : ViewId) (target : Option OutputId) :
    Settled c (c.setViewOutput host v target).2 := by
  unfold setViewOutput
  split
  · exact .refl c
  · split
    · exact .refl c
    next view _ =>
      split
      · exact .refl c
      · simp only
        have renamed : Settled c (c.modifyView v fun w => { w with output := target }) :=
          settled_modifyView v fun _ _ => rfl
        exact ((renamed.trans (settled_leaveOutput v _ _)).trans
          (settled_joinOutput host v _ target)).trans (settled_tellPolicy _)

theorem settled_setViewMask (v : ViewId) (mask : UInt32) : Settled c (c.setViewMask v mask) := by
  unfold setViewMask
  split
  · exact .refl c
  · split
    · exact .refl c
    · refine .trans ?_ (settled_scheduleView v)
      exact settled_modifyView v fun _ _ => rfl

theorem settled_setViewGeometry (v : ViewId) (geometry : Placement) :
    Settled c (c.setViewGeometry v geometry) := by
  unfold setViewGeometry
  split
  · refine .trans ?_ (settled_scheduleView v)
    exact settled_modifyView v fun _ _ => rfl
  · exact .refl c

theorem settled_requestGeometry (host : Host) (v : ViewId) (geometry : Placement) :
    Settled c (c.requestGeometry host v geometry) := by
  unfold requestGeometry
  split
  · simp only
    split
    · exact settled_tellPolicy _
    · exact (settled_tellPolicy _).trans (settled_setViewGeometry v geometry)
  · exact .refl c

theorem settled_setViewText (host : Host) (v : ViewId) (what text : String) {set : View → View}
    (same : ∀ w, (set w).standing = w.standing) :
    Settled c (c.setViewText host v what text set).2 := by
  rcases c.setViewText_eq host v what text set with given | kept
  · rw [given]
    exact settled_modifyView v fun w _ => same w
  · rw [kept]
    exact .refl c

theorem settled_restackView (linked : c.Linked) (v : ViewId) (move : Output.Restack) :
    Settled c (c.restackView v move).2 := by
  unfold restackView
  split
  · exact .refl c
  next p there =>
    obtain ⟨o, -, found⟩ := Option.bind_eq_some_iff.1 there
    split
    next moved eq =>
      obtain ⟨stack, rfl, -⟩ := restack?_perm eq
      rw [(linked.output_named o p found).1]
      refine settled_modifyOutput o fun q found' => ?_
      cases found.symm.trans found'
      rfl
    next => exact .refl c

/-! ### Outputs -/

theorem settled_discardOutput (o : OutputId) : Settled c (c.discardOutput o).2 := by
  cases found : c.outputs.get? o with
  | none =>
    simp only [discardOutput, found]
    exact .refl c
  | some p =>
    obtain ⟨-, -, -, -, outputs, -, focused, nextIds, views⟩ := foldl_hideView_fields p.creationOrder
      { c with outputs := c.outputs.erase o, outputOrder := c.outputOrder.filter (· ≠ o) }
    have hidden : Settled c (c.withoutOutput o p) := by
      refine ⟨sameStandings_of_views (congrArg NextIds.view nextIds) focused fun v w' there => ?_,
        fun x q there => ?_⟩
      · rw [withoutOutput, views] at there
        obtain ⟨w, old, rfl⟩ := Option.map_eq_some_iff.1 there
        exact ⟨w, old, by split <;> rfl⟩
      · rw [withoutOutput, outputs, Table.get?_erase] at there
        split at there
        · cases there
        · exact ⟨q, there, rfl⟩
    unfold discardOutput
    rw [found]
    simp only
    split
    · exact hidden
    · exact hidden.trans (settled_of_tables rfl rfl rfl rfl)

theorem settled_removeOutput (o : OutputId) : Settled c (c.removeOutput o) := by
  have gone := settled_discardOutput (c := c) o
  unfold removeOutput
  generalize c.discardOutput o = discarded at gone ⊢
  obtain ⟨there, d⟩ := discarded
  cases there with
  | true => exact gone.trans (settled_tellPolicy _)
  | false => exact gone

theorem settled_shareDisplay (host : Host) (display : UInt64) :
    Settled c (c.shareDisplay host display).2 := by
  unfold shareDisplay
  refine foldl_related (R := fun s t => Settled s.2 t.2) (fun s => .refl s.2)
    (fun _ _ _ => Settled.trans) (fun s p => ?_) c.outputs.values (0, c)
  obtain ⟨accepted, d⟩ := s
  simp only
  split
  · exact .refl d
  · exact settled_tell _

theorem Round.settled {time : UInt32} {os : List OutputId} {ks : List SurfaceId}
    (round : Round c c' time os ks) : Settled c c' where
  standings := by
    have views : c'.views = c.views := by rw [round.frame]; rfl
    have focused : c'.focused = c.focused := by rw [round.frame]; rfl
    have nextIds : c'.nextIds = c.nextIds := by rw [round.frame]; rfl
    exact sameStandings_of_tables views focused (congrArg NextIds.view nextIds)
  formats o p' found := by
    obtain ⟨p, there, same⟩ := found_of_rel (round.outputs o) found
    refine ⟨p, there, ?_⟩
    split at same
    · exact Output.format_of_blank (p := p.attended) same
    · rw [same]

/-! ### Requests about one half -/

/-- Only the state of the one view is different. -/
theorem setViewState_fields (v : ViewId) (bits : UInt32) (on : Bool) :
    (c.setViewState v bits on).views = c.views.modify v (fun w => (w.switchState bits on).2) ∧
    (c.setViewState v bits on).focused = c.focused ∧
    (c.setViewState v bits on).nextIds = c.nextIds := by
  unfold setViewState
  split
  next absent =>
    refine ⟨(Table.map_self fun x w there => ?_).symm, rfl, rfl⟩
    split
    next same => cases (same ▸ there).symm.trans absent
    next => rfl
  next view found =>
    have views : c.views.modify v (fun _ => (view.switchState bits on).2) =
        c.views.modify v fun w => (w.switchState bits on).2 := by
      refine Table.map_congr fun x w there => ?_
      split
      next same =>
        cases (same ▸ there).symm.trans found
        rfl
      next => rfl
    simp only
    split
    · obtain ⟨-, -, -, same, -, focused, nextIds, -⟩ :=
        (c.modifyView v fun _ => (view.switchState bits on).2).scheduleView_fields v
      exact ⟨same.trans views, focused, nextIds⟩
    · exact ⟨views, rfl, rfl⟩

/-- The bit of a view that gets or loses the focus moves, and the policy hears of it. -/
def switchFocus (c : Compositor) (v : Option ViewId) (on : Bool) : Compositor :=
  match v with
  | some v => (c.setViewState v activatedBit on).tellPolicy (.focusChanged v on)
  | none => c

theorem switchFocus_fields (v : Option ViewId) (on : Bool) :
    (c.switchFocus v on).views =
      c.views.modifyAt v (fun w => (w.switchState activatedBit on).2) ∧
    (c.switchFocus v on).nextIds = c.nextIds := by
  cases v with
  | none => exact ⟨rfl, rfl⟩
  | some v =>
    obtain ⟨views, -, nextIds⟩ := c.setViewState_fields v activatedBit on
    exact ⟨views, nextIds⟩

theorem focusView_eq (target : Option ViewId) : c.focusView target =
    if target.filter c.views.contains = c.focused then c
    else { (c.switchFocus c.focused false).switchFocus (target.filter c.views.contains) true with
      focused := target.filter c.views.contains } := rfl

/-- The bit moves on the view that loses the focus and on the one that gets it. -/
theorem focusView_fields (target : Option ViewId) :
    let next := target.filter c.views.contains
    (c.focusView target).focused = next ∧ (c.focusView target).nextIds = c.nextIds ∧
    ∀ v, (c.focusView target).views.get? v = (c.views.get? v).map fun w =>
      if c.focused = some v ↔ next = some v then w
      else (w.switchState activatedBit (next = some v)).2 := by
  rw [focusView_eq]
  generalize target.filter c.views.contains = next
  simp only
  split
  next same =>
    subst same
    simp
  next differs =>
    obtain ⟨views, nextIds⟩ := c.switchFocus_fields c.focused false
    obtain ⟨views', nextIds'⟩ := (c.switchFocus c.focused false).switchFocus_fields next true
    refine ⟨rfl, nextIds'.trans nextIds, fun v => ?_⟩
    -- The focus is not lost and got by the same view.
    have apart : next = some v → c.focused ≠ some v := fun is was => differs (is.trans was.symm)
    simp only [views', views, Table.get?_modifyAt]
    by_cases is : next = some v
    · simp [is, apart is]
    · by_cases was : c.focused = some v <;> simp [is, was]

theorem sameFormats_setViewState (v : ViewId) (bits : UInt32) (on : Bool) :
    SameFormats c (c.setViewState v bits on) := by
  unfold setViewState
  split
  · exact (Settled.refl c).formats
  next view _ =>
    have switched : SameFormats c (c.modifyView v fun _ => (view.switchState bits on).2) :=
      sameFormats_of_outputs rfl
    simp only
    split
    · exact switched.trans (settled_scheduleView v).formats
    · exact switched

theorem sameFormats_switchFocus (v : Option ViewId) (on : Bool) :
    SameFormats c (c.switchFocus v on) := by
  cases v with
  | none => exact (Settled.refl c).formats
  | some v => exact (sameFormats_setViewState v activatedBit on).trans (settled_tellPolicy _).formats

theorem sameFormats_focusView (target : Option ViewId) : SameFormats c (c.focusView target) := by
  rw [focusView_eq]
  split
  · exact (Settled.refl c).formats
  · exact (sameFormats_switchFocus c.focused false).trans (sameFormats_switchFocus _ true)

theorem sameFormats_requestState (host : Host) (v : ViewId) (bits : UInt32) (on : Bool) :
    SameFormats c (c.requestState host v bits on) := by
  unfold requestState
  split
  · simp only
    split
    · exact (settled_tellPolicy _).formats
    · exact (settled_tellPolicy _).formats.trans (sameFormats_setViewState v bits on)
  · exact (Settled.refl c).formats

theorem sameFormats_setViewParent (v : ViewId) (parent : Option ViewId) :
    SameFormats c (c.setViewParent v parent).2 := by
  unfold setViewParent
  split
  · exact (Settled.refl c).formats
  · split
    · exact sameFormats_of_outputs rfl
    · exact (Settled.refl c).formats

theorem sameStandings_addOutput (host : Host) (name : String) (reported : Size) :
    SameStandings c (c.addOutput host name reported).2 := by
  unfold addOutput
  simp only
  generalize (if reported.isProper = true then reported else c.config.output.defaultResolution) =
    resolution
  obtain ⟨-, -, -, views, -, -, focused, nextIds⟩ := c.openRenderer_fields host reported resolution
  generalize c.openRenderer host reported resolution = opened at *
  obtain ⟨renderer, d⟩ := opened
  have nextView : d.nextIds.view = c.nextIds.view := congrArg NextIds.view nextIds
  have entered (outputs : Table OutputId Output) (outputOrder : List OutputId) : SameStandings c
      { d with outputs, outputOrder, nextIds := { d.nextIds with output := c.nextIds.output.next } } :=
    sameStandings_of_tables views focused nextView
  split
  · exact (entered _ _).trans (settled_discardOutput _).standings
  · split
    · exact (entered _ _).trans ((settled_tellPolicy _).trans (settled_scheduleOutput _)).standings
    · exact (entered _ _).trans ((settled_tellPolicy _).trans (settled_discardOutput _)).standings

theorem sameStandings_setOutputResolution (host : Host) (o : OutputId) (size : Size) :
    SameStandings c (c.setOutputResolution host o size) := by
  unfold setOutputResolution
  split
  · exact (Settled.refl c).standings
  · split
    · exact (Settled.refl c).standings
    · exact sameStandings_of_tables rfl rfl rfl

/-! ### Every request -/

theorem settled_handle (reached : c.Reachable) (host : Host) {request : Request}
    (standing : request.aboutStanding = false) (format : request.aboutFormat = false) :
    Settled c (c.handle host request).2 := by
  -- One case for each request, which cites the lemma about its operation.
  have linked := reached.linked
  cases request <;> simp only [handle, settle_snd]
  case createSurface client id => exact settled_createSurface host client id
  case attach k _ _ | damage k _ | setOpaque k _ | setInput k _ => exact settled_modifySurface k _
  case frame k callback => exact settled_requestFrame host k callback
  case commit k => exact settled_commitSurface linked host k
  case scheduleSurface k => exact settled_scheduleSurface k
  case acquire k => exact settled_modifySurface k _
  case release k => exact settled_releaseSurface k
  case destroySurface k => exact settled_destroySurface k
  case resourceDestroyed handle => exact settled_resourceDestroyed handle
  case pool request => exact settled_of_tables rfl rfl rfl rfl
  case destroyBuffer b => exact settled_destroyBuffer b
  case renderComplete b => exact settled_renderComplete b
  case createRegion client id => exact settled_createRegion host client id
  case addToRegion r _ | subtractFromRegion r _ => exact settled_of_tables rfl rfl rfl rfl
  case destroyRegion r => exact settled_destroyRegion r
  case createView k role => exact settled_createView linked host k role
  case destroyView v => exact settled_destroyView v
  case setViewOutput v target => exact settled_setViewOutput host v target
  case focus _ | setViewState _ _ _ | requestState _ _ _ | setViewParent _ _ => cases standing
  case setViewGeometry v geometry => exact settled_setViewGeometry v geometry
  case requestGeometry v geometry => exact settled_requestGeometry host v geometry
  case setViewType v bits on => exact settled_modifyView v fun _ _ => rfl
  case setViewMask v mask => exact settled_setViewMask v mask
  case setTitle v _ | setClass v _ | setAppId v _ => exact settled_setViewText host v _ _ fun _ => rfl
  case restack v move => exact settled_restackView linked v move
  case addOutput _ _ | setResolution _ _ => cases format
  case removeOutput o => exact settled_removeOutput o
  case setSleep o sleeping =>
    refine settled_modifyOutput o fun p _ => ?_
    simp only
    split <;> rfl
  case setOutputMask o mask => exact settled_modifyOutput o fun _ _ => rfl
  case scheduleOutput o => exact settled_scheduleOutput o
  case shareDisplay display => exact settled_shareDisplay host display
  case render time => exact (reached.round host time).2.settled

theorem sameStandings_handle (reached : c.Reachable) (host : Host) {request : Request}
    (other : request.aboutStanding = false) : SameStandings c (c.handle host request).2 := by
  cases format : request.aboutFormat with
  | false => exact (settled_handle reached host other format).standings
  | true =>
    cases request with
    | addOutput name reported =>
      simp only [handle, settle_snd]
      exact sameStandings_addOutput host name reported
    | setResolution o size => exact sameStandings_setOutputResolution host o size
    | _ => cases format

theorem sameFormats_handle (reached : c.Reachable) (host : Host) {request : Request}
    (other : request.aboutFormat = false) : SameFormats c (c.handle host request).2 := by
  cases standing : request.aboutStanding with
  | false => exact (settled_handle reached host standing other).formats
  | true =>
    cases request with
    | focus target => exact sameFormats_focusView target
    | setViewState v bits on => exact sameFormats_setViewState v bits on
    | requestState v bits on => exact sameFormats_requestState host v bits on
    | setViewParent v parent => exact sameFormats_setViewParent v parent
    | _ => cases standing

end Compositor

end Compositing
