import Compositing.Proofs.Compositor.Fields
import Compositing.Proofs.Rendering.Silence

/-!
# Changes that clients do not notice

Most of what the compositor does is about views, outputs and screens. Clients hear nothing of it,
and their objects keep what they hold: protocol objects, frame callbacks and buffers.
-/

namespace Compositing

/-- What a surface holds for its client. -/
def Surface.holdings (s : Surface) : Link × Option BufferId × Option Handle × List Handle :=
  (s.link, s.buffer, s.pendingCallback, s.callbacks)

/-- Requests that change no object's holdings, nor the pool. -/
def Request.isUnheard : Request → Bool
  | createSurface _ _ | frame _ _ | commit _ | release _ | destroySurface _ | resourceDestroyed _
  | pool _ | destroyBuffer _ | renderComplete _ | createRegion _ _ | destroyRegion _
  | createView _ _ | destroyView _ | render _ => false
  | _ => true

namespace Compositor

variable {c c' c'' : Compositor}

/-- The names that are drawn for objects with protocol objects. -/
def names (c : Compositor) : SurfaceId × RegionId × ViewId :=
  (c.nextIds.surface, c.nextIds.region, c.nextIds.view)

/-- Clients were told nothing, and their objects hold the same. -/
structure Unheard (c c' : Compositor) : Prop where
  buffers : c'.buffers = c.buffers
  resources : c'.resources = c.resources
  names : c'.names = c.names
  told : ∃ told, c'.log = c.log ++ told ∧ transportEvents told = []
  surfaces : ∀ k, Option.Rel (fun s s' => s'.holdings = s.holdings) (c.surfaces.get? k)
    (c'.surfaces.get? k)
  regions : ∀ r, Option.Rel (fun g g' => g'.link = g.link) (c.regions.get? r) (c'.regions.get? r)
  views : ∀ v, Option.Rel (fun w w' => w'.link = w.link) (c.views.get? v) (c'.views.get? v)

theorem Unheard.trans (first : Unheard c c') (second : Unheard c' c'') : Unheard c c'' where
  buffers := second.buffers.trans first.buffers
  resources := second.resources.trans first.resources
  names := second.names.trans first.names
  told := by
    obtain ⟨told, log, silent⟩ := first.told
    obtain ⟨told', log', silent'⟩ := second.told
    exact ⟨told ++ told', by simp [log, log'], by simp [silent, silent']⟩
  surfaces k := rel_trans (first.surfaces k) (second.surfaces k) fun _ _ _ same same' =>
    same'.trans same
  regions r := rel_trans (first.regions r) (second.regions r) fun _ _ _ same same' =>
    same'.trans same
  views v := rel_trans (first.views v) (second.views v) fun _ _ _ same same' => same'.trans same

/-- The tables that clients depend on stay the same. -/
theorem unheard_of_tables (buffers : c'.buffers = c.buffers)
    (resources : c'.resources = c.resources) (names : c'.names = c.names) (log : c'.log = c.log)
    (surfaces : c'.surfaces = c.surfaces) (regions : c'.regions = c.regions)
    (views : c'.views = c.views) : Unheard c c' where
  buffers := buffers
  resources := resources
  names := names
  told := ⟨[], by simp [log], rfl⟩
  surfaces k := surfaces ▸ rel_part _ _
  regions r := regions ▸ rel_part _ _
  views v := views ▸ rel_part _ _

theorem Unheard.refl (c : Compositor) : Unheard c c := unheard_of_tables rfl rfl rfl rfl rfl rfl rfl

theorem unheard_foldl {α : Type} {f : Compositor → α → Compositor} (step : ∀ c a, Unheard c (f c a))
    (l : List α) (c : Compositor) : Unheard c (l.foldl f c) :=
  foldl_related Unheard.refl (fun _ _ _ => Unheard.trans) step l c

/-! ### One object -/

theorem unheard_tell {events : List Event} (silent : transportEvents events = []) :
    Unheard c (c.tell events) where
  buffers := rfl
  resources := rfl
  names := rfl
  told := ⟨events, rfl, silent⟩
  surfaces _ := rel_part _ _
  regions _ := rel_part _ _
  views _ := rel_part _ _

/-- Whatever screens and devices are told besides, clients hear nothing of it. -/
theorem Unheard.tell (unheard : Unheard c c') {events : List Event}
    (silent : transportEvents events = []) : Unheard c (c'.tell events) :=
  unheard.trans (unheard_tell silent)

theorem unheard_tellPolicy (event : PolicyEvent) : Unheard c (c.tellPolicy event) :=
  unheard_tell rfl

theorem unheard_modifySurface (k : SurfaceId) {f : Surface → Surface}
    (same : ∀ s, c.surfaces.get? k = some s → (f s).holdings = s.holdings) :
    Unheard c (c.modifySurface k f) where
  buffers := rfl
  resources := rfl
  names := rfl
  told := ⟨[], by simp [modifySurface], rfl⟩
  surfaces x := Table.rel_modify c.surfaces k x (fun _ => rfl) same
  regions _ := rel_part _ _
  views _ := rel_part _ _

theorem unheard_modifyView (v : ViewId) {f : View → View}
    (same : ∀ w, c.views.get? v = some w → (f w).link = w.link) : Unheard c (c.modifyView v f) where
  buffers := rfl
  resources := rfl
  names := rfl
  told := ⟨[], by simp [modifyView], rfl⟩
  surfaces _ := rel_part _ _
  regions _ := rel_part _ _
  views x := Table.rel_modify c.views v x (fun _ => rfl) same

theorem unheard_modifyRegion (r : RegionId) (f : Region → Region) :
    Unheard c (c.modifyRegion r f) where
  buffers := rfl
  resources := rfl
  names := rfl
  told := ⟨[], by simp [modifyRegion], rfl⟩
  surfaces _ := rel_part _ _
  regions x := Table.rel_modify c.regions r x (fun _ => rfl) fun _ _ => rfl
  views _ := rel_part _ _

theorem unheard_modifyOutput (o : OutputId) (f : Output → Output) :
    Unheard c (c.modifyOutput o f) :=
  unheard_of_tables rfl rfl rfl rfl rfl rfl rfl

theorem unheard_scheduleView (v : ViewId) : Unheard c (c.scheduleView v) := by
  unfold scheduleView
  split
  · exact unheard_modifyOutput _ _
  · exact .refl c

theorem unheard_scheduleSurface (k : SurfaceId) : Unheard c (c.scheduleSurface k) := by
  unfold scheduleSurface
  split
  · exact unheard_modifyOutput _ _
  · exact .refl c

theorem unheard_acquireSurface (k : SurfaceId) : Unheard c (c.acquireSurface k).2 :=
  unheard_modifySurface k fun _ _ => rfl

/-! ### Views -/

theorem unheard_leaveOutput (v : ViewId) (k : SurfaceId) (o : Option OutputId) :
    Unheard c (c.leaveOutput v k o) := by
  unfold leaveOutput
  split
  · exact unheard_modifyOutput _ _
  · exact .refl c

theorem unheard_joinOutput (host : Host) (v : ViewId) (k : SurfaceId) (o : Option OutputId) :
    Unheard c (c.joinOutput host v k o) := by
  unfold joinOutput
  split
  · exact .refl c
  · simp only
    split
    · refine .tell ?_ (by simp)
      exact unheard_of_tables rfl rfl rfl rfl rfl rfl rfl
    · exact unheard_modifyOutput _ _

theorem unheard_setViewOutput (host : Host) (v : ViewId) (o : Option OutputId) :
    Unheard c (c.setViewOutput host v o).2 := by
  unfold setViewOutput
  split
  · exact .refl c
  · split
    · exact .refl c
    · split
      · exact .refl c
      · refine Unheard.trans ?_ (unheard_tellPolicy _)
        have marked : Unheard c (c.modifyView v fun w => { w with output := o }) :=
          unheard_modifyView v fun _ _ => rfl
        exact (marked.trans (unheard_leaveOutput v _ _)).trans (unheard_joinOutput host v _ o)

theorem unheard_setViewState (v : ViewId) (bits : UInt32) (on : Bool) :
    Unheard c (c.setViewState v bits on) := by
  unfold setViewState
  split
  · exact .refl c
  · next w found =>
    have switched : Unheard c (c.modifyView v fun _ => (w.switchState bits on).2) :=
      unheard_modifyView v fun x there => by cases there.symm.trans found; rfl
    simp only
    split
    · exact switched.trans (unheard_scheduleView v)
    · exact switched

theorem unheard_refocus (focused : Option ViewId) : Unheard c { c with focused } :=
  unheard_of_tables rfl rfl rfl rfl rfl rfl rfl

theorem unheard_focusView (target : Option ViewId) : Unheard c (c.focusView target) := by
  have switched (d : Compositor) (v : ViewId) (on : Bool) :
      Unheard d ((d.setViewState v activatedBit on).tellPolicy (.focusChanged v on)) :=
    (unheard_setViewState _ _ _).trans (unheard_tellPolicy _)
  unfold focusView
  simp only
  split
  · exact .refl c
  · refine .trans ?_ (unheard_refocus _)
    split <;> split
    · exact (switched c _ false).trans (switched _ _ true)
    · exact switched c _ true
    · exact switched c _ false
    · exact .refl c

theorem unheard_setViewMask (v : ViewId) (mask : UInt32) : Unheard c (c.setViewMask v mask) := by
  unfold setViewMask
  split
  · exact .refl c
  · split
    · exact .refl c
    · have masked : Unheard c (c.modifyView v fun w => { w with mask }) :=
        unheard_modifyView v fun _ _ => rfl
      exact masked.trans (unheard_scheduleView v)

theorem unheard_setViewGeometry (v : ViewId) (geometry : Placement) :
    Unheard c (c.setViewGeometry v geometry) := by
  unfold setViewGeometry
  split
  · have placed : Unheard c (c.modifyView v fun w => { w with geometry }) :=
      unheard_modifyView v fun _ _ => rfl
    exact placed.trans (unheard_scheduleView v)
  · exact .refl c

theorem unheard_requestGeometry (host : Host) (v : ViewId) (geometry : Placement) :
    Unheard c (c.requestGeometry host v geometry) := by
  unfold requestGeometry
  split
  · simp only
    split
    · exact unheard_tellPolicy _
    · exact (unheard_tellPolicy _).trans (unheard_setViewGeometry v geometry)
  · exact .refl c

theorem unheard_requestState (host : Host) (v : ViewId) (bits : UInt32) (on : Bool) :
    Unheard c (c.requestState host v bits on) := by
  unfold requestState
  split
  · simp only
    split
    · exact unheard_tellPolicy _
    · exact (unheard_tellPolicy _).trans (unheard_setViewState v bits on)
  · exact .refl c

theorem unheard_setViewParent (v : ViewId) (parent : Option ViewId) :
    Unheard c (c.setViewParent v parent).2 := by
  unfold setViewParent
  split
  · exact .refl c
  · split
    · exact unheard_modifyView v fun _ _ => rfl
    · exact .refl c

theorem unheard_setViewText (host : Host) (v : ViewId) (what text : String) {set : View → View}
    (link : ∀ w, (set w).link = w.link) : Unheard c (c.setViewText host v what text set).2 := by
  rcases c.setViewText_eq host v what text set with given | same
  · rw [given]
    exact unheard_modifyView v fun w _ => link w
  · rw [same]
    exact .refl c

theorem unheard_restackView (v : ViewId) (move : Output.Restack) :
    Unheard c (c.restackView v move).2 := by
  unfold restackView
  split
  · exact .refl c
  · split
    · exact unheard_modifyOutput _ _
    · exact .refl c

/-! ### Outputs -/

theorem unheard_discardOutput (o : OutputId) : Unheard c (c.discardOutput o).2 := by
  unfold discardOutput
  split
  · exact .refl c
  · next p _ =>
    have erased : Unheard c
        { c with outputs := c.outputs.erase o, outputOrder := c.outputOrder.filter (· ≠ o) } :=
      unheard_of_tables rfl rfl rfl rfl rfl rfl rfl
    have hidden := erased.trans (unheard_foldl (f := fun c view =>
      c.modifyView view fun v => { v with output := none })
      (fun d view => unheard_modifyView view fun _ _ => rfl) p.creationOrder _)
    simp only
    split
    · exact hidden
    · refine hidden.trans (.tell ?_ (by simp))
      exact unheard_of_tables rfl rfl rfl rfl rfl rfl rfl

theorem unheard_removeOutput (o : OutputId) : Unheard c (c.removeOutput o) := by
  have discarded := unheard_discardOutput (c := c) o
  unfold removeOutput
  split
  next eq =>
    rw [eq] at discarded
    exact discarded.trans (unheard_tellPolicy _)
  next eq =>
    rw [eq] at discarded
    exact discarded

theorem unheard_openRenderer (host : Host) (reported resolution : Size) :
    Unheard c (c.openRenderer host reported resolution).2 := by
  have probed : Unheard c ({ c with contexts := (c.contexts.create host.device reported).2.1 }.tell
      (c.contexts.create host.device reported).2.2) := by
    refine .tell ?_ (by simp)
    exact unheard_of_tables rfl rfl rfl rfl rfl rfl rfl
  unfold openRenderer
  simp only
  split
  · exact probed
  · exact probed.tell (by simp)

theorem unheard_addOutput (host : Host) (name : String) (reported : Size) :
    Unheard c (c.addOutput host name reported).2 := by
  unfold addOutput
  simp only
  generalize (if reported.isProper = true then reported else c.config.output.defaultResolution) =
    resolution
  have opened := unheard_openRenderer (c := c) host reported resolution
  generalize c.openRenderer host reported resolution = opening at *
  obtain ⟨renderer, d⟩ := opening
  have kept : Unheard c { d with
      outputs := d.outputs.insert c.nextIds.output
        { id := c.nextIds.output, name, resolution, renderer }
      outputOrder := d.outputOrder ++ [c.nextIds.output]
      nextIds := { d.nextIds with output := c.nextIds.output.next } } :=
    opened.trans (unheard_of_tables rfl rfl rfl rfl rfl rfl rfl)
  split
  · exact kept.trans (unheard_discardOutput _)
  · split
    · exact (kept.trans (unheard_tellPolicy _)).trans (unheard_modifyOutput _ _)
    · exact (kept.trans (unheard_tellPolicy _)).trans (unheard_discardOutput _)

theorem unheard_setOutputResolution (host : Host) (o : OutputId) (resolution : Size) :
    Unheard c (c.setOutputResolution host o resolution) := by
  unfold setOutputResolution
  split
  · exact .refl c
  · split
    · exact .refl c
    · simp only
      refine .trans (.tell (unheard_modifyOutput o _) ?_) (unheard_tellPolicy _)
      split <;> simp

theorem unheard_setOutputSleep (o : OutputId) (sleeping : Bool) :
    Unheard c (c.setOutputSleep o sleeping) :=
  unheard_modifyOutput o _

theorem unheard_shareDisplay (host : Host) (display : UInt64) :
    Unheard c (c.shareDisplay host display).2 := by
  unfold shareDisplay
  refine foldl_related (R := fun s t => Unheard s.2 t.2) (fun s => .refl s.2)
    (fun _ _ _ => Unheard.trans) (fun s p => ?_) c.outputs.values (0, c)
  obtain ⟨accepted, d⟩ := s
  simp only
  split
  · exact .refl d
  · exact .tell (.refl d) (by simp)

/-! ### Frames -/

theorem unheard_repaintOutput (host : Host) (o : OutputId) (items : List PaintItem) :
    Unheard c (c.repaintOutput host o items).2 := by
  unfold repaintOutput
  split
  · exact .refl c
  · split
    · exact .refl c
    · refine .tell ?_ (by simp)
      exact unheard_of_tables rfl rfl rfl rfl rfl rfl rfl

theorem unheard_importContent (host : Host) (k : SurfaceId) (content : Option Buffer) :
    Unheard c (c.importContent host k content) := by
  unfold importContent
  split
  · exact .refl c
  · split
    · exact .refl c
    · refine .tell ?_ (by simp)
      exact unheard_of_tables rfl rfl rfl rfl rfl rfl rfl

/-! ### Requests -/

theorem unheard_handle (host : Host) {request : Request} (unheard : request.isUnheard = true) :
    Unheard c (c.handle host request).2 := by
  cases request
  all_goals try cases unheard
  all_goals simp only [handle, settle_snd]
  case attach k _ _ | damage k _ | setOpaque k _ | setInput k _ =>
    exact unheard_modifySurface k fun _ _ => rfl
  case scheduleSurface k => exact unheard_scheduleSurface k
  case acquire k => exact unheard_acquireSurface k
  case addToRegion r _ | subtractFromRegion r _ => exact unheard_modifyRegion r _
  case setViewOutput v o => exact unheard_setViewOutput host v o
  case focus target => exact unheard_focusView target
  case setViewGeometry v geometry => exact unheard_setViewGeometry v geometry
  case requestGeometry v geometry => exact unheard_requestGeometry host v geometry
  case setViewState v bits on => exact unheard_setViewState v bits on
  case requestState v bits on => exact unheard_requestState host v bits on
  case setViewType v bits on => exact unheard_modifyView v fun _ _ => rfl
  case setViewMask v mask => exact unheard_setViewMask v mask
  case setViewParent v parent => exact unheard_setViewParent v parent
  case setTitle v _ | setClass v _ | setAppId v _ => exact unheard_setViewText host v _ _ fun _ => rfl
  case restack v move => exact unheard_restackView v move
  case addOutput name reported => exact unheard_addOutput host name reported
  case removeOutput o => exact unheard_removeOutput o
  case setResolution o resolution => exact unheard_setOutputResolution host o resolution
  case setSleep o sleeping => exact unheard_setOutputSleep o sleeping
  case setOutputMask o _ | scheduleOutput o => exact unheard_modifyOutput o _
  case shareDisplay display => exact unheard_shareDisplay host display

end Compositor

end Compositing
