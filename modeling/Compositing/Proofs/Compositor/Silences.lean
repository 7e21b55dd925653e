import Compositing.Proofs.Compositor.Rosters
import Compositing.Proofs.Compositor.Rounds

/-!
# Changes that are not for the policy

Most requests leave alone all that the policy is told about, which is the desk of the compositor. They
are silent: the policy hears nothing, and it misses nothing.
-/

namespace Compositing

namespace Compositor

variable {c c' c'' : Compositor}

/-- What notices to the policy are about. -/
def desk (c : Compositor) : Desk where
  views v := (c.views.get? v).map (·.output)
  outputs := c.outputOrder
  focused := c.focused
  resolution o := (c.outputs.get? o).map (·.resolution)
  nextView := c.nextIds.view
  nextOutput := c.nextIds.output

/-! ### Changes that are not for the policy -/

/-- The policy hears nothing, and there is nothing to hear. -/
structure Silent (c c' : Compositor) : Prop where
  desk : c'.desk = c.desk
  told : ∃ events, c'.log = c.log ++ events ∧ policyEvents events = []

theorem Silent.trans (first : Silent c c') (second : Silent c' c'') : Silent c c'' where
  desk := second.desk.trans first.desk
  told := by
    obtain ⟨events, log, silent⟩ := first.told
    obtain ⟨events', log', silent'⟩ := second.told
    exact ⟨events ++ events', by simp [log, log'], by simp [silent, silent']⟩

/-- The parts that are not for the policy do not matter. -/
theorem silent_of_parts (views : c'.views = c.views) (outputs : c'.outputs = c.outputs)
    (order : c'.outputOrder = c.outputOrder) (focused : c'.focused = c.focused)
    (nextView : c'.nextIds.view = c.nextIds.view) (nextOutput : c'.nextIds.output = c.nextIds.output)
    (log : c'.log = c.log) : Silent c c' where
  desk := by rw [Compositor.desk, views, outputs, order, focused, nextView, nextOutput, Compositor.desk]
  told := ⟨[], by simp [log], rfl⟩

theorem Silent.refl (c : Compositor) : Silent c c := silent_of_parts rfl rfl rfl rfl rfl rfl rfl

theorem silent_foldl {α : Type} {f : Compositor → α → Compositor} (step : ∀ c a, Silent c (f c a))
    (l : List α) (c : Compositor) : Silent c (l.foldl f c) :=
  foldl_related Silent.refl (fun _ _ _ => Silent.trans) step l c

theorem Silent.tell (silent : Silent c c') {events : List Event} (nothing : policyEvents events = []) :
    Silent c (c'.tell events) :=
  silent.trans ⟨rfl, events, rfl, nothing⟩

/-- The names that are drawn for images are not told. -/
theorem silent_imaged (image : ImageId) :
    Silent c { c with nextIds := { c.nextIds with image } } :=
  silent_of_parts rfl rfl rfl rfl rfl rfl rfl

theorem silent_tellTransport (event : TransportEvent) : Silent c (c.tellTransport event) :=
  .tell (.refl c) rfl

theorem silent_createResource (host : Host) (kind : ResourceKind) (client : ClientId) (id : UInt32)
    (what : String) : Silent c (c.createResource host kind client id what).2 := by
  unfold createResource
  split <;> exact silent_tellTransport _

theorem silent_own (handle : Handle) (owner : Owner) : Silent c (c.own handle owner) :=
  silent_of_parts rfl rfl rfl rfl rfl rfl rfl

theorem silent_disown (handle : Handle) : Silent c (c.disown handle) :=
  silent_of_parts rfl rfl rfl rfl rfl rfl rfl

theorem silent_destroyResource (handle : Option Handle) : Silent c (c.destroyResource handle) := by
  cases handle with
  | none => exact .refl c
  | some h => exact (silent_disown h).trans (silent_tellTransport _)

theorem silent_releaseBuffer (b : BufferId) : Silent c (c.releaseBuffer b) := by
  have moved (buffers : BufferPool) : Silent c { c with buffers } :=
    silent_of_parts rfl rfl rfl rfl rfl rfl rfl
  unfold releaseBuffer
  split
  · exact (moved _).trans (silent_tellTransport _)
  · exact moved _
  · exact .refl c

theorem silent_renderComplete (b : BufferId) : Silent c (c.renderComplete b) := by
  have moved (buffers : BufferPool) : Silent c { c with buffers } :=
    silent_of_parts rfl rfl rfl rfl rfl rfl rfl
  unfold renderComplete
  split
  · exact (moved _).trans (silent_tellTransport _)
  · exact moved _
  · exact .refl c

theorem silent_destroyBuffer (b : BufferId) : Silent c (c.destroyBuffer b).2 := by
  unfold destroyBuffer
  split
  · exact silent_of_parts rfl rfl rfl rfl rfl rfl rfl
  · exact .refl c

theorem silent_modifySurface (k : SurfaceId) (f : Surface → Surface) :
    Silent c (c.modifySurface k f) :=
  silent_of_parts rfl rfl rfl rfl rfl rfl rfl

theorem silent_modifyRegion (r : RegionId) (f : Region → Region) : Silent c (c.modifyRegion r f) :=
  silent_of_parts rfl rfl rfl rfl rfl rfl rfl

theorem silent_modifyView (v : ViewId) {f : View → View}
    (same : ∀ w, c.views.get? v = some w → (f w).output = w.output) :
    Silent c (c.modifyView v f) where
  desk := by
    have views (x : ViewId) : ((c.views.modify v f).get? x).map (·.output) =
        (c.views.get? x).map (·.output) :=
      map_of_rel (R := fun w w' => w'.output = w.output)
        (Table.rel_modify c.views v x (fun _ => rfl) same) fun _ _ same => same
    exact congrArg (fun views => { c.desk with views }) (funext views)
  told := ⟨[], by simp [modifyView], rfl⟩

theorem silent_modifyOutput (o : OutputId) {f : Output → Output}
    (same : ∀ p, c.outputs.get? o = some p → (f p).resolution = p.resolution) :
    Silent c (c.modifyOutput o f) where
  desk := by
    have resolution (x : OutputId) : ((c.outputs.modify o f).get? x).map (·.resolution) =
        (c.outputs.get? x).map (·.resolution) :=
      map_of_rel (R := fun p p' => p'.resolution = p.resolution)
        (Table.rel_modify c.outputs o x (fun _ => rfl) same) fun _ _ same => same
    exact congrArg (fun resolution => { c.desk with resolution }) (funext resolution)
  told := ⟨[], by simp [modifyOutput], rfl⟩

theorem silent_scheduleOutput (o : OutputId) : Silent c (c.scheduleOutput o) :=
  silent_modifyOutput o fun _ _ => rfl

theorem silent_scheduleView (v : ViewId) : Silent c (c.scheduleView v) := by
  unfold scheduleView
  split
  · exact silent_scheduleOutput _
  · exact .refl c

theorem silent_scheduleSurface (k : SurfaceId) : Silent c (c.scheduleSurface k) := by
  unfold scheduleSurface
  split
  · exact silent_scheduleOutput _
  · exact .refl c

/-! ### Surfaces and regions -/

theorem silent_createSurface (host : Host) (client : ClientId) (id : UInt32) :
    Silent c (c.createSurface host client id).2 := by
  have asked := silent_createResource (c := c) host .surface client id "surface"
  unfold createSurface
  split
  next eq =>
    rw [eq] at asked
    exact asked
  next handle d eq =>
    rw [eq] at asked
    exact (asked.trans (silent_own handle _)).trans (silent_of_parts rfl rfl rfl rfl rfl rfl rfl)

theorem silent_requestFrame (host : Host) (k : SurfaceId) (callback : UInt32) :
    Silent c (c.requestFrame host k callback).2 := by
  unfold requestFrame
  split
  · exact .refl c
  next s _ =>
    have asked := silent_createResource (c := c) host .callback s.client callback "frame callback"
    split
    next eq =>
      rw [eq] at asked
      exact asked
    next handle d eq =>
      rw [eq] at asked
      exact ((asked.trans (silent_own handle _)).trans (silent_modifySurface k _)).trans
        (silent_destroyResource _)

theorem silent_importContent (host : Host) (k : SurfaceId) (content : Option Buffer) :
    Silent c (c.importContent host k content) := by
  unfold importContent
  split
  · exact .refl c
  next p _ =>
    split
    · exact .refl c
    next r _ =>
      refine .tell (.trans ?_ (silent_imaged _)) (by simp)
      exact silent_modifyOutput p.id fun _ _ => rfl

theorem silent_commitSurface (host : Host) (k : SurfaceId) : Silent c (c.commitSurface host k).2 := by
  unfold commitSurface
  split
  · exact .refl c
  next s _ =>
    simp only
    have imported (attached : Bool) : Silent c (if attached = true then
        (c.modifySurface k fun _ => (s.commit c.buffers).surface).importContent host k
          (s.commit c.buffers).content
        else c.modifySurface k fun _ => (s.commit c.buffers).surface) := by
      split
      · exact (silent_modifySurface k _).trans (silent_importContent host k _)
      · exact silent_modifySurface k _
    refine .trans ?_ (silent_scheduleSurface k)
    split
    · exact (imported _).trans (silent_releaseBuffer _)
    · exact imported _

theorem silent_createRegion (host : Host) (client : ClientId) (id : UInt32) :
    Silent c (c.createRegion host client id).2 := by
  have asked := silent_createResource (c := c) host .region client id "region"
  unfold createRegion
  split
  next eq =>
    rw [eq] at asked
    exact asked
  next handle d eq =>
    rw [eq] at asked
    exact (asked.trans (silent_own handle _)).trans (silent_of_parts rfl rfl rfl rfl rfl rfl rfl)

theorem silent_destroyRegion (r : RegionId) : Silent c (c.destroyRegion r) := by
  unfold destroyRegion
  split
  · exact .refl c
  · refine .trans ?_ (silent_destroyResource _)
    exact silent_of_parts rfl rfl rfl rfl rfl rfl rfl

/-! ### Views -/

theorem silent_leaveOutput (v : ViewId) (k : SurfaceId) (o : Option OutputId) :
    Silent c (c.leaveOutput v k o) := by
  unfold leaveOutput
  split
  · exact silent_modifyOutput _ fun _ _ => rfl
  · exact .refl c

theorem silent_joinOutput (host : Host) (v : ViewId) (k : SurfaceId) (target : Option OutputId) :
    Silent c (c.joinOutput host v k target) := by
  unfold joinOutput
  split
  · exact .refl c
  next o p there =>
    obtain ⟨x, -, there⟩ := Option.bind_eq_some_iff.1 there
    obtain ⟨q, found, same⟩ := Option.map_eq_some_iff.1 there
    cases same
    have added : (p.addView v).resolution = p.resolution := by
      unfold Output.addView
      split <;> rfl
    simp only
    split
    · refine .tell (.trans (silent_modifyOutput o fun p found' => ?_) (silent_imaged _)) (by simp)
      cases found.symm.trans found'
      exact added
    · refine silent_modifyOutput o fun p found' => ?_
      cases found.symm.trans found'
      exact added

theorem silent_setViewState (v : ViewId) (bits : UInt32) (on : Bool) :
    Silent c (c.setViewState v bits on) := by
  unfold setViewState
  split
  · exact .refl c
  next w found =>
    have switched : Silent c (c.modifyView v fun _ => (w.switchState bits on).2) :=
      silent_modifyView v fun x there => by cases there.symm.trans found; rfl
    simp only
    split
    · exact switched.trans (silent_scheduleView v)
    · exact switched

theorem silent_setViewMask (v : ViewId) (mask : UInt32) : Silent c (c.setViewMask v mask) := by
  unfold setViewMask
  split
  · exact .refl c
  · split
    · exact .refl c
    · refine .trans ?_ (silent_scheduleView v)
      exact silent_modifyView v fun _ _ => rfl

theorem silent_setViewGeometry (v : ViewId) (geometry : Placement) :
    Silent c (c.setViewGeometry v geometry) := by
  unfold setViewGeometry
  split
  · refine .trans ?_ (silent_scheduleView v)
    exact silent_modifyView v fun _ _ => rfl
  · exact .refl c

theorem silent_setViewParent (v : ViewId) (parent : Option ViewId) :
    Silent c (c.setViewParent v parent).2 := by
  unfold setViewParent
  split
  · exact .refl c
  · split
    · exact silent_modifyView v fun _ _ => rfl
    · exact .refl c

theorem silent_setViewText (host : Host) (v : ViewId) (what text : String) {set : View → View}
    (output : ∀ w, (set w).output = w.output) :
    Silent c (c.setViewText host v what text set).2 := by
  rcases c.setViewText_eq host v what text set with given | same
  · rw [given]
    exact silent_modifyView v fun w _ => output w
  · rw [same]
    exact .refl c

theorem silent_restackView (linked : c.Linked) (v : ViewId) (move : Output.Restack) :
    Silent c (c.restackView v move).2 := by
  unfold restackView
  split
  · exact .refl c
  next p there =>
    obtain ⟨o, -, found⟩ := Option.bind_eq_some_iff.1 there
    split
    next moved eq =>
      obtain ⟨stack, rfl, -⟩ := restack?_perm eq
      -- The output is changed under its own name, and is what was found there.
      rw [(linked.output_named o p found).1]
      refine silent_modifyOutput o fun q found' => ?_
      cases found.symm.trans found'
      rfl
    next => exact .refl c

/-! ### Outputs -/

theorem silent_setOutputSleep (o : OutputId) (sleeping : Bool) :
    Silent c (c.setOutputSleep o sleeping) :=
  silent_modifyOutput o fun _ _ => by
    simp only
    split <;> rfl

theorem silent_setOutputMask (o : OutputId) (mask : UInt32) : Silent c (c.setOutputMask o mask) :=
  silent_modifyOutput o fun _ _ => rfl

theorem silent_shareDisplay (host : Host) (display : UInt64) :
    Silent c (c.shareDisplay host display).2 := by
  unfold shareDisplay
  refine foldl_related (R := fun s t => Silent s.2 t.2) (fun s => .refl s.2)
    (fun _ _ _ => Silent.trans) (fun s p => ?_) c.outputs.values (0, c)
  obtain ⟨accepted, d⟩ := s
  simp only
  split
  · exact .refl d
  · exact .tell (.refl d) (by simp)

theorem silent_openRenderer (host : Host) (reported resolution : Size) :
    Silent c (c.openRenderer host reported resolution).2 := by
  have probed : Silent c ({ c with contexts := (c.contexts.create host.device reported).2.1 }.tell
      (c.contexts.create host.device reported).2.2) := by
    refine .tell ?_ (by simp)
    exact silent_of_parts rfl rfl rfl rfl rfl rfl rfl
  unfold openRenderer
  simp only
  split
  · exact probed
  · exact probed.tell (by simp)

/-! ### Frames -/

theorem Round.silent {time : UInt32} {os : List OutputId} {ks : List SurfaceId}
    (round : Round c c' time os ks) : Silent c c' where
  desk := by
    have resolution (o : OutputId) : (c'.outputs.get? o).map (·.resolution) =
        (c.outputs.get? o).map (·.resolution) :=
      map_of_rel (round.outputs o) fun p p' same => by
        split at same
        · have kept : p'.blank.resolution = p.attended.blank.resolution :=
            congrArg Output.resolution same
          exact kept
        · rw [same]
    -- A round replaces outputs, and of those a desk has the resolutions only.
    have desk : c'.desk = { c.desk with resolution := c'.desk.resolution } := by
      conv_lhs => rw [desk, round.frame]
      rfl
    rw [desk]
    exact congrArg (fun resolution => { c.desk with resolution }) (funext resolution)
  told := by
    obtain ⟨events, log, nothing, -⟩ := round.told
    exact ⟨events, log, nothing⟩

theorem Reachable.silent_render (reached : c.Reachable) (host : Host) (time : UInt32) :
    Silent c (c.handle host (.render time)).2 :=
  (reached.round host time).2.silent

end Compositor

end Compositing
