import Compositing.Proofs.Compositor.Silences

/-!
# The policy hears what changes

Every change of the views, of the outputs or of the focus is told to the policy, whichever request
leads to it. Views end in many ways, and outputs begin only if they can be kept; `announced_handle`
says that the notices tell each.
-/

namespace Compositing

/-- What the policy hears and answers, among all that a host is told. -/
def Host.hears (host : Host) (events : List Event) : List Heard :=
  (policyEvents events).map fun event => (event, host.answer event)

theorem Host.hears_append (host : Host) (first second : List Event) :
    host.hears (first ++ second) = host.hears first ++ host.hears second := by
  simp [hears]

namespace Compositor

variable {c c' c'' : Compositor} {host : Host}

/-! ### Changes that are told -/

/-- The policy hears what it has to know of a change, which resizes no output. -/
def Announced (host : Host) (c c' : Compositor) : Prop :=
  ∃ events, c'.log = c.log ++ events ∧ Desk.Notices c.desk (host.hears events) c'.desk ∧
    Desk.Unresized c.desk (host.hears events) c'.desk

theorem Silent.announced (silent : Silent c c') (host : Host) : Announced host c c' := by
  obtain ⟨desk, events, log, nothing⟩ := silent
  have deaf : host.hears events = [] := by simp [Host.hears, nothing]
  refine ⟨events, log, ?_, ?_⟩
  · rw [deaf, desk]
    exact Desk.notices_refl _
  · rw [deaf, desk]
    exact Desk.unresized_refl _

theorem Announced.trans (first : Announced host c c') (second : Announced host c' c'') :
    Announced host c c'' := by
  obtain ⟨events, log, notices, unresized⟩ := first
  obtain ⟨events', log', notices', unresized'⟩ := second
  refine ⟨events ++ events', by rw [log', log, List.append_assoc], ?_, ?_⟩
  · rw [Host.hears_append]
    exact notices.trans notices'
  · rw [Host.hears_append]
    exact unresized.trans unresized' notices

theorem Announced.silent (announced : Announced host c c') (silent : Silent c' c'') :
    Announced host c c'' :=
  announced.trans (silent.announced host)

/-- A change of the desk that some notices tell. -/
theorem announced_heard {heard : List Heard} {d : Desk} (desk : c'.desk = d)
    (told : ∃ events, c'.log = c.log ++ events ∧ host.hears events = heard)
    (notices : Desk.Notices c.desk heard d) (unresized : Desk.Unresized c.desk heard d) :
    Announced host c c' := by
  obtain ⟨events, log, rfl⟩ := told
  exact ⟨events, log, desk ▸ notices, desk ▸ unresized⟩

/-- A change of the desk that one notice tells. -/
theorem announced_hear (event : PolicyEvent) {d : Desk} (desk : c'.desk = d)
    (told : ∃ events, c'.log = c.log ++ events ∧ policyEvents events = [event])
    (notices : Desk.Notices c.desk [(event, host.answer event)] d)
    (unresized : Desk.Unresized c.desk [(event, host.answer event)] d) :
    Announced host c c' := by
  obtain ⟨events, log, only⟩ := told
  exact announced_heard desk ⟨events, log, by simp [Host.hears, only]⟩ notices unresized

/-- After a change that it does not hear of, the policy hears one notice. -/
theorem told_tellPolicy (event : PolicyEvent)
    (nothing : ∃ events, c'.log = c.log ++ events ∧ policyEvents events = []) :
    ∃ events, (c'.tellPolicy event).log = c.log ++ events ∧ policyEvents events = [event] := by
  obtain ⟨events, log, deaf⟩ := nothing
  refine ⟨events ++ [.policy event], ?_, by simp [deaf]⟩
  rw [tellPolicy, tell, log, List.append_assoc]

/-- The policy is asked about something that nothing on the desk depends on. -/
theorem announced_asked (event : PolicyEvent) (roster : ∀ r answer, Roster.hear r (event, answer) = r)
    (passing : event.subject? = none) (unresized : event.resized? = none) :
    Announced host c (c.tellPolicy event) :=
  announced_hear event (d := c.desk) rfl ⟨_, rfl, rfl⟩
    (Desk.notices_passing (roster _ _).symm passing rfl rfl) ⟨by simp [unresized], fun _ _ => .inl⟩

/-! ### Views that end -/

theorem discardView_deaf {v : ViewId} {view : View} (found : c.views.get? v = some view) :
    (c.discardView v).2.desk = { c.desk with
      views := Function.update c.desk.views v none
      focused := if c.focused = some v then none else c.focused } ∧
    ∃ events, (c.discardView v).2.log = c.log ++ events ∧ policyEvents events = [] := by
  have rest : Silent { c with views := c.views.erase v }
      ((({ c with views := c.views.erase v }.destroyResource view.role).leaveOutput v view.surface
        view.output).modifySurface view.surface fun s => { s with view := none }) :=
    ((silent_destroyResource _).trans (silent_leaveOutput v _ _)).trans (silent_modifySurface _ _)
  have views (x : ViewId) : ((c.views.erase v).get? x).map (·.output) =
      Function.update c.desk.views v none x := by
    rw [Table.get?_erase, Function.update_apply]
    split <;> rfl
  rw [discardView_eq found]
  constructor
  · exact (congrArg (fun d : Desk => { d with
      focused := if c.focused = some v then none else c.focused }) rest.desk).trans
      (congrArg (fun views => { c.desk with
        views, focused := if c.focused = some v then none else c.focused }) (funext views))
  · exact rest.told

theorem announced_destroyView (host : Host) (v : ViewId) : Announced host c (c.destroyView v) := by
  cases found : c.views.get? v with
  | none =>
    rw [destroyView_of_absent found]
    exact (Silent.refl c).announced host
  | some view =>
    obtain ⟨desk, nothing⟩ := discardView_deaf found
    have told : c.destroyView v = (c.discardView v).2.tellPolicy (.viewDestroyed v) := by
      simp [destroyView, discardView_eq found]
    rw [told]
    refine announced_hear (.viewDestroyed v) desk (told_tellPolicy _ nothing) ?_
      ⟨rfl, fun _ _ => .inl⟩
    refine Desk.notices_hear rfl (fun x same => ?_) (fun x same => ?_) fun x new =>
      Desk.isNew_of_same (d := c.desk) rfl rfl x ▸ new
    · cases x <;> cases same
    · cases x <;> cases same
      simp [Roster.has, Compositor.desk, found]

theorem announced_freeSurface (host : Host) (k : SurfaceId) :
    Announced host c (c.freeSurface k) := by
  unfold freeSurface
  split
  · exact (Silent.refl c).announced host
  next s _ =>
    have erased : Silent c { c with surfaces := c.surfaces.erase k } :=
      silent_of_parts rfl rfl rfl rfl rfl rfl rfl
    have unlinked := (erased.trans (silent_destroyResource s.resource)).announced host
    have detached (d : Compositor) :
        Silent d { d with outputs := d.outputs.map fun _ o => o.detach k } := by
      refine ⟨?_, [], by simp, rfl⟩
      have resolution (o : OutputId) : ((d.outputs.map fun _ p => p.detach k).get? o).map
          (·.resolution) = (d.outputs.get? o).map (·.resolution) := by
        rw [Table.get?_map, Option.map_map]
        rfl
      exact congrArg (fun resolution => { d.desk with resolution }) (funext resolution)
    refine Announced.silent ?_ (detached _)
    have cancelled (d : Compositor) : Silent d
        (s.allCallbacks.foldl (fun c callback => c.destroyResource (some callback)) d) :=
      silent_foldl (fun _ _ => silent_destroyResource _) _ d
    -- Whether the surface had a view, and whether it showed a buffer.
    split <;> split
    · exact (((unlinked.trans (announced_destroyView host _)).silent (cancelled _))).silent
        (silent_releaseBuffer _)
    · exact (unlinked.silent (cancelled _)).silent (silent_releaseBuffer _)
    · exact (unlinked.trans (announced_destroyView host _)).silent (cancelled _)
    · exact unlinked.silent (cancelled _)

theorem announced_releaseSurface (host : Host) (k : SurfaceId) :
    Announced host c (c.releaseSurface k) := by
  unfold releaseSurface
  split
  · exact (Silent.refl c).announced host
  · simp only
    have released (s : Surface) := (silent_modifySurface (c := c) k fun _ => s).announced host
    split
    · exact (released _).trans (announced_freeSurface host k)
    · exact released _

theorem announced_surfaceResourceGone (host : Host) (k : SurfaceId) :
    Announced host c (c.surfaceResourceGone k) := by
  unfold surfaceResourceGone
  simp only
  split
  · exact (announced_destroyView host _).trans (announced_releaseSurface host k)
  · exact announced_releaseSurface host k

theorem announced_destroySurface (host : Host) (k : SurfaceId) :
    Announced host c (c.destroySurface k) := by
  unfold destroySurface
  split
  · exact (Silent.refl c).announced host
  · refine Announced.trans (Silent.announced ?_ host) (announced_surfaceResourceGone host k)
    exact (silent_modifySurface k _).trans (silent_destroyResource _)

theorem announced_resourceDestroyed (host : Host) (handle : Handle) :
    Announced host c (c.resourceDestroyed handle) := by
  unfold resourceDestroyed
  split
  · exact (Silent.refl c).announced host
  next owner _ =>
    have forgotten : Silent c (c.disown handle) := silent_disown handle
    simp only
    cases owner with
    | surface k =>
      exact ((forgotten.trans (silent_modifySurface k _)).announced host).trans
        (announced_surfaceResourceGone host k)
    | region r =>
      exact (forgotten.trans (silent_of_parts rfl rfl rfl rfl rfl rfl rfl)).announced host
    | callback k => exact (forgotten.trans (silent_modifySurface k _)).announced host
    | view v =>
      refine Announced.trans (Silent.announced (forgotten.trans ?_) host) (announced_destroyView host v)
      exact silent_modifyView v fun _ _ => rfl

/-! ### Views that begin, move and are asked about -/

/-- The tables with a new view, which is on no output. -/
structure WithView (c c' : Compositor) (view : View) : Prop where
  views : c'.views = c.views.insert c.nextIds.view view
  shown : view.output = none
  outputs : c'.outputs = c.outputs
  order : c'.outputOrder = c.outputOrder
  focused : c'.focused = c.focused
  nextIds : c'.nextIds = { c.nextIds with view := c.nextIds.view.next }
  log : c'.log = c.log ++ [.policy (.viewCreated c.nextIds.view)]

theorem WithView.desk {view : View} (entered : WithView c c' view) : c'.desk = { c.desk with
    views := Function.update c.desk.views c.nextIds.view (some none)
    nextView := c.nextIds.view.next } := by
  have views (x : ViewId) : (c'.views.get? x).map (·.output) =
      Function.update c.desk.views c.nextIds.view (some none) x := by
    rw [entered.views, Table.get?_insert, Function.update_apply]
    split
    · exact congrArg some entered.shown
    · rfl
  rw [Compositor.desk, entered.outputs, entered.order, entered.focused, entered.nextIds, funext views,
    Compositor.desk]

theorem Linked.view_absent (linked : c.Linked) : c.views.get? c.nextIds.view = none := by
  cases found : c.views.get? c.nextIds.view with
  | none => rfl
  | some w => exact absurd (linked.view_named _ w found).2 (Nat.lt_irrefl _)

/-- Accepted or not, a new view is told under a name that is used up with that. -/
theorem announced_viewCreated (linked : c.Linked)
    (told : ∃ events, c'.log = c.log ++ events ∧ policyEvents events = [.viewCreated c.nextIds.view])
    (roster : c'.desk.toRoster =
      c.desk.hear (.viewCreated c.nextIds.view, host.acceptView c.nextIds.view))
    (resolution : c'.desk.resolution = c.desk.resolution)
    (nextIds : c'.nextIds = { c.nextIds with view := c.nextIds.view.next }) :
    Announced host c c' := by
  have nextView : c'.desk.nextView = c.desk.nextView.next := by
    simp [Compositor.desk, nextIds]
  have nextOutput : c'.desk.nextOutput = c.desk.nextOutput := by simp [Compositor.desk, nextIds]
  have new := Desk.isNew_nextView nextView nextOutput
  refine announced_hear _ rfl told ?_ ⟨rfl, fun o size now => .inl (resolution ▸ now)⟩
  refine Desk.notices_hear roster (fun x same => ?_) (fun x same => ?_) fun x now => ((new x).1 now).1
  · cases x <;> cases same
    refine ⟨by simp [Desk.isNew, Compositor.desk], ?_, ?_⟩
    · exact Bool.eq_false_iff.2 fun now => ((new _).1 now).2 rfl
    · simp [Roster.has, Compositor.desk, linked.view_absent]
  · cases x <;> cases same

theorem WithView.accepted (view : View) (entered : WithView c c' view) (linked : c.Linked)
    (accepted : host.acceptView c.nextIds.view = true) : Announced host c c' := by
  refine announced_viewCreated linked ⟨_, entered.log, rfl⟩ ?_ ?_ entered.nextIds
  · rw [entered.desk, accepted]
    rfl
  · rw [entered.desk]

theorem WithView.rejected (view : View) (entered : WithView c c' view) (linked : c.Linked)
    (rejected : host.acceptView c.nextIds.view = false) :
    Announced host c (c'.discardView c.nextIds.view).2 := by
  have found : c'.views.get? c.nextIds.view = some view := by
    rw [entered.views, Table.get?_insert, if_pos rfl]
  obtain ⟨desk, events, log, nothing⟩ := discardView_deaf found
  -- Neither the focus nor a view had the name before.
  have absent : c.desk.views c.nextIds.view = none := by simp [Compositor.desk, linked.view_absent]
  have unfocused : c.focused ≠ some c.nextIds.view := fun same => by
    obtain ⟨w, there⟩ := linked.focus_exists _ same
    simp [linked.view_absent] at there
  have views : Function.update (Function.update c.desk.views c.nextIds.view (some none))
      c.nextIds.view none = c.desk.views := by
    rw [Function.update_idem, ← absent, Function.update_eq_self]
  have same : (c'.discardView c.nextIds.view).2.desk =
      { c.desk with nextView := c.nextIds.view.next } := by
    rw [desk, entered.desk, entered.focused, if_neg unfocused, views]
    rfl
  refine announced_viewCreated linked ⟨_, by rw [log, entered.log, List.append_assoc],
    by simp [nothing]⟩ ?_ ?_ ?_
  · rw [same, rejected]
    rfl
  · rw [same]
  · rw [(discardView_found found).2.nextIds, entered.nextIds]

theorem announced_createView (linked : c.Linked) (host : Host) (k : SurfaceId) (role : Handle) :
    Announced host c (c.createView host k role).2 := by
  unfold createView
  split
  · exact (Silent.refl c).announced host
  · split
    · exact (Silent.refl c).announced host
    · simp only
      split
      next accepted =>
        refine WithView.accepted (View.ofRole c.nextIds.view k role) ?_ linked accepted
        exact ⟨rfl, rfl, rfl, rfl, rfl, rfl, rfl⟩
      next rejected =>
        refine WithView.rejected (View.ofRole c.nextIds.view k role) ?_ linked
          (Bool.eq_false_iff.2 rejected)
        exact ⟨rfl, rfl, rfl, rfl, rfl, rfl, rfl⟩

theorem announced_setViewOutput (host : Host) (v : ViewId) (target : Option OutputId) :
    Announced host c (c.setViewOutput host v target).2 := by
  unfold setViewOutput
  split
  · exact (Silent.refl c).announced host
  · split
    · exact (Silent.refl c).announced host
    next view found =>
      split
      · exact (Silent.refl c).announced host
      · simp only
        -- The outputs list other views afterwards, which is not told.
        have joined : Silent (c.modifyView v fun w => { w with output := target })
            (((c.modifyView v fun w => { w with output := target }).leaveOutput v view.surface
              view.output).joinOutput host v view.surface target) :=
          (silent_leaveOutput v _ _).trans (silent_joinOutput host v _ target)
        have views (x : ViewId) : ((c.views.modify v fun w => { w with output := target }).get? x).map
            (·.output) =
            Function.update c.desk.views v ((c.desk.views v).map fun _ => target) x := by
          rw [Table.get?_modify, Function.update_apply]
          split
          next here =>
            subst here
            simp [Compositor.desk, found]
          next => rfl
        have desk := joined.desk.trans (congrArg (fun views => { c.desk with views }) (funext views))
        exact announced_hear (.moved v view.output target) desk
          (told_tellPolicy (c := c) _ joined.told) (Desk.notices_passing rfl rfl rfl rfl)
          ⟨rfl, fun _ _ => .inl⟩

theorem announced_requestGeometry (host : Host) (v : ViewId) (geometry : Placement) :
    Announced host c (c.requestGeometry host v geometry) := by
  have asked : Announced host c (c.tellPolicy (.geometryRequested v geometry)) :=
    announced_asked _ (fun _ _ => rfl) rfl rfl
  unfold requestGeometry
  split
  · simp only
    split
    · exact asked
    · exact asked.silent (silent_setViewGeometry v geometry)
  · exact (Silent.refl c).announced host

theorem announced_requestState (host : Host) (v : ViewId) (bits : UInt32) (on : Bool) :
    Announced host c (c.requestState host v bits on) := by
  have asked : Announced host c (c.tellPolicy (.stateRequested v bits on)) :=
    announced_asked _ (fun _ _ => rfl) rfl rfl
  unfold requestState
  split
  · simp only
    split
    · exact asked
    · exact asked.silent (silent_setViewState v bits on)
  · exact (Silent.refl c).announced host

/-! ### The focus -/

theorem notices_focus (d : Desk) (v : ViewId) (on : Bool) :
    Desk.Notices d [(.focusChanged v on, true)] { d with focused := if on then some v else none } :=
  Desk.notices_passing rfl rfl rfl rfl

/-- The bit of a view's state moves, and the policy hears of the focus. -/
theorem switched_deaf (v : ViewId) (on : Bool) :
    ((c.setViewState v activatedBit on).tellPolicy (.focusChanged v on)).desk = c.desk ∧
    ∃ events, ((c.setViewState v activatedBit on).tellPolicy (.focusChanged v on)).log =
      c.log ++ events ∧ policyEvents events = [.focusChanged v on] := by
  have moved := silent_setViewState (c := c) v activatedBit on
  exact ⟨moved.desk, told_tellPolicy _ moved.told⟩

theorem announced_focusView (host : Host) (target : Option ViewId) :
    Announced host c (c.focusView target) := by
  unfold focusView
  simp only
  generalize target.filter c.views.contains = next
  split
  · exact (Silent.refl c).announced host
  next differs =>
    -- Whether there was a focus, and whether there is one now.
    cases before : c.focused with
    | none =>
      cases next with
      | none => exact absurd before.symm differs
      | some new =>
        obtain ⟨desk, told⟩ := switched_deaf (c := c) new true
        refine announced_hear _ (congrArg (fun d : Desk => { d with focused := some new }) desk) told
          (notices_focus c.desk new true) ⟨rfl, fun _ _ => .inl⟩
    | some old =>
      obtain ⟨desk, told⟩ := switched_deaf (c := c) old false
      cases next with
      | none =>
        exact announced_hear _ (congrArg (fun d : Desk => { d with focused := none }) desk) told
          (notices_focus c.desk old false) ⟨rfl, fun _ _ => .inl⟩
      | some new =>
        simp only
        generalize (c.setViewState old activatedBit false).tellPolicy (.focusChanged old false) = d
          at desk told ⊢
        obtain ⟨desk', events', log', only'⟩ := switched_deaf (c := d) new true
        obtain ⟨events, log, only⟩ := told
        have heard : host.hears (events ++ events') =
            [(.focusChanged old false, true)] ++ [(.focusChanged new true, true)] := by
          simp [Host.hears, only, only', Host.answer]
        refine announced_heard
          (congrArg (fun d : Desk => { d with focused := some new }) (desk'.trans desk))
          ⟨events ++ events', ?_, heard⟩
          ((notices_focus c.desk old false).trans (notices_focus _ new true)) ⟨rfl, fun _ _ => .inl⟩
        rw [← List.append_assoc, ← log]
        exact log'

/-! ### Outputs that begin and end -/

/-- What is left of the tables without an output, before its context is terminated. -/
def withoutOutput (c : Compositor) (o : OutputId) (p : Output) : Compositor :=
  p.creationOrder.foldl (fun c view => c.modifyView view fun v => { v with output := none })
    { c with outputs := c.outputs.erase o, outputOrder := c.outputOrder.filter (· ≠ o) }

theorem withoutOutput_log (o : OutputId) (p : Output) : (c.withoutOutput o p).log = c.log := by
  have hidden (views : List ViewId) (d : Compositor) : (views.foldl
      (fun c view => c.modifyView view fun v => { v with output := none }) d).log = d.log := by
    induction views generalizing d with
    | nil => rfl
    | cons v views ih => exact ih _
  exact hidden _ _

theorem withoutOutput_desk (o : OutputId) (p : Output) : (c.withoutOutput o p).desk = { c.desk with
    views := fun v => (c.desk.views v).map fun shown => if v ∈ p.creationOrder then none else shown
    outputs := c.outputOrder.filter (· ≠ o)
    resolution := Function.update c.desk.resolution o none } := by
  obtain ⟨-, -, -, -, outputs, order, focused, nextIds, views⟩ := foldl_hideView_fields p.creationOrder
    { c with outputs := c.outputs.erase o, outputOrder := c.outputOrder.filter (· ≠ o) }
  have shown (v : ViewId) : ((c.withoutOutput o p).views.get? v).map (·.output) =
      (c.desk.views v).map fun shown => if v ∈ p.creationOrder then none else shown := by
    rw [withoutOutput, views]
    simp only [Compositor.desk, Option.map_map]
    congr 1
    funext w
    simp only [Function.comp_apply]
    split <;> rfl
  have resolution (x : OutputId) : ((c.outputs.erase o).get? x).map (·.resolution) =
      Function.update c.desk.resolution o none x := by
    rw [Table.get?_erase, Function.update_apply]
    split <;> rfl
  rw [Compositor.desk, funext shown, withoutOutput, outputs, order, focused, nextIds, funext resolution]
  rfl

theorem discardOutput_rest {o : OutputId} {p : Output} (found : c.outputs.get? o = some p) :
    (c.discardOutput o).1 = true ∧ Silent (c.withoutOutput o p) (c.discardOutput o).2 := by
  unfold discardOutput withoutOutput
  rw [found]
  simp only
  split
  · exact ⟨rfl, .refl _⟩
  · refine ⟨rfl, .tell ?_ (by simp)⟩
    exact silent_of_parts rfl rfl rfl rfl rfl rfl rfl

theorem announced_removeOutput (linked : c.Linked) (host : Host) (o : OutputId) :
    Announced host c (c.removeOutput o) := by
  cases found : c.outputs.get? o with
  | none =>
    have absent : c.removeOutput o = c := by simp [removeOutput, discardOutput, found]
    rw [absent]
    exact (Silent.refl c).announced host
  | some p =>
    obtain ⟨there, desk, nothing⟩ := discardOutput_rest found
    have told : c.removeOutput o = (c.discardOutput o).2.tellPolicy (.outputDestroyed o) := by
      unfold removeOutput
      split
      next eq => rw [eq]
      next eq => simp [eq] at there
    -- The views that the output shows are those that name it.
    have hidden (v : ViewId) : ((c.desk.views v).map fun shown =>
        if v ∈ p.creationOrder then none else shown) =
        (c.desk.views v).map fun shown => if shown = some o then none else shown := by
      cases viewed : c.views.get? v with
      | none => simp [Compositor.desk, viewed]
      | some w =>
        have shown : v ∈ p.creationOrder ↔ w.output = some o := by
          simp [linked.mem_creation o p found v, viewed]
        simp [Compositor.desk, viewed, shown]
    rw [withoutOutput_desk, funext hidden] at desk
    rw [withoutOutput_log] at nothing
    rw [told]
    refine announced_hear (.outputDestroyed o) desk (told_tellPolicy _ nothing) ?_
      ⟨rfl, fun x size now => ?_⟩
    · refine Desk.notices_hear rfl (fun x same => ?_) (fun x same => ?_) fun x new =>
        Desk.isNew_of_same (d := c.desk) rfl rfl x ▸ new
      · cases x <;> cases same
      · cases x <;> cases same
        simpa [Roster.has, Compositor.desk] using (linked.mem_order o).2 ⟨p, found⟩
    · simp only [Function.update_apply] at now
      split at now
      · cases now
      · exact .inl now

/-- The tables with a new output, which shows no view. -/
structure WithOutput (c c' : Compositor) (p : Output) : Prop where
  views : c'.views = c.views
  outputs : c'.outputs = c.outputs.insert c.nextIds.output p
  shows : p.creationOrder = []
  order : c'.outputOrder = c.outputOrder ++ [c.nextIds.output]
  focused : c'.focused = c.focused
  nextIds : c'.nextIds = { c.nextIds with output := c.nextIds.output.next }

theorem Linked.output_absent (linked : c.Linked) : c.outputs.get? c.nextIds.output = none := by
  cases found : c.outputs.get? c.nextIds.output with
  | none => rfl
  | some p => exact absurd (linked.output_named _ p found).2 (Nat.lt_irrefl _)

theorem Linked.output_unlisted (linked : c.Linked) : c.nextIds.output ∉ c.outputOrder := fun listed => by
  obtain ⟨p, found⟩ := (linked.mem_order _).1 listed
  simp [linked.output_absent] at found

theorem WithOutput.desk {p : Output} (entered : WithOutput c c' p) : c'.desk = { c.desk with
    outputs := c.outputOrder ++ [c.nextIds.output]
    resolution := Function.update c.desk.resolution c.nextIds.output (some p.resolution)
    nextOutput := c.nextIds.output.next } := by
  have resolution (x : OutputId) : (c'.outputs.get? x).map (·.resolution) =
      Function.update c.desk.resolution c.nextIds.output (some p.resolution) x := by
    rw [entered.outputs, Table.get?_insert, Function.update_apply]
    split <;> rfl
  rw [Compositor.desk, entered.views, entered.order, entered.focused, entered.nextIds,
    funext resolution, Compositor.desk]

/-- Of an output that is discarded at once, only the name is used up. -/
theorem WithOutput.discarded {p : Output} (entered : WithOutput c c' p) (linked : c.Linked) :
    (c'.discardOutput c.nextIds.output).2.desk =
      { c.desk with nextOutput := c.nextIds.output.next } ∧
    ∃ events, (c'.discardOutput c.nextIds.output).2.log = c'.log ++ events ∧
      policyEvents events = [] := by
  have found : c'.outputs.get? c.nextIds.output = some p := by
    rw [entered.outputs, Table.get?_insert, if_pos rfl]
  obtain ⟨-, desk, events, log, nothing⟩ := discardOutput_rest found
  rw [withoutOutput_log] at log
  refine ⟨?_, events, log, nothing⟩
  have order : c'.outputOrder.filter (· ≠ c.nextIds.output) = c.outputOrder := by
    rw [entered.order, List.filter_append, List.filter_eq_self.2 fun o member => ?_]
    · simp
    · simpa using ne_of_mem_of_not_mem member linked.output_unlisted
  have absent : c.desk.resolution c.nextIds.output = none := by
    simp [Compositor.desk, linked.output_absent]
  have resolution : Function.update (Function.update c.desk.resolution c.nextIds.output
      (some p.resolution)) c.nextIds.output none = c.desk.resolution := by
    rw [Function.update_idem, ← absent, Function.update_eq_self]
  have views : (fun v => (c.desk.views v).map fun shown => shown) = c.desk.views := by
    funext v
    exact Option.map_id'
  rw [desk, withoutOutput_desk, order, entered.shows]
  simp only [List.not_mem_nil, if_false, entered.desk, resolution, views]
  rfl

/-- Accepted or not, a new output is told under a name that is used up with that. -/
theorem announced_outputCreated (linked : c.Linked)
    (told : ∃ events, c'.log = c.log ++ events ∧
      policyEvents events = [.outputCreated c.nextIds.output])
    (roster : c'.desk.toRoster =
      c.desk.hear (.outputCreated c.nextIds.output, host.acceptOutput c.nextIds.output))
    (kept : ∀ o, o ≠ c.nextIds.output → c'.desk.resolution o = c.desk.resolution o)
    (nextView : c'.desk.nextView = c.desk.nextView)
    (nextOutput : c'.desk.nextOutput = c.desk.nextOutput.next) : Announced host c c' := by
  have new := Desk.isNew_nextOutput nextView nextOutput
  refine announced_hear _ rfl told ?_ ⟨rfl, fun o size now => ?_⟩
  · refine Desk.notices_hear roster (fun x same => ?_) (fun x same => ?_)
      fun x now => ((new x).1 now).1
    · cases x <;> cases same
      refine ⟨by simp [Desk.isNew, Compositor.desk], ?_, ?_⟩
      · exact Bool.eq_false_iff.2 fun now => ((new _).1 now).2 rfl
      · simpa [Roster.has, Compositor.desk] using linked.output_unlisted
    · cases x <;> cases same
  · by_cases here : o = c.nextIds.output
    · exact .inr (by simp [here, Desk.isNew, Compositor.desk])
    · exact .inl (kept o here ▸ now)

/-- The policy does not hear of an output that cannot be kept. -/
theorem WithOutput.unkept {p : Output} (entered : WithOutput c c' p) (linked : c.Linked)
    (nothing : ∃ events, c'.log = c.log ++ events ∧ policyEvents events = []) :
    Announced host c (c'.discardOutput c.nextIds.output).2 := by
  obtain ⟨desk, closing, log', closed⟩ := entered.discarded linked
  obtain ⟨opening, log, opened⟩ := nothing
  refine announced_heard desk ⟨opening ++ closing, by rw [log', log, List.append_assoc],
    by simp [Host.hears, opened, closed]⟩ (Desk.notices_nil rfl fun x new => ?_) ⟨rfl, fun _ _ => .inl⟩
  have nextView : ({ c.desk with nextOutput := c.nextIds.output.next } : Desk).nextView =
    c.desk.nextView := rfl
  exact ((Desk.isNew_nextOutput nextView rfl x).1 new).1

theorem WithOutput.told {p : Output} (entered : WithOutput c c' p) (event : PolicyEvent) :
    WithOutput c (c'.tellPolicy event) p :=
  ⟨entered.views, entered.outputs, entered.shows, entered.order, entered.focused, entered.nextIds⟩

theorem WithOutput.accepted {p : Output} (entered : WithOutput c c' p) (linked : c.Linked)
    (nothing : ∃ events, c'.log = c.log ++ events ∧ policyEvents events = [])
    (accepted : host.acceptOutput c.nextIds.output = true) :
    Announced host c (c'.tellPolicy (.outputCreated c.nextIds.output)) := by
  have desk := (entered.told (.outputCreated c.nextIds.output)).desk
  refine announced_outputCreated linked (told_tellPolicy _ nothing) ?_ ?_ ?_ ?_
  · rw [desk, accepted]
    rfl
  · intro o other
    rw [desk]
    exact Function.update_of_ne other _ _
  · rw [desk]
  · rw [desk]
    rfl

theorem WithOutput.rejected {p : Output} (entered : WithOutput c c' p) (linked : c.Linked)
    (nothing : ∃ events, c'.log = c.log ++ events ∧ policyEvents events = [])
    (rejected : host.acceptOutput c.nextIds.output = false) : Announced host c
      ((c'.tellPolicy (.outputCreated c.nextIds.output)).discardOutput c.nextIds.output).2 := by
  obtain ⟨desk, closing, log', closed⟩ :=
    (entered.told (.outputCreated c.nextIds.output)).discarded linked
  obtain ⟨events, log, only⟩ := told_tellPolicy (.outputCreated c.nextIds.output) nothing
  refine announced_outputCreated linked
    ⟨events ++ closing, by rw [log', log, List.append_assoc], by simp [only, closed]⟩ ?_ ?_ ?_ ?_
  · rw [desk, rejected]
    rfl
  · intro o _
    rw [desk]
  · rw [desk]
  · rw [desk]
    rfl

theorem announced_addOutput (linked : c.Linked) (host : Host) (name : String) (reported : Size) :
    Announced host c (c.addOutput host name reported).2 := by
  unfold addOutput
  simp only
  generalize (if reported.isProper = true then reported else c.config.output.defaultResolution) =
    resolution
  have nothing := (silent_openRenderer (c := c) host reported resolution).told
  obtain ⟨-, -, -, views, outputs, order, focused, nextIds⟩ :=
    c.openRenderer_fields host reported resolution
  generalize c.openRenderer host reported resolution = opened at *
  obtain ⟨renderer, d⟩ := opened
  simp only at *
  have entered : WithOutput c { d with
      outputs := d.outputs.insert c.nextIds.output
        { id := c.nextIds.output, name, resolution, renderer }
      outputOrder := d.outputOrder ++ [c.nextIds.output]
      nextIds := { d.nextIds with output := c.nextIds.output.next } }
      { id := c.nextIds.output, name, resolution, renderer } :=
    ⟨views, by rw [outputs], rfl, by rw [order], focused, by rw [nextIds]⟩
  split
  · exact entered.unkept linked nothing
  · split
    next accepted =>
      exact (entered.accepted linked nothing accepted).silent (silent_scheduleOutput _)
    next rejected => exact entered.rejected linked nothing (Bool.eq_false_iff.2 rejected)

/-! ### Every request -/

/-- The policy hears of everything but a change of a resolution, as for that see
`setOutputResolution_heard`. -/
theorem announced_handle (reached : c.Reachable) (host : Host) (request : Request)
    (other : ∀ o size, request ≠ .setResolution o size) :
    Announced host c (c.handle host request).2 := by
  cases request <;> simp only [handle, settle_snd]
  case createSurface client id => exact (silent_createSurface host client id).announced host
  case attach k _ _ | damage k _ | setOpaque k _ | setInput k _ =>
    exact (silent_modifySurface k _).announced host
  case frame k callback => exact (silent_requestFrame host k callback).announced host
  case commit k => exact (silent_commitSurface host k).announced host
  case scheduleSurface k => exact (silent_scheduleSurface k).announced host
  case acquire k => exact (silent_modifySurface k _).announced host
  case release k => exact announced_releaseSurface host k
  case destroySurface k => exact announced_destroySurface host k
  case resourceDestroyed handle => exact announced_resourceDestroyed host handle
  case pool request =>
    exact (silent_of_parts rfl rfl rfl rfl rfl rfl rfl : Silent c { c with buffers := _ }).announced host
  case destroyBuffer b => exact (silent_destroyBuffer b).announced host
  case renderComplete b => exact (silent_renderComplete b).announced host
  case createRegion client id => exact (silent_createRegion host client id).announced host
  case addToRegion r _ | subtractFromRegion r _ => exact (silent_modifyRegion r _).announced host
  case destroyRegion r => exact (silent_destroyRegion r).announced host
  case createView k role => exact announced_createView reached.linked host k role
  case destroyView v => exact announced_destroyView host v
  case setViewOutput v target => exact announced_setViewOutput host v target
  case focus target => exact announced_focusView host target
  case setViewGeometry v geometry => exact (silent_setViewGeometry v geometry).announced host
  case requestGeometry v geometry => exact announced_requestGeometry host v geometry
  case setViewState v bits on => exact (silent_setViewState v bits on).announced host
  case requestState v bits on => exact announced_requestState host v bits on
  case setViewType v bits on =>
    refine Silent.announced ?_ host
    exact silent_modifyView v fun _ _ => rfl
  case setViewMask v mask => exact (silent_setViewMask v mask).announced host
  case setViewParent v parent => exact (silent_setViewParent v parent).announced host
  case setTitle v _ | setClass v _ | setAppId v _ =>
    refine Silent.announced ?_ host
    exact silent_setViewText host v _ _ fun _ => rfl
  case restack v move => exact (silent_restackView reached.linked v move).announced host
  case addOutput name reported => exact announced_addOutput reached.linked host name reported
  case removeOutput o => exact announced_removeOutput reached.linked host o
  case setResolution o size => exact absurd rfl (other o size)
  case setSleep o sleeping => exact (silent_setOutputSleep o sleeping).announced host
  case setOutputMask o mask => exact (silent_setOutputMask o mask).announced host
  case scheduleOutput o => exact (silent_scheduleOutput o).announced host
  case shareDisplay display => exact (silent_shareDisplay host display).announced host
  case render time => exact (reached.silent_render host time).announced host

end Compositor

end Compositing
