import Compositing.Proofs.Compositor.Arrivals
import Compositing.Proofs.Compositor.Passes
import Compositing.Proofs.Compositor.Redraws

/-!
# Every request

Each request leads to a sequence of changes, and rendering to one pass for every output that is due.
So the names that objects keep of each other agree in every state that can be reached.
-/

namespace Compositing

/-- A host that agrees to everything and claims nothing for itself. -/
def Host.willing : Host where
  createResource _ client id := .ok ⟨client, id⟩
  acceptOutput _ := true
  acceptView _ := true
  claimGeometry _ _ := false
  claimState _ _ _ := false
  textShort _ _ := false
  device := .willing
  screen _ := .ok ()

namespace Compositor

variable {c c' : Compositor}

/-- Any request but those that import pictures, and that for a render pass. -/
theorem minors_handle (linked : c.Linked) (host : Host) (request : Request)
    (commits : ∀ k, request ≠ .commit k) (moves : ∀ v target, request ≠ .setViewOutput v target)
    (renders : ∀ time, request ≠ .render time) : Minors c (c.handle host request).2 := by
  cases request <;> simp only [handle, settle_snd]
  case createSurface client id => exact minors_createSurface host client id
  case attach k _ _ | damage k _ | setOpaque k _ | setInput k _ =>
    exact Quiet.minors (quiet_modifySurface_of_keeps k (fun _ => rfl) fun _ => rfl)
  case frame k callback => exact (quiet_requestFrame host k callback).minors
  case commit k => exact absurd rfl (commits k)
  case scheduleSurface k => exact (quiet_scheduleSurface k).minors
  case acquire k => exact (quiet_acquireSurface k).minors
  case release k => exact minors_releaseSurface linked k
  case destroySurface k => exact minors_destroySurface linked k
  case resourceDestroyed handle => exact minors_resourceDestroyed linked handle
  case pool request => exact (quiet_pool request).minors
  case destroyBuffer b => exact (quiet_destroyBuffer b).minors
  case renderComplete b => exact (quiet_renderComplete c b).minors
  case createRegion client id => exact (quiet_createRegion host client id).minors
  case addToRegion region area => exact (quiet_modifyRegion region _).minors
  case subtractFromRegion region area => exact (quiet_modifyRegion region _).minors
  case destroyRegion region => exact (quiet_destroyRegion region).minors
  case createView k role => exact minors_createView host k role
  case destroyView v => exact minors_destroyView v
  case setViewOutput v target => exact absurd rfl (moves v target)
  case focus target => exact (quiet_focusView target).minors
  case setViewGeometry v geometry => exact minors_setViewGeometry v geometry
  case requestGeometry v geometry => exact minors_requestGeometry host v geometry
  case setViewState v bits on => exact (quiet_setViewState v bits on).minors
  case requestState v bits on => exact (quiet_requestState host v bits on).minors
  case setViewType v bits on => exact Quiet.minors (quiet_modifyView v fun _ _ => rfl)
  case setViewMask v mask => exact minors_setViewMask v mask
  case setViewParent v parent => exact (quiet_setViewParent v parent).minors
  case setTitle v text => exact Quiet.minors (quiet_setViewText host v _ text fun _ => rfl)
  case setClass v text => exact Quiet.minors (quiet_setViewText host v _ text fun _ => rfl)
  case setAppId v text => exact Quiet.minors (quiet_setViewText host v _ text fun _ => rfl)
  case restack v move => exact minors_restackView linked v move
  case addOutput name reported => exact minors_addOutput linked host name reported
  case removeOutput o => exact minors_removeOutput linked o
  case setResolution o resolution => exact minors_setOutputResolution host o resolution
  case setSleep o sleeping => exact (quiet_setOutputSleep o sleeping).minors
  case setOutputMask o mask => exact minors_setOutputMask o mask
  case scheduleOutput o => exact (quiet_scheduleOutput o).minors
  case shareDisplay display => exact (quiet_shareDisplay host display).minors
  case render time => exact absurd rfl (renders time)

/-- Any request but that for a render pass. -/
theorem changes_handle (linked : c.Linked) (host : Host) (request : Request)
    (other : ∀ time, request ≠ .render time) : Changes c (c.handle host request).2 := by
  by_cases commits : ∃ k, request = .commit k
  · obtain ⟨k, rfl⟩ := commits
    exact changes_commitSurface linked host k
  · by_cases moves : ∃ v target, request = .setViewOutput v target
    · obtain ⟨v, target, rfl⟩ := moves
      exact changes_setViewOutput host v target
    · exact (minors_handle linked host request (fun k same => commits ⟨k, same⟩)
        (fun v target same => moves ⟨v, target, same⟩) other).changes

/-- Rendering is one pass for every output that is due. -/
theorem handle_render (host : Host) (time : UInt32) :
    (c.handle host (.render time)).2 =
      c.dueOutputs.foldl (fun c id => c.pass host time id) c := by
  change (c.renderOutputs host time).2 = _
  exact foldl_snd (fun _ _ => rfl) c.dueOutputs (0, c)

theorem pass_rendered (held : c.Held) (host : Host) (time : UInt32) (id : OutputId) :
    Rendered c (c.pass host time id) id := by
  rcases c.bare_or_found id with bare | ⟨p, r, found, renderer⟩
  · exact (pass_bare host time bare).1
  · exact (pass_found held host time found renderer).1

/-! ### Reachable states -/

/-- The states that requests lead to, whatever the host answers. The host may collect what it was told
at any time. -/
inductive Reachable : Compositor → Prop
  | start (config : Config) (contexts : Contexts) : Reachable { config, contexts }
  | handle {c : Compositor} (before : Reachable c) (host : Host) (request : Request) :
      Reachable (c.handle host request).2
  | collect {c : Compositor} (before : Reachable c) : Reachable c.collect.2

theorem reachable_ofConfig {config : Config} (accepted : ofConfig config = .ok c) : c.Reachable := by
  simp only [ofConfig, bind, Except.bind, pure, Except.pure] at accepted
  split at accepted
  · simp at accepted
  · split at accepted
    · simp at accepted
    · cases accepted
      exact .start _ _

theorem Reachable.run (reached : c.Reachable) (requests : List (Host × Request)) :
    (c.run requests).Reachable := by
  induction requests generalizing c with
  | nil => exact reached
  | cons request requests ih => exact ih (reached.handle request.1 request.2)

/-- The states that requests lead to which are allowed where they are made. -/
inductive ReachableBy (allowed : Compositor → Host → Request → Prop) : Compositor → Prop
  | start (config : Config) (contexts : Contexts) : ReachableBy allowed { config, contexts }
  | handle {c : Compositor} (before : ReachableBy allowed c) (host : Host) (request : Request)
      (permitted : allowed c host request) : ReachableBy allowed (c.handle host request).2
  | collect {c : Compositor} (before : ReachableBy allowed c) : ReachableBy allowed c.collect.2

section

variable {allowed : Compositor → Host → Request → Prop} {I : Compositor → Prop}

theorem ReachableBy.reachable (reached : c.ReachableBy allowed) : c.Reachable := by
  induction reached with
  | start config contexts => exact .start config contexts
  | handle _ host request _ ih => exact ih.handle host request
  | collect _ ih => exact ih.collect

theorem ReachableBy.run {allowed : Request → Prop}
    (reached : c.ReachableBy fun _ _ request => allowed request) (requests : List (Host × Request))
    (permitted : ∀ x ∈ requests, allowed x.2) :
    (c.run requests).ReachableBy fun _ _ request => allowed request := by
  induction requests generalizing c with
  | nil => exact reached
  | cons x requests ih =>
    obtain ⟨first, later⟩ := List.forall_mem_cons.1 permitted
    exact ih (reached.handle x.1 x.2 first) later

/-- What holds at the start, and is kept by just the requests that are allowed, holds wherever these
lead, and no other request keeps it there. -/
theorem ReachableBy.holds_iff (reached : c.ReachableBy allowed)
    (start : ∀ config contexts, I { config, contexts })
    (handle : ∀ c, c.Reachable → I c → ∀ host request,
      I (c.handle host request).2 ↔ allowed c host request)
    (collect : ∀ c, I c → I c.collect.2) :
    I c ∧ ∀ host request, I (c.handle host request).2 ↔ allowed c host request := by
  have holds : I c := by
    induction reached with
    | start config contexts => exact start config contexts
    | handle before host request permitted ih =>
      exact (handle _ before.reachable ih host request).2 permitted
    | collect _ ih => exact collect _ ih
  exact ⟨holds, handle c reached.reachable holds⟩

end

theorem quiet_collect (c : Compositor) : Quiet c c.collect.2 :=
  quiet_of_tables rfl (.refl _) rfl rfl rfl rfl rfl rfl

theorem Change.later (change : Change c c') : Later c c' := by
  cases change with
  | moved _ _ _ change => exact change.toLater
  | committed _ _ _ _ change => exact change.toLater
  | minor change => cases change with
    | quiet change => exact change.toLater
    | surfaceAdded change => exact change.toLater
    | viewAdded _ _ change => exact change.toLater
    | viewGone _ _ change => exact change.toLater
    | surfaceGone _ _ change => exact change.toLater
    | outputAdded _ change => exact change.toLater
    | outputGone _ change => exact change.toLater
    | placed _ _ _ change => exact change.toLater
    | rearranged _ change => exact change.toLater

/-- What a request keeps, if it is kept by every kind of change and by render passes. -/
theorem handle_keeps {I : Compositor → Prop}
    (change : ∀ c c', c.Linked → I c → Change c c' → I c')
    (rendered : ∀ c c' o, c.Linked → I c → Rendered c c' o → I c')
    (linked : c.Linked) (held : c.Held) (holds : I c) (host : Host) (request : Request) :
    (c.handle host request).2.Linked ∧ (c.handle host request).2.Held ∧
      I (c.handle host request).2 := by
  by_cases pass : ∃ time, request = .render time
  · obtain ⟨time, rfl⟩ := pass
    rw [handle_render]
    generalize c.dueOutputs = due
    -- The induction is on the outputs that are due, for whatever state earlier passes left.
    induction due generalizing c with
    | nil => exact ⟨linked, held, holds⟩
    | cons id due ih =>
      have painted := c.pass_rendered held host time id
      exact ih (linked.rendered painted) (painted.held held) (rendered _ _ id linked holds painted)
  · have changes := changes_handle linked host request fun time same => pass ⟨time, same⟩
    generalize (c.handle host request).2 = c' at changes
    induction changes with
    | refl => exact ⟨linked, held, holds⟩
    | tail _ next ih =>
      obtain ⟨linked, held, holds⟩ := ih
      exact ⟨linked.change next, next.later.held held, change _ _ linked holds next⟩

/-- What holds at the beginning and is kept holds in every reachable state. -/
theorem Reachable.keeps {I : Compositor → Prop}
    (start : ∀ (config : Config) (contexts : Contexts), I { config, contexts })
    (change : ∀ c c', c.Linked → I c → Change c c' → I c')
    (rendered : ∀ c c' o, c.Linked → I c → Rendered c c' o → I c')
    (reached : c.Reachable) : c.Linked ∧ c.Held ∧ I c := by
  induction reached with
  | start config contexts =>
    have empty : ({ config, contexts } : Compositor).Held := by simp [Held]
    exact ⟨start_linked config contexts, empty, start config contexts⟩
  | handle _ host request ih =>
    obtain ⟨linked, held, holds⟩ := ih
    exact handle_keeps change rendered linked held holds host request
  | @collect c _ ih =>
    obtain ⟨linked, held, holds⟩ := ih
    have quiet := quiet_collect c
    have step : Change c c.collect.2 := .minor (.quiet quiet)
    exact ⟨linked.change step, quiet.held held, change _ _ linked holds step⟩

theorem Reachable.linked (reached : c.Reachable) : c.Linked :=
  (reached.keeps (I := fun _ => True) (fun _ _ => trivial) (fun _ _ _ _ _ => trivial)
    fun _ _ _ _ _ _ => trivial).1

theorem Reachable.held (reached : c.Reachable) : c.Held :=
  (reached.keeps (I := fun _ => True) (fun _ _ => trivial) (fun _ _ _ _ _ => trivial)
    fun _ _ _ _ _ _ => trivial).2.1

/-! ### What belongs to what -/

/-- In every reachable state the tables agree on what belongs to what. -/
theorem Reachable.consistent (reached : c.Reachable) :
    c.outputOrder.Nodup ∧
    (∀ o, o ∈ c.outputOrder ↔ ∃ output, c.outputs.get? o = some output) ∧
    (∀ o output, c.outputs.get? o = some output →
      output.creationOrder.Nodup ∧ output.paintOrder.Perm output.creationOrder) ∧
    (∀ o v, (∃ output, c.outputs.get? o = some output ∧ v ∈ output.creationOrder) ↔
      ∃ view, c.views.get? v = some view ∧ view.output = some o) ∧
    (∀ v view, c.views.get? v = some view →
      ∃ s, c.surfaces.get? view.surface = some s ∧ s.view = some v) ∧
    (∀ k s v, c.surfaces.get? k = some s → s.view = some v →
      ∃ view, c.views.get? v = some view ∧ view.surface = k) ∧
    ∀ v, c.focused = some v → ∃ view, c.views.get? v = some view := by
  have linked := reached.linked
  have orders (o output) (found : c.outputs.get? o = some output) :
      output.creationOrder.Nodup ∧ output.paintOrder.Perm output.creationOrder :=
    ⟨linked.creation_nodup o output found, linked.paint_perm o output found⟩
  refine ⟨linked.order_nodup, linked.mem_order, orders, ?_, linked.surface_exists,
    linked.view_exists, linked.focus_exists⟩
  intro o v
  constructor
  · rintro ⟨output, found, member⟩
    exact (linked.mem_creation o output found v).1 member
  · -- The output that a view names exists, and has it in its orders.
    rintro ⟨view, found, shown⟩
    obtain ⟨output, there⟩ := linked.output_exists v view o found shown
    exact ⟨output, there, (linked.mem_creation o output there v).2 ⟨view, found, shown⟩⟩

/-- A surface whose view is focused and shown on an output. -/
def oneView : Compositor :=
  ({ config := {}, contexts := .standard } : Compositor).run <| List.map (Prod.mk .willing)
    [.createSurface ⟨1⟩ 1, .addOutput "screen" ⟨2, 1⟩, .createView ⟨1⟩ ⟨⟨1⟩, 2⟩,
      .setViewOutput ⟨1⟩ (some ⟨1⟩), .focus (some ⟨1⟩)]

theorem oneView_consistent : oneView.focused = some ⟨1⟩ ∧
    ∃ output, oneView.outputs.get? ⟨1⟩ = some output ∧ ⟨1⟩ ∈ output.creationOrder := by
  have reached : oneView.Reachable := (Reachable.start _ _).run _
  obtain ⟨-, -, -, shown, -⟩ := reached.consistent
  exact ⟨rfl, (shown ⟨1⟩ ⟨1⟩).2 ⟨_, rfl, rfl⟩⟩

end Compositor

end Compositing
