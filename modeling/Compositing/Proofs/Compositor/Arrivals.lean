import Compositing.Proofs.Compositor.Teardown

/-!
# How objects arrive

New surfaces, views and outputs, and views that come to another output. What the policy rejects goes
again at once.
-/

namespace Compositing.Compositor

variable {c c' : Compositor}

/-! ### Surfaces -/

theorem minors_createSurface (host : Host) (client : ClientId) (id : UInt32) :
    Minors c (c.createSurface host client id).2 := by
  have made := quiet_createResource (c := c) host .surface client id "surface"
  unfold createSurface
  split
  next eq => simpa [eq] using made.minors
  next handle c₁ eq =>
    simp only [eq] at made
    have owned := made.trans (quiet_own handle (.surface c₁.nextIds.surface))
    refine Relation.ReflTransGen.tail owned.minors (.surfaceAdded ?_)
    constructor
    case toLater =>
      refine ⟨rfl, .refl _, fun held k s there => ?_, Nat.le_succ _, Nat.le_refl _, Nat.le_refl _,
        Nat.le_refl _⟩
      simp only [Table.get?_insert] at there
      split at there
      · cases there
        exact Nat.zero_lt_one
      · exact held k s there
    case fresh => exact Nat.lt_succ_self _
    case new =>
      exact ⟨Surface.ofHandle c₁.nextIds.surface handle, by simp [Table.get?_insert], rfl⟩
    case surfaces =>
      intro k other
      simp only [own_fields] at other
      simp only [Table.get?_insert, own_fields, if_neg other]
      exact rel_part _ _
    case views => exact .of_eq rfl
    case outputs => rfl
    case order => rfl
    case focused => rfl

/-! ### Views -/

theorem minors_createView (host : Host) (k : SurfaceId) (role : Handle) :
    Minors c (c.createView host k role).2 := by
  unfold createView
  split
  next => exact .refl
  next s found =>
    split
    next => exact .refl
    next free =>
      have bare : s.view = none := by simpa using free
      have added : ViewAdded c
          { c.modifySurface k (fun s => { s with view := some c.nextIds.view }) with
            views := c.views.insert c.nextIds.view (View.ofRole c.nextIds.view k role)
            nextIds := { c.nextIds with view := c.nextIds.view.next } } k s := by
        constructor
        case toLater =>
          refine ⟨rfl, .refl _, fun held x t there => ?_, Nat.le_refl _, Nat.le_succ _, Nat.le_refl _,
            Nat.le_refl _⟩
          simp only [modifySurface_fields, Table.get?_modify] at there
          split at there
          · obtain ⟨t', before, rfl⟩ := Option.map_eq_some_iff.1 there
            exact held x t' before
          · exact held x t there
        case found => exact found
        case bare => exact bare
        case fresh => exact Nat.lt_succ_self _
        case surfaces =>
          intro x
          simp only [modifySurface_fields, Table.get?_modify]
          split
          · exact rel_map fun _ _ => rfl
          · exact rel_part _ _
        case new => exact ⟨View.ofRole c.nextIds.view k role, by simp [Table.get?_insert], rfl⟩
        case views =>
          intro v other
          simp only [Table.get?_insert, if_neg other]
          exact rel_part _ _
        case outputs => rfl
        case order => rfl
        case focused => rfl
      -- The policy hears of the view before it decides.
      have named := Minors.quiet (.single (.viewAdded k s added))
        ((quiet_own role (.view c.nextIds.view)).trans
          (quiet_tellPolicy (.viewCreated c.nextIds.view)))
      simp only
      split
      · exact named
      · exact named.trans (minors_discardView _)

/-- The tables after a view joined an output. -/
structure WithJoined (c c' : Compositor) (v : ViewId) (k : SurfaceId) (o : OutputId) (p' : Output) :
    Prop where
  config : c'.config = c.config
  buffers : c'.buffers = c.buffers
  surfaces : c'.surfaces = c.surfaces
  views : c'.views = c.views
  outputs : c'.outputs = c.outputs.modify o fun _ => p'
  order : c'.outputOrder = c.outputOrder
  focused : c'.focused = c.focused
  nextSurface : c'.nextIds.surface = c.nextIds.surface
  nextView : c'.nextIds.view = c.nextIds.view
  nextOutput : c'.nextIds.output = c.nextIds.output
  nextImage : c.nextIds.image.number ≤ c'.nextIds.image.number

theorem joinOutput_found (host : Host) (v : ViewId) (k : SurfaceId) {o : OutputId} {p : Output}
    (found : c.outputs.get? o = some p) :
    ∃ p', WithJoined c (c.joinOutput host v k (some o)) v k o p' ∧ p'.id = p.id ∧
      p'.creationOrder = (p.addView v).creationOrder ∧ p'.paintOrder = (p.addView v).paintOrder ∧
      p'.pendingRender = true ∧
      let content := ((c.surfaces.get? k).bind (·.buffer)).bind c.buffers.get?
      (p'.renderer = p.renderer ∧ (p.renderer = none ∨ content = none) ∨
        (p.Sound c.nextIds.image → p'.Sound (c.joinOutput host v k (some o)).nextIds.image ∧
          p.Replaced p' k content)) := by
  have kept : (p.addView v).renderer = p.renderer ∧ (p.addView v).id = p.id := by
    unfold Output.addView
    split <;> exact ⟨rfl, rfl⟩
  simp only [joinOutput, Option.bind_some, found, Option.map_some]
  split
  -- Only a renderer with a buffer at hand imports something.
  next r b renderer shown =>
    refine ⟨_, ⟨rfl, rfl, rfl, rfl, rfl, rfl, rfl, rfl, rfl, rfl, Renderer.nextImage_attach _ _ _⟩,
      kept.2, rfl, rfl, rfl, .inr fun sound => ?_⟩
    rw [shown, Option.bind_some]
    exact Output.replaced_attach (kept.1.symm.trans renderer) rfl sound
  next idle =>
    refine ⟨_, ⟨rfl, rfl, rfl, rfl, rfl, rfl, rfl, rfl, rfl, rfl, Nat.le_refl _⟩, kept.2, rfl, rfl, rfl,
      .inl ⟨kept.1, ?_⟩⟩
    cases renderer : p.renderer with
    | none => exact .inl rfl
    | some r =>
      right
      cases shown : (c.surfaces.get? k).bind (·.buffer) with
      | none => rfl
      | some b => exact absurd shown (idle r b (kept.1.trans renderer))

/-- The tables between leaving an output and joining another. -/
structure WithLeft (c d : Compositor) (v : ViewId) (view : View) (target : Option OutputId) :
    Prop where
  config : d.config = c.config
  buffers : d.buffers = c.buffers
  surfaces : d.surfaces = c.surfaces
  views : ∀ w, Option.Rel (fun x x' =>
    x'.look = if w = v then { x with output := target }.look else x.look)
    (c.views.get? w) (d.views.get? w)
  outputs : ∀ x, Option.Rel (fun p p' =>
    if view.output = some x then p' = ((p.removeView v).detach view.surface).schedule else p' = p)
    (c.outputs.get? x) (d.outputs.get? x)
  order : d.outputOrder = c.outputOrder
  focused : d.focused = c.focused
  nextIds : d.nextIds = c.nextIds

theorem leaveOutput_left (c : Compositor) (v : ViewId) (view : View) (target : Option OutputId) :
    WithLeft c ((c.modifyView v fun w => { w with output := target }).leaveOutput v view.surface
      view.output) v view target where
  config := by simp
  buffers := by simp
  surfaces := by simp
  views w := by
    simp only [leaveOutput_fields, modifyView_fields, Table.get?_modify]
    split
    · exact rel_map fun _ _ => rfl
    · exact rel_part _ _
  outputs x := by
    simp only [leaveOutput_fields, modifyView_fields, Table.get?_modifyAt]
    split
    · exact rel_map fun _ _ => rfl
    · exact rel_self _
  order := by simp
  focused := by simp
  nextIds := by simp

theorem WithLeft.moved {d : Compositor} {v : ViewId} {view : View} {target : Option OutputId}
    (left : WithLeft c d v view target) (host : Host) (found : c.views.get? v = some view)
    (away : view.output ≠ target) (there : ∀ o, target = some o → ∃ p, c.outputs.get? o = some p) :
    Moved c (d.joinOutput host v view.surface target) v view target := by
  obtain ⟨config, buffers, surfaces, views, outputs, order, focused, nextIds⟩ := left
  cases target with
  | none =>
    have same : d.joinOutput host v view.surface none = d := rfl
    rw [same]
    refine ⟨later_of_nextIds config (buffers ▸ .refl _) nextIds (Held.same surfaces), found, away,
      there, .of_eq surfaces, views, ?_, order, focused⟩
    intro x
    simpa using outputs x
  | some o =>
    obtain ⟨p, shown⟩ := there o rfl
    -- The output that is joined was not the one left, so nothing changed on it yet.
    have shown' : d.outputs.get? o = some p := by
      obtain ⟨p', shown', same⟩ := found_of_rel_left (outputs o) shown
      rw [if_neg away] at same
      exact same ▸ shown'
    obtain ⟨p', joined, named, creation, paint, pending, renderer⟩ :=
      joinOutput_found host v view.surface shown'
    generalize d.joinOutput host v view.surface (some o) = c' at joined renderer
    refine ⟨⟨joined.config.trans config, ?_, ?_, ?_, ?_, ?_, ?_⟩, found, away, there,
      .of_eq (joined.surfaces.trans surfaces), fun w => ?_, fun x => ?_, joined.order.trans order,
      joined.focused.trans focused⟩
    · rw [joined.buffers, buffers]
      exact .refl _
    · exact Held.same (joined.surfaces.trans surfaces)
    · simp [joined.nextSurface, nextIds]
    · simp [joined.nextView, nextIds]
    · simp [joined.nextOutput, nextIds]
    · exact nextIds ▸ joined.nextImage
    · exact joined.views ▸ views w
    · rw [joined.outputs, Table.get?_modify]
      by_cases here : x = o
      · subst here
        rw [if_pos rfl, shown', shown]
        apply Option.Rel.some
        rw [if_neg away, if_pos rfl]
        exact ⟨named, creation, paint, pending, by simpa [surfaces, buffers, nextIds] using renderer⟩
      · have elsewhere : ¬ some o = some x := fun same => here (Option.some.inj same).symm
        simpa [elsewhere, here] using outputs x

/-- A view that is told to go to another output, or off all outputs, goes there. -/
theorem setViewOutput_moved (host : Host) {v : ViewId} {view : View} {target : Option OutputId}
    (found : c.views.get? v = some view) (away : view.output ≠ target)
    (there : ∀ o, target = some o → ∃ p, c.outputs.get? o = some p) :
    (c.setViewOutput host v target).1 = true ∧ ∃ d, Moved c d v view target ∧
      Quiet d (c.setViewOutput host v target).2 := by
  have known : target.any (fun o => !c.outputs.contains o) = false := by
    cases target with
    | none => rfl
    | some o => simpa using (c.outputs.contains_iff o).2 (there o rfl)
  have moved := (c.leaveOutput_left v view target).moved host found away there
  simp only [setViewOutput, known, found, if_neg away]
  exact ⟨rfl, _, moved, quiet_tellPolicy _⟩

/-- A view moves, and the policy is told, unless it stays where it is. -/
theorem setViewOutput_cases (host : Host) (v : ViewId) (target : Option OutputId) :
    (c.setViewOutput host v target).2 = c ∨ ∃ c₁ view, Moved c c₁ v view target ∧
      Quiet c₁ (c.setViewOutput host v target).2 := by
  by_cases known : target.any (fun o => !c.outputs.contains o) = true
  · exact .inl (by simp [setViewOutput, known])
  · cases found : c.views.get? v with
    | none => exact .inl (by simp [setViewOutput, known, found])
    | some view =>
      by_cases away : view.output = target
      · exact .inl (by simp [setViewOutput, known, found, away])
      · have there (o) (same : target = some o) : ∃ p, c.outputs.get? o = some p :=
          (c.outputs.contains_iff o).1 (by simpa [same] using known)
        obtain ⟨-, d, moved, quiet⟩ := setViewOutput_moved host found away there
        exact .inr ⟨d, view, moved, quiet⟩

theorem changes_setViewOutput (host : Host) (v : ViewId) (target : Option OutputId) :
    Changes c (c.setViewOutput host v target).2 := by
  obtain same | ⟨c₁, view, moved, quiet⟩ := c.setViewOutput_cases host v target
  · rw [same]
  · exact Changes.quiet (.single (.moved v view target moved)) quiet

/-! ### Outputs -/

theorem openRenderer_fields (c : Compositor) (host : Host) (reported resolution : Size) :
    (c.openRenderer host reported resolution).2.config = c.config ∧
    (c.openRenderer host reported resolution).2.buffers = c.buffers ∧
    (c.openRenderer host reported resolution).2.surfaces = c.surfaces ∧
    (c.openRenderer host reported resolution).2.views = c.views ∧
    (c.openRenderer host reported resolution).2.outputs = c.outputs ∧
    (c.openRenderer host reported resolution).2.outputOrder = c.outputOrder ∧
    (c.openRenderer host reported resolution).2.focused = c.focused ∧
    (c.openRenderer host reported resolution).2.nextIds = c.nextIds := by
  simp only [openRenderer]
  split <;> simp

/-- A new renderer has no pictures, and every screen gets its frames. -/
theorem openRenderer_sound (c : Compositor) (host : Host) (reported resolution : Size) {r : Renderer}
    (opened : (c.openRenderer host reported resolution).1 = some r) :
    (∀ next, r.Sound next) ∧ (∀ k, r.picture? k = none) ∧ ∀ d, r.display? = some d → d.2 = false := by
  simp only [openRenderer] at opened
  split at opened
  next => simp at opened
  next handle made =>
    cases opened
    -- The context was made by a probe, so a canvas in it is live and has no images.
    have new : handle.degraded = false ∧ Renderer.Unused handle.context := by
      simp only [Contexts.create] at made
      split at made
      next found =>
        cases made
        exact ⟨rfl, Renderer.probe_unused (congrArg Prod.fst found)⟩
      next => simp at made
    refine ⟨fun next => Renderer.resize_sound (new.2.sound next) _ _, fun k => ?_,
      fun d there => ?_⟩
    · rw [Renderer.picture?_resize]
      simp [Renderer.picture?]
    · have degraded := Renderer.degraded_resize (r := { handle }) host.device resolution
      rw [there, Option.map_some] at degraded
      obtain ⟨d', before, same⟩ := Option.map_eq_some_iff.1 degraded.symm
      obtain ⟨s, _, rfl⟩ := Option.map_eq_some_iff.1 before
      exact same ▸ new.1

/-- A new output that is not kept leaves nothing behind but its name. -/
theorem discardOutput_new (linked : c.Linked) {p : Output} (creation : p.creationOrder = [])
    (config : c'.config = c.config) (buffers : c'.buffers = c.buffers)
    (surfaces : c'.surfaces = c.surfaces) (views : c'.views = c.views)
    (outputs : c'.outputs = c.outputs.insert c.nextIds.output p)
    (order : c'.outputOrder = c.outputOrder ++ [c.nextIds.output]) (focused : c'.focused = c.focused)
    (nextIds : c'.nextIds = { c.nextIds with output := c.nextIds.output.next }) :
    Quiet c (c'.discardOutput c.nextIds.output).2 := by
  have fresh := linked.output_fresh
  have absent : c.nextIds.output ∉ c.outputOrder := by simp [linked.mem_order, fresh]
  have found : c'.outputs.get? c.nextIds.output = some p := by simp [outputs, Table.get?_insert]
  -- With or without a context to terminate, the tables are the same.
  have tables (d : Compositor) (h1 : d.config = c'.config) (h2 : d.buffers = c'.buffers)
      (h3 : d.surfaces = c'.surfaces) (h4 : d.views = c'.views)
      (h5 : d.outputs = c'.outputs.erase c.nextIds.output)
      (h6 : d.outputOrder = c'.outputOrder.filter (· ≠ c.nextIds.output))
      (h7 : d.focused = c'.focused) (h8 : d.nextIds = c'.nextIds) : Quiet c d := by
    constructor
    case toLater =>
      refine ⟨h1.trans config, ?_, Held.same (h3.trans surfaces), ?_, ?_, ?_, ?_⟩
      · rw [h2, buffers]
        exact .refl _
      all_goals simp [h8, nextIds, OutputId.next]
    case surfaces => exact .of_eq (h3.trans surfaces)
    case views => exact .of_eq (h4.trans views)
    case outputs =>
      intro o
      rw [h5, Table.get?_erase, outputs, Table.get?_insert]
      split
      next new => rw [new, fresh]; exact .none
      next => exact rel_refl Output.Steady.refl _
    case order =>
      have kept : c.outputOrder.filter (· ≠ c.nextIds.output) = c.outputOrder :=
        List.filter_eq_self.2 fun o member => by
          simpa using fun same : o = c.nextIds.output => absent (same ▸ member)
      rw [h6, order, List.filter_append, kept]
      simp
    case focused => exact fun v there => .inl ((h7.trans focused) ▸ there)
  unfold discardOutput
  simp only [found, creation, List.foldl_nil]
  split
  · exact tables _ rfl rfl rfl rfl rfl rfl rfl rfl
  · exact tables _ rfl rfl rfl rfl rfl rfl rfl rfl

/-- A new output that the policy accepts. -/
theorem outputAdded_new {renderer : Option Renderer} (name : String) (resolution : Size)
    (sound : ∀ r, renderer = some r → (∀ next, r.Sound next) ∧ (∀ k, r.picture? k = none) ∧
      ∀ d, r.display? = some d → d.2 = false)
    (tables : c' = { c with
      outputs :=
        c.outputs.insert c.nextIds.output { id := c.nextIds.output, name, resolution, renderer }
      outputOrder := c.outputOrder ++ [c.nextIds.output]
      nextIds := { c.nextIds with output := c.nextIds.output.next } }) :
    OutputAdded c ((c'.tellPolicy (.outputCreated c.nextIds.output)).scheduleOutput c.nextIds.output)
      { id := c.nextIds.output, name, resolution, renderer, pendingRender := true } where
  config := by simp [tables, scheduleOutput]
  buffers := by simp [tables, scheduleOutput, BufferPool.Later.refl]
  held := Held.same (by simp [tables, scheduleOutput])
  nextSurface := by simp [tables, scheduleOutput]
  nextView := by simp [tables, scheduleOutput]
  nextOutput := by simp [tables, scheduleOutput, OutputId.next]
  nextImage := by simp [tables, scheduleOutput]
  fresh := by simp [tables, scheduleOutput, OutputId.next]
  named := rfl
  creation := rfl
  paint := rfl
  pending := rfl
  sound r there := (sound r there).1 _
  -- Without a renderer there are no pictures at all.
  pictures k := by
    cases renderer with
    | none => rfl
    | some r => exact (sound r rfl).2.1 k
  display d shown := by
    cases renderer with
    | none => simp [Output.display?] at shown
    | some r => exact (sound r rfl).2.2 d shown
  surfaces := .of_eq (by simp [tables, scheduleOutput])
  views := .of_eq (by simp [tables, scheduleOutput])
  outputs o := by
    simp only [scheduleOutput, modifyOutput_fields, tellPolicy_fields, tables, Table.get?_modify,
      Table.get?_insert]
    split <;> rfl
  order := by simp [tables, scheduleOutput]
  focused := by simp [tables, scheduleOutput]

theorem minors_addOutput (linked : c.Linked) (host : Host) (name : String) (reported : Size) :
    Minors c (c.addOutput host name reported).2 := by
  simp only [addOutput]
  generalize (if reported.isProper then reported else c.config.output.defaultResolution) = resolution
  obtain ⟨h1, h2, h3, h4, h5, h6, h7, h8⟩ := c.openRenderer_fields host reported resolution
  have sound := fun r => c.openRenderer_sound host reported resolution (r := r)
  have probed : Quiet c (c.openRenderer host reported resolution).2 :=
    quiet_of_tables h1 (h2 ▸ .refl _) h3 h4 h5 h6 h7 h8
  rw [← h8]
  -- What was opened matters only through its fields and its renderer.
  generalize c.openRenderer host reported resolution = opened at *
  obtain ⟨renderer, d⟩ := opened
  simp only at *
  have linked' := linked.same probed.sameLinks
  split
  next =>
    refine (probed.trans ?_).minors
    exact discardOutput_new linked' rfl rfl rfl rfl rfl rfl rfl rfl rfl
  next =>
    split
    next => exact .tail probed.minors (.outputAdded _ (outputAdded_new name resolution sound rfl))
    next =>
      refine (probed.trans ?_).minors
      exact discardOutput_new linked' rfl rfl rfl rfl rfl rfl rfl rfl rfl

end Compositing.Compositor
