import Compositing.Proofs.Compositor.Teardown

/-!
# How outputs come to draw something else

Commits, and changes of where, in what order, in what size and on which outputs views are drawn. Each
of them makes the output due whose frames it changes.
-/

namespace Compositing.Compositor

variable {c c' : Compositor}

/-! ### Commits -/

/-- A commit keeps who the surface is, and shows the content of the buffer attached last. -/
theorem commit_surface (s : Surface) (pool : BufferPool) :
    (s.commit pool).surface.id = s.id ∧ (s.commit pool).surface.view = s.view ∧
    (s.commit pool).surface.refCount = s.refCount ∧
    if (s.commit pool).outcome.attached then
      (s.commit pool).content = (s.commit pool).surface.buffer.bind pool.get? ∧
      (s.commit pool).surface.size = (s.commit pool).content.elim Size.zero (·.size)
    else (s.commit pool).surface.size = s.size ∧ (s.commit pool).surface.buffer = s.buffer := by
  simp only [Surface.commit, Surface.commitRegions, Surface.commitBuffer, Surface.buffer]
  split <;> exact ⟨rfl, rfl, rfl, by simp⟩

/-- The output that shows a surface draws it with the content, if it draws anything. -/
theorem importContent_outputs (linked : c.Linked) (host : Host) (k : SurfaceId)
    (content : Option Buffer) :
    c.nextIds.image.number ≤ (c.importContent host k content).nextIds.image.number ∧
    ∀ o, Option.Rel (fun p p' =>
      if c.outputOfSurface? k = some o then p'.id = p.id ∧ p'.creationOrder = p.creationOrder ∧
        p'.paintOrder = p.paintOrder ∧ (p.Sound c.nextIds.image →
          p'.Sound (c.importContent host k content).nextIds.image ∧ p.Replaced p' k content)
      else p' = p) (c.outputs.get? o) ((c.importContent host k content).outputs.get? o) := by
  -- An output without a renderer draws nothing before and after.
  have idle {p : Output} (none : p.renderer = none) (sound : p.Sound c.nextIds.image) :
      p.Sound c.nextIds.image ∧ p.Replaced p k content :=
    ⟨sound, rfl, fun _ _ => rfl, by simp [Output.picture?, Output.display?, none]⟩
  unfold importContent
  split
  next nowhere =>
    refine ⟨Nat.le_refl _, ?_⟩
    intro o
    cases found : c.outputs.get? o with
    | none => exact .none
    | some p =>
      have elsewhere : c.outputOfSurface? k ≠ some o := fun same => by simp [same, found] at nowhere
      exact .some (by rw [if_neg elsewhere])
  next q shown =>
    obtain ⟨x, there, found⟩ := Option.bind_eq_some_iff.1 shown
    have named := (linked.output_named x q found).1
    split
    next bare =>
      refine ⟨Nat.le_refl _, ?_⟩
      intro o
      apply rel_refl_found
      intro p there'
      split
      next same =>
        obtain rfl : x = o := Option.some.inj (there.symm.trans same)
        cases found.symm.trans there'
        exact ⟨rfl, rfl, rfl, idle bare⟩
      next => rfl
    -- Only the output that shows the surface imports.
    next r renderer =>
      refine ⟨Renderer.nextImage_attach _ _ _, ?_⟩
      intro o
      simp only [tell_fields, modifyOutput_fields, Table.get?_modify, named]
      by_cases here : o = x
      · subst here
        rw [if_pos rfl]
        apply rel_map
        intro p there'
        cases found.symm.trans there'
        rw [if_pos there]
        exact ⟨rfl, rfl, rfl, Output.replaced_attach renderer rfl⟩
      · rw [if_neg here]
        apply rel_refl_found
        intro p _
        rw [if_neg fun same => here (Option.some.inj (same.symm.trans there))]

theorem importContent_fields (c : Compositor) (host : Host) (k : SurfaceId)
    (content : Option Buffer) :
    (c.importContent host k content).config = c.config ∧
    (c.importContent host k content).buffers = c.buffers ∧
    (c.importContent host k content).surfaces = c.surfaces ∧
    (c.importContent host k content).views = c.views ∧
    (c.importContent host k content).outputOrder = c.outputOrder ∧
    (c.importContent host k content).focused = c.focused ∧
    (c.importContent host k content).nextIds.surface = c.nextIds.surface ∧
    (c.importContent host k content).nextIds.view = c.nextIds.view ∧
    (c.importContent host k content).nextIds.output = c.nextIds.output := by
  unfold importContent
  split
  · simp
  · split
    · simp
    · simp

theorem scheduleSurface_fields (c : Compositor) (k : SurfaceId) :
    (c.scheduleSurface k).config = c.config ∧ (c.scheduleSurface k).buffers = c.buffers ∧
    (c.scheduleSurface k).surfaces = c.surfaces ∧ (c.scheduleSurface k).views = c.views ∧
    (c.scheduleSurface k).outputOrder = c.outputOrder ∧ (c.scheduleSurface k).focused = c.focused ∧
    (c.scheduleSurface k).nextIds = c.nextIds ∧
    ∀ o, (c.scheduleSurface k).outputs.get? o = if c.outputOfSurface? k = some o then
      (c.outputs.get? o).map Output.schedule else c.outputs.get? o := by
  unfold scheduleSurface
  split
  next x there => simp [scheduleOutput, there, Table.get?_modify, eq_comm]
  next none => simp [none]

theorem outputOfSurface?_same (surfaces : ∀ k, (c'.surfaces.get? k).bind (·.view) =
    (c.surfaces.get? k).bind (·.view)) (views : c'.views = c.views) (k : SurfaceId) :
    c'.outputOfSurface? k = c.outputOfSurface? k := by
  have shown : c'.outputOf? = c.outputOf? := by
    funext v
    simp only [outputOf?, views]
  simp only [outputOfSurface?, surfaces, shown]

theorem modifySurface_sameLinks {k : SurfaceId} {s s' : Surface} (found : c.surfaces.get? k = some s)
    (links : s'.links = s.links) : SameLinks c (c.modifySurface k fun _ => s') where
  surfaces x := by
    simp only [modifySurface_fields]
    exact Table.rel_modify _ _ _ (fun _ => rfl) fun t there => by
      cases found.symm.trans there
      exact links
  views v := by simpa using rel_part View.links _
  outputs o := by
    simp only [modifySurface_fields]
    exact rel_refl (fun p => ⟨rfl, rfl, .refl _⟩) _
  order := by simp
  focused v there := .inl (by simpa using there)
  nextSurface := by simp
  nextView := by simp
  nextOutput := by simp

/-- The tables after a surface got other content, which was imported where it is shown. -/
structure WithContent (c c' : Compositor) (k : SurfaceId) (s' : Surface) (content : Option Buffer) :
    Prop where
  config : c'.config = c.config
  buffers : c.buffers.Later c'.buffers
  surfaces : c'.surfaces = c.surfaces.modify k fun _ => s'
  views : c'.views = c.views
  outputs : ∀ o, Option.Rel (fun p p' =>
    if c.outputOfSurface? k = some o then Redrawn p p' ∧
      (p.Sound c.nextIds.image → p'.Sound c'.nextIds.image ∧ p.Replaced p' k content)
    else p' = p) (c.outputs.get? o) (c'.outputs.get? o)
  order : c'.outputOrder = c.outputOrder
  focused : c'.focused = c.focused
  nextSurface : c'.nextIds.surface = c.nextIds.surface
  nextView : c'.nextIds.view = c.nextIds.view
  nextOutput : c'.nextIds.output = c.nextIds.output
  nextImage : c.nextIds.image.number ≤ c'.nextIds.image.number

/-- The buffer shown before may be let go of before the output is due. -/
theorem importContent_found (linked : c.Linked) (host : Host) {k : SurfaceId} {s s' : Surface}
    (content : Option Buffer) (found : c.surfaces.get? k = some s) (named : s'.id = s.id)
    (view : s'.view = s.view) (superseded : Option BufferId) :
    let d := (c.modifySurface k fun _ => s').importContent host k content
    WithContent c ((d.letGo superseded).scheduleSurface k) k s' content := by
  -- What is shown where does not depend on the content, so it may be read before the commit.
  have links : s'.links = s.links := by rw [Surface.links, named, view, Surface.links]
  have linked' := linked.same (modifySurface_sameLinks found links)
  have roles (x) : ((c.surfaces.modify k fun _ => s').get? x).bind (·.view) =
      (c.surfaces.get? x).bind (·.view) := by
    rw [Table.get?_modify]
    split
    next here => simp [here, found, view]
    next => rfl
  have shown : (c.modifySurface k fun _ => s').outputOfSurface? k = c.outputOfSurface? k :=
    outputOfSurface?_same (by simpa using roles) (by simp) k
  obtain ⟨le, outputs⟩ := importContent_outputs linked' host k content
  obtain ⟨config₁, buffers₁, surfaces₁, views₁, order₁, focused₁, surface₁, view₁, output₁⟩ :=
    (c.modifySurface k fun _ => s').importContent_fields host k content
  intro d
  change ∀ o, Option.Rel _ _ (d.outputs.get? o) at outputs
  obtain ⟨config₂, buffers₂, surfaces₂, views₂, outputs₂, order₂, focused₂, nextIds₂⟩ :=
    d.letGo_fields superseded
  -- Letting a buffer go touches the pool only.
  generalize d.letGo superseded = e at *
  obtain ⟨config₃, buffers₃, surfaces₃, views₃, order₃, focused₃, nextIds₃, due⟩ :=
    e.scheduleSurface_fields k
  simp only [modifySurface_fields] at config₁ buffers₁ surfaces₁ views₁ order₁ focused₁
  simp only [modifySurface_fields] at surface₁ view₁ output₁ outputs le
  have nextIds : (e.scheduleSurface k).nextIds = d.nextIds := nextIds₃.trans nextIds₂
  have shown' : e.outputOfSurface? k = c.outputOfSurface? k :=
    outputOfSurface?_same (fun x => by rw [surfaces₂, surfaces₁, roles]) (views₂.trans views₁) k
  constructor
  case config => exact config₃.trans (config₂.trans config₁)
  case buffers => exact buffers₃ ▸ buffers₁ ▸ buffers₂
  case surfaces => exact surfaces₃.trans (surfaces₂.trans surfaces₁)
  case views => exact views₃.trans (views₂.trans views₁)
  case order => exact order₃.trans (order₂.trans order₁)
  case focused => exact focused₃.trans (focused₂.trans focused₁)
  case nextSurface => exact nextIds ▸ surface₁
  case nextView => exact nextIds ▸ view₁
  case nextOutput => exact nextIds ▸ output₁
  case nextImage => exact nextIds ▸ le
  case outputs =>
    intro o
    rw [due, outputs₂, shown']
    have imported := outputs o
    rw [shown] at imported
    split
    next here =>
      simp only [here, if_true] at imported ⊢
      apply rel_map_right imported
      intro p p' after
      obtain ⟨named, creation, paint, replaced⟩ := after
      refine ⟨⟨named, creation, paint ▸ .refl _, rfl⟩, ?_⟩
      intro sound
      obtain ⟨sound', h⟩ := replaced sound
      exact ⟨nextIds ▸ sound', h.display, h.others, h.replaced⟩
    next other =>
      simpa only [other, if_false] using imported

theorem WithContent.committed {k : SurfaceId} {s s' : Surface} {content : Option Buffer}
    (change : WithContent c c' k s' content) (found : c.surfaces.get? k = some s)
    (named : s'.id = s.id) (view : s'.view = s.view) (refs : s'.refCount = s.refCount)
    (attached : content = s'.buffer.bind c.buffers.get?)
    (size : s'.size = content.elim Size.zero (·.size)) : Committed c c' k s s' content where
  config := change.config
  buffers := change.buffers
  held held x t there := by
    rw [change.surfaces, Table.get?_modify] at there
    split at there
    next here =>
      simp only [here, found, Option.map_some, Option.some.injEq] at there
      exact there ▸ refs ▸ held k s found
    next => exact held x t there
  nextSurface := by simp [change.nextSurface]
  nextView := by simp [change.nextView]
  nextOutput := by simp [change.nextOutput]
  nextImage := change.nextImage
  found := found
  named := named
  view := view
  size := size
  attached := attached
  surfaces x := by
    rw [change.surfaces, Table.get?_modify]
    split
    · exact rel_map fun _ _ => rfl
    · exact rel_part _ _
  views := .of_eq change.views
  outputs := change.outputs
  order := change.order
  focused := change.focused

/-- A commit replaces what a surface shows if a buffer, or none, was attached. -/
theorem commitSurface_cases (linked : c.Linked) (host : Host) (k : SurfaceId) :
    (Minors c (c.commitSurface host k).2 ∧
      ∀ s, c.surfaces.get? k = some s → s.pending.newlyAttached = false) ∨
    ∃ s s' content, Committed c (c.commitSurface host k).2 k s s' content := by
  unfold commitSurface
  split
  next absent => exact .inl ⟨.refl, fun s there => by simp [absent] at there⟩
  next s found =>
    obtain ⟨named, view, refs, content⟩ := commit_surface s c.buffers
    have attaches : (s.commit c.buffers).outcome.attached = s.pending.newlyAttached := by
      simp only [Surface.commit, Surface.commitBuffer]
      split <;> simp_all
    generalize s.commit c.buffers = commit at *
    split at content
    next attached =>
      simp only [if_pos attached]
      have changed := importContent_found linked host commit.content found named view
        commit.outcome.superseded
      exact .inr ⟨s, _, _, changed.committed found named view refs content.1 content.2⟩
    -- Without an attach, a commit moves only what no frame shows.
    next kept =>
      have same : Quiet c (c.modifySurface k fun _ => commit.surface) := by
        refine quiet_modifySurface k (fun t there => ?_) fun t there held => ?_ <;>
          cases found.symm.trans there
        · simp [Surface.look, named, view, content]
        · exact refs ▸ held
      simp only [if_neg kept]
      have released := same.trans (quiet_letGo commit.outcome.superseded)
      refine .inl ⟨(released.trans (quiet_scheduleSurface k)).minors, fun t there => ?_⟩
      cases found.symm.trans there
      exact attaches ▸ Bool.eq_false_iff.2 kept

theorem changes_commitSurface (linked : c.Linked) (host : Host) (k : SurfaceId) :
    Changes c (c.commitSurface host k).2 := by
  obtain ⟨minors, -⟩ | ⟨s, s', content, committed⟩ := commitSurface_cases linked host k
  · exact minors.changes
  · exact .single (.committed k s s' content committed)

/-! ### Places and masks of views -/

theorem scheduleView_fields (c : Compositor) (v : ViewId) :
    (c.scheduleView v).config = c.config ∧ (c.scheduleView v).buffers = c.buffers ∧
    (c.scheduleView v).surfaces = c.surfaces ∧ (c.scheduleView v).views = c.views ∧
    (c.scheduleView v).outputOrder = c.outputOrder ∧ (c.scheduleView v).focused = c.focused ∧
    (c.scheduleView v).nextIds = c.nextIds ∧
    ∀ o, (c.scheduleView v).outputs.get? o = if c.outputOf? v = some o then
      (c.outputs.get? o).map Output.schedule else c.outputs.get? o := by
  unfold scheduleView
  split
  next x there => simp [scheduleOutput, there, Table.get?_modify, eq_comm]
  next none => simp [none]

theorem placed_modifyView {v : ViewId} {view : View} {f : View → View}
    (found : c.views.get? v = some view) (named : (f view).id = view.id)
    (surface : (f view).surface = view.surface) (output : (f view).output = view.output) :
    Placed c ((c.modifyView v f).scheduleView v) v view (f view) := by
  obtain ⟨h1, h2, h3, h4, h5, h6, h7, due⟩ := (c.modifyView v f).scheduleView_fields v
  simp only [modifyView_fields] at h1 h2 h3 h4 h5 h6 h7 due
  have shown : (c.modifyView v f).outputOf? v = view.output := by
    simp [outputOf?, Table.get?_modify, found, output]
  rw [shown] at due
  refine ⟨later_of_nextIds h1 (h2 ▸ .refl _) h7 (Held.same h3), found, named, surface, output,
    .of_eq h3, fun w => ?_, fun o => ?_, h5, h6⟩
  · rw [h4, Table.get?_modify]
    split
    next here =>
      apply rel_map
      intro x there
      subst here
      cases found.symm.trans there
      rfl
    next => exact rel_part _ _
  · rw [due]
    split
    · exact rel_map fun _ _ => rfl
    · exact rel_self _

theorem minors_setViewGeometry (v : ViewId) (geometry : Placement) :
    Minors c (c.setViewGeometry v geometry) := by
  unfold setViewGeometry
  split
  next there =>
    obtain ⟨view, found⟩ := (c.views.contains_iff v).1 there
    exact .single (.placed v view _ (placed_modifyView found rfl rfl rfl))
  next => exact .refl

theorem minors_requestGeometry (host : Host) (v : ViewId) (geometry : Placement) :
    Minors c (c.requestGeometry host v geometry) := by
  have told := (quiet_tellPolicy (c := c) (.geometryRequested v geometry)).minors
  unfold requestGeometry
  simp only
  split
  · split
    · exact told
    · exact told.trans (minors_setViewGeometry v geometry)
  · exact .refl

theorem minors_setViewMask (v : ViewId) (mask : UInt32) : Minors c (c.setViewMask v mask) := by
  unfold setViewMask
  split
  next => exact .refl
  next view found =>
    split
    · exact .refl
    · have placed := placed_modifyView (f := fun w => { w with mask }) found rfl rfl rfl
      exact .single (.placed v view _ placed)

/-! ### Outputs -/

theorem rearranged_modifyOutput {o : OutputId} {f : Output → Output}
    (redrawn : ∀ p, c.outputs.get? o = some p → Redrawn p (f p) ∧
      (∀ k, (f p).picture? k = p.picture? k) ∧ (∀ next, p.Sound next → (f p).Sound next) ∧
      (f p).display?.map Prod.snd = p.display?.map Prod.snd) :
    Rearranged c (c.modifyOutput o f) o where
  toLater := later_of_nextIds (by simp) (by simp [BufferPool.Later.refl]) (by simp)
    (Held.same (by simp))
  surfaces := .of_eq (by simp)
  views := .of_eq (by simp)
  outputs x := by
    simp only [modifyOutput_fields, Table.get?_modify]
    split
    next here => exact rel_map fun p there => redrawn p (here ▸ there)
    next => exact rel_self _
  order := by simp
  focused := by simp

theorem insertBelow_perm {view other : ViewId} {stack : List ViewId} (there : other ∈ stack) :
    (Stack.insertBelow view other stack).Perm (view :: stack) := by
  induction stack with
  | nil => simp at there
  | cons v rest ih =>
    unfold Stack.insertBelow
    split
    next => exact .refl _
    next differ =>
      -- The other view is further up the stack.
      have later : other ∈ rest := (List.mem_cons.1 there).resolve_left (Ne.symm differ)
      exact ((ih later).cons v).trans (.swap _ _ _)

theorem insertAbove_perm {view other : ViewId} {stack : List ViewId} (there : other ∈ stack) :
    (Stack.insertAbove view other stack).Perm (view :: stack) := by
  induction stack with
  | nil => simp at there
  | cons v rest ih =>
    unfold Stack.insertAbove
    split
    next => exact .swap _ _ _
    next differ =>
      have later : other ∈ rest := (List.mem_cons.1 there).resolve_left (Ne.symm differ)
      exact ((ih later).cons v).trans (.swap _ _ _)

theorem restack?_perm {o o' : Output} {v : ViewId} {move : Output.Restack}
    (moved : o.restack? v move = some o') :
    ∃ stack, o' = { o with paintOrder := stack } ∧ stack.Perm o.paintOrder := by
  have back {l : List ViewId} (there : v ∈ l) : (v :: l.erase v).Perm l :=
    (List.perm_cons_erase there).symm
  cases move with
  | front =>
    simp only [Output.restack?, Option.ite_none_right_eq_some, Option.some.injEq] at moved
    exact ⟨_, moved.2.symm, List.perm_append_comm.trans (back moved.1)⟩
  | back =>
    simp only [Output.restack?, Option.ite_none_right_eq_some, Option.some.injEq] at moved
    exact ⟨_, moved.2.symm, back moved.1⟩
  | below other =>
    simp only [Output.restack?, Option.ite_none_right_eq_some, Option.some.injEq] at moved
    obtain ⟨⟨differ, there, beside⟩, eq⟩ := moved
    have kept := (List.mem_erase_of_ne differ.symm).2 beside
    exact ⟨_, eq.symm, (insertBelow_perm kept).trans (back there)⟩
  | above other =>
    simp only [Output.restack?, Option.ite_none_right_eq_some, Option.some.injEq] at moved
    obtain ⟨⟨differ, there, beside⟩, eq⟩ := moved
    have kept := (List.mem_erase_of_ne differ.symm).2 beside
    exact ⟨_, eq.symm, (insertAbove_perm kept).trans (back there)⟩

theorem minors_restackView (linked : c.Linked) (v : ViewId) (move : Output.Restack) :
    Minors c (c.restackView v move).2 := by
  unfold restackView
  split
  next => exact .refl
  next output shown =>
    obtain ⟨o, _, found⟩ := Option.bind_eq_some_iff.1 shown
    -- The output is looked up by its own name once more.
    have named := (linked.output_named o output found).1
    split
    next moved eq =>
      obtain ⟨stack, rfl, perm⟩ := restack?_perm eq
      refine .single (.rearranged output.id (rearranged_modifyOutput ?_))
      intro p there
      cases (named ▸ there).symm.trans found
      exact ⟨⟨rfl, rfl, perm, rfl⟩, fun _ => rfl, fun _ sound => sound, rfl⟩
    next => exact .refl

theorem minors_setOutputMask (o : OutputId) (mask : UInt32) :
    Minors c (c.setOutputMask o mask) :=
  .single (.rearranged o (rearranged_modifyOutput fun _ _ =>
    ⟨⟨rfl, rfl, .refl _, rfl⟩, fun _ => rfl, fun _ sound => sound, rfl⟩))

theorem minors_setOutputResolution (host : Host) (o : OutputId) (resolution : Size) :
    Minors c (c.setOutputResolution host o resolution) := by
  unfold setOutputResolution
  split
  next => exact .refl
  next output found =>
    split
    next => exact .refl
    next =>
      -- With a renderer the frames get the new size; its pictures stay.
      cases bare : output.renderer with
      | none =>
        refine Minors.quiet (.single (.rearranged o (rearranged_modifyOutput fun p there => ?_)))
          ((quiet_tell _).trans (quiet_tellPolicy _))
        cases found.symm.trans there
        refine ⟨⟨rfl, rfl, .refl _, rfl⟩, ?_, ?_, ?_⟩
        · intro k
          simp [Output.picture?, Output.schedule, bare]
        · intro next sound r there
          simp [Output.schedule] at there
        · simp [Output.display?, Output.schedule, bare]
      | some r =>
        refine Minors.quiet (.single (.rearranged o (rearranged_modifyOutput fun p there => ?_)))
          ((quiet_tell _).trans (quiet_tellPolicy _))
        cases found.symm.trans there
        refine ⟨⟨rfl, rfl, .refl _, rfl⟩, ?_, ?_, ?_⟩
        · intro k
          rw [Output.picture?, Output.picture?, bare]
          exact Renderer.picture?_resize host.device resolution k
        · intro next sound r' there
          cases there
          exact Renderer.resize_sound (sound r bare) _ _
        · rw [Output.display?, Output.display?, bare]
          exact Renderer.degraded_resize host.device resolution

end Compositing.Compositor
