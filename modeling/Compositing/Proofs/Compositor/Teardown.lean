import Compositing.Proofs.Compositor.Links
import Compositing.Proofs.Compositor.Quiet
import Mathlib.Logic.Relation

/-!
# How objects come to an end

Views, surfaces and outputs are torn down from many sides: by their protocol objects, by the last
reference, by the policy, or with the object that they belong to. Whatever the side, the objects go one
after the other. A surface goes as if its view had been destroyed first, although it leaves its table
before its view does.
-/

namespace Compositing.Compositor

/-- Changes one after the other. -/
abbrev Changes : Compositor → Compositor → Prop := Relation.ReflTransGen Change

/-- Changes one after the other of which none imports a picture. -/
abbrev Minors : Compositor → Compositor → Prop := Relation.ReflTransGen Minor

variable {c c' c'' : Compositor}

theorem Minors.changes (minors : Minors c c') : Changes c c' :=
  Relation.ReflTransGen.mono (fun _ _ => .minor) _ _ minors

theorem Quiet.minors (quiet : Quiet c c') : Minors c c' := .single (.quiet quiet)

theorem Minors.quiet (minors : Minors c c') (quiet : Quiet c' c'') : Minors c c'' :=
  minors.tail (.quiet quiet)

theorem Changes.quiet (changes : Changes c c') (quiet : Quiet c' c'') : Changes c c'' :=
  changes.tail (.minor (.quiet quiet))

theorem Linked.changes (linked : c.Linked) (changes : Changes c c') : c'.Linked := by
  induction changes with
  | refl => exact linked
  | tail _ change ih => exact ih.change change

/-! ### Views -/

@[simp] theorem leaveOutput_fields (c : Compositor) (v : ViewId) (k : SurfaceId)
    (o : Option OutputId) :
    (c.leaveOutput v k o).config = c.config ∧ (c.leaveOutput v k o).contexts = c.contexts ∧
    (c.leaveOutput v k o).buffers = c.buffers ∧ (c.leaveOutput v k o).surfaces = c.surfaces ∧
    (c.leaveOutput v k o).views = c.views ∧ (c.leaveOutput v k o).outputOrder = c.outputOrder ∧
    (c.leaveOutput v k o).focused = c.focused ∧ (c.leaveOutput v k o).nextIds = c.nextIds ∧
    (c.leaveOutput v k o).outputs =
      c.outputs.modifyAt o fun p => ((p.removeView v).detach k).schedule := by
  cases o <;> simp [leaveOutput, Table.modifyAt]

theorem discardView_of_absent {v : ViewId} (absent : c.views.get? v = none) :
    c.discardView v = (false, c) := by
  simp [discardView, absent]

/-- The tables without a view. -/
structure WithoutView (c c' : Compositor) (v : ViewId) (view : View) : Prop where
  config : c'.config = c.config
  contexts : c'.contexts = c.contexts
  buffers : c'.buffers = c.buffers
  surfaces : c'.surfaces = c.surfaces.modify view.surface fun s => { s with view := none }
  views : c'.views = c.views.erase v
  outputs : c'.outputs = c.outputs.modifyAt view.output fun p =>
    ((p.removeView v).detach view.surface).schedule
  order : c'.outputOrder = c.outputOrder
  focused : c'.focused = if c.focused = some v then none else c.focused
  nextIds : c'.nextIds = c.nextIds

/-- A view leaves its output in the same way as when it moves to another. -/
theorem discardView_eq {v : ViewId} {view : View} (found : c.views.get? v = some view) :
    c.discardView v = (true, { (({ c with views := c.views.erase v }.destroyResource
      view.role).leaveOutput v view.surface view.output).modifySurface view.surface
      (fun s => { s with view := none }) with
      focused := if c.focused = some v then none else c.focused }) := by
  unfold discardView leaveOutput
  cases shown : view.output <;> simp [found, shown]

theorem discardView_found {v : ViewId} {view : View} (found : c.views.get? v = some view) :
    (c.discardView v).1 = true ∧ WithoutView c (c.discardView v).2 v view := by
  rw [discardView_eq found]
  exact ⟨rfl, by constructor <;> simp⟩

theorem destroyView_of_absent {v : ViewId} (absent : c.views.get? v = none) :
    c.destroyView v = c := by
  simp [destroyView, discardView_of_absent absent]

theorem destroyView_found {v : ViewId} {view : View} (found : c.views.get? v = some view) :
    WithoutView c (c.destroyView v) v view := by
  obtain ⟨there, gone⟩ := discardView_found found
  have told : c.destroyView v = (c.discardView v).2.tellPolicy (.viewDestroyed v) := by
    unfold destroyView
    split
    next eq => rw [eq]
    next eq => simp [eq] at there
  obtain ⟨h1, h2, h3, h4, h5, h6, h7, h8, h9⟩ := gone
  rw [told]
  constructor <;> simpa

theorem WithoutView.gone {v : ViewId} {view : View} (found : c.views.get? v = some view)
    (without : WithoutView c c' v view) : ViewGone c c' v view where
  toLater := later_of_nextIds without.config (without.buffers ▸ .refl _) without.nextIds
    fun held k s there => by
      rw [without.surfaces, Table.get?_modify] at there
      split at there
      · obtain ⟨t, before, rfl⟩ := Option.map_eq_some_iff.1 there
        exact held k t before
      · exact held k s there
  found := found
  surfaces k := by
    rw [without.surfaces, Table.get?_modify]
    split
    · exact rel_map fun s _ => rfl
    · exact rel_part _ _
  gone := by simp [without.views, Table.get?_erase]
  views w other := by
    rw [without.views, Table.get?_erase, if_neg other]
    exact rel_part _ _
  outputs o := by
    rw [without.outputs, Table.get?_modifyAt]
    split
    · exact rel_map fun _ _ => rfl
    · exact rel_self _
  order := without.order
  focused := without.focused

theorem minors_discardView (v : ViewId) : Minors c (c.discardView v).2 := by
  cases found : c.views.get? v with
  | none =>
    rw [discardView_of_absent found]
  | some view => exact .single (.viewGone v view ((discardView_found found).2.gone found))

theorem minors_destroyView (v : ViewId) : Minors c (c.destroyView v) := by
  cases found : c.views.get? v with
  | none =>
    rw [destroyView_of_absent found]
  | some view => exact .single (.viewGone v view ((destroyView_found found).gone found))

/-! ### Surfaces -/

theorem foldl_destroyResource_fields (callbacks : List Handle) (c : Compositor) :
    let c' := callbacks.foldl (fun c callback => c.destroyResource (some callback)) c
    c'.config = c.config ∧ c'.buffers = c.buffers ∧ c'.surfaces = c.surfaces ∧
    c'.views = c.views ∧ c'.outputs = c.outputs ∧ c'.outputOrder = c.outputOrder ∧
    c'.focused = c.focused ∧ c'.nextIds = c.nextIds := by
  induction callbacks generalizing c with
  | nil => simp
  | cons callback callbacks ih => simpa using ih (c.destroyResource (some callback))

/-- What is left to do for a surface that is out of its table and has no view any more. -/
def clearSurface (c : Compositor) (k : SurfaceId) (s : Surface) : Compositor :=
  let c := s.allCallbacks.foldl (fun c callback => c.destroyResource (some callback)) c
  let c := c.letGo s.buffer
  { c with outputs := c.outputs.map fun _ o => o.detach k }

theorem clearSurface_fields (c : Compositor) (k : SurfaceId) (s : Surface) :
    (c.clearSurface k s).config = c.config ∧ c.buffers.Later (c.clearSurface k s).buffers ∧
    (c.clearSurface k s).surfaces = c.surfaces ∧ (c.clearSurface k s).views = c.views ∧
    (c.clearSurface k s).outputs = c.outputs.map (fun _ o => o.detach k) ∧
    (c.clearSurface k s).outputOrder = c.outputOrder ∧ (c.clearSurface k s).focused = c.focused ∧
    (c.clearSurface k s).nextIds = c.nextIds := by
  have cancelled := foldl_destroyResource_fields s.allCallbacks c
  unfold clearSurface
  -- The cancelled callbacks matter no further than these fields.
  generalize s.allCallbacks.foldl (fun c callback => c.destroyResource (some callback)) c = d
    at cancelled
  obtain ⟨h1, h2, h3, h4, h5, h6, h7, h8⟩ := cancelled
  obtain ⟨g1, g2, g3, g4, g5, g6, g7, g8⟩ := d.letGo_fields s.buffer
  simp [h1, ← h2, h3, h4, h5, h6, h7, h8, g1, g2, g3, g4, g5, g6, g7, g8]

theorem freeSurface_eq {k : SurfaceId} {s : Surface} (found : c.surfaces.get? k = some s) :
    c.freeSurface k = clearSurface
      (match s.view with
        | some v =>
          ({ c with surfaces := c.surfaces.erase k }.destroyResource s.resource).destroyView v
        | none => { c with surfaces := c.surfaces.erase k }.destroyResource s.resource) k s := by
  simp only [freeSurface, found]
  rfl

/-- A surface that was changed before it is freed. -/
theorem freeSurface_found {k : SurfaceId} {s s' : Surface} (found : c.surfaces.get? k = some s) :
    (c.modifySurface k fun _ => s').freeSurface k = clearSurface
      (match s'.view with
        | some v =>
          ({ c with surfaces := c.surfaces.erase k }.destroyResource s'.resource).destroyView v
        | none => { c with surfaces := c.surfaces.erase k }.destroyResource s'.resource) k s' := by
  have changed : (c.modifySurface k fun _ => s').surfaces.get? k = some s' := by
    simp [Table.get?_modify, found]
  rw [freeSurface_eq changed]
  -- The table loses the surface whatever was written to it before.
  simp only [modifySurface, Table.erase_modify]

/-- Without the surface, whether or not its view went first. -/
theorem clearSurface_gone {d : Compositor} {k : SurfaceId} {s s' : Surface}
    (found : c.surfaces.get? k = some s) (bare : s.view = none) (config : d.config = c.config)
    (buffers : d.buffers = c.buffers) (nextIds : d.nextIds = c.nextIds)
    (surfaces : ∀ x, d.surfaces.get? x = if x = k then none else c.surfaces.get? x)
    (views : d.views = c.views) (outputs : d.outputs = c.outputs)
    (order : d.outputOrder = c.outputOrder) (focused : d.focused = c.focused) :
    SurfaceGone c (d.clearSurface k s') k s := by
  obtain ⟨h1, h2, h3, h4, h5, h6, h7, h8⟩ := d.clearSurface_fields k s'
  have lookup (x) : (d.clearSurface k s').surfaces.get? x =
      if x = k then none else c.surfaces.get? x := by rw [h3, surfaces]
  constructor
  case toLater =>
    apply later_of_nextIds (h1.trans config) (buffers ▸ h2) (h8.trans nextIds)
    intro held x t there
    rw [lookup] at there
    split at there
    · simp at there
    · exact held x t there
  case found => exact found
  case bare => exact bare
  case gone => simp [lookup]
  case surfaces =>
    intro x other
    rw [lookup, if_neg other]
    exact rel_part _ _
  case views => exact .of_eq (h4.trans views)
  case outputs =>
    intro o
    rw [h5, outputs, Table.get?_map]
    exact rel_map fun _ _ => rfl
  case order => exact h6.trans order
  case focused => exact h7.trans focused

theorem freeSurface_bare {k : SurfaceId} {s s' : Surface} (found : c.surfaces.get? k = some s)
    (bare : s.view = none) (same : s'.view = s.view) :
    SurfaceGone c ((c.modifySurface k fun _ => s').freeSurface k) k s := by
  rw [freeSurface_found found, same, bare]
  apply clearSurface_gone found bare <;> simp [Table.get?_erase]

/-- A surface that had a view goes as if the view had been destroyed first. -/
theorem freeSurface_viewed (linked : c.Linked) {k : SurfaceId} {s s' : Surface} {v : ViewId}
    (found : c.surfaces.get? k = some s) (shown : s.view = some v) (same : s'.view = s.view) :
    SurfaceGone (c.destroyView v) ((c.modifySurface k fun _ => s').freeSurface k) k
      { s with view := none } := by
  obtain ⟨view, there, rfl⟩ := linked.view_exists k s v found shown
  have first := destroyView_found there
  -- The same view, destroyed after its surface left the table.
  have still : ({ c with surfaces := c.surfaces.erase view.surface }.destroyResource
      s'.resource).views.get? v = some view := by simpa using there
  have second := destroyView_found still
  rw [freeSurface_found found, same, shown]
  apply clearSurface_gone
  case found => simp [first.surfaces, Table.get?_modify, found]
  case bare => rfl
  case config => simp [first.config, second.config]
  case buffers => simp [first.buffers, second.buffers]
  case nextIds => simp [first.nextIds, second.nextIds]
  case surfaces =>
    intro x
    simp only [first.surfaces, second.surfaces, destroyResource_fields, Table.get?_modify,
      Table.get?_erase]
    grind
  case views => simp [first.views, second.views]
  case outputs => simp [first.outputs, second.outputs]
  case order => simp [first.order, second.order]
  case focused => simp [first.focused, second.focused]

theorem minors_releaseSurface (linked : c.Linked) (k : SurfaceId) :
    Minors c (c.releaseSurface k) := by
  unfold releaseSurface
  cases found : c.surfaces.get? k with
  | none => exact .refl
  | some s =>
    simp only [Option.map_some, Surface.release]
    split
    next last =>
      cases shown : s.view with
      | none => exact .single (.surfaceGone k s (freeSurface_bare found shown shown.symm))
      | some v =>
        exact (minors_destroyView v).tail
          (.surfaceGone k _ (freeSurface_viewed linked found shown shown.symm))
    next others =>
      refine Quiet.minors (quiet_modifySurface k (fun t there => ?_) fun t there held => ?_) <;>
        cases found.symm.trans there
      · rfl
      · -- Another reference is left, so the surface stays held.
        have : s.refCount - 1 ≠ 0 := by simpa using others
        simp only
        omega

/-- The view goes first, and then the reference that the protocol object held. -/
theorem minors_surfaceResourceGone (linked : c.Linked) (k : SurfaceId) :
    Minors c (c.surfaceResourceGone k) := by
  unfold surfaceResourceGone
  cases (c.surfaces.get? k).bind (·.view) with
  | none => exact minors_releaseSurface linked k
  | some v =>
    have first := minors_destroyView (c := c) v
    exact first.trans (minors_releaseSurface (linked.changes first.changes) k)

theorem minors_destroySurface (linked : c.Linked) (k : SurfaceId) :
    Minors c (c.destroySurface k) := by
  unfold destroySurface
  split
  next => exact .refl
  next handle _ =>
    have cut : Quiet c (c.modifySurface k fun s => s.detachResource.2) :=
      quiet_modifySurface_of_keeps k (fun _ => rfl) fun _ => rfl
    have first := (cut.trans (quiet_destroyResource (some handle))).minors
    exact first.trans (minors_surfaceResourceGone (linked.changes first.changes) k)

theorem minors_resourceDestroyed (linked : c.Linked) (handle : Handle) :
    Minors c (c.resourceDestroyed handle) := by
  unfold resourceDestroyed
  split
  next => exact .refl
  next owner _ =>
    have disowned := quiet_disown (c := c) handle
    cases owner with
    | surface k =>
      have cut : Quiet (c.disown handle)
          ((c.disown handle).modifySurface k fun s => s.detachResource.2) :=
        quiet_modifySurface_of_keeps k (fun _ => rfl) fun _ => rfl
      have first := (disowned.trans cut).minors
      exact first.trans (minors_surfaceResourceGone (linked.changes first.changes) k)
    | region id =>
      have erased : Quiet (c.disown handle)
          { c.disown handle with regions := (c.disown handle).regions.erase id } :=
        quiet_of_tables rfl (.refl _) rfl rfl rfl rfl rfl rfl
      exact (disowned.trans erased).minors
    | callback k =>
      refine (disowned.trans (quiet_modifySurface_of_keeps k (fun s => ?_) fun s => ?_)).minors <;>
      · unfold Surface.forgetCallback
        split <;> rfl
    | view v =>
      have cut : Quiet (c.disown handle)
          ((c.disown handle).modifyView v fun w => { w with link := .detached }) :=
        quiet_modifyView v fun _ _ => rfl
      exact (disowned.trans cut).minors.trans (minors_destroyView v)

/-! ### Outputs -/

theorem foldl_hideView_fields (shown : List ViewId) (c : Compositor) :
    let c' := shown.foldl (fun c view => c.modifyView view fun v => { v with output := none }) c
    c'.config = c.config ∧ c'.contexts = c.contexts ∧ c'.buffers = c.buffers ∧
    c'.surfaces = c.surfaces ∧ c'.outputs = c.outputs ∧ c'.outputOrder = c.outputOrder ∧
    c'.focused = c.focused ∧ c'.nextIds = c.nextIds ∧
    ∀ v, c'.views.get? v = (c.views.get? v).map fun w =>
      if v ∈ shown then { w with output := none } else w := by
  induction shown generalizing c with
  | nil => simp
  -- Hiding a view twice is the same as hiding it once.
  | cons view shown ih =>
    obtain ⟨h1, h2, h3, h4, h5, h6, h7, h8, views⟩ :=
      ih (c.modifyView view fun v => { v with output := none })
    simp only [modifyView_fields] at *
    refine ⟨h1, h2, h3, h4, h5, h6, h7, h8, ?_⟩
    intro v
    rw [List.foldl_cons, views, Table.get?_modify]
    cases c.views.get? v with
    | none => simp
    | some w => by_cases first : v = view <;> by_cases rest : v ∈ shown <;> simp [first, rest]

theorem hideViews_gone (linked : c.Linked) {d : Compositor} {o : OutputId} {p : Output}
    (found : c.outputs.get? o = some p) (config : d.config = c.config)
    (buffers : d.buffers = c.buffers) (nextIds : d.nextIds = c.nextIds)
    (surfaces : d.surfaces = c.surfaces)
    (views : ∀ v, d.views.get? v = (c.views.get? v).map fun w =>
      if v ∈ p.creationOrder then { w with output := none } else w)
    (outputs : d.outputs = c.outputs.erase o) (order : d.outputOrder = c.outputOrder.filter (· ≠ o))
    (focused : d.focused = c.focused) : OutputGone c d o where
  toLater := later_of_nextIds config (buffers ▸ .refl _) nextIds (Held.same surfaces)
  surfaces := .of_eq surfaces
  views v := by
    rw [views]
    apply rel_map
    intro w there
    -- The output lists exactly the views that name it.
    have shown : v ∈ p.creationOrder ↔ w.output = some o := by
      rw [linked.mem_creation o p found]
      simp [there]
    simp only [shown]
    split <;> rfl
  outputs x := by rw [outputs, Table.get?_erase]
  order := order
  focused := focused

theorem discardOutput_found (linked : c.Linked) {o : OutputId} {p : Output}
    (found : c.outputs.get? o = some p) :
    (c.discardOutput o).1 = true ∧ OutputGone c (c.discardOutput o).2 o := by
  obtain ⟨h1, -, h3, h4, h5, h6, h7, h8, h9⟩ := foldl_hideView_fields p.creationOrder
    { c with outputs := c.outputs.erase o, outputOrder := c.outputOrder.filter (· ≠ o) }
  simp only [discardOutput, found]
  cases p.renderer with
  | none => exact ⟨rfl, hideViews_gone linked found h1 h3 h8 h4 h9 h5 h6 h7⟩
  | some r => exact ⟨rfl, hideViews_gone linked found h1 h3 h8 h4 h9 h5 h6 h7⟩

theorem removeOutput_found (linked : c.Linked) {o : OutputId} {p : Output}
    (found : c.outputs.get? o = some p) :
    ∃ d, OutputGone c d o ∧ c.removeOutput o = d.tellPolicy (.outputDestroyed o) := by
  obtain ⟨there, gone⟩ := discardOutput_found linked found
  refine ⟨_, gone, ?_⟩
  unfold removeOutput
  split
  next eq => rw [eq]
  next eq => simp [eq] at there

theorem minors_removeOutput (linked : c.Linked) (o : OutputId) : Minors c (c.removeOutput o) := by
  cases found : c.outputs.get? o with
  | none =>
    have absent : c.removeOutput o = c := by simp [removeOutput, discardOutput, found]
    rw [absent]
  | some p =>
    obtain ⟨d, gone, told⟩ := removeOutput_found linked found
    rw [told]
    exact Minors.quiet (.single (.outputGone o gone)) (quiet_tellPolicy _)

end Compositing.Compositor
