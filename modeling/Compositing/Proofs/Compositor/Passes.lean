import Compositing.Proofs.Compositor.Quiet

/-!
# Render passes

A render pass reads the surfaces and buffers it draws, and puts back all it took: at its end only the
output that it renders looks different, and the screens were told nothing but the frame. `pass` is what
rendering does for one due output.
-/

namespace Compositing

/-- What screens are told by a list of events. -/
def screenEvents (events : List Event) : List ScreenEvent :=
  events.filterMap fun
    | .screen event => some event
    | _ => none

@[simp] theorem screenEvents_append (first second : List Event) :
    screenEvents (first ++ second) = screenEvents first ++ screenEvents second :=
  List.filterMap_append

namespace Compositor

variable {c c' c'' : Compositor}

/-! ### Rendering is quiet for all other outputs -/

theorem Quiet.rendered (quiet : Quiet c c') (o : OutputId) : Rendered c c' o where
  toLater := quiet.toLater
  surfaces := quiet.surfaces
  views := quiet.views
  outputs x := by
    apply rel_mono (quiet.outputs x)
    intro p p' _ steady
    split
    · obtain ⟨h1, h2, h3, h4, h5, h6⟩ := Output.look_eq_iff.1 steady.look
      exact ⟨h1, h2, h3, h4, h5, fun k => by rw [Output.picture?, h6, Output.picture?],
        fun next sound r there => sound r (h6 ▸ there), by rw [Output.display?, h6, Output.display?]⟩
    · exact steady
  order := quiet.order
  focused := quiet.focused

theorem Rendered.trans {o : OutputId} (first : Rendered c c' o) (second : Rendered c' c'' o) :
    Rendered c c'' o where
  toLater := first.toLater.trans second.toLater
  surfaces := first.surfaces.trans second.surfaces
  views := first.views.trans second.views
  outputs x := by
    apply rel_trans (first.outputs x) (second.outputs x)
    intro p p' p'' before after
    -- The rendered output keeps what both passes keep; every other one is steady in both.
    split at before
    next here =>
      obtain ⟨h1, h2, h3, h4, h5, pictures, sound, display⟩ := before
      rw [if_pos here] at after ⊢
      obtain ⟨g1, g2, g3, g4, g5, pictures', sound', display'⟩ := after
      exact ⟨g1.trans h1, g2.trans h2, g3.trans h3, g4.trans h4, g5.trans h5,
        fun k => (pictures' k).trans (pictures k), fun next there => sound' next (sound next there),
        display'.trans display⟩
    next other =>
      rw [if_neg other] at after ⊢
      exact before.trans after
  order := second.order.trans first.order
  focused := focused_trans first.views first.focused second.focused

/-! ### What the screens are told -/

/-- A quiet change that the screens are not told of. -/
structure Unseen (c c' : Compositor) : Prop where
  quiet : Quiet c c'
  log : ∃ told, c'.log = c.log ++ told ∧ screenEvents told = []

theorem Unseen.refl (c : Compositor) : Unseen c c := ⟨.refl c, [], by simp, rfl⟩

theorem Unseen.trans (first : Unseen c c') (second : Unseen c' c'') : Unseen c c'' := by
  obtain ⟨told, log, nothing⟩ := first.log
  obtain ⟨told', log', nothing'⟩ := second.log
  exact ⟨first.quiet.trans second.quiet, told ++ told', by simp [log, log'],
    by simp [nothing, nothing']⟩

/-- How many references keep a surface. -/
def refs (c : Compositor) (k : SurfaceId) : Option Nat := (c.surfaces.get? k).map (·.refCount)

theorem refs_modifySurface (id k : SurfaceId) (f : Surface → Surface) :
    (c.modifySurface id f).refs k =
      if k = id then (c.surfaces.get? k).map fun s => (f s).refCount else c.refs k := by
  simp only [refs, modifySurface_fields, Table.get?_modify]
  split
  · rw [Option.map_map]; rfl
  · rfl

theorem refs_foldl {α : Type} {f : Compositor → α → Compositor} {k : SurfaceId}
    (step : ∀ c a, (f c a).refs k = c.refs k) (l : List α) (c : Compositor) :
    (l.foldl f c).refs k = c.refs k :=
  foldl_related (R := fun c d => refs d k = refs c k) (fun _ => rfl)
    (fun _ _ _ first second => Eq.trans second first) step l c

/-! ### What a pass reads -/

theorem guard_then {α : Type} (p : Prop) [Decidable p] (x : Option α) :
    (do guard p; x) = if p then x else none := by
  by_cases holds : p
  · exact (congrArg (· >>= fun _ => x) (if_pos holds)).trans (if_pos holds).symm
  · exact (congrArg (· >>= fun _ => x) (if_neg holds)).trans (if_neg holds).symm

theorem paintItem?_eq (c : Compositor) (p : Output) (v : ViewId) : c.paintItem? p v =
    (c.views.get? v).bind fun w => (c.surfaces.get? w.surface).bind fun s =>
      if w.mask &&& p.mask ≠ 0 ∧ s.isMapped = true then some ⟨s.id, ⟨w.geometry.origin, s.size⟩⟩
      else none := by
  unfold paintItem?
  cases c.views.get? v with
  | none => rfl
  | some w =>
    -- The guard is opened by hand, so that both lookups appear as they are.
    refine (guard_then (w.visibleOn p.mask = true) _).trans ?_
    rw [mappedSurface?, View.visibleOn]
    cases there : c.surfaces.get? w.surface with
    | none => simp [there]
    | some s =>
      by_cases seen : w.mask &&& p.mask = 0 <;> by_cases mapped : s.isMapped = true <;>
        simp [there, seen, mapped, Option.filter, paintedArea]

theorem paintItems_same {c' : Compositor} {p q : Output} (views : c'.views = c.views)
    (surfaces : c'.surfaces = c.surfaces) (paint : q.paintOrder = p.paintOrder)
    (mask : q.mask = p.mask) : c'.paintItems q = c.paintItems p := by
  have items : c'.paintItem? q = c.paintItem? p := by
    funext v
    simp only [paintItem?_eq, views, surfaces, mask]
  rw [paintItems, paintItems, items, paint]

theorem beginItem_unseen (c : Compositor) (item : PaintItem) : Unseen c (c.beginItem item).2 := by
  unfold beginItem
  split
  next => exact .refl c
  next s found =>
    have acquired : Unseen c (c.modifySurface item.surface Surface.acquire) :=
      ⟨quiet_acquireSurface item.surface, [], by simp [modifySurface], rfl⟩
    simp only
    split
    next => exact acquired
    next =>
      split
      next marked =>
        have later := BufferPool.markBusy_later (by simpa using marked)
        refine acquired.trans ⟨?_, [], by simp, rfl⟩
        exact quiet_of_tables rfl later rfl rfl rfl rfl rfl rfl
      next => exact acquired

theorem refs_beginItem (c : Compositor) (item : PaintItem) (k : SurfaceId) :
    (c.beginItem item).2.refs k = (c.refs k).map (· + if k = item.surface then 1 else 0) := by
  -- The buffer that is marked holds no reference to the surface.
  have acquired : (c.modifySurface item.surface Surface.acquire).refs k =
      (c.refs k).map (· + if k = item.surface then 1 else 0) := by
    rw [refs_modifySurface]
    split
    next here => simp [refs, Surface.acquire, Function.comp_def]
    next => simp
  unfold beginItem
  split
  next absent =>
    by_cases here : k = item.surface
    · simp [refs, here, absent]
    · simp [here]
  next =>
    simp only
    split
    · exact acquired
    · split <;> exact acquired

theorem beginItems_eq (items : List PaintItem) (c : Compositor) :
    (c.beginItems items).2 = items.foldl (fun c item => (c.beginItem item).2) c :=
  foldl_snd (fun _ _ => rfl) items ([], c)

theorem unseen_foldl {α : Type} {f : Compositor → α → Compositor} (step : ∀ c a, Unseen c (f c a))
    (l : List α) (c : Compositor) : Unseen c (l.foldl f c) :=
  foldl_related Unseen.refl (fun _ _ _ => Unseen.trans) step l c

theorem beginItems_unseen (c : Compositor) (items : List PaintItem) :
    Unseen c (c.beginItems items).2 :=
  beginItems_eq items c ▸ unseen_foldl beginItem_unseen items c

/-- Every item takes one reference. -/
theorem refs_beginItems (c : Compositor) (items : List PaintItem) (k : SurfaceId) :
    (c.beginItems items).2.refs k = (c.refs k).map (· + (items.map (·.surface)).count k) := by
  rw [beginItems_eq]
  induction items generalizing c with
  | nil => simp
  | cons item items ih =>
    rw [List.foldl_cons, ih, refs_beginItem, Option.map_map]
    congr 1
    funext n
    simp only [Function.comp, List.map_cons, List.count_cons, beq_iff_eq, eq_comm (a := k)]
    omega

/-! ### What a pass puts back -/

theorem renderComplete_unseen (c : Compositor) (b : BufferId) : Unseen c (c.renderComplete b) := by
  refine ⟨quiet_renderComplete c b, ?_⟩
  unfold renderComplete
  split
  · exact ⟨_, rfl, rfl⟩
  · exact ⟨[], by simp, rfl⟩
  · exact ⟨[], by simp, rfl⟩

theorem fireCallbacks_unseen (callbacks : List Handle) (time : UInt32) (c : Compositor) :
    Unseen c (callbacks.foldl (fun c callback =>
      (c.tell ((Surface.fireCallback callback time).map .transport)).disown callback) c) :=
  unseen_foldl (fun _ callback => ⟨(quiet_tell _).trans (quiet_disown callback), _, rfl, rfl⟩)
    callbacks c

theorem finishItem_unseen (c : Compositor) (time : UInt32) (item : PaintItem) :
    Unseen c (c.finishItem time item) := by
  unfold finishItem
  split
  next => exact .refl c
  next s found =>
    have taken : Unseen c (c.modifySurface item.surface fun _ => s.takeDamage.2.takeCallbacks.2) := by
      refine ⟨quiet_modifySurface _ (fun t there => ?_) (fun t there held => ?_), [],
        by simp [modifySurface], rfl⟩ <;> cases found.symm.trans there
      · rfl
      · exact held
    exact taken.trans (fireCallbacks_unseen _ time _)

theorem refs_finishItem (c : Compositor) (time : UInt32) (item : PaintItem) (k : SurfaceId) :
    (c.finishItem time item).refs k = c.refs k := by
  -- Callbacks are no surfaces.
  have fired (callbacks : List Handle) (d : Compositor) : (callbacks.foldl (fun c callback =>
      (c.tell ((Surface.fireCallback callback time).map .transport)).disown callback) d).surfaces =
      d.surfaces := by
    induction callbacks generalizing d with
    | nil => rfl
    | cons callback callbacks ih => exact (ih _).trans (by simp)
  unfold finishItem
  split
  next => rfl
  next s found =>
    simp only [refs, fired, modifySurface_fields, Table.get?_modify]
    split
    next here => simp [here, found, Surface.takeDamage, Surface.takeCallbacks]
    next => rfl

/-- A release that leaves other references frees nothing. -/
theorem releaseSurface_of_others {k : SurfaceId} (others : ∀ n, c.refs k = some n → 1 < n) :
    (c.releaseSurface k = c ∨ ∃ s, c.surfaces.get? k = some s ∧ 1 < s.refCount ∧
      c.releaseSurface k = c.modifySurface k fun _ => { s with refCount := s.refCount - 1 }) ∧
    ∀ x, (c.releaseSurface k).refs x = (c.refs x).map (· - if x = k then 1 else 0) := by
  unfold releaseSurface
  cases found : c.surfaces.get? k with
  | none =>
    refine ⟨.inl rfl, ?_⟩
    intro x
    by_cases here : x = k
    · simp [refs, here, found]
    · simp [here]
  | some s =>
    have kept : 1 < s.refCount := others _ (by simp [refs, found])
    have rest : ¬ (s.refCount - 1 == 0) = true := by simp; omega
    simp only [Option.map_some, Surface.release, rest]
    refine ⟨.inr ⟨s, rfl, kept, rfl⟩, fun x => ?_⟩
    simp only [Bool.false_eq_true, if_false, refs_modifySurface]
    split
    next here => simp [refs, here, found]
    next => simp

/-- The references that a pass took are put back, one for each item. No count reaches zero, so all that
happens is that surfaces are held once less. -/
theorem releaseItems_related {R : Compositor → Compositor → Prop} (refl : ∀ d, R d d)
    (trans : ∀ d d' d'', R d d' → R d' d'' → R d d'')
    (counted : ∀ d k s, d.surfaces.get? k = some s → 1 < s.refCount →
      R d (d.modifySurface k fun _ => { s with refCount := s.refCount - 1 }))
    (items : List PaintItem) (c : Compositor)
    (taken : ∀ k n, c.refs k = some n → (items.map (·.surface)).count k < n) :
    R c (items.foldl (fun c item => c.releaseSurface item.surface) c) := by
  induction items generalizing c with
  | nil => exact refl c
  | cons item items ih =>
    simp only [List.map_cons, List.count_cons, beq_iff_eq] at taken
    obtain ⟨released, refs⟩ := releaseSurface_of_others (c := c) (k := item.surface) fun n there => by
      have := taken _ n there
      simp only [if_true] at this
      omega
    have first : R c (c.releaseSurface item.surface) := by
      rcases released with same | ⟨s, found, kept, eq⟩
      · exact same.symm ▸ refl c
      · exact eq ▸ counted c _ s found kept
    -- One reference fewer, and one item fewer to release.
    refine trans _ _ _ first (ih _ ?_)
    intro k n there
    rw [refs] at there
    obtain ⟨m, before, rfl⟩ := Option.map_eq_some_iff.1 there
    have := taken k m before
    simp only [eq_comm (a := item.surface)] at this
    split at this
    next here =>
      simp only [← here, if_true]
      omega
    next other =>
      simp only [other, if_false]
      omega

theorem releaseItems_unseen (items : List PaintItem) (c : Compositor)
    (taken : ∀ k n, c.refs k = some n → (items.map (·.surface)).count k < n) :
    Unseen c (items.foldl (fun c item => c.releaseSurface item.surface) c) := by
  refine releaseItems_related Unseen.refl (fun _ _ _ => Unseen.trans) ?_ items c taken
  intro d k s found kept
  refine ⟨quiet_modifySurface k (fun t there => ?_) (fun t there held => ?_), [],
    by simp [modifySurface], rfl⟩
  · cases found.symm.trans there
    rfl
  · simp only
    omega

/-- What follows the drawing gives back what the pass holds. -/
theorem giveBack_unseen (busy : List BufferId) (time : UInt32) (items : List PaintItem)
    (c : Compositor) (taken : ∀ k n, c.refs k = some n → (items.map (·.surface)).count k < n) :
    Unseen c (items.foldl (fun c item => c.releaseSurface item.surface)
      (items.foldl (fun c item => c.finishItem time item) (busy.foldl renderComplete c))) := by
  have completed := unseen_foldl renderComplete_unseen busy c
  have refs₁ (k) : (busy.foldl renderComplete c).refs k = c.refs k :=
    refs_foldl (fun c b => by simp [refs]) busy c
  generalize busy.foldl renderComplete c = c₁ at *
  have finished := unseen_foldl (fun c item => c.finishItem_unseen time item) items c₁
  have refs₂ (k) : (items.foldl (fun c item => c.finishItem time item) c₁).refs k = c₁.refs k :=
    refs_foldl (fun c item => c.refs_finishItem time item k) items c₁
  generalize items.foldl (fun c item => c.finishItem time item) c₁ = c₂ at *
  -- Neither step touched a reference, so every item still has its own to release.
  have released := releaseItems_unseen items c₂ fun k n there =>
    taken k n (by rw [← refs₁, ← refs₂, there])
  exact (completed.trans finished).trans released

/-! ### The pass -/

/-- A render pass on an output that is due. -/
def pass (c : Compositor) (host : Host) (time : UInt32) (id : OutputId) : Compositor :=
  ((c.modifyOutput id fun o => { o with pendingRender := false }).renderOutput host id time).2

/-- What the pass of the renderer of an output leaves. -/
def repaint (c : Compositor) (host : Host) (id : OutputId) (p : Output) (r : Renderer)
    (items : List PaintItem) : Renderer.Pass :=
  r.repaint c.contexts host.device ⟨p.name, host.screen id⟩ c.config.render.clearColour items

theorem repaintOutput_found (host : Host) {id : OutputId} {p : Output} {r : Renderer}
    (items : List PaintItem) (found : c.outputs.get? id = some p) (renderer : p.renderer = some r) :
    (c.repaintOutput host id items).2 =
      { c.modifyOutput id (fun o => { o with renderer := some (c.repaint host id p r items).renderer })
          with contexts := (c.repaint host id p r items).contexts }.tell
        (c.repaint host id p r items).events := by
  simp only [repaintOutput, found, renderer]
  rfl

theorem repaintOutput_rendered (host : Host) {id : OutputId} {p : Output} {r : Renderer}
    (items : List PaintItem) (found : c.outputs.get? id = some p) (renderer : p.renderer = some r) :
    Rendered c (c.repaintOutput host id items).2 id := by
  rw [repaintOutput_found host items found renderer]
  constructor
  case toLater =>
    exact later_of_nextIds (by simp) (by simp [BufferPool.Later.refl]) (by simp) (Held.same (by simp))
  case surfaces => exact .of_eq (by simp)
  case views => exact .of_eq (by simp)
  case outputs =>
    intro x
    simp only [tell_fields, modifyOutput_fields, Table.get?_modify]
    split
    -- The renderer is replaced by one with the same pictures and the same frame size.
    next here =>
      subst here
      apply rel_map
      intro q there
      cases found.symm.trans there
      refine ⟨rfl, rfl, rfl, rfl, rfl, ?_, ?_, ?_⟩
      · intro k
        simp [Output.picture?, renderer, repaint, Renderer.picture?_repaint]
      · intro next sound r' there
        cases there
        exact Renderer.repaint_sound _ _ _ _ _ (sound r renderer)
      · simp [Output.display?, renderer, repaint, Renderer.size_repaint]
    next => exact rel_refl Output.Steady.refl _
  case order => simp
  case focused => exact fun v there => .inl (by simpa using there)

theorem pendingCleared_rendered (id : OutputId) :
    Rendered c (c.modifyOutput id fun o => { o with pendingRender := false }) id where
  toLater := later_of_nextIds (by simp) (by simp [BufferPool.Later.refl]) (by simp)
    (Held.same (by simp))
  surfaces := .of_eq (by simp)
  views := .of_eq (by simp)
  outputs x := by
    simp only [modifyOutput_fields, Table.get?_modify]
    split
    · exact rel_map fun p _ => ⟨rfl, rfl, rfl, rfl, rfl, fun _ => rfl, fun _ sound => sound, rfl⟩
    · exact rel_refl Output.Steady.refl _
  order := by simp
  focused v there := .inl (by simpa using there)

/-- A pass draws the items of the output with its renderer, and hands the frame to its screen. -/
theorem pass_found (held : c.Held) (host : Host) (time : UInt32) {id : OutputId} {p : Output}
    {r : Renderer} (found : c.outputs.get? id = some p) (renderer : p.renderer = some r) :
    Rendered c (c.pass host time id) id ∧ ∃ d : Compositor, d.config = c.config ∧
      (∃ q, (c.pass host time id).outputs.get? id = some q ∧
        q.renderer = some (d.repaint host id p r (c.paintItems p)).renderer) ∧
      ∃ told, (c.pass host time id).log = c.log ++ told ∧
        screenEvents told = screenEvents (d.repaint host id p r (c.paintItems p)).events := by
  have cleared := pendingCleared_rendered (c := c) id
  have found₀ : (c.modifyOutput id fun o => { o with pendingRender := false }).outputs.get? id =
      some { p with pendingRender := false } := by
    simp [Table.get?_modify, found]
  have items : (c.modifyOutput id fun o => { o with pendingRender := false }).paintItems
      { p with pendingRender := false } = c.paintItems p :=
    paintItems_same (by simp) (by simp) rfl rfl
  have log₀ : (c.modifyOutput id fun o => { o with pendingRender := false }).log = c.log := rfl
  have there : ((c.modifyOutput id fun o => { o with pendingRender := false }).outputs.get? id).filter
      (·.renderer.isSome) = some { p with pendingRender := false } := by
    rw [found₀]
    simp [Option.filter, renderer]
  unfold pass renderOutput completePass
  simp only [there, items]
  clear there items
  generalize c.modifyOutput id (fun o => { o with pendingRender := false }) = c₀ at *
  generalize c.paintItems p = drawn
  -- The states of a pass are named one after the other, and each is known by a lemma.
  have begun := c₀.beginItems_unseen drawn
  have taken := c₀.refs_beginItems drawn
  generalize c₀.beginItems drawn = reading at *
  obtain ⟨busy, c₁⟩ := reading
  simp only at *
  obtain ⟨p₁, found₁, steady⟩ := found_of_rel_left (begun.quiet.outputs id) found₀
  obtain ⟨-, name, -, -, -, renderer₁⟩ := Output.look_eq_iff.1 steady.look
  rw [renderer] at renderer₁
  have painted := repaintOutput_rendered host drawn found₁ renderer₁
  have same : c₁.repaint host id p₁ r drawn = c₁.repaint host id p r drawn := by
    rw [repaint, repaint, name]
  have explicit := repaintOutput_found host drawn found₁ renderer₁
  rw [same] at explicit
  generalize c₁.repaintOutput host id drawn = drawing at *
  obtain ⟨well, c₂⟩ := drawing
  simp only at *
  have refs₂ (k) : c₂.refs k = c₁.refs k := by rw [refs, refs, explicit]; simp
  -- Each surface had a holder before the pass took its references, so none is freed.
  have rest := giveBack_unseen busy time drawn c₂ fun k n after => by
    rw [refs₂, taken] at after
    obtain ⟨m, before, rfl⟩ := Option.map_eq_some_iff.1 after
    obtain ⟨s, there, rfl⟩ := Option.map_eq_some_iff.1 before
    have := cleared.held held k s there
    omega
  refine ⟨?_, c₁, begun.quiet.config.trans cleared.config, ?_, ?_⟩
  · exact ((cleared.trans (begun.quiet.rendered id)).trans painted).trans (rest.quiet.rendered id)
  · have found₂ : c₂.outputs.get? id =
        some { p₁ with renderer := some (c₁.repaint host id p r drawn).renderer } := by
      simp [explicit, Table.get?_modify, found₁]
    obtain ⟨q, found₅, steady⟩ := found_of_rel_left (rest.quiet.outputs id) found₂
    exact ⟨q, found₅, steady.renderer⟩
  · obtain ⟨told₁, log₁, nothing₁⟩ := begun.log
    obtain ⟨told₅, log₅, nothing₅⟩ := rest.log
    refine ⟨told₁ ++ (c₁.repaint host id p r drawn).events ++ told₅, ?_, by simp [nothing₁, nothing₅]⟩
    have log₂ : c₂.log = c₁.log ++ (c₁.repaint host id p r drawn).events := by
      rw [explicit]
      rfl
    rw [log₅, log₂, log₁, log₀]
    simp

theorem bare_or_found (c : Compositor) (id : OutputId) :
    (∀ p, c.outputs.get? id = some p → p.renderer = none) ∨
      ∃ p r, c.outputs.get? id = some p ∧ p.renderer = some r := by
  cases found : c.outputs.get? id with
  | none => exact .inl nofun
  | some p =>
    cases renderer : p.renderer with
    | none => exact .inl fun q there => by cases there; exact renderer
    | some r => exact .inr ⟨p, r, rfl, renderer⟩

/-- An output without a renderer only stops being due. -/
theorem pass_eq_of_bare (host : Host) (time : UInt32) {id : OutputId}
    (bare : ∀ p, c.outputs.get? id = some p → p.renderer = none) :
    c.pass host time id = c.modifyOutput id fun o => { o with pendingRender := false } := by
  unfold pass renderOutput
  cases found : c.outputs.get? id with
  | none => simp [Table.get?_modify, found]
  | some p => simp [Table.get?_modify, found, bare p found, Option.filter]

theorem pass_bare (host : Host) (time : UInt32) {id : OutputId}
    (bare : ∀ p, c.outputs.get? id = some p → p.renderer = none) :
    Rendered c (c.pass host time id) id ∧ (c.pass host time id).log = c.log := by
  rw [pass_eq_of_bare host time bare]
  exact ⟨pendingCleared_rendered id, rfl⟩

end Compositor

end Compositing
