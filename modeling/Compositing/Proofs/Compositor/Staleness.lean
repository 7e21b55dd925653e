import Compositing.Proofs.Compositor.Painting

/-!
# No frame is stale

An output that is not due has presented a frame, and a pass on it would present the same frame again.
So whatever changes the frame of an output also makes it due: `Calm` says this of one change, and
holds of every kind of change. The frames that an output presented are recorded along a run.
-/

namespace Compositing.Compositor

variable {c c' c'' : Compositor} {id : OutputId} {p p' : Output}

/-- A change that an output rests through: if it is not due afterwards, it was not due before, and has
the same frame. Screens do not come to refuse frames of it. -/
structure Calm (c c' : Compositor) (id : OutputId) : Prop where
  frame : ∀ p', c'.outputs.get? id = some p' → p'.pendingRender = false →
    ∃ p, c.outputs.get? id = some p ∧ p.pendingRender = false ∧ c'.frame? p' = c.frame? p
  degraded : ∀ p', c'.outputs.get? id = some p' → (∀ d, p'.display? = some d → d.2 = false) ∨
    ∃ p, c.outputs.get? id = some p ∧ p'.display?.map Prod.snd = p.display?.map Prod.snd

/-! ### What an output draws -/

/-- The items of an output depend only on the views that it shows, and on their surfaces. -/
theorem Linked.paintItems (linked : c.Linked) (found : c.outputs.get? id = some p)
    (paint : p'.paintOrder = p.paintOrder) (mask : p'.mask = p.mask)
    (views : ∀ k s v w, Shows c id k s v w → Option.Rel (fun w w' => w'.surface = w.surface ∧
      w'.geometry.origin = w.geometry.origin ∧ w'.mask = w.mask) (c.views.get? v) (c'.views.get? v))
    (surfaces : ∀ k s v w, Shows c id k s v w →
      Option.Rel (fun s s' => s'.id = s.id ∧ s'.size = s.size)
        (c.surfaces.get? k) (c'.surfaces.get? k)) :
    c'.paintItems p' = c.paintItems p := by
  -- Each view in the paint order exists, with its surface.
  have shows (v) (member : v ∈ p.paintOrder) : ∃ s w, Shows c id w.surface s v w := by
    obtain ⟨w, there, output⟩ := (linked.mem_creation id p found v).1
      ((linked.paint_perm id p found).mem_iff.1 member)
    obtain ⟨s, found, role⟩ := linked.surface_exists v w there
    exact ⟨s, w, found, role, there, output⟩
  apply paintItems_kept paint
  intro v member
  obtain ⟨s, w, shown⟩ := shows v member
  refine paintItem?_same mask (views w.surface s v w shown) fun w' there => ?_
  cases there.symm.trans shown.there
  exact surfaces w.surface s v w shown

/-- What an output draws that a change did not reach. -/
theorem Linked.untouched (linked : c.Linked) (found : c.outputs.get? id = some p) (same : p' = p)
    (views : ∀ k s v w, Shows c id k s v w → Option.Rel (fun w w' => w'.surface = w.surface ∧
      w'.geometry.origin = w.geometry.origin ∧ w'.mask = w.mask) (c.views.get? v) (c'.views.get? v))
    (surfaces : ∀ k s v w, Shows c id k s v w →
      Option.Rel (fun s s' => s'.id = s.id ∧ s'.size = s.size)
        (c.surfaces.get? k) (c'.surfaces.get? k)) :
    (p'.pendingRender = false → p' = p ∧ c'.paintItems p = c.paintItems p) ∧
      p'.display?.map Prod.snd = p.display?.map Prod.snd := by
  subst same
  refine ⟨?_, rfl⟩
  intro _
  exact ⟨rfl, linked.paintItems found rfl rfl views surfaces⟩

/-- An output that is not due afterwards is the one from before, with the same items. -/
theorem calm_of_rel (config : c'.config = c.config)
    (outputs : Option.Rel (fun p p' =>
      (p'.pendingRender = false → p' = p ∧ c'.paintItems p = c.paintItems p) ∧
      p'.display?.map Prod.snd = p.display?.map Prod.snd) (c.outputs.get? id) (c'.outputs.get? id)) :
    Calm c c' id where
  frame p' found' rests := by
    obtain ⟨p, found, same, -⟩ := found_of_rel outputs found'
    obtain ⟨rfl, items⟩ := same rests
    exact ⟨p', found, rests, frame?_same config rfl (fun _ => rfl) items⟩
  degraded p' found' := by
    obtain ⟨p, found, -, same⟩ := found_of_rel outputs found'
    exact .inr ⟨p, found, same⟩

theorem Calm.refl (c : Compositor) (id : OutputId) : Calm c c id where
  frame p found rests := ⟨p, found, rests, rfl⟩
  degraded p found := .inr ⟨p, found, rfl⟩

theorem Calm.trans (first : Calm c c' id) (second : Calm c' c'' id) : Calm c c'' id where
  frame p'' found'' rests := by
    obtain ⟨p', found', rests', same'⟩ := second.frame p'' found'' rests
    obtain ⟨p, found, rests, same⟩ := first.frame p' found' rests'
    exact ⟨p, found, rests, same'.trans same⟩
  degraded p'' found'' := by
    rcases second.degraded p'' found'' with taken | ⟨p', found', same'⟩
    · exact .inl taken
    · rcases first.degraded p' found' with taken | ⟨p, found, same⟩
      · left
        intro d there
        obtain ⟨d', there', eq⟩ := Option.map_eq_some_iff.1
          (same'.symm.trans (by rw [there]; rfl : p''.display?.map Prod.snd = some d.2))
        exact eq ▸ taken d' there'
      · exact .inr ⟨p, found, same'.trans same⟩

/-! ### Every change is calm -/

/-- Nothing that an output draws changed. -/
theorem calm_of_looks (config : c'.config = c.config) (surfaces : SameSurfaces c c')
    (views : SameViews c c')
    (outputs : Option.Rel Output.Steady (c.outputs.get? id) (c'.outputs.get? id)) : Calm c c' id where
  frame p' found' rests := by
    obtain ⟨p, found, steady⟩ := found_of_rel outputs found'
    exact ⟨p, found, steady.pending rests, Steady.frame? surfaces views config steady⟩
  degraded p' found' := by
    obtain ⟨p, found, steady⟩ := found_of_rel outputs found'
    exact .inr ⟨p, found, by rw [Output.display?, steady.renderer, Output.display?]⟩

theorem Rendered.calm {o : OutputId} (rendered : Rendered c c' o) (other : id ≠ o) :
    Calm c c' id := by
  apply calm_of_looks rendered.config rendered.surfaces rendered.views
  exact rel_mono (rendered.outputs id) fun p p' _ after => by rwa [if_neg other] at after

theorem OutputAdded.calm {p : Output} (change : OutputAdded c c' p) (id : OutputId) :
    Calm c c' id := by
  by_cases new : id = c.nextIds.output
  · have there : c'.outputs.get? id = some p := by rw [change.outputs, if_pos new]
    constructor
    -- The new output is due at once.
    case frame =>
      intro p' found' rests
      cases there.symm.trans found'
      simp [change.pending] at rests
    case degraded =>
      intro p' found'
      cases there.symm.trans found'
      exact .inl change.display
  · apply calm_of_looks change.config change.surfaces change.views
    rw [change.outputs, if_neg new]
    exact rel_refl Output.Steady.refl _

theorem Rearranged.calm {o : OutputId} (change : Rearranged c c' o) (id : OutputId) :
    Calm c c' id := by
  apply calm_of_rel change.config
  apply rel_mono (change.outputs id)
  intro p p' found after
  split at after
  next => exact ⟨fun rests => by simp [after.1.pending] at rests, after.2.2.2⟩
  next =>
    subst after
    exact ⟨fun _ => ⟨rfl, paintItems_of_looks change.surfaces change.views rfl rfl⟩, rfl⟩

section

variable (linked : c.Linked)
include linked

theorem SurfaceAdded.calm (change : SurfaceAdded c c') (id : OutputId) : Calm c c' id := by
  have fresh := linked.surface_fresh
  apply calm_of_rel change.config
  rw [change.outputs]
  apply rel_refl_found
  intro p found
  apply linked.untouched found rfl fun k s v w _ => change.views.drawn v
  intro k s v w shows
  have old : k ≠ c.nextIds.surface := fun new => by simp [← new, shows.found] at fresh
  exact rel_mono (change.surfaces k old) fun s s' _ same => by simp_all [Surface.look]

theorem ViewAdded.calm {k : SurfaceId} {s : Surface} (change : ViewAdded c c' k s) (id : OutputId) :
    Calm c c' id := by
  have fresh := linked.view_fresh
  apply calm_of_rel change.config
  rw [change.outputs]
  apply rel_refl_found
  intro p found
  apply linked.untouched found rfl
  · intro x s v w shows
    have old : v ≠ c.nextIds.view := fun new => by simp [← new, shows.there] at fresh
    exact rel_mono (change.views v old) fun w w' _ same => by simp_all [View.look]
  · intro x s v w shows
    apply rel_mono (change.surfaces x)
    intro s s' _ same
    split at same <;> simp_all [Surface.look]

theorem ViewGone.calm {v : ViewId} {view : View} (change : ViewGone c c' v view) (id : OutputId) :
    Calm c c' id := by
  apply calm_of_rel change.config
  apply rel_mono (change.outputs id)
  intro p p' found after
  split at after
  next =>
    subst after
    exact ⟨fun rests => by simp [Output.schedule] at rests,
      congrArg _ (Output.display?_detach (p.removeView v) view.surface)⟩
  next elsewhere =>
    apply linked.untouched found after
    · intro k s w x shows
      -- The view that went was not one that this output shows.
      have other : w ≠ v := fun same => elsewhere (by
        cases (same ▸ shows.there).symm.trans change.found
        exact shows.output)
      exact rel_mono (change.views w other) fun x x' _ same => by simp_all [View.look]
    · intro k s w x _
      apply rel_mono (change.surfaces k)
      intro s s' _ same
      split at same <;> simp_all [Surface.look]

/-- The surface was shown nowhere, so no output had a picture of it. -/
theorem SurfaceGone.calm (pictured : c.Pictured) {k : SurfaceId} {s : Surface}
    (change : SurfaceGone c c' k s) (id : OutputId) : Calm c c' id := by
  have hidden {o x t v w} (shows : Shows c o x t v w) : x ≠ k := fun same => by
    cases (same ▸ shows.found).symm.trans change.found
    exact absurd shows.role (by simp [change.bare])
  constructor
  case frame =>
    intro p' found' rests
    obtain ⟨p, found, rfl⟩ := found_of_rel (change.outputs id) found'
    have depicts := pictured.depicts id p found
    refine ⟨p, found, rests, frame?_same change.config ?_ (fun x => ?_) ?_⟩
    · rw [Output.display?_detach]
    · rw [Output.picture?_detach depicts.sound]
      split
      next here =>
        cases picture : p.picture? x with
        | none => rfl
        | some image =>
          obtain ⟨t, v, w, shows⟩ := shown_iff.1 (depicts.fits x image picture).shown
          exact absurd here (hidden shows)
      next => rfl
    · apply linked.paintItems found rfl rfl fun x t v w _ => change.views.drawn v
      intro x t v w shows
      exact rel_mono (change.surfaces x (hidden shows)) fun s s' _ same => by simp_all [Surface.look]
  case degraded =>
    intro p' found'
    obtain ⟨p, found, rfl⟩ := found_of_rel (change.outputs id) found'
    exact .inr ⟨p, found, by rw [Output.display?_detach]⟩

theorem Moved.calm (pictured : c.Pictured) {v : ViewId} {view : View} {target : Option OutputId}
    (change : Moved c c' v view target) (id : OutputId) : Calm c c' id := by
  apply calm_of_rel change.config
  apply rel_mono (change.outputs id)
  intro p p' found after
  split at after
  next =>
    subst after
    exact ⟨fun rests => by simp [Output.schedule] at rests,
      congrArg _ (Output.display?_detach (p.removeView v) view.surface)⟩
  next =>
    split at after
    next =>
      refine ⟨fun rests => by simp [after.pending] at rests, ?_⟩
      rw [after.display (pictured.depicts id p found).sound]
    next =>
      apply linked.untouched found after
      · intro k s w x _
        apply rel_mono (change.views w)
        intro x x' _ same
        split at same <;> simp_all [View.look]
      · intro k s w x _
        exact change.surfaces.drawn k

theorem OutputGone.calm {o : OutputId} (change : OutputGone c c' o) (id : OutputId) :
    Calm c c' id := by
  by_cases gone : id = o
  · have absent : c'.outputs.get? id = none := by rw [change.outputs, if_pos gone]
    constructor <;> intro p' found' <;> simp [absent] at found'
  · apply calm_of_rel change.config
    rw [change.outputs, if_neg gone]
    apply rel_refl_found
    intro p found
    refine linked.untouched found rfl ?_ fun k s v w _ => change.surfaces.drawn k
    intro k s v w _
    apply rel_mono (change.views v)
    intro x x' _ same
    split at same <;> simp_all [View.look]

theorem Committed.calm (pictured : c.Pictured) {k : SurfaceId} {s s' : Surface}
    {content : Option Buffer} (change : Committed c c' k s s' content) (id : OutputId) :
    Calm c c' id := by
  apply calm_of_rel change.config
  apply rel_mono (change.outputs id)
  intro p p' found after
  split at after
  next =>
    refine ⟨fun rests => by simp [after.1.pending] at rests, ?_⟩
    rw [(after.2 (pictured.depicts id p found).sound).2.display]
  next elsewhere =>
    apply linked.untouched found after fun x t v w _ => change.views.drawn v
    intro x t v w shows
    -- The surface is shown elsewhere, if at all.
    have other : x ≠ k := fun same => elsewhere (same ▸ shown_iff.2 ⟨t, v, w, shows⟩)
    apply rel_mono (change.surfaces x)
    intro t t' _ same
    rw [if_neg other] at same
    simp_all [Surface.look]

theorem Placed.calm {v : ViewId} {view view' : View} (change : Placed c c' v view view')
    (id : OutputId) : Calm c c' id := by
  apply calm_of_rel change.config
  apply rel_mono (change.outputs id)
  intro p p' found after
  split at after
  next =>
    subst after
    exact ⟨fun rests => by simp [Output.schedule] at rests, rfl⟩
  next elsewhere =>
    refine linked.untouched found after ?_ fun k s w x _ => change.surfaces.drawn k
    intro k s w x shows
    have other : w ≠ v := fun same => elsewhere (by
      cases (same ▸ shows.there).symm.trans change.found
      exact shows.output)
    apply rel_mono (change.views w)
    intro x x' _ same
    rw [if_neg other] at same
    simp_all [View.look]

/-- Whatever changes the frame of an output makes it due. -/
theorem Change.calm (pictured : c.Pictured) (change : Change c c') (id : OutputId) :
    Calm c c' id := by
  cases change with
  | moved v view target change => exact change.calm linked pictured id
  | committed k s s' content change => exact change.calm linked pictured id
  | minor change => cases change with
    | quiet change =>
      exact calm_of_looks change.config change.surfaces change.views (change.outputs id)
    | surfaceAdded change => exact change.calm linked id
    | viewAdded k s change => exact change.calm linked id
    | viewGone v view change => exact change.calm linked id
    | surfaceGone k s change => exact change.calm linked pictured id
    | outputAdded p change => exact change.calm id
    | outputGone o change => exact change.calm linked id
    | placed v view view' change => exact change.calm linked id
    | rearranged o change => exact change.calm id

theorem Changes.calm (pictured : c.Pictured) (changes : Changes c c') (id : OutputId) :
    Calm c c' id := by
  have along : c'.Linked ∧ c'.Pictured ∧ Calm c c' id := by
    -- Links and pictures are carried along, as each change needs them.
    induction changes with
    | refl => exact ⟨linked, pictured, .refl c id⟩
    | tail _ change ih =>
      obtain ⟨linked, pictured, calm⟩ := ih
      exact ⟨linked.change change, pictured.change linked change,
        calm.trans (change.calm linked pictured id)⟩
  exact along.2.2

end

/-! ### What an output presented -/

def flippedFrames (events : List Event) : List Frame :=
  (screenEvents events).filterMap fun
    | .flipped _ frame => some frame
    | .flipFailed _ => none

/-- The frames that an output presents in some passes. -/
def framesIn (id : OutputId) (passes : List (OutputId × List Event)) : List Frame :=
  (passes.filter (·.1 = id)).flatMap fun pass => flippedFrames pass.2

/-- The frames that an output presents in a run, the last one at the end. -/
def presented (id : OutputId) : Compositor → List (Host × Request) → List Frame
  | _, [] => []
  | c, (host, request) :: rest =>
    (match request with
      | .render time => framesIn id (c.passes host time)
      | _ => []) ++ presented id (c.handle host request).2 rest

/-- No screen refused a frame of the output, and while it is not due, the last frame that it presented
is the one that it would present now. -/
structure Fresh (c : Compositor) (id : OutputId) (frames : List Frame) : Prop where
  taken : ∀ p d, c.outputs.get? id = some p → p.display? = some d → d.2 = false
  last : ∀ p drawn, c.outputs.get? id = some p → p.pendingRender = false → c.frame? p = some drawn →
    frames.getLast? = some (.pixels drawn.size drawn.pixels)

variable {frames : List Frame}

theorem Fresh.calm (fresh : Fresh c id frames) (calm : Calm c c' id) : Fresh c' id frames where
  taken p' d found' there := by
    rcases calm.degraded p' found' with taken | ⟨p, found, same⟩
    · exact taken d there
    · rw [there, Option.map_some] at same
      obtain ⟨d', there', eq⟩ := Option.map_eq_some_iff.1 same.symm
      exact eq ▸ fresh.taken p d' found there'
  last p' drawn found' rests frame := by
    obtain ⟨p, found, rests, same⟩ := calm.frame p' found' rests
    exact fresh.last p drawn found rests (same ▸ frame)

theorem frame?_eq_none : c.frame? p = none ↔ p.display? = none := by
  simp [frame?]

/-- A pass presents the frame that it leaves. -/
theorem Fresh.pass (fresh : Fresh c id frames) (held : c.Held) (pictured : c.Pictured) {host : Host}
    (accepts : host.screen id = .ok ()) (time : UInt32) :
    Fresh (c.pass host time id) id
      (frames ++ flippedFrames ((c.pass host time id).log.drop c.log.length)) := by
  have rendered := c.pass_rendered held host time id
  have before {p'} (found' : (c.pass host time id).outputs.get? id = some p') :
      ∃ p, c.outputs.get? id = some p ∧ p'.display?.map Prod.fst = p.display?.map Prod.fst := by
    obtain ⟨p, found, after⟩ := found_of_rel (rendered.outputs id) found'
    rw [if_pos rfl] at after
    exact ⟨p, found, after.2.2.2.2.2.2.2⟩
  -- An output that does not render in memory has no frame before and after.
  have shown {p' d} (found' : (c.pass host time id).outputs.get? id = some p')
      (there : p'.display? = some d) : ∃ drawn, (c.pass host time id).frame? p' = some drawn ∧
      d.2 = false ∧ flippedFrames ((c.pass host time id).log.drop c.log.length) =
        [.pixels drawn.size drawn.pixels] := by
    obtain ⟨p, found, same⟩ := before found'
    rw [there, Option.map_some] at same
    obtain ⟨⟨size, degraded⟩, display, -⟩ := Option.map_eq_some_iff.1 same.symm
    obtain rfl : degraded = false := fresh.taken p _ found display
    obtain ⟨drawn, told, frame, rfl, log, seen, q, found'', display'⟩ :=
      pass_frame held pictured host time found display
    cases found'.symm.trans found''
    rw [there, accepts] at display'
    refine ⟨drawn, (rendered.frame? found found').trans frame, ?_, ?_⟩
    · cases display'
      rfl
    · rw [log, List.drop_left]
      simp [flippedFrames, seen, flipEvent, accepts]
  constructor
  case taken =>
    intro p' d found' there
    obtain ⟨drawn, -, taken, -⟩ := shown found' there
    exact taken
  case last =>
    intro p' drawn found' _ frame
    obtain ⟨d, there⟩ : ∃ d, p'.display? = some d := by
      cases display : p'.display? with
      | none => simp [frame?_eq_none.2 display] at frame
      | some d => exact ⟨d, rfl⟩
    obtain ⟨drawn', frame', -, told⟩ := shown found' there
    cases frame.symm.trans frame'
    simp [told]

theorem Fresh.passesOver (fresh : Fresh c id frames) (linked : c.Linked) (held : c.Held)
    (pictured : c.Pictured) {host : Host} (accepts : host.screen id = .ok ()) (time : UInt32)
    (due : List OutputId) : Fresh (due.foldl (fun c x => c.pass host time x) c) id
      (frames ++ framesIn id (passesOver host time due c)) := by
  induction due generalizing c frames with
  | nil => simpa [framesIn, Compositor.passesOver] using fresh
  | cons x due ih =>
    have rendered := c.pass_rendered held host time x
    have next {frames'} (fresh' : Fresh (c.pass host time x) id frames') := ih fresh'
      (linked.rendered rendered) (rendered.held held) (pictured.rendered rendered)
    -- A pass on the output presents its frame; any other pass leaves the frame alone.
    by_cases here : x = id
    · subst here
      simpa [framesIn, Compositor.passesOver] using next (fresh.pass held pictured accepts time)
    · have calm := fresh.calm (rendered.calm (Ne.symm here))
      simpa [framesIn, Compositor.passesOver, here] using next calm

/-- A request other than for a render pass is calm for every output. -/
theorem Reachable.calm (reached : c.Reachable) (host : Host) (request : Request)
    (other : ∀ time, request ≠ .render time) (id : OutputId) :
    Calm c (c.handle host request).2 id :=
  (changes_handle reached.linked host request other).calm reached.linked reached.pictured id

theorem Fresh.run (fresh : Fresh c id frames) (reached : c.Reachable)
    (requests : List (Host × Request)) (accepts : ∀ request ∈ requests, request.1.screen id = .ok ()) :
    Fresh (c.run requests) id (frames ++ presented id c requests) := by
  induction requests generalizing c frames with
  | nil =>
    rw [presented, List.append_nil]
    exact fresh
  | cons request requests ih =>
    obtain ⟨host, request⟩ := request
    have accepted := accepts _ List.mem_cons_self
    have rest {frames'} (fresh' : Fresh (c.handle host request).2 id frames') :=
      ih fresh' (reached.handle host request) fun r member => accepts r (List.mem_cons_of_mem _ member)
    by_cases pass : ∃ time, request = .render time
    · obtain ⟨time, rfl⟩ := pass
      have passed := fresh.passesOver reached.linked reached.held reached.pictured accepted time
        c.dueOutputs
      rw [← handle_render] at passed
      rw [presented, passes, ← List.append_assoc]
      exact rest passed
    · have other (time) : request ≠ .render time := fun same => pass ⟨time, same⟩
      -- Only render passes present anything.
      have quiet : presented id c ((host, request) :: requests) =
          presented id (c.handle host request).2 requests := by
        cases request with
        | render time => exact absurd rfl (other time)
        | _ => rfl
      rw [quiet]
      exact rest (fresh.calm (reached.calm host request other id))

/-- No frame is stale. Of an output that renders in memory and whose screen takes all frames: requests
other than for a render pass leave it alone while it is not due, and the last frame that it presented is
the only one that a pass on it would present now. -/
theorem run_fresh (config : Config) (contexts : Contexts) (requests : List (Host × Request))
    (id : OutputId) (accepts : ∀ request ∈ requests, request.1.screen id = .ok ()) :
    let start : Compositor := { config, contexts }
    let c := start.run requests
    (∀ host request, (∀ time, request ≠ .render time) → ∀ p',
      (c.handle host request).2.outputs.get? id = some p' → p'.pendingRender = false →
      ∃ p, c.outputs.get? id = some p ∧ p.pendingRender = false ∧
        (c.handle host request).2.frame? p' = c.frame? p) ∧
    ∀ p r canvas, c.outputs.get? id = some p → p.renderer = some r →
      r.handle.context.engine = .memory canvas → p.pendingRender = false →
      ∃ frame, (presented id start requests).getLast? = some frame ∧
        ∀ host time, host.screen id = .ok () →
          flippedFrames ((c.pass host time id).log.drop c.log.length) = [frame] := by
  intro start c
  have reached : c.Reachable := (Reachable.start config contexts).run requests
  have fresh : Fresh c id ([] ++ presented id start requests) := by
    apply Fresh.run _ (.start config contexts) requests accepts
    constructor
    · intro p d there
      simp at there
    · intro p d there
      simp at there
  refine ⟨fun host request other => (reached.calm host request other id).frame, ?_⟩
  intro p r canvas found renderer memory rests
  -- A context in memory was never terminated while its output exists.
  have live := ((reached.pictured.depicts id p found).sound r renderer).live
    (by simp [RenderContext.inMemory, memory])
  obtain ⟨⟨fb, images⟩, there⟩ := Option.isSome_iff_exists.1 live
  have display : p.display? = some (fb.size, r.handle.degraded) :=
    display?_eq_some.2 ⟨r, fb, images, renderer, there, rfl, rfl⟩
  have taken : r.handle.degraded = false := fresh.taken p _ found display
  rw [taken] at display
  obtain ⟨drawn, told, frame, size, -⟩ := pass_frame reached.held reached.pictured
    .willing 0 found display
  refine ⟨.pixels drawn.size drawn.pixels, fresh.last p drawn found rests frame, ?_⟩
  intro host time accepts
  obtain ⟨drawn', told, frame', size', log, seen, -⟩ :=
    pass_frame reached.held reached.pictured host time found display
  cases frame.symm.trans frame'
  rw [log, List.drop_left]
  simp [flippedFrames, seen, flipEvent, accepts, size]

/-- The requests that show a pixel, and one to render. -/
def renderedPixelRequests : List (Host × Request) :=
  (onePixelRequests ++ [Request.render 7]).map (Prod.mk .willing)

def renderedPixel : Compositor :=
  ({ config := {}, contexts := .standard } : Compositor).run renderedPixelRequests

theorem renderedPixel_fresh : ∃ frame,
    (presented ⟨1⟩ { config := {}, contexts := .standard } renderedPixelRequests).getLast? = some frame ∧
    ∀ host time, host.screen ⟨1⟩ = .ok () → flippedFrames
      ((renderedPixel.pass host time ⟨1⟩).log.drop renderedPixel.log.length) = [frame] := by
  have accepts : ∀ request ∈ renderedPixelRequests, request.1.screen ⟨1⟩ = .ok () :=
    List.forall_mem_map.2 fun _ _ => rfl
  have rendered : (renderedPixel.outputs.get? ⟨1⟩).any (fun p =>
      !p.pendingRender && p.renderer.any (·.handle.context.inMemory)) = true := by
    decide +kernel
  obtain ⟨p, found, rests⟩ := (Option.any_eq_true _ _).1 rendered
  obtain ⟨rests, memory⟩ := (Bool.and_eq_true _ _).mp rests
  obtain ⟨r, renderer, memory⟩ := (Option.any_eq_true _ _).1 memory
  obtain ⟨canvas, engine⟩ : ∃ canvas, r.handle.context.engine = .memory canvas := by
    unfold RenderContext.inMemory at memory
    split at memory
    next canvas engine => exact ⟨canvas, engine⟩
    next => simp at memory
  exact (run_fresh {} .standard renderedPixelRequests ⟨1⟩ accepts).2 p r canvas found renderer engine
    (by simpa using rests)

end Compositing.Compositor
