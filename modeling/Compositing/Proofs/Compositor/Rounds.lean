import Compositing.Proofs.Compositor.Custody
import Compositing.Proofs.Compositor.Painting

/-!
# A round of render passes

A request to render runs a pass on every output that is due and has a renderer. `Reachable.round` says
all that is different afterwards: the flags of the outputs that were due, what was drawn, and what the
surfaces that were drawn had to hand over. All that the passes held is given back.
`Reachable.hands_over` says that surfaces hand over the same whether or not their frame was shown.
-/

namespace Compositing

/-! ### What a pass may change of an output -/

/-- A renderer without what passes change: its frame, and whether a screen refused one. -/
def Renderer.blank (r : Renderer) : Renderer :=
  { r with handle := { context := r.handle.context.blank, degraded := false } }

theorem Renderer.blank_of_repaint (r : Renderer) (contexts : Contexts) (device : DeviceAnswers)
    (screen : Screen) (background : Colour) (items : List PaintItem) :
    (r.repaint contexts device screen background items).renderer.blank = r.blank := by
  rw [blank, blank_repaint, images_repaint, blank]

namespace Output

def blank (p : Output) : Output := { p with renderer := p.renderer.map Renderer.blank }

/-- The output is not due any more. -/
def attended (p : Output) : Output := { p with pendingRender := false }

theorem paint_of_blank {p p' : Output} (same : p'.blank = p.blank) :
    p'.paintOrder = p.paintOrder ∧ p'.mask = p.mask ∧
      p'.renderer.isSome = p.renderer.isSome := by
  simp only [blank, Output.mk.injEq] at same
  obtain ⟨-, -, -, paint, -, mask, -, -, renderer⟩ := same
  exact ⟨paint, mask, by simpa using congrArg Option.isSome renderer⟩

end Output

namespace Compositor

variable {c c' c'' : Compositor} {time : UInt32}

/-! ### Surfaces on outputs -/

theorem Linked.outputOfSurface?_of_drawn (linked : c.Linked) {o : OutputId} {k : SurfaceId}
    (member : k ∈ c.drawn o) : c.outputOfSurface? k = some o := by
  rcases c.bare_or_found o with bare | ⟨p, r, found, renderer⟩
  · rw [drawn_of_bare bare] at member
    cases member
  · rw [drawn_found found renderer] at member
    obtain ⟨item, painted, rfl⟩ := List.mem_map.1 member
    obtain ⟨v, listed, drawn⟩ := List.mem_filterMap.1 painted
    obtain ⟨view, s, viewed, -, there, shows⟩ := linked.view_of_paintItem? drawn
    -- The view is listed on the output, so it names that as its own.
    obtain ⟨view', viewed', on⟩ := (linked.mem_creation o p found v).1
      ((linked.paint_perm o p found).mem_iff.1 listed)
    cases viewed.symm.trans viewed'
    simp [outputOfSurface?, outputOf?, there, shows, viewed, on]

/-! ### Rounds -/

/-- What rendering on some outputs changes, when it draws some surfaces. -/
structure Round (c c' : Compositor) (time : UInt32) (os : List OutputId) (ks : List SurfaceId) :
    Prop where
  frame : c' = { c.finished time ks with
    outputs := c'.outputs
    contexts := { c.contexts with bound := c'.contexts.bound }
    log := c'.log }
  outputs : ∀ o, Option.Rel (fun p p' => if o ∈ os then p'.blank = p.attended.blank else p' = p)
    (c.outputs.get? o) (c'.outputs.get? o)
  told : ∃ events, c'.log = c.log ++ events ∧ policyEvents events = [] ∧
    transportEvents events = (ks.flatMap c.dueCallbacks).flatMap (Surface.fireCallback · time)

theorem Round.refl (c : Compositor) (time : UInt32) : Round c c time [] [] where
  frame := by rw [finished_of_absent (by simp)]
  outputs o := by simpa using rel_self (c.outputs.get? o)
  told := ⟨[], by simp, rfl, rfl⟩

/-- The surfaces of later rounds are as they were before the first. -/
theorem Round.dueCallbacks {os : List OutputId} {ks : List SurfaceId} (round : Round c c' time os ks)
    {k : SurfaceId} (other : k ∉ ks) : c'.dueCallbacks k = c.dueCallbacks k := by
  rw [round.frame]
  cases found : c.surfaces.get? k <;>
    simp [Compositor.dueCallbacks, finished, Table.get?_map, found, other]

theorem Round.trans {os os' : List OutputId} {ks ks' : List SurfaceId}
    (first : Round c c' time os ks) (second : Round c' c'' time os' ks')
    (apart : ∀ o ∈ os', o ∉ os) (once : ∀ k ∈ ks', k ∉ ks) :
    Round c c'' time (os ++ os') (ks ++ ks') := by
  have callbacks : ks'.flatMap c'.dueCallbacks = ks'.flatMap c.dueCallbacks :=
    List.flatMap_congr fun k member => first.dueCallbacks (once k member)
  constructor
  case frame =>
    have surfaces : (c'.surfaces.map fun k s => if k ∈ ks' then s.handedOver else s) =
        c.surfaces.map fun k s => if k ∈ ks ++ ks' then s.handedOver else s := by
      rw [first.frame]
      simp only [finished, Table.map_map]
      apply Table.map_congr
      intro k s _
      by_cases before : k ∈ ks
      · have after : k ∉ ks' := fun member => once k member before
        simp [before, after]
      · simp [before]
    have resources : (ks'.flatMap c'.dueCallbacks).foldl Table.erase c'.resources =
        ((ks ++ ks').flatMap c.dueCallbacks).foldl Table.erase c.resources := by
      rw [callbacks, List.flatMap_append, List.foldl_append, first.frame]
      rfl
    have last := second.frame
    rw [finished, surfaces, resources, first.frame] at last
    exact last
  case outputs =>
    intro o
    apply rel_trans (first.outputs o) (second.outputs o)
    intro p p' p'' before after
    by_cases here : o ∈ os'
    · rw [if_pos here] at after
      rw [if_neg (apart o here)] at before
      simp [here, after, before]
    · rw [if_neg here] at after
      simpa [here, after] using before
  case told =>
    obtain ⟨events, log, quiet, told⟩ := first.told
    obtain ⟨events', log', quiet', told'⟩ := second.told
    refine ⟨events ++ events', by rw [log', log, List.append_assoc], by simp [quiet, quiet'], ?_⟩
    rw [transportEvents_append, told, told', callbacks, List.flatMap_append, List.flatMap_append]

/-- The state after a pass on an output with a renderer. -/
theorem pass_eq_finished (tidy : c.buffers.Tidy) (held : c.Held) (linked : c.Linked) (host : Host)
    (time : UInt32) {o : OutputId} {p : Output} {r : Renderer} (found : c.outputs.get? o = some p)
    (renderer : p.renderer = some r) :
    c.pass host time o = ({ c with
      outputs := (c.outputs.modify o Output.attended).modify o fun q =>
        { q with renderer := some (c.repaint host o p r (c.paintItems p)).renderer }
      contexts := (c.repaint host o p r (c.paintItems p)).contexts
      log := c.log ++ (c.repaint host o p r (c.paintItems p)).events } : Compositor).finished time
        (c.drawn o) := by
  have found' : (c.modifyOutput o Output.attended).outputs.get? o = some p.attended := by
    simp [Table.get?_modify, found]
  have drawing := repaintOutput_found host (c.paintItems p) found' (r := r) renderer
  rw [drawn_found found renderer, ← finishItems_eq time (linked.paintItems_nodup found)]
  exact (pass_eq tidy held host time found renderer).trans
    (congrArg ((c.paintItems p).foldl fun c item => c.finishItem time item) drawing)

/-- A pass draws the surfaces of one output. -/
theorem pass_round (tidy : c.buffers.Tidy) (held : c.Held) (linked : c.Linked) (host : Host)
    (time : UInt32) (o : OutputId) : Round c (c.pass host time o) time [o] (c.drawn o) := by
  rcases c.bare_or_found o with bare | ⟨p, r, found, renderer⟩
  · rw [pass_eq_of_bare host time bare, drawn_of_bare bare]
    constructor
    case frame => rw [finished_of_absent (by simp)]; rfl
    case outputs =>
      intro x
      simp only [modifyOutput_fields, Table.get?_modify, List.mem_singleton]
      split
      · exact rel_map fun _ _ => rfl
      · exact rel_self _
    case told => exact ⟨[], by simp [modifyOutput], rfl, rfl⟩
  · have blank : (c.repaint host o p r (c.paintItems p)).renderer.blank = r.blank :=
      r.blank_of_repaint ..
    have contexts : (c.repaint host o p r (c.paintItems p)).contexts = { c.contexts with
        bound := (c.repaint host o p r (c.paintItems p)).contexts.bound } :=
      Renderer.contexts_repaint ..
    have technical : Technical (c.repaint host o p r (c.paintItems p)).events :=
      Renderer.technical_repaint ..
    rw [pass_eq_finished tidy held linked host time found renderer]
    generalize c.repaint host o p r (c.paintItems p) = shown at blank contexts technical ⊢
    constructor
    case frame =>
      unfold finished
      congr 1
    case outputs =>
      intro x
      simp only [finished, Table.get?_modify, List.mem_singleton]
      split
      next here =>
        subst here
        rw [found]
        refine .some ?_
        simp [Output.blank, Output.attended, renderer, blank]
      next => exact rel_self _
    case told =>
      refine ⟨_, by simp only [finished, List.append_assoc]; rfl, ?_, ?_⟩
      · simp [technical]
      · simp [technical]
        rfl

/-! ### All passes -/

/-- What later passes draw is what they would have drawn before. -/
theorem Round.drawn {os : List OutputId} {ks : List SurfaceId} (round : Round c c' time os ks)
    (o : OutputId) : c'.drawn o = c.drawn o := by
  obtain ⟨frame, outputs, -⟩ := round
  have views : c'.views = c.views := by rw [frame]; rfl
  have surfaces (k : SurfaceId) : Option.Rel (fun s s' => s'.id = s.id ∧ s'.size = s.size)
      (c.surfaces.get? k) (c'.surfaces.get? k) := by
    rw [frame]
    simp only [finished, Table.get?_map]
    refine rel_map fun s _ => ?_
    split <;> exact ⟨rfl, rfl⟩
  have items (p p' : Output) (paint : p'.paintOrder = p.paintOrder) (mask : p'.mask = p.mask) :
      c'.paintItems p' = c.paintItems p :=
    paintItems_kept paint fun v _ => paintItem?_same mask
      (views ▸ rel_refl (fun _ => ⟨rfl, rfl, rfl⟩) _) fun w _ => surfaces w.surface
  have outputs : Option.Rel (fun p p' => p'.paintOrder = p.paintOrder ∧ p'.mask = p.mask ∧
      p'.renderer.isSome = p.renderer.isSome) (c.outputs.get? o) (c'.outputs.get? o) :=
    rel_mono (outputs o) fun p p' _ same => by
      split at same
      · have kept := Output.paint_of_blank same
        exact kept
      · exact same ▸ ⟨rfl, rfl, rfl⟩
  unfold Compositor.drawn
  generalize c.outputs.get? o = before at outputs
  generalize c'.outputs.get? o = after at outputs
  cases outputs with
  | none => rfl
  | some same =>
    obtain ⟨paint, mask, renderer⟩ := same
    simp only [Option.filter, renderer]
    split
    · exact congrArg (List.map _) (items _ _ paint mask)
    · rfl

theorem rounds (tidy : c.buffers.Tidy) (held : c.Held) (linked : c.Linked) (host : Host)
    (time : UInt32) {due : List OutputId} (once : due.Nodup) :
    Round c (due.foldl (fun c o => c.pass host time o) c) time due (due.flatMap c.drawn) := by
  induction due generalizing c with
  | nil => exact .refl c time
  | cons o due ih =>
    obtain ⟨other, once⟩ := List.nodup_cons.1 once
    have painted := c.pass_rendered held host time o
    have first := pass_round tidy held linked host time o
    -- The invariants hold after the first pass, and the later passes draw what they would have drawn.
    have rest := ih (tidy_pass tidy held host time o) (painted.held held) (linked.rendered painted) once
    have later : due.flatMap (c.pass host time o).drawn = due.flatMap c.drawn :=
      List.flatMap_congr fun x _ => first.drawn x
    rw [later] at rest
    refine first.trans rest (fun x member => ?_) fun k member before => ?_
    · simpa using ne_of_mem_of_not_mem member other
    · -- A surface that is drawn on two outputs would be shown on both.
      obtain ⟨x, member, drawn⟩ := List.mem_flatMap.1 member
      have same := (linked.outputOfSurface?_of_drawn drawn).symm.trans
        (linked.outputOfSurface?_of_drawn before)
      exact other (Option.some.inj same ▸ member)

/-! ### Flags that fall first -/

/-- The compositor where some outputs are not due any more. -/
def attend (c : Compositor) (os : List OutputId) : Compositor :=
  { c with outputs := c.outputs.map fun o p => if o ∈ os then p.attended else p }

theorem get?_attend {os : List OutputId} {o : OutputId} (other : o ∉ os) :
    (c.attend os).outputs.get? o = c.outputs.get? o := by
  simp [attend, Table.get?_map, other]

theorem attend_cons (o : OutputId) (os : List OutputId) :
    (c.modifyOutput o Output.attended).attend os = c.attend (o :: os) := by
  have outputs : (c.outputs.modify o Output.attended).map
      (fun x p => if x ∈ os then p.attended else p) =
      c.outputs.map fun x p => if x ∈ o :: os then p.attended else p := by
    rw [Table.modify, Table.map_map]
    apply Table.map_congr
    intro x p _
    by_cases here : x = o
    · by_cases again : o ∈ os <;> simp [here, again, Output.attended]
    · simp [here]
  exact congrArg (fun outputs => { c with outputs }) outputs

theorem modifyOutput_attend {os : List OutputId} {o : OutputId} (other : o ∉ os)
    (f : Output → Output) :
    (c.attend os).modifyOutput o f = (c.modifyOutput o f).attend os := by
  have outputs : (c.attend os).outputs.modify o f =
      (c.outputs.modify o f).map fun x p => if x ∈ os then p.attended else p := by
    simp only [attend, Table.modify, Table.map_map]
    apply Table.map_congr
    intro x p _
    by_cases here : x = o
    · simp [here, other]
    · simp [here]
  exact congrArg (fun outputs => { c with outputs }) outputs

theorem repaintOutput_attend {os : List OutputId} {o : OutputId} (other : o ∉ os) (host : Host)
    (items : List PaintItem) : (c.attend os).repaintOutput host o items =
      ((c.repaintOutput host o items).1, (c.repaintOutput host o items).2.attend os) := by
  unfold repaintOutput
  rw [get?_attend other]
  cases c.outputs.get? o with
  | none => rfl
  | some p =>
    cases renderer : p.renderer with
    | none => simp only [renderer]
    | some r =>
      simp only [renderer, modifyOutput_attend other]
      rfl

theorem renderOutput_of_bare (host : Host) (time : UInt32) {o : OutputId}
    (bare : ∀ p, c.outputs.get? o = some p → p.renderer = none) :
    c.renderOutput host o time = (false, c) := by
  have absent : (c.outputs.get? o).filter (·.renderer.isSome) = none :=
    Option.filter_eq_none_iff.2 fun p found => by simp [bare p found]
  rw [renderOutput, absent]

theorem renderOutput_attend (tidy : c.buffers.Tidy) (held : c.Held) {os : List OutputId}
    {o : OutputId} (other : o ∉ os) (host : Host) (time : UInt32) :
    (c.attend os).renderOutput host o time =
      ((c.renderOutput host o time).1, (c.renderOutput host o time).2.attend os) := by
  rcases c.bare_or_found o with bare | ⟨p, r, found, renderer⟩
  · have bare' : ∀ p, (c.attend os).outputs.get? o = some p → p.renderer = none := fun p found =>
      bare p ((get?_attend other).symm.trans found)
    rw [renderOutput_of_bare host time bare, renderOutput_of_bare host time bare']
  · have found' := (get?_attend other).trans found
    rw [renderOutput_eq tidy held host time found renderer,
      renderOutput_eq (c := c.attend os) tidy held host time found' renderer]
    have items : (c.attend os).paintItems p = c.paintItems p := paintItems_same rfl rfl rfl rfl
    have finished (d : Compositor) (item : PaintItem) :
        (d.attend os).finishItem time item = (d.finishItem time item).attend os := by
      rw [finishItem_eq, finishItem_eq]
      rfl
    rw [items, repaintOutput_attend other]
    exact Prod.ext rfl (List.foldl_hom (f := fun d => d.attend os) fun d item => finished d item)

/-! ### A request to render -/

def hasRenderer (c : Compositor) (o : OutputId) : Bool :=
  (c.outputs.get? o).any (·.renderer.isSome)

theorem hasRenderer_eq_false {o : OutputId} : c.hasRenderer o = false ↔
    ∀ p, c.outputs.get? o = some p → p.renderer = none := by
  cases found : c.outputs.get? o <;> simp [hasRenderer, found]

/-- The outputs that are due and can be rendered on, in the order they were added. -/
def toRender (c : Compositor) : List OutputId :=
  c.outputOrder.filter fun o => (c.outputs.get? o).any fun p => isDue p && p.renderer.isSome

theorem toRender_eq (c : Compositor) : c.toRender = c.dueOutputs.filter c.hasRenderer := by
  rw [toRender, dueOutputs, List.filter_filter]
  congr 1
  funext o
  cases found : c.outputs.get? o <;> simp [hasRenderer, found, Bool.and_comm]

/-- One pass of a round, and the number of passes that went well. -/
def countedPass (host : Host) (time : UInt32) (done : Nat × Compositor) (o : OutputId) :
    Nat × Compositor :=
  let (well, c) := done.2.renderOutput host o time
  (done.1 + well.toNat, c)

theorem hasRenderer_pass (tidy : c.buffers.Tidy) (held : c.Held) (linked : c.Linked) (host : Host)
    (time : UInt32) (o x : OutputId) : (c.pass host time o).hasRenderer x = c.hasRenderer x := by
  have same : Option.Rel (fun p p' : Output => p'.renderer.isSome = p.renderer.isSome)
      (c.outputs.get? x) ((c.pass host time o).outputs.get? x) :=
    rel_mono ((pass_round tidy held linked host time o).outputs x) fun p p' _ same => by
      split at same
      · exact (Output.paint_of_blank same).2.2
      · rw [same]
  unfold hasRenderer
  generalize (c.outputs.get? x) = before at same
  generalize ((c.pass host time o).outputs.get? x) = after at same
  cases same with
  | none => rfl
  | some same => simp [same]

/-- Passes run as if the flags of all outputs that are due had fallen before the first, and the
outputs without a renderer get none. -/
theorem countedPasses_eq (tidy : c.buffers.Tidy) (held : c.Held) (linked : c.Linked) (host : Host)
    (time : UInt32) {due : List OutputId} (once : due.Nodup) (count : Nat) :
    due.foldl (fun done o => countedPass host time
      (done.1, done.2.modifyOutput o Output.attended) o) (count, c) =
    (due.filter c.hasRenderer).foldl (countedPass host time) (count, c.attend due) := by
  induction due generalizing c count with
  | nil =>
    have same : c.attend [] = c := by simp [attend, Table.map_self]
    simp [same]
  | cons o due ih =>
    obtain ⟨other, once⟩ := List.nodup_cons.1 once
    have kept : due.filter (c.pass host time o).hasRenderer = due.filter c.hasRenderer :=
      List.filter_congr fun x _ => hasRenderer_pass tidy held linked host time o x
    have painted := c.pass_rendered held host time o
    have rest := ih (tidy_pass tidy held host time o) (painted.held held) (linked.rendered painted)
      once (count + ((c.modifyOutput o Output.attended).renderOutput host o time).1.toNat)
    rw [kept] at rest
    rw [List.foldl_cons, List.filter_cons]
    refine rest.trans ?_
    cases renders : c.hasRenderer o with
    | true =>
      have first := renderOutput_attend (c := c.modifyOutput o Output.attended) tidy held other host
        time
      rw [attend_cons] at first
      simp only [if_true, List.foldl_cons, countedPass, first]
      rfl
    | false =>
      have bare := hasRenderer_eq_false.1 renders
      have bare' : ∀ p, (c.modifyOutput o Output.attended).outputs.get? o = some p →
          p.renderer = none := fun p found => by
        obtain ⟨q, there, rfl⟩ := Option.map_eq_some_iff.1
          ((Table.get?_modify ..).trans (if_pos rfl) |>.symm.trans found)
        exact bare q there
      rw [renderOutput_of_bare host time bare', pass_eq_of_bare host time bare, ← attend_cons]
      simp only [Bool.false_eq_true, if_false]
      rfl

/-- A request to render is a round. It runs a pass on each output that is due and has a renderer, in the
order they were added, and on no other. Apart from what the passes drew, only those outputs are
different that were due, and the surfaces that were drawn. -/
theorem Reachable.round (reached : c.Reachable) (host : Host) (time : UInt32) :
    c.renderOutputs host time =
      c.toRender.foldl (countedPass host time) (0, c.attend c.dueOutputs) ∧
    Round c (c.renderOutputs host time).2 time c.dueOutputs (c.toRender.flatMap c.drawn) := by
  have once : c.dueOutputs.Nodup := reached.linked.order_nodup.filter _
  constructor
  · rw [toRender_eq]
    exact countedPasses_eq reached.tidy reached.held reached.linked host time once 0
  · -- An output without a renderer draws nothing.
    have drawn : c.toRender.flatMap c.drawn = c.dueOutputs.flatMap c.drawn := by
      rw [toRender_eq]
      generalize c.dueOutputs = due
      induction due with
      | nil => rfl
      | cons o due ih =>
        rw [List.filter_cons, List.flatMap_cons, ← ih]
        cases renders : c.hasRenderer o with
        | true => rfl
        | false => simp [drawn_of_bare (hasRenderer_eq_false.1 renders)]
    have all := rounds reached.tidy reached.held reached.linked host time once
    rw [← handle_render, ← drawn] at all
    exact all

/-- The surface of one pixel with a frame callback that its next frame ends. -/
def awaited : Compositor :=
  onePixel.run [(.willing, .damage ⟨1⟩ ⟨0, 0, 1, 1⟩), (.willing, .frame ⟨1⟩ 3), (.willing, .commit ⟨1⟩)]

/-! ### Frames that are not shown -/

/-- What a pass of a round hands over is what it would have handed over before all passes. -/
theorem passesOver_told (tidy : c.buffers.Tidy) (held : c.Held) (linked : c.Linked) (host : Host)
    (time : UInt32) {due : List OutputId} (once : due.Nodup) {o : OutputId} (member : o ∈ due) :
    ∃ told, (passesOver host time due c).filter (·.1 = o) = [(o, told)] ∧
      transportEvents told =
        ((c.drawn o).flatMap c.dueCallbacks).flatMap (Surface.fireCallback · time) := by
  induction due generalizing c with
  | nil => cases member
  | cons x due ih =>
    obtain ⟨absent, once⟩ := List.nodup_cons.1 once
    have first := pass_round tidy held linked host time x
    rw [passesOver]
    by_cases here : x = o
    · subst here
      obtain ⟨told, log, -, fired⟩ := first.told
      exact ⟨told, by simp [filter_passesOver_of_absent host time absent, log], fired⟩
    · have painted := c.pass_rendered held host time x
      obtain ⟨told, only, fired⟩ := ih (tidy_pass tidy held host time x) (painted.held held)
        (linked.rendered painted) once ((List.mem_cons.1 member).resolve_left (Ne.symm here))
      have callbacks : (c.drawn o).flatMap (c.pass host time x).dueCallbacks =
          (c.drawn o).flatMap c.dueCallbacks := by
        apply List.flatMap_congr
        intro k drawn
        refine first.dueCallbacks fun before => here ?_
        -- It would be shown on both outputs.
        exact Option.some.inj ((linked.outputOfSurface?_of_drawn before).symm.trans
          (linked.outputOfSurface?_of_drawn drawn))
      rw [first.drawn, callbacks] at fired
      exact ⟨told, by simpa [here] using only, fired⟩

/-- A pass takes the damage and fires the callbacks of what it draws, however the device and the screen
answered it. So a frame that was not shown leaves both alone only if there was nothing of either. -/
theorem Reachable.hands_over (reached : c.Reachable) (host : Host) (time : UInt32) {o : OutputId}
    (member : o ∈ c.toRender) :
    ∃ told, (c.passes host time).filter (·.1 = o) = [(o, told)] ∧
      transportEvents told =
        ((c.drawn o).flatMap c.dueCallbacks).flatMap (Surface.fireCallback · time) ∧
      (∀ k ∈ c.drawn o, (c.renderOutputs host time).2.surfaces.get? k =
        (c.surfaces.get? k).map Surface.handedOver) ∧
      (((∀ k ∈ c.drawn o, (c.renderOutputs host time).2.surfaces.get? k = c.surfaces.get? k) ∧
          ∀ callback, .frameDone callback time ∉ transportEvents told) ↔
        ∀ k ∈ c.drawn o, ∀ s, c.surfaces.get? k = some s →
          s.committed.damage = Region.empty ∧ s.callbacks = []) := by
  have due : o ∈ c.dueOutputs := (List.mem_filter.1 (c.toRender_eq ▸ member)).1
  obtain ⟨told, only, fired⟩ := passesOver_told reached.tidy reached.held reached.linked host time
    (reached.linked.order_nodup.filter _) due
  have taken (k) (drawn : k ∈ c.drawn o) : (c.renderOutputs host time).2.surfaces.get? k =
      (c.surfaces.get? k).map Surface.handedOver := by
    have all : k ∈ c.toRender.flatMap c.drawn := List.mem_flatMap.2 ⟨o, member, drawn⟩
    rw [(reached.round host time).2.frame]
    simp only [finished, Table.get?_map, if_pos all]
  refine ⟨told, only, fired, taken, ?_⟩
  constructor
  · rintro ⟨same, -⟩ k drawn s there
    have kept := (taken k drawn).symm.trans (same k drawn)
    rw [there] at kept
    exact Surface.handedOver_eq_self_iff.1 (Option.some.inj kept)
  · intro settled
    constructor
    · intro k drawn
      rw [taken k drawn]
      cases there : c.surfaces.get? k with
      | none => rfl
      | some s => exact congrArg some (Surface.handedOver_eq_self_iff.2 (settled k drawn s there))
    · have none : (c.drawn o).flatMap c.dueCallbacks = [] := by
        apply List.flatMap_eq_nil_iff.2
        intro k drawn
        cases there : c.surfaces.get? k with
        | none => simp [dueCallbacks, there]
        | some s => simp [dueCallbacks, there, (settled k drawn s there).2]
      simp [fired, none]

/-- A host whose screens refuse every frame. -/
def refusing : Host := { Host.willing with screen := fun _ => .error "vblank timeout" }

theorem awaited_handed_over : ∃ told, (awaited.passes refusing 7).filter (·.1 = ⟨1⟩) = [(⟨1⟩, told)] ∧
    transportEvents told = [.frameDone ⟨⟨1⟩, 3⟩ 7, .destroyed ⟨⟨1⟩, 3⟩] := by
  have reached : awaited.Reachable := ((Reachable.start _ _).run _).run _
  obtain ⟨told, only, fired, -⟩ := reached.hands_over refusing 7 (o := ⟨1⟩) (by decide)
  exact ⟨told, only, fired⟩

/-- The screen refused the frame, and the client is told that it was shown. -/
theorem refused_handed_over : ∃ told,
    (awaited.passes refusing 7).filter (·.1 = ⟨1⟩) = [(⟨1⟩, told)] ∧
    screenEvents told = [.flipFailed "screen"] ∧
    transportEvents told = [.frameDone ⟨⟨1⟩, 3⟩ 7, .destroyed ⟨⟨1⟩, 3⟩] ∧
    (awaited.surfaces.get? ⟨1⟩).map (·.committed.damage.rects) = some [⟨0, 0, 1, 1⟩] ∧
    ((awaited.renderOutputs refusing 7).2.surfaces.get? ⟨1⟩).map (·.committed.damage.rects) =
      some [] :=
  ⟨_, rfl, rfl, rfl, by decide +kernel, rfl⟩

end Compositor

end Compositing
