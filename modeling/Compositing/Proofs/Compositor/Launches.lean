import Compositing.Proofs.Compositor.Additions

/-!
# The context that is current

A compositor begins with no context that is current, and then makes those of its outputs current. A
context that is current is that of an output that is still there, as no output takes its context with
it without taking the mark too. Main statement: `Launched.lifecycle`, which goes with the histories of
contexts in general.
-/

namespace Compositing

/-! ### What passes and ends do to the mark -/

theorem RenderContext.id_of_blank {ctx ctx' : RenderContext} (same : ctx'.blank = ctx.blank) :
    ctx'.id = ctx.id := by
  have kept (ctx : RenderContext) : ctx.blank.id = ctx.id := by
    unfold blank clear
    split
    · exact ctx.id_withCanvas _
    · rfl
  rw [← kept ctx', same, kept]

namespace Renderer

variable (r : Renderer) (contexts : Contexts)

theorem id_detachAll (ks : List SurfaceId) : (ks.foldl detach r).handle.id = r.handle.id := by
  induction ks generalizing r with
  | nil => rfl
  | cons k ks ih => exact (ih (r.detach k)).trans (r.id_detach k)

/-- The mark falls with the context that it names. -/
theorem terminate_contexts : (r.terminate contexts).1 =
    { contexts with
      bound := if contexts.bound = some r.handle.id then none else contexts.bound } := by
  rw [← r.id_detachAll r.images.keys]
  rfl

theorem bound_bind (device : DeviceAnswers) (h : RenderHandle) :
    (contexts.bind device h).contexts.bound = contexts.bound ∨
      (contexts.bind device h).contexts.bound = some h.id := by
  unfold Contexts.bind
  split
  · exact .inl rfl
  · simp only
    split
    · exact .inr rfl
    · exact .inl rfl

/-- A pass makes no other context current than that of the output. -/
theorem bound_repaint (device : DeviceAnswers) (screen : Screen) (background : Colour)
    (items : List PaintItem) :
    (r.repaint contexts device screen background items).contexts.bound = contexts.bound ∨
    (r.repaint contexts device screen background items).contexts.bound = some r.handle.id := by
  have bound := bound_bind contexts device r.handle
  have same := contexts.bind_handle device r.handle
  unfold repaint
  generalize contexts.bind device r.handle = current at bound same
  have drawn := blank_drawItems (r := ({ r with handle := current.handle }).withContext
    (current.handle.context.clear background)) device items
  have id := RenderContext.id_of_blank (drawn.trans (RenderContext.blank_clear _ background))
  simp only
  split
  · exact bound
  · split
    · exact bound
    · -- Presenting makes the context current once more, if it is not.
      rw [(Rack.swap_eq ..).1]
      rcases bound_bind current.contexts device _ with kept | new
      · rw [kept]
        exact bound
      · rw [new]
        exact .inr (congrArg some (id.trans (congrArg RenderHandle.id same)))

end Renderer

namespace Compositor

variable {c c' : Compositor}

/-! ### Compositors as they are launched -/

/-- The states of a compositor that was launched on some backends, as a program does it. -/
inductive Launched : Compositor → Prop
  | start (config : Config) (backends : List Backend) : Launched (ofBackends config backends)
  | handle {c : Compositor} (before : Launched c) (host : Host) (request : Request) :
    Launched (c.handle host request).2
  | collect {c : Compositor} (before : Launched c) : Launched c.collect.2

theorem Launched.reachable (launched : c.Launched) : c.Reachable := by
  induction launched with
  | start config backends => exact .start config _
  | handle _ host request ih => exact ih.handle host request
  | collect _ ih => exact ih.collect

theorem Launched.run (launched : c.Launched) (requests : List (Host × Request)) :
    (c.run requests).Launched := by
  induction requests generalizing c with
  | nil => exact launched
  | cons request requests ih => exact ih (launched.handle request.1 request.2)

/-- A compositor that is launched with a configuration takes its backends from there. -/
theorem launched_ofConfig {config : Config} (launched : ofConfig config = .ok c) : c.Launched := by
  unfold ofConfig at launched
  simp only [bind, Except.bind, pure, Except.pure] at launched
  split at launched
  · cases launched
  · split at launched
    · cases launched
    next contexts named =>
      cases launched
      obtain ⟨backends, rfl⟩ : ∃ backends, contexts = { backends } := by
        unfold Contexts.ofNames at named
        simp only [bind, Except.bind, pure, Except.pure, Except.mapError] at named
        split at named
        · cases named
        next made =>
          split at made
          · cases made
          · cases made
            cases named
            exact ⟨_, rfl⟩
      exact .start _ backends

/-! ### The mark -/

/-- The context of an output. -/
def contextOf? (c : Compositor) (o : OutputId) : Option ContextId :=
  ((c.outputs.get? o).bind (·.renderer)).map (·.handle.id)

/-- The context that is current is that of an output, and the names of contexts are used up. -/
structure ContextsKnown (c : Compositor) : Prop where
  current : ∀ id, c.contexts.bound = some id → ∃ o, c.contextOf? o = some id
  used : ∀ o id, c.contextOf? o = some id → id.number < c.contexts.nextId.number

theorem ContextsKnown.fresh (known : c.ContextsKnown) : c.contexts.bound ≠ some c.contexts.nextId := by
  intro bound
  obtain ⟨o, there⟩ := known.current _ bound
  exact Nat.lt_irrefl _ (known.used o _ there)

theorem Tends.contextOf? (tends : Tends c c') (o : OutputId) : c'.contextOf? o = c.contextOf? o := by
  rw [Compositor.contextOf?, Compositor.contextOf?, Option.map_bind, Option.map_bind]
  exact bind_of_rel (tends.outputs o) fun p p' tended =>
    map_of_rel tended fun r r' => Renderer.id_tended

theorem ContextsKnown.same (known : c.ContextsKnown) (contexts : c'.contexts = c.contexts)
    (outputs : ∀ o, c'.contextOf? o = c.contextOf? o) : c'.ContextsKnown := by
  constructor
  · intro id bound
    obtain ⟨o, there⟩ := known.current id (contexts ▸ bound)
    exact ⟨o, (outputs o).trans there⟩
  · intro o id there
    rw [contexts]
    exact known.used o id ((outputs o).symm.trans there)

/-! ### Outputs that end -/

theorem discardOutput_contexts {o : OutputId} {p : Output} (found : c.outputs.get? o = some p) :
    (c.discardOutput o).2.outputs = c.outputs.erase o ∧
    (c.discardOutput o).2.contexts = { c.contexts with
      bound := if c.contexts.bound = c.contextOf? o then none else c.contexts.bound } := by
  obtain ⟨-, contexts, -, -, outputs, -⟩ := foldl_hideView_fields p.creationOrder
    { c with outputs := c.outputs.erase o, outputOrder := c.outputOrder.filter (· ≠ o) }
  simp only [discardOutput, found, contextOf?, Option.bind_some]
  cases p.renderer with
  | none =>
    refine ⟨outputs, contexts.trans ?_⟩
    -- Without a context the mark stays, or was not set.
    have kept : (if c.contexts.bound = none then none else c.contexts.bound) = c.contexts.bound := by
      split
      next unset => exact unset.symm
      next => rfl
    rw [Option.map_none, kept]
  | some r =>
    refine ⟨outputs, ?_⟩
    simp only [contexts, r.terminate_contexts, tell_fields]
    rfl

theorem ContextsKnown.discardOutput (known : c.ContextsKnown) (o : OutputId) :
    (c.discardOutput o).2.ContextsKnown := by
  cases found : c.outputs.get? o with
  | none =>
    have same : (c.discardOutput o).2 = c := by simp [Compositor.discardOutput, found]
    rw [same]
    exact known
  | some p =>
    obtain ⟨outputs, contexts⟩ := discardOutput_contexts found
    have left (x : OutputId) : (c.discardOutput o).2.contextOf? x =
        if x = o then none else c.contextOf? x := by
      simp only [contextOf?, outputs, Table.get?_erase]
      split <;> rfl
    constructor
    · intro id bound
      rw [contexts] at bound
      simp only at bound
      split at bound
      · cases bound
      next other =>
        obtain ⟨x, there⟩ := known.current id bound
        refine ⟨x, ?_⟩
        rw [left, if_neg, there]
        -- The mark would have fallen with the context of the output.
        rintro rfl
        exact other (bound.trans there.symm)
    · intro x id there
      rw [left, Option.ite_none_left_eq_some] at there
      rw [contexts]
      exact known.used x id there.2

/-! ### Outputs that begin -/

theorem contextOf?_modifyOutput (o x : OutputId) {f : Output → Output}
    (same : ∀ p, (f p).renderer = p.renderer) :
    (c.modifyOutput o f).contextOf? x = c.contextOf? x := by
  rw [contextOf?, contextOf?, Option.map_bind, Option.map_bind]
  exact bind_of_rel (Table.rel_modify c.outputs o x (R := fun p p' => p'.renderer = p.renderer)
    (fun _ => rfl) fun p _ => same p) fun p p' same => congrArg (Option.map _) same

theorem ContextsKnown.entered (known : c.ContextsKnown) (linked : c.Linked) (host : Host)
    (name : String) (reported : Size) : (c.entered host name reported).ContextsKnown := by
  obtain ⟨told, -, -, entered, new⟩ := c.entered_eq host name reported
  generalize c.enteredOutput host name reported = p at entered new
  have context (x : OutputId) : (c.entered host name reported).contextOf? x =
      if x = c.nextIds.output then p.renderer.map (·.handle.id) else c.contextOf? x := by
    rw [entered]
    simp only [contextOf?, Table.get?_insert]
    split <;> rfl
  constructor
  · intro id bound
    obtain ⟨o, there⟩ := known.current id (by rw [entered] at bound; exact bound)
    refine ⟨o, ?_⟩
    rw [context, if_neg, there]
    rintro rfl
    rw [contextOf?, linked.output_fresh] at there
    cases there
  · intro o id there
    rw [context] at there
    rw [entered]
    split at there
    · obtain ⟨r, renderer, rfl⟩ := Option.map_eq_some_iff.1 there
      simp only [renderer, Option.elim, (new r renderer).1]
      exact Nat.lt_succ_self _
    · have used := known.used o id there
      cases p.renderer with
      | none => exact used
      | some r => exact Nat.lt_succ_of_lt used

theorem ContextsKnown.addOutput (known : c.ContextsKnown) (linked : c.Linked) (host : Host)
    (name : String) (reported : Size) : (c.addOutput host name reported).2.ContextsKnown := by
  have entered := known.entered linked host name reported
  have told :
      ((c.entered host name reported).tellPolicy (.outputCreated c.nextIds.output)).ContextsKnown :=
    entered.same rfl fun _ => rfl
  rw [addOutput_eq]
  simp only
  split
  · exact entered.discardOutput _
  · split
    · exact told.same rfl fun x => contextOf?_modifyOutput _ x fun _ => rfl
    · exact told.discardOutput _

/-! ### Render passes -/

theorem Round.contextOf? {time : UInt32} {os : List OutputId} {ks : List SurfaceId}
    (round : Round c c' time os ks) (o : OutputId) : c'.contextOf? o = c.contextOf? o := by
  rw [Compositor.contextOf?, Compositor.contextOf?, Option.map_bind, Option.map_bind]
  refine bind_of_rel (round.outputs o) fun p p' same => ?_
  split at same
  · have blank : p'.renderer.map Renderer.blank = p.renderer.map Renderer.blank :=
      congrArg Output.renderer same
    have id (r : Renderer) : r.blank.handle.id = r.handle.id :=
      RenderContext.id_of_blank (r.handle.context.blank_clear .black)
    have ids := congrArg (Option.map fun r : Renderer => r.handle.id) blank
    simpa only [Option.map_map, Function.comp_def, id] using ids
  · rw [same]

theorem bound_passes (tidy : c.buffers.Tidy) (held : c.Held) (linked : c.Linked) (host : Host)
    (time : UInt32) (due : List OutputId) :
    (due.foldl (fun c o => c.pass host time o) c).contexts.bound = c.contexts.bound ∨
    ∃ o, (due.foldl (fun c o => c.pass host time o) c).contexts.bound = c.contextOf? o := by
  induction due generalizing c with
  | nil => exact .inl rfl
  | cons o due ih =>
    have painted := c.pass_rendered held host time o
    have round := pass_round tidy held linked host time o
    have first : (c.pass host time o).contexts.bound = c.contexts.bound ∨
        (c.pass host time o).contexts.bound = c.contextOf? o := by
      rcases c.bare_or_found o with bare | ⟨p, r, found, renderer⟩
      · rw [pass_eq_of_bare host time bare]
        exact .inl rfl
      · rw [pass_eq_finished tidy held linked host time found renderer]
        have shown := r.bound_repaint c.contexts host.device ⟨p.name, host.screen o⟩
          c.config.render.clearColour (c.paintItems p)
        have context : c.contextOf? o = some r.handle.id := by
          rw [Compositor.contextOf?, found, Option.bind_some, renderer, Option.map_some]
        rw [context]
        exact shown
    rw [List.foldl_cons]
    rcases ih (tidy_pass tidy held host time o) (painted.held held) (linked.rendered painted) with
      kept | ⟨x, named⟩
    · rw [kept]
      exact first.imp (fun same => same) fun named => ⟨o, named⟩
    · exact .inr ⟨x, named.trans (round.contextOf? x)⟩

theorem ContextsKnown.render (known : c.ContextsKnown) (reached : c.Reachable) (host : Host)
    (time : UInt32) : (c.handle host (.render time)).2.ContextsKnown := by
  obtain ⟨-, round⟩ := reached.round host time
  have named := bound_passes reached.tidy reached.held reached.linked host time c.dueOutputs
  rw [← handle_render] at named
  have same : (c.handle host (.render time)).2 = (c.renderOutputs host time).2 := rfl
  have contexts := round.frame
  rw [← same] at contexts round
  constructor
  · intro id bound
    rcases named with kept | ⟨o, named⟩
    · obtain ⟨o, there⟩ := known.current id (kept.symm.trans bound)
      exact ⟨o, (round.contextOf? o).trans there⟩
    · exact ⟨o, ((round.contextOf? o).trans named.symm).trans bound⟩
  · intro o id there
    have used := known.used o id ((round.contextOf? o).symm.trans there)
    rw [contexts]
    exact used

/-! ### Every state -/

theorem ContextsKnown.handle (known : c.ContextsKnown) (reached : c.Reachable) (host : Host)
    (request : Request) : (c.handle host request).2.ContextsKnown := by
  cases about : request.aboutContexts with
  | false =>
    have tends := tends_handle reached.linked host about
    exact known.same tends.contexts tends.contextOf?
  | true =>
    cases request with
    | addOutput name reported =>
      simp only [Compositor.handle, settle_snd]
      exact known.addOutput reached.linked host name reported
    | removeOutput o =>
      have gone := known.discardOutput o
      simp only [Compositor.handle, removeOutput]
      split
      next eq =>
        rw [eq] at gone
        exact gone.same rfl fun _ => rfl
      next eq =>
        rw [eq] at gone
        exact gone
    | render time => exact known.render reached host time
    | _ => cases about

theorem Launched.contextsKnown (launched : c.Launched) : c.ContextsKnown := by
  induction launched with
  | start config backends => exact ⟨nofun, nofun⟩
  | handle before host request ih => exact ih.handle before.reachable host request
  | collect _ ih => exact ih.same rfl fun _ => rfl

/-- Whatever is asked of contexts, each is terminated once, as soon as its handle is handed back or given
up and not before. The mark names the context that was made current last, which was not handed back. The
host is asked to make a context current exactly if that is needed and the mark does not name it, and if
that fails nothing changes. In a compositor the mark is not set, or names the context of an output. -/
theorem Launched.lifecycle (launched : c.Launched) (backends : List Backend)
    (past : List (DeviceAnswers × HandleRequest)) :
    let start := Rack.ofBackends backends
    let rack := start.run past
    (∀ id, rack.endings id = if rack.Used id ∧ rack.handles.get? id = none then 1 else 0) ∧
    (∀ id, rack.log.countP (·.ends id) =
      rack.ended.countP fun ctx => ctx.id = id ∧ ctx.inMemory = false) ∧
    (∀ id, rack.contexts.bound = some id →
      (start.binds past).getLast? = some id ∧ ¬start.HandedBack past id) ∧
    (∀ device request id, (rack.handle device request).log.countP (·.binds id) =
      rack.log.countP (·.binds id) +
        if request.needs id = true ∧ rack.contexts.bound ≠ some id ∧
          (rack.handles.get? id).any (!·.context.inMemory) = true then 1 else 0) ∧
    (∀ device request id h e, request.needs id = true → rack.contexts.bound ≠ some id →
      rack.handles.get? id = some h → (h.context.bind device).result = .error e →
      rack.handle device request = rack.tell (h.context.bind device).events) ∧
    ∀ id, c.contexts.bound = some id →
      ∃ o p r, c.outputs.get? o = some p ∧ p.renderer = some r ∧ r.handle.id = id := by
  intro start rack
  have began : start.Tracked := Rack.tracked_ofBackends backends
  have tracked : rack.Tracked := began.run past
  refine ⟨tracked.endings, tracked.told, fun id => Rack.current_run began rfl past,
    fun device request => Rack.binds_handle tracked.named device request,
    fun device request id h e needs other held =>
      Rack.handle_of_refused tracked.named device needs other held, fun id bound => ?_⟩
  obtain ⟨o, there⟩ := launched.contextsKnown.current id bound
  obtain ⟨r, opened, rfl⟩ := Option.map_eq_some_iff.1 there
  obtain ⟨p, found, renderer⟩ := Option.bind_eq_some_iff.1 opened
  exact ⟨o, p, r, found, renderer, rfl⟩

/-- Two contexts are made. The first is made current and handed back, the second cannot be made current at
first, presents then, and is given up while the mark names it. -/
def twoHandles : List (DeviceAnswers × HandleRequest) :=
  let willing := DeviceAnswers.willing
  let refusing : DeviceAnswers := { willing with call := fun _ _ _ => .error .terminated }
  [(willing, .create ⟨2, 1⟩), (willing, .create ⟨2, 1⟩), (willing, .bind ⟨1⟩), (refusing, .bind ⟨2⟩),
    (willing, .swap ⟨2⟩ ⟨"screen", .ok ()⟩), (willing, .terminate ⟨1⟩), (willing, .drop ⟨2⟩)]

/-- An output that was rendered once. -/
def oneOutput : Compositor :=
  (ofBackends {} [.software]).run <| List.map (Prod.mk .willing)
    [.addOutput "screen" ⟨2, 1⟩, .render 0]

theorem twoHandles_lifecycle :
    let rack := (Rack.ofBackends [⟨"panel", .native⟩]).run twoHandles
    (rack.endings ⟨1⟩ = 1 ∧ rack.endings ⟨2⟩ = 1 ∧ rack.contexts.bound = some ⟨2⟩) ∧
    oneOutput.contexts.bound = some ⟨1⟩ ∧
    ∃ o p r, oneOutput.outputs.get? o = some p ∧ p.renderer = some r ∧ r.handle.id = ⟨1⟩ := by
  intro rack
  have launched : oneOutput.Launched := (Launched.start _ _).run _
  obtain ⟨once, -, -, -, -, named⟩ := launched.lifecycle [⟨"panel", .native⟩] twoHandles
  exact ⟨⟨once ⟨1⟩, once ⟨2⟩, rfl⟩, rfl, named ⟨1⟩ rfl⟩

end Compositor

end Compositing
