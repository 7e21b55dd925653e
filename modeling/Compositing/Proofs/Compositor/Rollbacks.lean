import Compositing.Proofs.Compositor.Launches

/-!
# Requests that are declined

A client may ask for an object that the transport cannot make, the policy may reject a view or an
output, and a screen may find no backend. Whatever was entered by then is taken out again, so all
objects are as they were. Main statement: `Launched.rolls_back`.
-/

namespace Compositing

namespace Request

/-- A request for a new object, or for the end of a buffer. -/
def mayFail : Request → Bool
  | createSurface .. | createRegion .. | frame .. | createView .. | addOutput .. | destroyBuffer _ =>
    true
  | _ => false

/-- The protocol object of the role that a request makes a view of. -/
def role? : Request → Option Handle
  | createView _ role => some role
  | _ => none

end Request

/-- The reply says that the request failed, or that the policy rejected the object. -/
def Reply.declines : Reply → Bool
  | failed _ | view none | output none => true
  | _ => false

namespace Compositor

variable {c c' : Compositor}

/-- All objects are as they were, with the flags and the orders that the outputs keep. -/
structure SameObjects (c c' : Compositor) : Prop where
  surfaces : c'.surfaces = c.surfaces
  regions : c'.regions = c.regions
  buffers : c'.buffers = c.buffers
  views : c'.views = c.views
  outputs : c'.outputs = c.outputs
  order : c'.outputOrder = c.outputOrder
  focused : c'.focused = c.focused
  resources : c'.resources = c.resources
  bound : c'.contexts.bound = c.contexts.bound

theorem SameObjects.refl (c : Compositor) : SameObjects c c :=
  ⟨rfl, rfl, rfl, rfl, rfl, rfl, rfl, rfl, rfl⟩

/-- What the host is told of a request that is declined. A client hears of exhausted memory, and of the
end of the role of a view that is rejected. For an output a context may have been set up, which is the
only one that is then terminated. -/
def Excuse (c : Compositor) (host : Host) (told : List Event) : Request → Reply → Prop
  | .createSurface client _, _ | .createRegion client _, _ => told = [.transport (.noMemory client)]
  | .frame k _, _ =>
    told = ((c.surfaces.get? k).map fun s => .transport (.noMemory s.client)).toList
  | .createView _ role, .view none =>
    told = [.policy (.viewCreated c.nextIds.view), .transport (.destroyed role)]
  | .addOutput name reported, reply =>
    let renderer := (c.enteredOutput host name reported).renderer
    transportEvents told = [] ∧
    policyEvents told =
      (match reply with
      | .output none => [.outputCreated c.nextIds.output]
      | _ => []) ∧
    (∃ setUp, Rack.Endless setUp ∧
      told = setUp ++ renderer.elim [] fun r => r.handle.context.terminate.2) ∧
    ∀ id, told.countP (·.ends id) =
      if renderer.any fun r => r.handle.id = id ∧ r.handle.context.inMemory = false then 1 else 0
  | _, _ => told = []

/-! ### Protocol objects -/

theorem sameObjects_tell (events : List Event) : SameObjects c (c.tell events) :=
  ⟨rfl, rfl, rfl, rfl, rfl, rfl, rfl, rfl, rfl⟩

theorem createResource_error {host : Host} {kind : ResourceKind} {client : ClientId} {id : UInt32}
    {what : String} {e : CompositorError}
    (failed : (c.createResource host kind client id what).1 = .error e) :
    c.createResource host kind client id what = (.error e, c.tell [.transport (.noMemory client)]) := by
  unfold createResource at failed ⊢
  split at failed
  · cases failed
  · cases failed
    rfl

theorem settle_declines {α : Type} (reply : α → Reply) {result : Except CompositorError α × Compositor}
    (declined : (settle reply result).1.declines = true) (accepts : ∀ a, (reply a).declines = false) :
    ∃ e, result.1 = .error e := by
  obtain ⟨answer, d⟩ := result
  cases answer with
  | ok a => rw [settle, accepts a] at declined; cases declined
  | error e => exact ⟨e, rfl⟩

theorem createSurface_error {host : Host} {client : ClientId} {id : UInt32} {e : CompositorError}
    (failed : (c.createSurface host client id).1 = .error e) :
    (c.createSurface host client id).2 = c.tell [.transport (.noMemory client)] := by
  unfold createSurface at failed ⊢
  cases made : (c.createResource host .surface client id "surface").1 with
  | ok h =>
    split at failed
    next eq => rw [eq] at made; cases made
    next => cases failed
  | error e => rw [createResource_error made]

theorem createRegion_error {host : Host} {client : ClientId} {id : UInt32} {e : CompositorError}
    (failed : (c.createRegion host client id).1 = .error e) :
    (c.createRegion host client id).2 = c.tell [.transport (.noMemory client)] := by
  unfold createRegion at failed ⊢
  cases made : (c.createResource host .region client id "region").1 with
  | ok h =>
    split at failed
    next eq => rw [eq] at made; cases made
    next => cases failed
  | error e => rw [createResource_error made]

theorem requestFrame_error {host : Host} {k : SurfaceId} {callback : UInt32} {e : CompositorError}
    (failed : (c.requestFrame host k callback).1 = .error e) :
    (c.requestFrame host k callback).2 =
      c.tell ((c.surfaces.get? k).map fun s => .transport (.noMemory s.client)).toList := by
  unfold requestFrame at failed ⊢
  cases found : c.surfaces.get? k with
  | none => simp [tell]
  | some s =>
    simp only [found] at failed ⊢
    cases made : (c.createResource host .callback s.client callback "frame callback").1 with
    | ok h =>
      split at failed
      next eq => rw [eq] at made; cases made
      next => cases failed
    | error e => rw [createResource_error made]; rfl

theorem destroyBuffer_error {buffer : BufferId} {e : CompositorError}
    (failed : (c.destroyBuffer buffer).1 = .error e) : (c.destroyBuffer buffer).2 = c := by
  unfold destroyBuffer at failed ⊢
  split at failed
  · cases failed
  · rfl

/-! ### Views -/

theorem createView_error {host : Host} {k : SurfaceId} {role : Handle} {e : CompositorError}
    (failed : (c.createView host k role).1 = .error e) : (c.createView host k role).2 = c := by
  rcases createView_cases (c := c) host k role with ⟨e, failed⟩ | ⟨view, d, made, -⟩
  · rw [failed]
  · rw [made] at failed
    cases failed

/-- A view that is rejected leaves nothing behind but its name. -/
theorem createView_rejected (linked : c.Linked) {host : Host} {k : SurfaceId} {role : Handle}
    (unused : c.resources.get? role = none) (rejected : (c.createView host k role).1 = .ok none) :
    (c.createView host k role).2 =
      { c with
        nextIds := { c.nextIds with view := c.nextIds.view.next }
        log := c.log ++ [.policy (.viewCreated c.nextIds.view), .transport (.destroyed role)] } := by
  have fresh := linked.view_fresh
  have unfocused : c.focused ≠ some c.nextIds.view := fun focused => by
    obtain ⟨view, there⟩ := linked.focus_exists _ focused
    rw [fresh] at there
    cases there
  unfold createView at rejected ⊢
  cases found : c.surfaces.get? k with
  | none => simp [found] at rejected
  | some s =>
    by_cases taken : s.view.isSome
    · simp [found, taken] at rejected
    · simp only [found, taken, Bool.false_eq_true, if_false] at rejected ⊢
      split at rejected
      · cases rejected
      next declined =>
        -- The surface had no role before, and has none again.
        have bare : (c.surfaces.modify k fun s => { s with view := some c.nextIds.view }).modify k
            (fun s => { s with view := none }) = c.surfaces := by
          rw [Table.modify, Table.modify, Table.map_map]
          refine Table.map_self fun x t there => ?_
          split
          next same =>
            obtain rfl : t = s := Option.some.inj (there.symm.trans (same ▸ found))
            rw [Option.not_isSome_iff_eq_none] at taken
            rw [← taken]
          next => rfl
        rw [if_neg declined, @discardView_eq _ _ (.ofRole c.nextIds.view k role)
          ((Table.get?_insert ..).trans (if_pos rfl))]
        simp only [View.ofRole, View.role, Link.handle?, destroyResource, leaveOutput, modifySurface,
          own, disown, tellPolicy, tellTransport, tell, bare, Table.erase_insert fresh,
          Table.erase_insert unused, List.append_assoc, List.cons_append, List.nil_append]
        exact congrArg (fun focused => ({ c with
          focused, nextIds := { c.nextIds with view := c.nextIds.view.next }
          log := c.log ++ [.policy (.viewCreated c.nextIds.view), .transport (.destroyed role)] } :
            Compositor)) (if_neg unfocused)

/-! ### Outputs -/

/-- An output that is given up before anything was shown on it leaves nothing behind but its name and
that of its context. -/
theorem discard_entered (known : c.ContextsKnown) (linked : c.Linked) (host : Host) (name : String)
    (reported : Size) (judged : List Event) :
    let renderer := (c.enteredOutput host name reported).renderer
    ∃ setUp nextId, Technical setUp ∧ Rack.Endless setUp ∧
      (((c.entered host name reported).tell judged).discardOutput c.nextIds.output).2 =
        { c with
          contexts := { c.contexts with nextId }
          nextIds := { c.nextIds with output := c.nextIds.output.next }
          log := c.log ++ (setUp ++ judged ++
            renderer.elim [] fun r => r.handle.context.terminate.2) } := by
  obtain ⟨setUp, technical, endless, entered, new⟩ := c.entered_eq host name reported
  have creation : (c.enteredOutput host name reported).creationOrder = [] := rfl
  generalize c.enteredOutput host name reported = p at entered new creation ⊢
  have fresh := linked.output_fresh
  have absent : c.nextIds.output ∉ c.outputOrder := by simp [linked.mem_order, fresh]
  have order : (c.outputOrder ++ [c.nextIds.output]).filter (· ≠ c.nextIds.output) =
      c.outputOrder := by
    rw [List.filter_append, List.filter_eq_self.2 fun o member => by
      simpa using fun same : o = c.nextIds.output => absent (same ▸ member)]
    simp
  have found : ((c.entered host name reported).tell judged).outputs.get? c.nextIds.output =
      some p := by
    rw [entered]
    exact (Table.get?_insert ..).trans (if_pos rfl)
  refine ⟨setUp, p.renderer.elim c.contexts.nextId fun _ => c.contexts.nextId.next, technical,
    endless, ?_⟩
  simp only [discardOutput, found, creation, List.foldl_nil]
  cases renderer : p.renderer with
  | none =>
    simp only [entered, renderer, tell, Table.erase_insert fresh, order, Option.elim,
      List.append_assoc, List.append_nil]
  | some r =>
    obtain ⟨id, bare⟩ := new r renderer
    -- The context was never current, and has no images to drop.
    have ended (contexts : Contexts) (bound : contexts.bound = c.contexts.bound) :
        r.terminate contexts = (contexts, r.handle.context.terminate.2) := by
      have current : contexts.bound ≠ some r.handle.id := by
        rw [bound, id]
        exact known.fresh
      simp only [Renderer.terminate, bare, Contexts.terminate]
      exact congrArg (·, _) (by rw [show (Table.empty : Table SurfaceId ImageId).keys = [] from rfl,
        List.foldl_nil, if_neg current])
    simp only [entered, renderer, tell, Table.erase_insert fresh, order, Option.elim,
      List.append_assoc]
    rw [ended { c.contexts with nextId := c.contexts.nextId.next } rfl]

/-- The policy hears of an output that it rejects, and of none that cannot be rendered. -/
theorem addOutput_declined (known : c.ContextsKnown) (linked : c.Linked) {host : Host} {name : String}
    {reported : Size} (declined : (settle .output (c.addOutput host name reported)).1.declines = true) :
    SameObjects c (c.addOutput host name reported).2 ∧
    ∃ told, (c.addOutput host name reported).2.log = c.log ++ told ∧
      Excuse c host told (.addOutput name reported)
        (settle .output (c.addOutput host name reported)).1 := by
  -- Whatever was said of the output, what is left is the same.
  have excused (judged : List Event) (reply : Reply) (deaf : transportEvents judged = [])
      (endless : Rack.Endless judged)
      (heard : policyEvents judged =
        match reply with
        | .output none => [.outputCreated c.nextIds.output]
        | _ => []) :
      let d := (((c.entered host name reported).tell judged).discardOutput c.nextIds.output).2
      SameObjects c d ∧ ∃ told, d.log = c.log ++ told ∧
        Excuse c host told (.addOutput name reported) reply := by
    obtain ⟨setUp, nextId, technical, quiet, eq⟩ :=
      discard_entered known linked host name reported judged
    simp only [Excuse]
    generalize (c.enteredOutput host name reported).renderer = renderer at eq ⊢
    have ended : Technical (renderer.elim [] fun r => r.handle.context.terminate.2) := by
      cases renderer <;> simp
    have begun : Rack.Endless (setUp ++ judged) := fun event member context =>
      (List.mem_append.1 member).elim (fun member => quiet event member context)
        fun member => endless event member context
    rw [eq]
    refine ⟨⟨rfl, rfl, rfl, rfl, rfl, rfl, rfl, rfl, rfl⟩, _, rfl, ?_, ?_, ⟨_, begun, rfl⟩,
      fun id => ?_⟩
    · simp [technical, ended, deaf]
    · simpa [technical, ended] using heard
    · rw [List.countP_append, begun.count, Nat.zero_add]
      cases renderer with
      | none => rfl
      | some r =>
        rw [Option.elim_some, RenderContext.ends_terminate, Option.any_some]
        exact if_congr decide_eq_true_iff.symm rfl rfl
  rw [addOutput_eq] at declined ⊢
  simp only at declined ⊢
  split
  · have excused := excused [] (.failed .noRenderableOutput) rfl nofun rfl
    rwa [show (c.entered host name reported).tell [] = c.entered host name reported by
      simp [tell]] at excused
  next renderable =>
    rw [if_neg renderable] at declined
    split
    next accepted =>
      rw [if_pos accepted] at declined
      cases declined
    · exact excused [.policy (.outputCreated c.nextIds.output)] (.output none) rfl
        (fun event member context => by cases List.mem_singleton.1 member; rfl) rfl

/-! ### Every request -/

/-- A request that fails, or whose object the policy rejects, leaves all objects as they were, with the
mark of the context that is current. Of what was tried the host hears no more than what says so. -/
theorem Launched.rolls_back (launched : c.Launched) (host : Host) (request : Request)
    (fails : request.mayFail = true)
    (unused : ∀ role, request.role? = some role → c.resources.get? role = none)
    (declined : (c.handle host request).1.declines = true) :
    SameObjects c (c.handle host request).2 ∧
    ∃ told, (c.handle host request).2.log = c.log ++ told ∧
      Excuse c host told request (c.handle host request).1 := by
  have linked := launched.reachable.linked
  cases request with
  | createSurface client id =>
    obtain ⟨e, failed⟩ := settle_declines .surface declined fun _ => rfl
    simp only [Compositor.handle, settle_snd, createSurface_error failed]
    exact ⟨sameObjects_tell _, _, rfl, rfl⟩
  | createRegion client id =>
    obtain ⟨e, failed⟩ := settle_declines .region declined fun _ => rfl
    simp only [Compositor.handle, settle_snd, createRegion_error failed]
    exact ⟨sameObjects_tell _, _, rfl, rfl⟩
  | frame k callback =>
    obtain ⟨e, failed⟩ := settle_declines (fun _ => .done) declined fun _ => rfl
    simp only [Compositor.handle, settle_snd, requestFrame_error failed]
    exact ⟨sameObjects_tell _, _, rfl, rfl⟩
  | destroyBuffer buffer =>
    obtain ⟨e, failed⟩ :=
      settle_declines (fun release => .pool (.ended (some release))) declined fun _ => rfl
    simp only [Compositor.handle, settle_snd, destroyBuffer_error failed]
    exact ⟨.refl c, [], (List.append_nil _).symm, rfl⟩
  | createView k role =>
    cases asked : (c.createView host k role).1 with
    | error e =>
      simp only [Compositor.handle, createView_error asked, settle, asked]
      exact ⟨.refl c, [], (List.append_nil _).symm, rfl⟩
    | ok view =>
      cases view with
      | some v => simp only [Compositor.handle, settle, asked] at declined; cases declined
      | none =>
        simp only [Compositor.handle, createView_rejected linked (unused role rfl) asked, settle, asked]
        exact ⟨⟨rfl, rfl, rfl, rfl, rfl, rfl, rfl, rfl, rfl⟩, _, rfl, rfl⟩
  | addOutput name reported =>
    have rolled := addOutput_declined launched.contextsKnown linked declined
    simp only [Compositor.handle, settle_snd]
    exact rolled
  | _ => cases fails

/-- A host that wants neither views nor outputs. -/
def unwilling : Host :=
  { Host.willing with acceptView := fun _ => false, acceptOutput := fun _ => false }

/-- A surface with a pending callback, and an output that was rendered. -/
def oneSurface : Compositor :=
  (ofBackends {} [⟨"panel", .native⟩]).run <| List.map (Prod.mk .willing)
    [.addOutput "screen" ⟨2, 1⟩, .createSurface ⟨1⟩ 1, .frame ⟨1⟩ 2, .render 0]

theorem unwilling_rolls_back :
    (oneSurface.resources.get? ⟨⟨1⟩, 3⟩ = none ∧
      (oneSurface.handle unwilling (.createView ⟨1⟩ ⟨⟨1⟩, 3⟩)).1.declines = true ∧
      SameObjects oneSurface (oneSurface.handle unwilling (.createView ⟨1⟩ ⟨⟨1⟩, 3⟩)).2) ∧
    ∃ told, (oneSurface.handle unwilling (.addOutput "other" ⟨2, 1⟩)).2.log =
      oneSurface.log ++ told ∧ told.countP (·.ends ⟨2⟩) = 1 := by
  have launched : oneSurface.Launched := (Launched.start _ _).run _
  have unused : oneSurface.resources.get? ⟨⟨1⟩, 3⟩ = none := by decide
  obtain ⟨same, -⟩ := launched.rolls_back unwilling (.createView ⟨1⟩ ⟨⟨1⟩, 3⟩) rfl
    (fun role asked => by cases asked; exact unused) rfl
  obtain ⟨-, told, log, -, -, -, once⟩ := launched.rolls_back unwilling
    (.addOutput "other" ⟨2, 1⟩) rfl (fun role asked => by cases asked) rfl
  exact ⟨⟨unused, rfl, same⟩, told, log, (once ⟨2⟩).trans rfl⟩

end Compositor

end Compositing
