import Compositing.Proofs.Rendering.Handles

/-!
# Degraded contexts

A context whose frame the screen did not take is degraded: nothing is presented through it until that is
cleared. Main statements: `Rack.degraded_run` says of every history of requests which contexts it leaves
degraded, `Rack.presents_iff` and `Rack.skips_iff` what a request to present then does, and
`Rack.Beside.run` that how the frames of one context are taken makes no difference to the others.
-/

namespace Compositing

/-! ### Presenting -/

namespace Contexts

/-- What presenting comes to for those who ask for it: a flip that the screen refuses is no error. -/
def forgiven : Except RenderError Unit → Except RenderError Unit
  | .error (.pageFlip _) => .ok ()
  | result => result

/-- The screen refused the flip. -/
def refusesFlip : Except RenderError Unit → Bool
  | .error (.pageFlip _) => true
  | _ => false

theorem refusesFlip_iff {result : Except RenderError Unit} :
    refusesFlip result = true ↔ ∃ reason, result = .error (.pageFlip reason) := by
  unfold refusesFlip
  split <;> simp_all

/-- All errors but one are passed on. -/
theorem forgiven_error {e : RenderError} (other : ∀ reason, e ≠ .pageFlip reason) :
    forgiven (.error e) = .error e := by
  unfold forgiven
  split
  next reason same => exact absurd (Except.error.inj same) (other reason)
  next => rfl

variable (cs : Contexts) (device : DeviceAnswers) {h : RenderHandle} (screen : Screen)

theorem swap_of_unbound {e : RenderError} (refused : (cs.bind device h).result = .error e) :
    cs.swap device h screen = cs.bind device h := by
  simp only [swap, refused]

theorem swap_of_degraded (bound : (cs.bind device h).result = .ok ()) (degraded : h.degraded = true) :
    cs.swap device h screen = cs.bind device h := by
  have same : (cs.bind device h).handle = h := cs.bind_handle device h
  unfold swap
  generalize cs.bind device h = step at bound same
  obtain ⟨result, contexts, handle, events⟩ := step
  subst bound same
  have marked : handle.degraded = true := degraded
  simp [present, marked]

theorem swap_of_sound (bound : (cs.bind device h).result = .ok ()) (sound : h.degraded = false) :
    cs.swap device h screen =
      ⟨forgiven (h.context.swap device screen).result, (cs.bind device h).contexts,
        { h with degraded := refusesFlip (h.context.swap device screen).result },
        (cs.bind device h).events ++ (h.context.swap device screen).events⟩ := by
  have same : (cs.bind device h).handle = h := cs.bind_handle device h
  have context : (h.context.swap device screen).context = h.context := h.context.swap_context ..
  simp only [swap, bound, present, same, sound, context, Bool.false_eq_true, if_false]
  -- A refused flip marks the handle, all else leaves it as it was.
  split <;> simp_all [forgiven, refusesFlip]

end Contexts

namespace RenderContext

/-- Presenting is heard of, unless the context was terminated. -/
theorem events_swap_ne_nil (ctx : RenderContext) (device : DeviceAnswers) (screen : Screen)
    (shown : Contexts.forgiven (ctx.swap device screen).result = .ok ()) :
    (ctx.swap device screen).events ≠ [] := by
  obtain ⟨id, backend, engine⟩ := ctx
  cases engine with
  | memory canvas =>
    cases canvas with
    | live fb images =>
      simp only [swap, flipCanvas, Canvas.checkLive, flip]
      split <;> simp
    | terminated size => simp [swap, flipCanvas, Canvas.checkLive, Contexts.forgiven] at shown
  -- A device hears of every frame, whatever it answers.
  | device canvas images | native =>
    simp only [swap, ask]
    split <;> simp

end RenderContext

/-! ### What a request to present does -/

namespace Rack

/-- The request hands the frame over: the host hears of it after what it hears of making the context
current, and the answer is what handing over gave. -/
structure Presents (rack : Rack) (device : DeviceAnswers) (screen : Screen) (context : ContextId)
    (h : RenderHandle) : Prop where
  log : (rack.handle device (.swap context screen)).log = rack.log ++
    ((rack.contexts.bind device h).events ++ (h.context.swap device screen).events)
  answer : rack.answer? device (.swap context screen) =
    some (Contexts.forgiven (h.context.swap device screen).result)

/-- The request does no more than make the context current, and is answered that all is well. -/
structure Skips (rack : Rack) (device : DeviceAnswers) (screen : Screen) (context : ContextId)
    (h : RenderHandle) : Prop where
  log : (rack.handle device (.swap context screen)).log =
    rack.log ++ (rack.contexts.bind device h).events
  answer : rack.answer? device (.swap context screen) = some (.ok ())

variable {rack : Rack} {device : DeviceAnswers} {screen : Screen} {context : ContextId}
  {h : RenderHandle}

theorem handle_swap (held : rack.handles.get? context = some h) :
    rack.handle device (.swap context screen) =
      rack.settle (rack.contexts.swap device h screen) := by
  simp only [handle, held, Option.elim_some]

theorem answer?_swap (held : rack.handles.get? context = some h) :
    rack.answer? device (.swap context screen) =
      some (rack.contexts.swap device h screen).result := by
  simp only [answer?, held, Option.map_some]

theorem Presents.not_skips (presents : rack.Presents device screen context h) :
    ¬rack.Skips device screen context h := by
  intro skips
  have shown := Option.some.inj (presents.answer.symm.trans skips.answer)
  have silent := presents.log.symm.trans skips.log
  rw [List.append_cancel_left_eq, List.append_right_eq_self] at silent
  exact h.context.events_swap_ne_nil device screen shown silent

section

variable (held : rack.handles.get? context = some h)
  (bound : (rack.contexts.bind device h).result = .ok ())

include held bound

theorem presents_of_sound (sound : h.degraded = false) : rack.Presents device screen context h := by
  have swap := rack.contexts.swap_of_sound device screen bound sound
  exact ⟨by rw [handle_swap held, swap, settle, tell], by rw [answer?_swap held, swap]⟩

theorem skips_of_degraded (degraded : h.degraded = true) : rack.Skips device screen context h := by
  have swap := rack.contexts.swap_of_degraded device screen bound degraded
  exact ⟨by rw [handle_swap held, swap, settle, tell], by rw [answer?_swap held, swap, bound]⟩

/-- A context presents exactly if it is not degraded. -/
theorem presents_iff : rack.Presents device screen context h ↔ h.degraded = false := by
  refine ⟨fun presents => ?_, presents_of_sound held bound⟩
  cases degraded : h.degraded with
  | false => rfl
  | true => exact absurd (skips_of_degraded held bound degraded) presents.not_skips

theorem skips_iff : rack.Skips device screen context h ↔ h.degraded = true := by
  refine ⟨fun skips => ?_, skips_of_degraded held bound⟩
  cases degraded : h.degraded with
  | true => rfl
  | false => exact absurd skips (presents_of_sound held bound degraded).not_skips

end

/-! ### Which contexts a history leaves degraded -/

/-- The request hands a frame over, and the screen refuses the flip. -/
def FlipFails (rack : Rack) (device : DeviceAnswers) (screen : Screen) (context : ContextId) : Prop :=
  ∃ h, rack.handles.get? context = some h ∧ (rack.contexts.bind device h).result = .ok () ∧
    rack.Presents device screen context h ∧
    ∃ reason, (h.context.swap device screen).result = .error (.pageFlip reason)

/-- A flip of the context failed, and that was not cleared since. -/
def FlipFailing (rack : Rack) (past : List (DeviceAnswers × HandleRequest)) (context : ContextId) :
    Prop :=
  ∃ before device screen after, past = before ++ (device, .swap context screen) :: after ∧
    (rack.run before).FlipFails device screen context ∧
    ∀ other, (other, .clearDegraded context) ∉ after

theorem not_flipFailing_nil : ¬rack.FlipFailing [] context := by
  rintro ⟨before, _, _, after, split, -⟩
  simp at split

theorem flipFailing_concat_iff {past : List (DeviceAnswers × HandleRequest)}
    {request : HandleRequest} : rack.FlipFailing (past ++ [(device, request)]) context ↔
      (rack.FlipFailing past context ∧ request ≠ .clearDegraded context) ∨
      ∃ screen, request = .swap context screen ∧
        (rack.run past).FlipFails device screen context := by
  constructor
  · rintro ⟨before, device', screen, after, split, failed, uncleared⟩
    rcases concat_eq_append_cons_iff.1 split with ⟨rfl, same, -⟩ | ⟨rest, rfl, rfl⟩
    · cases same
      exact .inr ⟨screen, rfl, failed⟩
    · refine .inl ⟨⟨before, device', screen, rest, rfl, failed, fun other member => ?_⟩, ?_⟩
      · exact uncleared other (List.mem_append_left _ member)
      · rintro rfl
        exact uncleared device (by simp)
  · rintro (⟨⟨before, device', screen, after, rfl, failed, uncleared⟩, last⟩ | ⟨screen, rfl, failed⟩)
    · refine ⟨before, device', screen, after ++ [(device, request)], by simp, failed, ?_⟩
      intro other member
      rcases List.mem_append.1 member with earlier | now
      · exact uncleared other earlier
      · exact last (congrArg Prod.snd (List.mem_singleton.1 now)).symm
    · exact ⟨past, device, screen, [], rfl, failed, fun _ member => by cases member⟩

theorem flipFails_iff (held : rack.handles.get? context = some h) :
    rack.FlipFails device screen context ↔ (rack.contexts.bind device h).result = .ok () ∧
      h.degraded = false ∧
      Contexts.refusesFlip (h.context.swap device screen).result = true := by
  rw [Contexts.refusesFlip_iff]
  constructor
  · rintro ⟨g, found, bound, presents, refused⟩
    cases held.symm.trans found
    exact ⟨bound, (presents_iff held bound).1 presents, refused⟩
  · rintro ⟨bound, sound, refused⟩
    exact ⟨h, held, bound, (presents_iff held bound).2 sound, refused⟩

/-- What presenting leaves of the mark. -/
theorem degraded_swap (cs : Contexts) (device : DeviceAnswers) (h : RenderHandle) (screen : Screen) :
    (cs.swap device h screen).handle.degraded = true ↔ h.degraded = true ∨
      ((cs.bind device h).result = .ok () ∧ h.degraded = false ∧
        Contexts.refusesFlip (h.context.swap device screen).result = true) := by
  have same : (cs.bind device h).handle = h := cs.bind_handle device h
  cases bound : (cs.bind device h).result with
  | error e => simp [cs.swap_of_unbound device screen bound, same]
  | ok _ =>
    cases marked : h.degraded with
    | true => simp [cs.swap_of_degraded device screen bound marked, same, marked]
    | false => simp [cs.swap_of_sound device screen bound marked]

/-- The mark of a handle before and after a request: it was set by the request, or was there and is not
cleared by it. -/
def Marks (rack : Rack) (device : DeviceAnswers) (request : HandleRequest) (context : ContextId)
    (h h' : RenderHandle) : Prop :=
  h'.degraded = true ↔ (h.degraded = true ∧ request ≠ .clearDegraded context) ∨
    ∃ screen, request = .swap context screen ∧ rack.FlipFails device screen context

/-- A handle that is there after a request was new then, or its mark is as the request leaves it. -/
theorem marks_handle (tracked : rack.Tracked) (device : DeviceAnswers) (request : HandleRequest)
    {context : ContextId} {h' : RenderHandle}
    (held' : (rack.handle device request).handles.get? context = some h') :
    (context = rack.contexts.nextId ∧ rack.handles.get? context = none ∧ h'.degraded = false) ∨
    ∃ h, rack.handles.get? context = some h ∧ rack.Marks device request context h h' := by
  have named := tracked.named
  have unused : rack.handles.get? rack.contexts.nextId = none := by
    refine Option.eq_none_iff_forall_ne_some.2 fun h held => ?_
    exact Nat.lt_irrefl _ (tracked.used _ h held).2
  -- A request about another handle, or one that leaves the mark alone.
  have kept (held : rack.handles.get? context = some h') (uncleared : request ≠ .clearDegraded context)
      (unshown : ∀ screen, request ≠ .swap context screen) :
      ∃ h, rack.handles.get? context = some h ∧ rack.Marks device request context h h' := by
    refine ⟨h', held, ?_⟩
    rw [Marks, and_iff_left uncleared]
    refine ⟨.inl, fun marked => marked.resolve_right ?_⟩
    rintro ⟨screen, shown, -⟩
    exact unshown screen shown
  have began {h : RenderHandle} (new : h.id = rack.contexts.nextId) (fresh : h.degraded = false)
      (held' : (rack.handles.insert h.id h).get? context = some h')
      (uncleared : request ≠ .clearDegraded context)
      (unshown : ∀ screen, request ≠ .swap context screen) :
      (context = rack.contexts.nextId ∧ rack.handles.get? context = none ∧ h'.degraded = false) ∨
      ∃ h, rack.handles.get? context = some h ∧ rack.Marks device request context h h' := by
    rw [new, Table.get?_insert] at held'
    split at held'
    next here =>
      cases held'
      exact .inl ⟨here, here ▸ unused, fresh⟩
    next => exact .inr (kept held' uncleared unshown)
  cases request with
  | create size =>
    rcases rack.contexts.create_eq device size with ⟨h, made, new, fresh, -⟩ | ⟨e, failed⟩
    · simp only [handle, made] at held'
      exact began new fresh held' (by simp) (by simp)
    · simp only [handle, failed] at held'
      exact .inr (kept held' (by simp) (by simp))
  | adopt backend engine => exact began (h := { context := _ }) rfl rfl held' (by simp) (by simp)
  | bind x =>
    refine .inr ?_
    cases there : rack.handles.get? x with
    | none =>
      simp only [handle, there, Option.elim_none] at held'
      exact kept held' (by simp) (by simp)
    | some h =>
      have same : (rack.contexts.bind device h).handle = h := rack.contexts.bind_handle device h
      simp only [handle, there, Option.elim_some, settle, tell, same, named x h there,
        Table.get?_insert] at held'
      split at held'
      next here =>
        cases held'
        exact kept (here ▸ there) (by simp) (by simp)
      next => exact kept held' (by simp) (by simp)
  | swap x screen =>
    refine .inr ?_
    cases there : rack.handles.get? x with
    | none =>
      simp only [handle, there, Option.elim_none] at held'
      have other : x ≠ context := fun same => by simp [same ▸ there] at held'
      exact kept held' (by simp) fun _ same => other (HandleRequest.swap.inj same).1
    | some h =>
      have same : (rack.contexts.swap device h screen).handle.id = x :=
        (congrArg RenderContext.id (rack.contexts.swap_handle_context device h screen)).trans
          (named x h there)
      simp only [handle, there, Option.elim_some, settle, tell, same, Table.get?_insert] at held'
      split at held'
      next here =>
        cases held'
        subst here
        refine ⟨h, there, (degraded_swap ..).trans (or_congr (and_iff_left (by simp)).symm ?_)⟩
        rw [← flipFails_iff there]
        refine ⟨fun failed => ⟨screen, rfl, failed⟩, ?_⟩
        rintro ⟨screen', same, failed⟩
        exact (HandleRequest.swap.inj same).2 ▸ failed
      next other =>
        exact kept held' (by simp) fun _ same => other (HandleRequest.swap.inj same).1.symm
  | clearDegraded x =>
    refine .inr ?_
    cases there : rack.handles.get? x with
    | none =>
      simp only [handle, there, Option.elim_none] at held'
      have other : x ≠ context := fun same => by simp [same ▸ there] at held'
      exact kept held' (fun same => other (HandleRequest.clearDegraded.inj same)) (by simp)
    | some h =>
      have same : h.clearDegraded.id = x := named x h there
      simp only [handle, there, Option.elim_some, hold, same, Table.get?_insert] at held'
      split at held'
      next here =>
        cases held'
        subst here
        exact ⟨h, there, by simp [Marks, RenderHandle.clearDegraded]⟩
      next other =>
        exact kept held' (fun same => other (HandleRequest.clearDegraded.inj same).symm) (by simp)
  | terminate x | drop x =>
    refine .inr ?_
    cases there : rack.handles.get? x with
    | none =>
      simp only [handle, there, Option.elim_none] at held'
      exact kept held' (by simp) (by simp)
    | some h =>
      simp only [handle, there, Option.elim_some, note, tell, Contexts.terminate, Table.get?_erase,
        Option.ite_none_left_eq_some] at held'
      exact kept held'.2 (by simp) (by simp)

/-- A name that was given stays given. -/
theorem Step.used {rack' : Rack} (step : rack.Step rack') (used : rack.Used context) :
    rack'.Used context := by
  cases step with
  | began => exact ⟨used.1, Nat.lt_succ_of_lt used.2⟩
  | _ => exact used

theorem FlipFailing.used (tracked : rack.Tracked) {past : List (DeviceAnswers × HandleRequest)}
    (failing : rack.FlipFailing past context) : (rack.run past).Used context := by
  induction past using List.reverseRecOn with
  | nil => exact absurd failing not_flipFailing_nil
  | append_singleton past request ih =>
    obtain ⟨device, request⟩ := request
    have before := tracked.run past
    have used : (rack.run past).Used context := by
      rcases flipFailing_concat_iff.1 failing with ⟨earlier, -⟩ | ⟨screen, -, h, held, -⟩
      · exact ih earlier
      · exact before.used context h held
    rw [run_concat]
    exact (step_handle before.named device request).used used

/-- After any history a context is degraded exactly if a flip of it failed that was not cleared since. -/
theorem degraded_run (tracked : rack.Tracked)
    (sound : ∀ context h, rack.handles.get? context = some h → h.degraded = false)
    (past : List (DeviceAnswers × HandleRequest)) {context : ContextId} {h : RenderHandle}
    (held : (rack.run past).handles.get? context = some h) :
    h.degraded = true ↔ rack.FlipFailing past context := by
  induction past using List.reverseRecOn generalizing h with
  | nil => simp [sound context h held, not_flipFailing_nil]
  | append_singleton past request ih =>
    obtain ⟨device, request⟩ := request
    have before := tracked.run past
    rw [run_concat] at held
    rw [flipFailing_concat_iff]
    rcases marks_handle before device request held with ⟨new, absent, fresh⟩ | ⟨g, found, marked⟩
    · -- Nothing was shown through a context whose name was not given yet.
      have unfailing : ¬rack.FlipFailing past context := fun failing => by
        have drawn := (failing.used tracked).2
        rw [new] at drawn
        exact Nat.lt_irrefl _ drawn
      rw [fresh]
      refine ⟨nofun, ?_⟩
      rintro (⟨failing, -⟩ | ⟨screen, -, g, found, -⟩)
      · exact absurd failing unfailing
      · cases absent.symm.trans found
    · exact marked.trans (or_congr_left (and_congr_left' (ih found)))

/-! ### Contexts beside a degraded one -/

/-- Requests that differ at most in how devices and screens take what is presented in one context. -/
inductive Alike (context : ContextId) :
    DeviceAnswers × HandleRequest → DeviceAnswers × HandleRequest → Prop
  | same (request : DeviceAnswers × HandleRequest) : Alike context request request
  | shown {device device' : DeviceAnswers} {screen screen' : Screen}
    (binds : ∀ backend, device'.call context backend .bind = device.call context backend .bind) :
    Alike context (device, .swap context screen) (device', .swap context screen')

/-- Handles of one context, and the same one if it is not the context in question. -/
def Twins (context x : ContextId) (h h' : RenderHandle) : Prop :=
  h'.context = h.context ∧ (x ≠ context → h' = h)

/-- The same contexts are there and the same one is current. Only the mark of one handle may differ. -/
structure Beside (context : ContextId) (rack rack' : Rack) : Prop where
  contexts : rack'.contexts = rack.contexts
  handles : ∀ x, Option.Rel (Twins context x) (rack.handles.get? x) (rack'.handles.get? x)

theorem Twins.refl (context x : ContextId) (h : RenderHandle) : Twins context x h h :=
  ⟨rfl, fun _ => rfl⟩

theorem Beside.refl (context : ContextId) (rack : Rack) : Beside context rack rack :=
  ⟨rfl, fun x => rel_refl (Twins.refl context x) _⟩

section

variable {t t' : Table ContextId RenderHandle} {x : ContextId}
  (rel : ∀ x, Option.Rel (Twins context x) (t.get? x) (t'.get? x))

include rel

theorem rel_insert {k : ContextId} {h h' : RenderHandle} (twins : Twins context k h h') :
    Option.Rel (Twins context x) ((t.insert k h).get? x) ((t'.insert k h').get? x) := by
  rw [Table.get?_insert, Table.get?_insert]
  split
  next here => exact .some (here ▸ twins)
  next => exact rel x

theorem rel_erase (k : ContextId) :
    Option.Rel (Twins context x) ((t.erase k).get? x) ((t'.erase k).get? x) := by
  rw [Table.get?_erase, Table.get?_erase]
  split
  · exact .none
  · exact rel x

end

/-- Making a context current asks the device about nothing else, and does not look at the mark. -/
theorem bind_congr (cs : Contexts) {device device' : DeviceAnswers} {h h' : RenderHandle}
    (same : h'.context = h.context)
    (binds : ∀ backend, device'.call h.id backend .bind = device.call h.id backend .bind) :
    (cs.bind device' h').contexts = (cs.bind device h).contexts := by
  have asked : h.context.bind device' = h.context.bind device := by
    unfold RenderHandle.id at binds
    unfold RenderContext.bind RenderContext.onCanvas RenderContext.ask
    rw [binds]
  unfold Contexts.bind RenderHandle.id
  rw [same, asked]
  split
  · rfl
  · simp only
    split <;> rfl

variable {rack' : Rack}

/-- Work on one handle under both histories. -/
theorem Beside.work (beside : Beside context rack rack') {x : ContextId}
    {work work' : RenderHandle → Rack} (works : ∀ h h', rack.handles.get? x = some h →
      rack'.handles.get? x = some h' → Twins context x h h' → Beside context (work h) (work' h')) :
    Beside context ((rack.handles.get? x).elim rack work)
      ((rack'.handles.get? x).elim rack' work') := by
  cases there : rack.handles.get? x with
  | none =>
    have absent : rack'.handles.get? x = none := none_of_rel (there ▸ beside.handles x)
    rw [absent]
    exact beside
  | some h =>
    obtain ⟨h', there', twins⟩ := found_of_rel_left (beside.handles x) there
    rw [there']
    exact works h h' there there' twins

theorem Beside.swap (beside : Beside context rack rack') {x : ContextId} {h h' : RenderHandle}
    (twins : Twins context x h h') {device device' : DeviceAnswers} {screen screen' : Screen}
    (binds : ∀ backend, device'.call h.id backend .bind = device.call h.id backend .bind)
    (shown : Twins context h.id (rack.contexts.swap device h screen).handle
      (rack.contexts.swap device' h' screen').handle) :
    Beside context (rack.settle (rack.contexts.swap device h screen))
      (rack'.settle (rack'.contexts.swap device' h' screen')) := by
  have id : (rack.contexts.swap device h screen).handle.id = h.id :=
    congrArg RenderContext.id (rack.contexts.swap_handle_context device h screen)
  have id' : (rack.contexts.swap device' h' screen').handle.id = h.id :=
    (congrArg RenderContext.id (rack.contexts.swap_handle_context device' h' screen')).trans
      (congrArg RenderContext.id twins.1)
  rw [beside.contexts]
  refine ⟨?_, fun y => ?_⟩
  · simp only [settle, tell, (swap_eq ..).1]
    exact bind_congr _ twins.1 binds
  · simp only [settle, tell, id, id']
    exact rel_insert beside.handles shown

theorem Beside.handle (beside : Beside context rack rack') (named : rack.Named)
    {request request' : DeviceAnswers × HandleRequest} (alike : Alike context request request') :
    Beside context (rack.handle request.1 request.2) (rack'.handle request'.1 request'.2) := by
  cases alike with
  | @shown device device' screen screen' binds =>
    refine beside.work fun h h' there _ twins => beside.swap twins (named _ h there ▸ binds) ?_
    have kept := rack.contexts.swap_handle_context device h screen
    have kept' := rack.contexts.swap_handle_context device' h' screen'
    refine ⟨kept'.trans (twins.1.trans kept.symm), fun other => absurd ?_ other⟩
    exact named _ h there
  | same =>
    obtain ⟨device, request⟩ := request
    cases request with
    | create size =>
      simp only [Rack.handle, beside.contexts]
      split
      · exact ⟨rfl, fun x => rel_insert beside.handles (.refl ..)⟩
      · exact ⟨rfl, beside.handles⟩
    | adopt backend engine =>
      simp only [Rack.handle, beside.contexts]
      exact ⟨rfl, fun x => rel_insert beside.handles (.refl ..)⟩
    | bind x =>
      refine beside.work fun h h' there there' twins => ?_
      have same : (rack.contexts.bind device h).handle = h := rack.contexts.bind_handle device h
      have same' : (rack.contexts.bind device h').handle = h' := rack.contexts.bind_handle device h'
      have id : h'.id = h.id := congrArg RenderContext.id twins.1
      rw [beside.contexts]
      refine ⟨bind_congr _ twins.1 fun _ => rfl, fun y => ?_⟩
      simp only [settle, tell, same, same', id]
      exact rel_insert beside.handles (named x h there ▸ twins)
    | swap x screen =>
      refine beside.work fun h h' there there' twins => beside.swap twins (fun _ => rfl) ?_
      have kept := rack.contexts.swap_handle_context device h screen
      have kept' := rack.contexts.swap_handle_context device h' screen
      refine ⟨kept'.trans (twins.1.trans kept.symm), fun other => ?_⟩
      rw [twins.2 (named x h there ▸ other)]
    | clearDegraded x =>
      refine beside.work fun h h' there there' twins => ⟨beside.contexts, fun y => ?_⟩
      have id : h'.clearDegraded.id = h.clearDegraded.id := congrArg RenderContext.id twins.1
      simp only [hold, id]
      refine rel_insert beside.handles ⟨twins.1, fun other => ?_⟩
      rw [twins.2 (named x h there ▸ other)]
    | terminate x =>
      refine beside.work fun h h' there there' twins => ⟨?_, fun y => ?_⟩
      · have id : h'.id = h.id := congrArg RenderContext.id twins.1
        simp only [note, tell, Contexts.terminate, beside.contexts, id]
      · exact rel_erase beside.handles x
    | drop x =>
      exact beside.work fun h h' there there' twins =>
        ⟨beside.contexts, fun y => rel_erase beside.handles x⟩

/-- How the frames of one context are taken makes no difference to the others. -/
theorem Beside.run (beside : Beside context rack rack') (tracked : rack.Tracked)
    {past past' : List (DeviceAnswers × HandleRequest)} (alike : List.Forall₂ (Alike context) past past') :
    Beside context (rack.run past) (rack'.run past') := by
  induction alike generalizing rack rack' with
  | nil => exact beside
  | @cons request request' past past' first _ ih =>
    exact ih (beside.handle tracked.named first)
      (tracked.step (step_handle tracked.named request.1 request.2))

theorem Beside.undisturbed (beside : Beside context rack rack') {other : ContextId}
    (apart : other ≠ context) (device : DeviceAnswers) (screen : Screen) :
    rack'.handles.get? other = rack.handles.get? other ∧
    rack'.answer? device (.swap other screen) = rack.answer? device (.swap other screen) ∧
    ∃ told, (rack.handle device (.swap other screen)).log = rack.log ++ told ∧
      (rack'.handle device (.swap other screen)).log = rack'.log ++ told := by
  have same : rack'.handles.get? other = rack.handles.get? other := by
    cases there : rack.handles.get? other with
    | none => exact none_of_rel (there ▸ beside.handles other)
    | some h =>
      obtain ⟨h', there', twins⟩ := found_of_rel_left (beside.handles other) there
      rw [there', twins.2 apart]
  refine ⟨same, by simp only [answer?, same, beside.contexts], ?_⟩
  cases there : rack.handles.get? other with
  | none => exact ⟨[], by simp [Rack.handle, there], by simp [Rack.handle, same, there]⟩
  | some h =>
    refine ⟨(rack.contexts.swap device h screen).events, by rw [handle_swap there]; rfl, ?_⟩
    rw [handle_swap (same.trans there), beside.contexts]
    rfl

/-! ### Every history -/

/-- What a request to present through a context gives, given whether a flip of the context failed that was
not cleared since. -/
structure Responds (rack : Rack) (failing : Prop) (context : ContextId) (h : RenderHandle)
    (device : DeviceAnswers) (screen : Screen) : Prop where
  presents : (rack.contexts.bind device h).result = .ok () →
    (rack.Presents device screen context h ↔ ¬failing)
  skips : (rack.contexts.bind device h).result = .ok () →
    (rack.Skips device screen context h ↔ failing)
  /-- A frame that is handed over and not taken by the screen is no error, and degrades the context. -/
  refused : rack.Presents device screen context h → (rack.contexts.bind device h).result = .ok () →
    ∀ reason, (h.context.swap device screen).result = .error (.pageFlip reason) →
      rack.answer? device (.swap context screen) = some (.ok ()) ∧
      (rack.handle device (.swap context screen)).handles.get? context =
        some { h with degraded := true }
  /-- Other errors are passed on, and leave the handle as it is. -/
  failed : ∀ e, (rack.contexts.bind device h).result = .error e ∨
      ((rack.contexts.bind device h).result = .ok () ∧ rack.Presents device screen context h ∧
        (h.context.swap device screen).result = .error e ∧ ∀ reason, e ≠ .pageFlip reason) →
    rack.answer? device (.swap context screen) = some (.error e) ∧
      (rack.handle device (.swap context screen)).handles.get? context = some h

theorem get?_handle_swap (named : rack.Named) (held : rack.handles.get? context = some h) :
    (rack.handle device (.swap context screen)).handles.get? context =
      some (rack.contexts.swap device h screen).handle := by
  have id : (rack.contexts.swap device h screen).handle.id = context :=
    (congrArg RenderContext.id (rack.contexts.swap_handle_context device h screen)).trans
      (named context h held)
  rw [handle_swap held]
  simp only [settle, tell, id, Table.get?_insert, if_true]

theorem responds {failing : Prop} (named : rack.Named) (held : rack.handles.get? context = some h)
    (degraded : h.degraded = true ↔ failing) : rack.Responds failing context h device screen where
  presents bound := by rw [presents_iff held bound, ← degraded, Bool.not_eq_true]
  skips bound := by rw [skips_iff held bound, degraded]
  refused presents bound reason result := by
    have sound := (presents_iff held bound).1 presents
    rw [get?_handle_swap named held, rack.contexts.swap_of_sound device screen bound sound,
      presents.answer, result]
    exact ⟨rfl, rfl⟩
  failed e failed := by
    rw [answer?_swap held, get?_handle_swap named held]
    rcases failed with refused | ⟨bound, presents, result, other⟩
    · have same : (rack.contexts.bind device h).handle = h := rack.contexts.bind_handle device h
      rw [rack.contexts.swap_of_unbound device screen refused, refused, same]
      exact ⟨rfl, rfl⟩
    · have sound := (presents_iff held bound).1 presents
      have unrefused : Contexts.refusesFlip (.error e) = false := by
        rw [Bool.eq_false_iff, ne_eq, Contexts.refusesFlip_iff]
        exact fun ⟨reason, same⟩ => other reason (Except.error.inj same)
      rw [rack.contexts.swap_of_sound device screen bound sound, result,
        Contexts.forgiven_error other, unrefused, ← sound]
      exact ⟨rfl, rfl⟩

/-- After any history a context is degraded exactly if a flip of it failed that was not cleared since. A
request to present through it hands a frame over exactly if it is not, once the context could be made
current, and else is answered that all is well. Only refused flips degrade a context; all other errors are
passed on. How the frames of one context are taken makes no difference to the other contexts. -/
theorem degrades (backends : List Backend) (past : List (DeviceAnswers × HandleRequest)) :
    let start := ofBackends backends
    let rack := start.run past
    (∀ context h, rack.handles.get? context = some h →
      (h.degraded = true ↔ start.FlipFailing past context) ∧
      ∀ device screen, rack.Responds (start.FlipFailing past context) context h device screen) ∧
    ∀ context past', List.Forall₂ (Alike context) past past' → ∀ other, other ≠ context →
      let rack' := start.run past'
      rack'.handles.get? other = rack.handles.get? other ∧
      ∀ device screen,
        rack'.answer? device (.swap other screen) = rack.answer? device (.swap other screen) ∧
        ∃ told, (rack.handle device (.swap other screen)).log = rack.log ++ told ∧
          (rack'.handle device (.swap other screen)).log = rack'.log ++ told := by
  intro start rack
  have began : start.Tracked := tracked_ofBackends backends
  have tracked : rack.Tracked := began.run past
  constructor
  · intro context h held
    have degraded := degraded_run began (fun _ _ held => by cases held) past held
    exact ⟨degraded, fun device screen => responds tracked.named held degraded⟩
  · intro context past' alike other apart rack'
    have beside : Beside context rack rack' := (Beside.refl context start).run began alike
    exact ⟨(beside.undisturbed apart .willing ⟨"", .ok ()⟩).1,
      fun device screen => (beside.undisturbed apart device screen).2⟩

/-- A context whose flip fails, beside one whose frames are taken. -/
def refusedFlip (answer : Except String Unit) : List (DeviceAnswers × HandleRequest) :=
  List.map (Prod.mk .willing)
    [.create ⟨2, 1⟩, .create ⟨2, 1⟩, .swap ⟨1⟩ ⟨"left", answer⟩, .swap ⟨2⟩ ⟨"right", .ok ()⟩]

theorem refusedFlip_degrades :
    let start := ofBackends [⟨"panel", .native⟩]
    let rack := start.run (refusedFlip (.error "busy"))
    let screen : Screen := ⟨"left", .ok ()⟩
    start.FlipFailing (refusedFlip (.error "busy")) ⟨1⟩ ∧
    rack.answer? .willing (.swap ⟨1⟩ screen) = some (.ok ()) ∧
    ¬start.FlipFailing (refusedFlip (.error "busy")) ⟨2⟩ ∧
    (start.run (refusedFlip (.ok ()))).handles.get? ⟨2⟩ = rack.handles.get? ⟨2⟩ := by
  intro start rack screen
  obtain ⟨each, beside⟩ := degrades [⟨"panel", .native⟩] (refusedFlip (.error "busy"))
  obtain ⟨failing, responds⟩ := each ⟨1⟩ _ rfl
  obtain ⟨sound, -⟩ := each ⟨2⟩ _ rfl
  have failed : start.FlipFailing (refusedFlip (.error "busy")) ⟨1⟩ := failing.1 rfl
  refine ⟨failed, ((responds .willing screen).skips rfl).2 failed |>.answer,
    fun wrong => Bool.false_ne_true (sound.2 wrong), ?_⟩
  refine (beside ⟨1⟩ (refusedFlip (.ok ())) ?_ ⟨2⟩ (by decide)).1
  exact .cons (.same _) (.cons (.same _) (.cons (.shown fun _ => rfl) (.cons (.same _) .nil)))

end Rack

end Compositing
