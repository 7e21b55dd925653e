import Compositing.Proofs.Histories
import Compositing.Proofs.Rendering.Pictures
import Compositing.Rendering.Handles

/-!
# The life of a context

A context ends with its handle, whether the handle is handed back or given up, and ends once. Between
its beginning and its end it can be made current any number of times, and the contexts know which one
was made current last. Main statements: `Rack.Tracked.run`, `Rack.current_run`,
`Rack.binds_handle`.
-/

namespace Compositing

namespace Event

/-- The event is a call that terminates a context. -/
def ends (context : ContextId) : Event → Bool
  | device _ (some id) (.terminate _) => id = context
  | _ => false

/-- The event is a call that makes a context current. -/
def binds (context : ContextId) : Event → Bool
  | device _ (some id) .bind => id = context
  | _ => false

end Event

/-! ### Contexts -/

namespace RenderContext

variable (ctx : RenderContext) (device : DeviceAnswers)

theorem binds_told (context : ContextId) (call : DeviceCall) :
    (ctx.told call).binds context = decide (call = .bind ∧ ctx.id = context) := by
  cases call <;> simp [told, Event.binds]

theorem id_withCanvas (canvas : Canvas) : (ctx.withCanvas canvas).id = ctx.id := by
  unfold withCanvas
  split <;> rfl

theorem id_terminate : ctx.terminate.1.id = ctx.id := by
  unfold terminate
  split
  · exact ctx.id_withCanvas _
  · exact ctx.id_withCanvas _
  · rfl

theorem inMemory_terminate : ctx.terminate.1.inMemory = ctx.inMemory := by
  unfold terminate
  split
  · exact ctx.inMemory_withCanvas _
  · exact ctx.inMemory_withCanvas _
  · rfl

/-- A device hears once that its context ends, and of the end of no other. -/
theorem ends_terminate (context : ContextId) :
    ctx.terminate.2.countP (·.ends context) =
      if ctx.id = context ∧ ctx.inMemory = false then 1 else 0 := by
  obtain ⟨id, backend, engine⟩ := ctx
  cases engine <;> by_cases same : id = context <;>
    simp [terminate, told, inMemory, Event.ends, same]

theorem events_bind : (ctx.bind device).events = if ctx.inMemory then [] else [ctx.told .bind] := by
  obtain ⟨id, backend, engine⟩ := ctx
  cases engine with
  | native => rfl
  | memory canvas => cases canvas <;> rfl
  | device canvas images =>
    simp only [bind, onCanvas, inMemory]
    split <;> rfl

/-- Presenting makes no context current and ends none. -/
theorem quiet_swap (screen : Screen) {event : Event} (member : event ∈ (ctx.swap device screen).events)
    (context : ContextId) : event.ends context = false ∧ event.binds context = false := by
  have flipped (frame : Frame) (member : event ∈ (flip screen frame).2) :
      event.ends context = false ∧ event.binds context = false := by
    unfold flip at member
    split at member <;> (cases List.mem_singleton.1 member; exact ⟨rfl, rfl⟩)
  have flippedCanvas (canvas : Canvas) (member : event ∈ (flipCanvas canvas screen).2) :
      event.ends context = false ∧ event.binds context = false := by
    unfold flipCanvas at member
    split at member
    · exact flipped _ member
    · cases member
  obtain ⟨id, backend, engine⟩ := ctx
  cases engine with
  | memory canvas => exact flippedCanvas canvas member
  | native =>
    simp only [swap, ask] at member
    split at member
    · rcases List.mem_append.1 member with member | member
      · cases List.mem_singleton.1 member
        exact ⟨rfl, rfl⟩
      · exact flipped _ member
    · cases List.mem_singleton.1 member
      exact ⟨rfl, rfl⟩
  | device canvas images =>
    simp only [swap, ask] at member
    split at member
    · rcases List.mem_append.1 member with member | member
      · cases List.mem_singleton.1 member
        exact ⟨rfl, rfl⟩
      · exact flippedCanvas canvas member
    · cases List.mem_singleton.1 member
      exact ⟨rfl, rfl⟩

end RenderContext

/-! ### Backends -/

/-- A backend sets a context up under the name that it is given, and tells of no other context. -/
theorem Backend.construct_id {b : Backend} {device : DeviceAnswers} {id : ContextId} {size : Size}
    {ctx : RenderContext} {told : List Event} (made : b.construct device id size = (.ok ctx, told)) :
    ctx.id = id := by
  obtain ⟨name, construction⟩ := b
  have made := congrArg Prod.fst made
  cases construction with
  | missing reason => cases made
  | memory =>
    obtain ⟨fb, rfl⟩ := Renderer.engine_ofSize made
    rfl
  | device =>
    simp only [construct, Except.bind] at made
    split at made
    · cases made
    · obtain ⟨fb, rfl⟩ := Renderer.engine_ofSize made
      rfl
  | native =>
    simp only [construct, Except.map] at made
    split at made <;> cases made
    rfl

theorem Backend.construct_told (b : Backend) (device : DeviceAnswers) (id : ContextId) (size : Size)
    {event : Event} (member : event ∈ (b.construct device id size).2) :
    event = .device b.name none .construct := by
  obtain ⟨name, construction⟩ := b
  cases construction <;> simp_all [construct]

namespace Contexts

theorem probe_id {device : DeviceAnswers} {id : ContextId} {size : Size} {backends : List Backend}
    {ctx : RenderContext} (found : (probe device id size backends).1 = some ctx) : ctx.id = id := by
  induction backends with
  | nil => cases found
  | cons b rest ih =>
    simp only [probe] at found
    split at found
    next made =>
      cases found
      exact Backend.construct_id made
    next => exact ih found

theorem probe_told (device : DeviceAnswers) (id : ContextId) (size : Size) (backends : List Backend)
    {event : Event} (member : event ∈ (probe device id size backends).2) :
    ∃ backend, event = .device backend none .construct := by
  induction backends with
  | nil => cases member
  | cons b rest ih =>
    have first : event ∈ (b.construct device id size).2 → event = .device b.name none .construct :=
      b.construct_told device id size
    simp only [probe] at member
    split at member
    next made =>
      rw [made] at first
      exact ⟨_, first member⟩
    next made =>
      rw [made] at first
      rcases List.mem_append.1 member with member | member
      · exact ⟨_, first member⟩
      · exact ih member

/-- A context is made under the next name, which is used up. -/
theorem create_eq (cs : Contexts) (device : DeviceAnswers) (size : Size) :
    ((∃ h, cs.create device size = (.ok h, { cs with nextId := cs.nextId.next },
        (probe device cs.nextId size cs.backends).2) ∧ h.id = cs.nextId ∧ h.degraded = false ∧
        (probe device cs.nextId size cs.backends).1 = some h.context) ∨
      ∃ e, cs.create device size = (.error e, cs, (probe device cs.nextId size cs.backends).2)) := by
  unfold create
  split
  next ctx told found =>
    have named : ctx.id = cs.nextId := probe_id (congrArg Prod.fst found)
    refine .inl ⟨{ context := ctx }, ?_, named, rfl, ?_⟩
    · simp [adopt, named, found]
    · rw [found]
  next told found => exact .inr ⟨_, by rw [found]⟩

end Contexts

/-! ### One request -/

/-- A request to make a context current, or to present what was drawn in it. -/
def HandleRequest.needs (context : ContextId) : HandleRequest → Bool
  | bind c | swap c _ => c = context
  | _ => false

namespace Rack

/-- The name was given to a context. -/
def Used (rack : Rack) (context : ContextId) : Prop :=
  1 ≤ context.number ∧ context.number < rack.contexts.nextId.number

instance (rack : Rack) (context : ContextId) : Decidable (rack.Used context) :=
  inferInstanceAs (Decidable (_ ∧ _))

/-- How often a context was terminated. -/
def endings (rack : Rack) (context : ContextId) : Nat := (rack.ended.map (·.id)).count context

/-- The context that a request makes current, if it is not current already and goes along. -/
def bindsTo? (rack : Rack) (device : DeviceAnswers) : HandleRequest → Option ContextId
  | .bind context | .swap context _ =>
    (rack.handles.get? context).bind fun h =>
      if rack.contexts.bound ≠ some context ∧ (h.context.bind device).result.toBool then some context
      else none
  | _ => none

/-- No event ends a context or makes one current. -/
def Calm (events : List Event) : Prop :=
  ∀ event ∈ events, ∀ context, event.ends context = false ∧ event.binds context = false

/-- No event ends a context. -/
def Endless (events : List Event) : Prop := ∀ event ∈ events, ∀ context, event.ends context = false

theorem endless_nil : Endless [] := fun _ member => by cases member

theorem Endless.count {events : List Event} (endless : Endless events) (context : ContextId) :
    events.countP (·.ends context) = 0 :=
  List.countP_eq_zero.2 fun event member => by simp [endless event member context]

/-- What a request can do to the contexts: one begins, one is worked with or ends, or only the host
hears something. -/
inductive Step (rack : Rack) : Rack → Prop
  | told {events : List Event} (endless : Endless events) : Step rack (rack.tell events)
  | began {h : RenderHandle} {events : List Event} (new : h.id = rack.contexts.nextId)
    (endless : Endless events) : Step rack
      { rack with
        contexts := { rack.contexts with nextId := rack.contexts.nextId.next }
        handles := rack.handles.insert rack.contexts.nextId h
        log := rack.log ++ events }
  | worked {context : ContextId} {h h' : RenderHandle} {bound : Option ContextId} {events : List Event}
    (held : rack.handles.get? context = some h) (same : h'.context = h.context)
    (endless : Endless events) : Step rack
      { rack with
        contexts := { rack.contexts with bound }
        handles := rack.handles.insert context h'
        log := rack.log ++ events }
  | finished {context : ContextId} {h : RenderHandle} {bound : Option ContextId}
    (held : rack.handles.get? context = some h) : Step rack
      { contexts := { rack.contexts with bound }
        handles := rack.handles.erase context
        ended := rack.ended ++ [h.context.terminate.1]
        log := rack.log ++ h.context.terminate.2 }

variable {rack : Rack}

/-- Handles are held under the names of their contexts. -/
def Named (rack : Rack) : Prop := ∀ context h, rack.handles.get? context = some h → h.id = context

theorem endless_bind (cs : Contexts) (device : DeviceAnswers) (h : RenderHandle) :
    Endless (cs.bind device h).events := by
  have events : (cs.bind device h).events =
      if cs.bound = some h.id then [] else (h.context.bind device).events := by
    unfold Contexts.bind
    split
    · rfl
    · simp only
      split <;> rfl
  rw [events, RenderContext.events_bind]
  intro event member context
  split at member
  · cases member
  · split at member
    · cases member
    · cases List.mem_singleton.1 member
      rfl

theorem quiet_present (h : RenderHandle) (device : DeviceAnswers) (screen : Screen) :
    Calm (Contexts.present h device screen).2.2 := by
  intro event member
  unfold Contexts.present at member
  split at member
  · cases member
  · simp only at member
    split at member <;> exact h.context.quiet_swap device screen member

theorem endless_swap (cs : Contexts) (device : DeviceAnswers) (h : RenderHandle) (screen : Screen) :
    Endless (cs.swap device h screen).events := by
  have bound := endless_bind cs device h
  unfold Contexts.swap
  simp only
  split
  · exact bound
  · intro event member context
    rcases List.mem_append.1 member with member | member
    · exact bound event member context
    · exact (quiet_present _ device screen event member context).1

/-- Taking over what binding or presenting gave. -/
theorem step_settle {context : ContextId} {h : RenderHandle} {step : Contexts.Step}
    (held : rack.handles.get? context = some h) (named : h.id = context)
    (contexts : step.contexts = { rack.contexts with bound := step.contexts.bound })
    (same : step.handle.context = h.context) (endless : Endless step.events) :
    rack.Step (rack.settle step) := by
  have id : step.handle.id = context := (congrArg RenderContext.id same).trans named
  have worked := @Step.worked rack _ _ _ step.contexts.bound _ held same endless
  rw [← contexts, ← id] at worked
  exact worked

theorem step_handle (named : rack.Named) (device : DeviceAnswers) (request : HandleRequest) :
    rack.Step (rack.handle device request) := by
  have idle : rack.Step rack := by
    have told := @Step.told rack [] endless_nil
    rwa [tell, List.append_nil] at told
  have held (context : ContextId) (work : RenderHandle → Rack)
      (works : ∀ h, rack.handles.get? context = some h → rack.Step (work h)) :
      rack.Step ((rack.handles.get? context).elim rack work) := by
    cases there : rack.handles.get? context with
    | none => exact idle
    | some h => exact works h there
  cases request with
  | create size =>
    have endless :
        Endless (Contexts.probe device rack.contexts.nextId size rack.contexts.backends).2 := by
      intro event member context
      obtain ⟨backend, rfl⟩ := Contexts.probe_told device _ size _ member
      rfl
    rcases rack.contexts.create_eq device size with ⟨h, made, new, -, -⟩ | ⟨e, failed⟩
    · simp only [handle, made]
      rw [hold, new]
      exact .began new endless
    · simp only [handle, failed]
      exact .told endless
  | adopt backend engine =>
    have began := @Step.began rack { context := ⟨rack.contexts.nextId, backend, engine⟩ } [] rfl
      endless_nil
    rw [List.append_nil] at began
    exact began
  | bind context =>
    refine held context _ fun h there => ?_
    exact step_settle there (named context h there) (Contexts.bind_contexts ..)
      (congrArg _ (Contexts.bind_handle ..)) (endless_bind _ device h)
  | swap context screen =>
    refine held context _ fun h there => ?_
    exact step_settle there (named context h there) (Contexts.swap_contexts ..)
      (Contexts.swap_handle_context ..) (endless_swap _ device h screen)
  | clearDegraded context =>
    refine held context _ fun h there => ?_
    have worked := @Step.worked rack context h h.clearDegraded rack.contexts.bound [] there rfl
      endless_nil
    rw [List.append_nil, ← named context h there] at worked
    exact worked
  | terminate context =>
    refine held context _ fun h there => ?_
    have finished := @Step.finished rack context h (if rack.contexts.bound = some h.id then none
      else rack.contexts.bound) there
    simpa [note, tell, RenderHandle.drop, Contexts.terminate] using finished
  | drop context =>
    refine held context _ fun h there => ?_
    have finished := @Step.finished rack context h rack.contexts.bound there
    simpa [note, tell, RenderHandle.drop] using finished

/-! ### Every context ends once -/

/-- A context that was begun is either held or was terminated once, and the host heard of it. -/
structure Tracked (rack : Rack) : Prop where
  named : rack.Named
  first : 1 ≤ rack.contexts.nextId.number
  used : ∀ context h, rack.handles.get? context = some h → rack.Used context
  endings : ∀ context, rack.endings context =
    if rack.Used context ∧ rack.handles.get? context = none then 1 else 0
  told : ∀ context, rack.log.countP (·.ends context) =
    rack.ended.countP fun ctx => ctx.id = context ∧ ctx.inMemory = false

theorem tracked_ofBackends (backends : List Backend) : (ofBackends backends).Tracked where
  named _ _ held := by cases held
  first := Nat.le_refl 1
  used _ _ held := by cases held
  endings context := by
    have unused : ¬(ofBackends backends).Used context := by
      simp only [Used, ofBackends]
      omega
    rw [if_neg fun both => unused both.1]
    rfl
  told _ := rfl

theorem Tracked.step (tracked : rack.Tracked) {rack' : Rack} (step : rack.Step rack') :
    rack'.Tracked := by
  obtain ⟨named, first, used, endings, told⟩ := tracked
  cases step with
  | told endless =>
    refine ⟨named, first, used, endings, fun context => ?_⟩
    simp only [tell, List.countP_append, endless.count context]
    exact told context
  | @began h events new endless =>
    have next (context : ContextId) (other : context ≠ rack.contexts.nextId) :
        context.number < rack.contexts.nextId.number + 1 ↔
          context.number < rack.contexts.nextId.number := by
      have : context.number ≠ rack.contexts.nextId.number := fun same =>
        other (congrArg ContextId.mk same)
      omega
    refine ⟨fun context g held => ?_, Nat.le_succ_of_le first, fun context g held => ?_,
      fun context => ?_, fun context => ?_⟩
    · rw [Table.get?_insert] at held
      split at held
      next here =>
        cases held
        exact new.trans here.symm
      next => exact named context g held
    · simp only [Used, ContextId.next]
      rw [Table.get?_insert] at held
      split at held
      next here =>
        subst here
        omega
      next =>
        have := (used context g held).1
        have := (used context g held).2
        omega
    · refine (endings context).trans (if_congr ?_ rfl rfl)
      simp only [Used, ContextId.next, Table.get?_insert]
      by_cases here : context = rack.contexts.nextId
      · simp [here]
      · rw [if_neg here, next context here]
    · simp only [List.countP_append, endless.count context]
      exact told context
  | @worked context h h' bound events held same endless =>
    have there (other : ContextId) : (rack.handles.insert context h').get? other = none ↔
        rack.handles.get? other = none := by
      rw [Table.get?_insert]
      split
      next here => simp [here, held]
      next => rfl
    refine ⟨fun other g found => ?_, first, fun other g found => ?_, fun other => ?_, fun other => ?_⟩
    · rw [Table.get?_insert] at found
      split at found
      next here =>
        cases found
        exact (congrArg RenderContext.id same).trans ((named context h held).trans here.symm)
      next => exact named other g found
    · rw [Table.get?_insert] at found
      split at found
      next here => exact here ▸ used context h held
      next => exact used other g found
    · exact (endings other).trans (if_congr (and_congr_right' (there other).symm) rfl rfl)
    · simp only [List.countP_append, endless.count other]
      exact told other
  | @finished context h bound held =>
    have id : h.context.terminate.1.id = context := h.context.id_terminate.trans (named context h held)
    have was : h.context.id = context := named context h held
    have memory := h.context.inMemory_terminate
    refine ⟨fun other g found => ?_, first, fun other g found => ?_, fun other => ?_, fun other => ?_⟩
    · rw [Table.get?_erase, Option.ite_none_left_eq_some] at found
      exact named other g found.2
    · rw [Table.get?_erase, Option.ite_none_left_eq_some] at found
      exact used other g found.2
    · have count : ((rack.ended ++ [h.context.terminate.1]).map (·.id)).count other =
          rack.endings other + [context].count other := by
        simp only [Rack.endings, List.map_append, List.count_append, List.map_singleton, id]
      refine count.trans ?_
      by_cases here : other = context
      · subst here
        have ended : rack.Used other ∧ (rack.handles.erase other).get? other = none :=
          ⟨used other h held, by simp [Table.get?_erase]⟩
        rw [endings other, if_neg (by simp [held]), List.count_singleton_self]
        exact (if_pos ended).symm
      · have none : [context].count other = 0 := List.count_eq_zero.2 (by simpa using here)
        rw [none, Nat.add_zero, endings other]
        exact if_congr (by simp [Table.get?_erase, here, Used]) rfl rfl
    · rw [List.countP_append, List.countP_append, told other, h.context.ends_terminate]
      simp [id, memory, was]

theorem Tracked.run (tracked : rack.Tracked) (past : List (DeviceAnswers × HandleRequest)) :
    (rack.run past).Tracked := by
  induction past generalizing rack with
  | nil => exact tracked
  | cons request past ih =>
    exact ih (tracked.step (step_handle tracked.named request.1 request.2))

/-! ### The context that is current -/

theorem run_concat (rack : Rack) (past : List (DeviceAnswers × HandleRequest))
    (device : DeviceAnswers) (request : HandleRequest) :
    rack.run (past ++ [(device, request)]) = (rack.run past).handle device request := by
  simp [run]

/-- The contexts that a history of requests made current, in that order. -/
def binds (rack : Rack) : List (DeviceAnswers × HandleRequest) → List ContextId
  | [] => []
  | (device, request) :: rest =>
    (rack.bindsTo? device request).toList ++ (rack.handle device request).binds rest

theorem binds_concat (rack : Rack) (past : List (DeviceAnswers × HandleRequest))
    (device : DeviceAnswers) (request : HandleRequest) :
    rack.binds (past ++ [(device, request)]) =
      rack.binds past ++ ((rack.run past).bindsTo? device request).toList := by
  induction past generalizing rack with
  | nil => simp [binds, run]
  | cons first past ih =>
    obtain ⟨device', request'⟩ := first
    rw [List.cons_append, binds, ih, binds, List.append_assoc]
    rfl

/-- A context was handed back while its handle was held. -/
def HandedBack (rack : Rack) (past : List (DeviceAnswers × HandleRequest)) (context : ContextId) :
    Prop :=
  ∃ before device after, past = before ++ (device, .terminate context) :: after ∧
    (rack.run before).handles.get? context ≠ none

theorem handedBack_concat_iff {past : List (DeviceAnswers × HandleRequest)} {device : DeviceAnswers}
    {request : HandleRequest} {context : ContextId} :
    rack.HandedBack (past ++ [(device, request)]) context ↔ rack.HandedBack past context ∨
      (request = .terminate context ∧ (rack.run past).handles.get? context ≠ none) := by
  constructor
  · rintro ⟨before, device', after, split, held⟩
    rcases concat_eq_append_cons_iff.1 split with ⟨rfl, same, -⟩ | ⟨rest, -, rfl⟩
    · exact .inr ⟨congrArg Prod.snd same, held⟩
    · exact .inl ⟨before, device', rest, rfl, held⟩
  · rintro (⟨before, device', after, rfl, held⟩ | ⟨rfl, held⟩)
    · exact ⟨before, device', after ++ [(device, request)], by simp, held⟩
    · exact ⟨past, device, [], rfl, held⟩

/-- What a request does to the mark of the current context. -/
theorem bound_handle (named : rack.Named) (device : DeviceAnswers) (request : HandleRequest) :
    (rack.handle device request).contexts.bound =
      match request with
      | .terminate context =>
        if rack.handles.get? context ≠ none ∧ rack.contexts.bound = some context then none
        else rack.contexts.bound
      | _ => (rack.bindsTo? device request).or rack.contexts.bound := by
  have bound (context : ContextId) (h : RenderHandle) (there : rack.handles.get? context = some h) :
      (rack.contexts.bind device h).contexts.bound =
        (rack.bindsTo? device (.bind context)).or rack.contexts.bound := by
    have same : h.id = context := named context h there
    simp only [bindsTo?, there, Contexts.bind, same, Option.bind_some]
    by_cases current : rack.contexts.bound = some context
    · simp [current]
    · rw [if_neg current]
      cases result : (h.context.bind device).result <;> simp [current, Except.toBool]
  cases request with
  | create size =>
    rcases rack.contexts.create_eq device size with ⟨h, made, -⟩ | ⟨e, failed⟩
    · simp [handle, made, hold, tell, bindsTo?]
    · simp [handle, failed, tell, bindsTo?]
  | adopt backend engine => rfl
  | bind context =>
    cases there : rack.handles.get? context with
    | none => simp [handle, there, bindsTo?]
    | some h =>
      simp only [handle, there, Option.elim]
      exact bound context h there
  | swap context screen =>
    cases there : rack.handles.get? context with
    | none => simp [handle, there, bindsTo?]
    | some h =>
      have shown : (rack.contexts.swap device h screen).contexts =
          (rack.contexts.bind device h).contexts := by
        unfold Contexts.swap
        simp only
        split <;> rfl
      simp only [handle, there, Option.elim, settle, tell, shown]
      exact bound context h there
  | clearDegraded context =>
    cases there : rack.handles.get? context <;> simp [handle, there, hold, bindsTo?]
  | terminate context =>
    cases there : rack.handles.get? context with
    | none => simp [handle, there]
    | some h =>
      have same : h.id = context := named context h there
      simp [handle, there, note, tell, Contexts.terminate, same]
  | drop context =>
    cases there : rack.handles.get? context <;> simp [handle, there, note, tell, bindsTo?]

/-- A context that has ended stays so, as its name is not given again. -/
theorem Step.stays_ended {rack' : Rack} (step : rack.Step rack') {context : ContextId}
    (ended : rack.Used context ∧ rack.handles.get? context = none) :
    rack'.Used context ∧ rack'.handles.get? context = none := by
  obtain ⟨used, gone⟩ := ended
  cases step with
  | told => exact ⟨used, gone⟩
  | began =>
    have other : context ≠ rack.contexts.nextId := fun same =>
      Nat.lt_irrefl _ (same ▸ used.2 : rack.contexts.nextId.number < rack.contexts.nextId.number)
    exact ⟨⟨used.1, Nat.lt_succ_of_lt used.2⟩, by rw [Table.get?_insert, if_neg other, gone]⟩
  | @worked held h _ _ _ there =>
    have other : context ≠ held := fun same => by simp [← same, gone] at there
    exact ⟨used, by rw [Table.get?_insert, if_neg other, gone]⟩
  | finished => exact ⟨used, by rw [Table.get?_erase, gone, ite_self]⟩

theorem HandedBack.ended (tracked : rack.Tracked) {past : List (DeviceAnswers × HandleRequest)}
    {context : ContextId} (back : rack.HandedBack past context) :
    (rack.run past).Used context ∧ (rack.run past).handles.get? context = none := by
  induction past using List.reverseRecOn with
  | nil =>
    obtain ⟨before, device, after, split, -⟩ := back
    simp at split
  | append_singleton past request ih =>
    obtain ⟨device, request⟩ := request
    have before := tracked.run past
    rw [run_concat]
    rcases handedBack_concat_iff.1 back with earlier | ⟨rfl, held⟩
    · exact (step_handle before.named device request).stays_ended (ih earlier)
    · obtain ⟨h, there⟩ := Option.ne_none_iff_exists'.1 held
      refine ⟨?_, ?_⟩
      · simpa [handle, there, note, tell, Contexts.terminate, Used] using before.used context h there
      · simp [handle, there, note, tell, Table.get?_erase]

/-- The mark names the context that was made current last, which was not handed back. -/
theorem current_run (tracked : rack.Tracked) (unbound : rack.contexts.bound = none)
    (past : List (DeviceAnswers × HandleRequest)) {context : ContextId}
    (current : (rack.run past).contexts.bound = some context) :
    (rack.binds past).getLast? = some context ∧ ¬rack.HandedBack past context := by
  induction past using List.reverseRecOn with
  | nil => cases unbound.symm.trans current
  | append_singleton past request ih =>
    obtain ⟨device, request⟩ := request
    have before := tracked.run past
    have marked := bound_handle before.named device request
    rw [run_concat] at current
    rw [binds_concat, handedBack_concat_iff]
    by_cases ends : ∃ x, request = .terminate x
    · obtain ⟨x, rfl⟩ := ends
      rw [current] at marked
      simp only at marked
      split at marked
      · cases marked
      next kept =>
        obtain ⟨last, notBack⟩ := ih marked.symm
        refine ⟨by simpa [bindsTo?] using last, ?_⟩
        rintro (earlier | ⟨same, held⟩)
        · exact notBack earlier
        · cases same
          exact kept ⟨held, marked.symm⟩
    · have marked : some context =
          ((rack.run past).bindsTo? device request).or (rack.run past).contexts.bound := by
        rw [← current, marked]
        split
        next x => exact absurd ⟨x, rfl⟩ ends
        next => rfl
      cases bound : (rack.run past).bindsTo? device request with
      | none =>
        rw [bound, Option.none_or] at marked
        obtain ⟨last, notBack⟩ := ih marked.symm
        refine ⟨by simpa using last, ?_⟩
        rintro (earlier | ⟨same, -⟩)
        · exact notBack earlier
        · exact ends ⟨context, same⟩
      | some x =>
        rw [bound, Option.some_or] at marked
        cases marked
        -- Only a context whose handle is held can be made current.
        have held : (rack.run past).handles.get? context ≠ none := by
          intro gone
          cases request with
          | bind y | swap y _ =>
            simp only [bindsTo?] at bound
            obtain ⟨h, there, made⟩ := Option.bind_eq_some_iff.1 bound
            split at made
            · cases made
              cases gone.symm.trans there
            · cases made
          | _ => cases bound
        refine ⟨by simp, ?_⟩
        rintro (earlier | ⟨same, -⟩)
        · exact held (earlier.ended tracked).2
        · exact ends ⟨context, same⟩

/-! ### Making a context current -/

theorem Calm.count {events : List Event} (calm : Calm events) (context : ContextId) :
    events.countP (·.binds context) = 0 :=
  List.countP_eq_zero.2 fun event member => by simp [(calm event member context).2]

theorem binds_bind (cs : Contexts) (device : DeviceAnswers) (h : RenderHandle) (context : ContextId) :
    (cs.bind device h).events.countP (·.binds context) =
      if h.id = context ∧ cs.bound ≠ some context ∧ h.context.inMemory = false then 1 else 0 := by
  unfold Contexts.bind
  by_cases current : cs.bound = some h.id
  · rw [if_pos current, if_neg]
    · rfl
    · rintro ⟨rfl, other, -⟩
      exact other current
  · have events : (h.context.bind device).events.countP (·.binds context) =
        if h.id = context ∧ cs.bound ≠ some context ∧ h.context.inMemory = false then 1 else 0 := by
      rw [RenderContext.events_bind]
      by_cases same : h.id = context
      · subst same
        cases memory : h.context.inMemory <;> simp [current, RenderContext.binds_told]
        rfl
      · have other : h.context.id ≠ context := same
        cases memory : h.context.inMemory <;> simp [same, RenderContext.binds_told, other]
    rw [if_neg current]
    simp only
    split <;> exact events

/-- Presenting does what binding does, and then at most presents. -/
theorem swap_eq (cs : Contexts) (device : DeviceAnswers) (h : RenderHandle) (screen : Screen) :
    (cs.swap device h screen).contexts = (cs.bind device h).contexts ∧
    (∃ told, (cs.swap device h screen).events = (cs.bind device h).events ++ told ∧ Calm told) ∧
    ∀ e, (cs.bind device h).result = .error e → cs.swap device h screen = cs.bind device h := by
  unfold Contexts.swap
  simp only
  split
  next e failed =>
    exact ⟨rfl, ⟨[], by simp, fun _ member => by cases member⟩, fun _ _ => rfl⟩
  next done =>
    exact ⟨rfl, ⟨_, rfl, quiet_present _ device screen⟩, fun e failed => by cases done.symm.trans failed⟩

/-- The host is asked to make a context current exactly if a request needs the context, a handle of it
is held, and the mark does not name it already. Contexts in memory do without the host. -/
theorem binds_handle (named : rack.Named) (device : DeviceAnswers) (request : HandleRequest)
    (context : ContextId) :
    (rack.handle device request).log.countP (·.binds context) = rack.log.countP (·.binds context) +
      if request.needs context = true ∧ rack.contexts.bound ≠ some context ∧
        (rack.handles.get? context).any (!·.context.inMemory) = true then 1 else 0 := by
  have asked (x : ContextId) (h : RenderHandle) (there : rack.handles.get? x = some h) :
      (rack.contexts.bind device h).events.countP (·.binds context) =
        if x = context ∧ rack.contexts.bound ≠ some context ∧
          (rack.handles.get? context).any (!·.context.inMemory) = true then 1 else 0 := by
    have same : h.id = x := named x h there
    rw [binds_bind, same]
    refine if_congr ?_ rfl rfl
    refine and_congr_right fun here => and_congr_right fun _ => ?_
    rw [← here, there]
    simp
  cases request with
  | create size =>
    have calm : Calm (Contexts.probe device rack.contexts.nextId size rack.contexts.backends).2 := by
      intro event member x
      obtain ⟨backend, rfl⟩ := Contexts.probe_told device _ size _ member
      exact ⟨rfl, rfl⟩
    rcases rack.contexts.create_eq device size with ⟨h, made, -⟩ | ⟨e, failed⟩
    · simp [handle, made, hold, tell, HandleRequest.needs, calm.count]
    · simp [handle, failed, tell, HandleRequest.needs, calm.count]
  | adopt backend engine => rfl
  | bind x =>
    cases there : rack.handles.get? x with
    | none =>
      have idle : rack.handle device (.bind x) = rack := by simp [handle, there]
      rw [idle, if_neg]
      · rfl
      · simp only [HandleRequest.needs, decide_eq_true_eq]
        rintro ⟨rfl, -, held⟩
        simp [there] at held
    | some h =>
      simp only [handle, there, Option.elim, settle, tell, List.countP_append, HandleRequest.needs,
        decide_eq_true_eq]
      rw [asked x h there]
  | swap x screen =>
    cases there : rack.handles.get? x with
    | none =>
      have idle : rack.handle device (.swap x screen) = rack := by simp [handle, there]
      rw [idle, if_neg]
      · rfl
      · simp only [HandleRequest.needs, decide_eq_true_eq]
        rintro ⟨rfl, -, held⟩
        simp [there] at held
    | some h =>
      obtain ⟨-, ⟨told, events, calm⟩, -⟩ := swap_eq rack.contexts device h screen
      simp only [handle, there, Option.elim, settle, tell, List.countP_append, HandleRequest.needs,
        decide_eq_true_eq, events, calm.count]
      rw [asked x h there, Nat.add_zero]
  | clearDegraded x =>
    cases there : rack.handles.get? x <;> simp [handle, there, hold, HandleRequest.needs]
  | terminate x | drop x =>
    have deaf (h : RenderHandle) : h.context.terminate.2.countP (·.binds context) = 0 := by
      obtain ⟨⟨id, backend, engine⟩, degraded⟩ := h
      cases engine <;> rfl
    cases there : rack.handles.get? x with
    | none => simp [handle, there, HandleRequest.needs]
    | some h =>
      simp [handle, there, note, tell, RenderHandle.drop, Contexts.terminate, HandleRequest.needs, deaf]

/-- A context that cannot be made current leaves the mark and all handles alone. -/
theorem handle_of_refused (named : rack.Named) (device : DeviceAnswers) {request : HandleRequest}
    {context : ContextId} (needs : request.needs context = true)
    (other : rack.contexts.bound ≠ some context) {h : RenderHandle}
    (held : rack.handles.get? context = some h) {e : RenderError}
    (refused : (h.context.bind device).result = .error e) :
    rack.handle device request = rack.tell (h.context.bind device).events := by
  have same : h.id = context := named context h held
  have bind : rack.contexts.bind device h =
      ⟨.error e, rack.contexts, h, (h.context.bind device).events⟩ := by
    unfold Contexts.bind
    rw [if_neg (same ▸ other)]
    simp only [refused, h.context.bind_context]
  have kept : rack.handles.insert h.id h = rack.handles := by
    rw [same]
    refine Table.eq_of_lookups (Table.keys_insert held h) fun x => ?_
    rw [Table.get?_insert]
    split
    next here => rw [here, held]
    next => rfl
  have settled :
      rack.settle (rack.contexts.bind device h) = rack.tell (h.context.bind device).events := by
    rw [bind, settle, kept]
  cases request with
  | bind x =>
    cases of_decide_eq_true needs
    simp only [handle, held, Option.elim, settled]
  | swap x screen =>
    cases of_decide_eq_true needs
    have swap := (swap_eq rack.contexts device h screen).2.2 e (by rw [bind])
    simp only [handle, held, Option.elim, swap, settled]
  | _ => cases needs

end Rack

end Compositing
