import Compositing.Proofs.Compositor.Beats
import Compositing.Proofs.Compositor.Custody
import Compositing.Proofs.Compositor.Tracking

/-!
# Frame callbacks are fired once, in order, when they are due

A frame callback waits for the next commit of its surface, and is then fired by the first pass that
draws the surface. `Chronicle` tells a run beat by beat, and `Chronicle.fires` says when callbacks are
fired in it.
-/

namespace Compositing

variable {waits : SurfaceId → Dues} {past : List Beat}

/-! ### Many beats -/

theorem Course.tells (course : Course waits past) {events : List TransportEvent}
    (unfired : ∀ h time, .frameDone h time ∉ events) : Course waits (past ++ events.map .told) := by
  induction events using List.reverseRecOn with
  | nil => simpa using course
  | append_singleton events e ih =>
    have told := ih fun h time member => unfired h time (List.mem_append_left _ member)
    have last := told.tell (e := e) fun h time same => unfired h time (by simp [same])
    simpa using last

theorem Course.frees (course : Course waits past) {surfaces : List SurfaceId}
    (nothing : ∀ k ∈ surfaces, (waits k).callbacks = []) :
    Course waits (past ++ surfaces.map .freed) := by
  induction surfaces using List.reverseRecOn with
  | nil => simpa using course
  | append_singleton surfaces k ih =>
    have freed := ih fun x member => nothing x (List.mem_append_left _ member)
    have none : (waits k).callbacks = [] := nothing k (by simp)
    have last := freed.concat (x := .freed k) (by simp) (fun k' h member _ _ same => ?_)
      fun _ _ _ => trivial
    · simpa using last
    · rw [← same, none] at member
      cases member

theorem Drawing.tells {k : SurfaceId} (drawing : Drawing past k) (events : List TransportEvent) :
    Drawing (past ++ events.map .told) k := by
  obtain ⟨before, surfaces, during, rfl, member, told⟩ := drawing
  refine ⟨before, surfaces, during ++ events.map .told, by simp, member, fun x there => ?_⟩
  rcases List.mem_append.1 there with there | there
  · exact told x there
  · obtain ⟨e, -, rfl⟩ := List.mem_map.1 there
    exact ⟨e, rfl⟩

/-! ### Passes -/

/-- All committed callbacks of a surface are fired, oldest first. -/
theorem Course.handOver (course : Course waits past) {k : SurfaceId} (drawing : Drawing past k)
    (time : UInt32) : Course (Compositor.handOver waits k)
      (past ++ ((waits k).due.flatMap (Surface.fireCallback · time)).map .told) := by
  generalize due : (waits k).due = callbacks
  induction callbacks generalizing waits past with
  | nil => simpa [Compositor.handOver_of_none due] using course
  | cons h callbacks ih =>
    have first := course.fire time due drawing
    have rest := ih first (drawing.tells (Surface.fireCallback h time)) (by simp)
    simpa [Compositor.handOver, Surface.fireCallback] using rest

theorem Course.fireAll (course : Course waits past) {surfaces : List SurfaceId}
    (drawing : ∀ k ∈ surfaces, Drawing past k) (time : UInt32) :
    Course (surfaces.foldl Compositor.handOver waits)
      (past ++ (Compositor.fired time waits surfaces).map .told) := by
  induction surfaces generalizing waits past with
  | nil => simpa [Compositor.fired] using course
  | cons k surfaces ih =>
    have first := course.handOver (drawing k (by simp)) time
    have rest := ih first fun x member => (drawing x (by simp [member])).tells _
    simpa [Compositor.fired] using rest

theorem Course.pass (course : Course waits past) (surfaces : List SurfaceId) (time : UInt32) :
    Course (surfaces.foldl Compositor.handOver waits)
      (past ++ .pass surfaces :: (Compositor.fired time waits surfaces).map .told) := by
  have begun := course.concat (x := .pass surfaces) (by simp) (fun _ _ _ _ _ => trivial)
    fun _ _ _ => trivial
  have drawing (k) (member : k ∈ surfaces) : Drawing (past ++ [.pass surfaces]) k :=
    ⟨past, surfaces, [], rfl, member, by simp⟩
  simpa using begun.fireAll drawing time

namespace Compositor

variable {c c' : Compositor}

/-! ### Requests -/

/-- What clients and the host are told by a change. -/
def toldBeats (c c' : Compositor) : List Beat :=
  (transportEvents (c'.log.drop c.log.length)).map .told

def freedBeats (c c' : Compositor) : List Beat :=
  (c.surfaces.keys.filter fun k => !c'.surfaces.contains k).map .freed

/-- Some passes, one after the other. -/
def passBeats (host : Host) (time : UInt32) : List OutputId → Compositor → List Beat
  | [], _ => []
  | o :: due, c => .pass (c.drawn o) :: c.toldBeats (c.pass host time o) ++
      c.freedBeats (c.pass host time o) ++ passBeats host time due (c.pass host time o)

/-- How a request comes in, if it matters. -/
def mark (c : Compositor) (host : Host) : Request → List Beat
  | .frame k callback => (c.brought? host (.frame k callback)).toList.map (.requested k)
  | .commit k => if c.surfaces.contains k then [.committed k] else []
  | .resourceDestroyed h => [.reported h]
  | .createView k role =>
    if (c.createView host k role).1.isOk && c.resources.contains role then [.clashed role] else []
  | _ => []

/-- The beats of a request. -/
def beats (c : Compositor) (host : Host) (request : Request) : List Beat :=
  match request with
  | .render time => passBeats host time c.dueOutputs c
  | _ => c.mark host request ++ c.toldBeats (c.handle host request).2 ++
      c.freedBeats (c.handle host request).2

theorem events_toldBeats (c c' : Compositor) : (c.toldBeats c').filterMap Beat.event? =
    transportEvents (c'.log.drop c.log.length) := by
  simp [toldBeats, List.filterMap_map, Function.comp_def, Beat.event?]

theorem events_freedBeats (c c' : Compositor) : (c.freedBeats c').filterMap Beat.event? = [] := by
  simp [freedBeats, List.filterMap_map, Function.comp_def, Beat.event?]

theorem events_passBeats (tidy : c.buffers.Tidy) (held : c.Held) (host : Host) (time : UInt32)
    (due : List OutputId) : ∃ events,
      (due.foldl (fun c o => c.pass host time o) c).log = c.log ++ events ∧
      (passBeats host time due c).filterMap Beat.event? = transportEvents events := by
  induction due generalizing c with
  | nil => exact ⟨[], by simp, rfl⟩
  | cons o due ih =>
    obtain ⟨events, log, -⟩ := (effect_pass tidy held host time o).told
    obtain ⟨later, log', told⟩ := ih (tidy_pass tidy held host time o) (held_pass held host time o)
    refine ⟨events ++ later, by rw [List.foldl_cons, log', log, List.append_assoc], ?_⟩
    rw [passBeats, List.filterMap_append, List.filterMap_append, List.filterMap_cons_none rfl,
      events_toldBeats, events_freedBeats, told, log, List.drop_left, List.append_nil,
      transportEvents_append]

/-- The beats of a request have all that the transport is told, in order. -/
theorem events_beats (reached : c.Reachable) (host : Host) (request : Request) :
    (c.beats host request).filterMap Beat.event? =
      transportEvents ((c.handle host request).2.log.drop c.log.length) := by
  have marked : (c.mark host request).filterMap Beat.event? = [] := by
    unfold mark
    split
    case h_1 => cases c.brought? host _ <;> rfl
    case h_2 | h_4 => split <;> rfl
    all_goals rfl
  by_cases render : ∃ time, request = .render time
  · obtain ⟨time, rfl⟩ := render
    obtain ⟨events, log, told⟩ := events_passBeats reached.tidy reached.held host time c.dueOutputs
    rw [← handle_render] at log
    simp [beats, told, log]
  · have plain : c.beats host request = c.mark host request ++
        c.toldBeats (c.handle host request).2 ++ c.freedBeats (c.handle host request).2 := by
      cases request with
      | render time => exact absurd ⟨time, rfl⟩ render
      | _ => rfl
    simp [plain, marked, events_toldBeats, events_freedBeats]

/-- No callback is fired, and clients wait for less. -/
structure Ebb (c c' : Compositor) : Prop where
  fewer : Fewer c.dues c'.dues
  unfired : ∀ h time, .frameDone h time ∉ transportEvents (c'.log.drop c.log.length)

variable {pool : BufferPool} {notices : List TransportEvent}

theorem callbacks_eq (c : Compositor) (k : SurfaceId) :
    (c.dues k).callbacks = c.handlesOf (.callback k) := by
  cases found : c.surfaces.get? k with
  | none => simp [dues_absent found, handlesOf, found, Dues.callbacks]
  | some s => simp [dues_found found, handlesOf, found, Dues.callbacks, Surface.dues,
      Surface.allCallbacks]

theorem Notified.unfired (notified : Notified c c' pool waits notices)
    (quiet : ∀ h time, .frameDone h time ∉ notices) (h : Handle) (time : UInt32) :
    .frameDone h time ∉ transportEvents (c'.log.drop c.log.length) := by
  obtain ⟨told, rfl, effect⟩ := notified
  obtain ⟨events, log, rfl⟩ := effect.told
  rw [log, List.drop_left]
  exact fun member => quiet h time (List.mem_filter.2 ⟨member, rfl⟩)

theorem Notified.ebb (notified : Notified c c' pool waits notices)
    (quiet : ∀ h time, .frameDone h time ∉ notices) (fewer : Fewer c.dues waits) : Ebb c c' :=
  ⟨notified.dues ▸ fewer, notified.unfired quiet⟩

theorem Aside.ebb (aside : Aside c c') : Ebb c c' :=
  Notified.ebb aside (by simp) (.refl _)

theorem returned_unfired (b : BufferId) (reply : PoolReply) (h : Handle) (time : UInt32) :
    .frameDone h time ∉ returned b reply := by
  unfold returned
  split <;> simp

theorem letGo_unfired (pool : BufferPool) (b : Option BufferId) (h : Handle) (time : UInt32) :
    .frameDone h time ∉ (pool.letGo b).2 := by
  cases b with
  | none => simp [BufferPool.letGo]
  | some b => exact returned_unfired _ _ h time

theorem fewer_update {k : SurfaceId} {d : Dues}
    (waiting : ∀ h, d.waiting = some h → (waits k).waiting = some h)
    (due : d.due.Sublist (waits k).due) : Fewer waits (Function.update waits k d) := by
  intro x
  by_cases here : x = k
  · subst here
    simpa using ⟨waiting, due⟩
  · simp [here]

theorem MayFree.ebb (freeing : MayFree c c') : Ebb c c' := by
  rcases freeing with aside | ⟨k, freed⟩
  · exact aside.ebb
  · exact Notified.ebb freed (letGo_unfired _ _) (fewer_update (by simp) (List.nil_sublist _))

theorem ebb_resourceDestroyed (h : Handle) : Ebb c (c.resourceDestroyed h) := by
  rcases resourceDestroyed_cases (c := c) h with freeing | ⟨k, s, -, found, forgot⟩
  · exact freeing.ebb
  · refine forgot.ebb (by simp) (fewer_update ?_ ?_) <;>
      rw [dues_found found, Surface.forgetCallback]
    · split <;> simp [Surface.dues]
    · split
      · exact List.Sublist.refl _
      · exact List.erase_sublist

/-- Frame callbacks begin to wait or to be due, or are fired, only by requests for that. -/
theorem ebb_handle (linked : c.Linked) (host : Host) (request : Request)
    (frame : ∀ k callback, request ≠ .frame k callback) (commit : ∀ k, request ≠ .commit k)
    (render : ∀ time, request ≠ .render time) : Ebb c (c.handle host request).2 := by
  by_cases plain : request.isPlain = true
  · exact (aside_handle linked host plain).ebb
  cases asks : request.poolRequest? with
  | some r =>
    refine (effect_asked host asks).notified.ebb (fun h time => ?_) (.refl _)
    cases request <;> cases asks <;> simp [answered, returned_unfired]
  | none =>
    cases request
    case frame k callback => exact absurd rfl (frame k callback)
    case commit k => exact absurd rfl (commit k)
    case render time => exact absurd rfl (render time)
    case release k => exact (mayFree_releaseSurface k).ebb
    case destroySurface k => exact (mayFree_destroySurface k).ebb
    case resourceDestroyed h => exact ebb_resourceDestroyed h
    all_goals first | exact absurd rfl plain | cases asks

variable {past : List Beat}

theorem course_freed (course : Course c'.dues past) : Course c'.dues (past ++ c.freedBeats c') := by
  refine course.frees fun k member => ?_
  have gone : c'.surfaces.contains k = false := by simpa using (List.mem_filter.1 member).2
  have absent : c'.surfaces.get? k = none := by simpa [Table.contains] using gone
  rw [dues_absent absent]
  rfl

/-- What follows the mark of a request. -/
theorem course_told (course : Course c'.dues past)
    (unfired : ∀ h time, .frameDone h time ∉ transportEvents (c'.log.drop c.log.length)) :
    Course c'.dues (past ++ c.toldBeats c' ++ c.freedBeats c') :=
  course_freed (course.tells unfired)

theorem course_frame (course : Course c.dues past) (host : Host) (k : SurfaceId) (callback : UInt32)
    (free : ∀ h ∈ c.brought? host (.frame k callback), c.Free h) :
    Course (c.handle host (.frame k callback)).2.dues (past ++ c.beats host (.frame k callback)) := by
  have settled : (c.handle host (.frame k callback)).2 = (c.requestFrame host k callback).2 :=
    settle_snd _ _
  obtain ⟨refused, made⟩ := notified_requestFrame (c := c) host k callback
  rw [← settled] at refused made
  simp only [beats, mark, ← List.append_assoc]
  cases brought : c.brought? host (.frame k callback) with
  | none =>
    have aside := refused brought
    refine course_told ?_ (Notified.unfired aside (by simp))
    simpa [aside.dues] using course
  | some h =>
    have requested := made h brought
    refine course_told ?_ (requested.unfired (by simp))
    rw [requested.dues]
    refine course.request k fun x => ?_
    rw [callbacks_eq]
    exact free h brought _

theorem course_commit (course : Course c.dues past) (host : Host) (k : SurfaceId) :
    Course (c.handle host (.commit k)).2.dues (past ++ c.beats host (.commit k)) := by
  simp only [beats, mark, ← List.append_assoc]
  cases found : c.surfaces.get? k with
  | none =>
    have ignored : (c.handle host (.commit k)).2 = c := by simp only [handle, commitSurface, found]
    rw [ignored]
    exact course_told (by simpa [Table.contains, found] using course) (Aside.refl c).ebb.unfired
  | some s =>
    have committed : Notified c (c.handle host (.commit k)).2 _ _ _ :=
      (effect_commitSurface found host).notified
    rw [letGo_notices] at committed
    refine course_told ?_ (committed.unfired (letGo_unfired _ _))
    have callbacks : (c.dues k).callbacks = s.allCallbacks := by rw [dues_found found]; rfl
    rw [committed.dues, ← callbacks]
    simpa [Table.contains, found] using course.commit k s.toShow

/-- Passes fire what is due. -/
theorem course_passes (course : Course c.dues past) (tidy : c.buffers.Tidy) (held : c.Held)
    (host : Host) (time : UInt32) (due : List OutputId) :
    Course (due.foldl (fun c o => c.pass host time o) c).dues
      (past ++ passBeats host time due c) := by
  induction due generalizing c past with
  | nil => simpa [passBeats] using course
  | cons o due ih =>
    have effect := effect_pass tidy held host time o
    obtain ⟨events, log, told⟩ := effect.told
    have first := course.pass (c.drawn o) time
    rw [← effect.dues] at first
    have done := course_freed (c := c) first
    have rest := ih done (tidy_pass tidy held host time o) (held_pass held host time o)
    simpa [passBeats, toldBeats, log, told] using rest

/-! ### Reports that reach their callbacks -/

/-- What clients wait for is tracked, unless it was passed for a role. -/
def Tracked (c : Compositor) (past : List Beat) : Prop :=
  ∀ k h i, h ∈ c.handlesOf (.callback k) → Alive past k h i → ¬Clashed past h i → c.Sole (.callback k) h

/-- The transport makes no protocol object that somebody holds. -/
def MadeFree (c : Compositor) (host : Host) (request : Request) : Prop :=
  (∀ k role, request ≠ .createView k role) → c.Trusted host request

theorem requested_of_mem {host : Host} {request : Request} {k : SurfaceId} {h : Handle}
    (member : .requested k h ∈ c.beats host request) :
    ∃ callback, request = .frame k callback ∧ c.brought? host request = some h := by
  have passes (time : UInt32) (due : List OutputId) (c : Compositor) :
      .requested k h ∉ passBeats host time due c := by
    induction due generalizing c with
    | nil => simp [passBeats]
    | cons o due ih => simp [passBeats, toldBeats, freedBeats, ih]
  unfold beats at member
  split at member
  next => exact absurd member (passes _ _ _)
  next =>
    have marked : .requested k h ∈ c.mark host request := by simpa [toldBeats, freedBeats] using member
    unfold mark at marked
    split at marked
    case h_1 x callback _ =>
      obtain ⟨_, brought, same⟩ := List.mem_map.1 marked
      cases same
      exact ⟨callback, rfl, Option.mem_toList.1 brought⟩
    case h_2 | h_4 => split at marked <;> simp at marked
    all_goals simp at marked

theorem Tracked.sole (tracked : c.Tracked past) {rest : List Beat} {k : SurfaceId} {h : Handle}
    {i : Nat} (held : h ∈ c.handlesOf (.callback k)) (unasked : .requested k h ∉ rest)
    (alive : Alive (past ++ rest) k h i) (unclashed : ¬Clashed (past ++ rest) h i) :
    i < past.length ∧ c.Sole (.callback k) h := by
  obtain ⟨inside, before⟩ := alive.before unasked
  exact ⟨inside, tracked k h i held before fun clashed => unclashed (clashed.append rest)⟩

theorem Ebb.held (ebb : Ebb c c') {k : SurfaceId} {h : Handle}
    (held : h ∈ c'.handlesOf (.callback k)) : h ∈ c.handlesOf (.callback k) := by
  rw [← callbacks_eq] at held ⊢
  exact ebb.fewer.callbacks held

/-- A live callback that is passed for a role clashes, unless the role is refused. -/
theorem tracked_createView (reached : c.Reachable) (tracked : c.Tracked past) (host : Host)
    (x : SurfaceId) {k : SurfaceId} {h : Handle} {i : Nat}
    (held : h ∈ (c.handle host (.createView x h)).2.handlesOf (.callback k))
    (alive : Alive (past ++ c.beats host (.createView x h)) k h i)
    (unclashed : ¬Clashed (past ++ c.beats host (.createView x h)) h i) :
    (c.handle host (.createView x h)).2.Sole (.callback k) h := by
  have ebb := ebb_handle reached.linked host (.createView x h) (by simp) (by simp) (by simp)
  obtain ⟨inside, sole⟩ := tracked.sole (ebb.held held)
    (fun asked => by obtain ⟨_, ⟨⟩, _⟩ := requested_of_mem asked) alive unclashed
  rw [handle, settle_snd]
  rcases createView_cases (c := c) host x h with ⟨e, refused⟩ | ⟨view, d, taken, -⟩
  · rwa [refused]
  · refine absurd ⟨past.length, inside, ?_⟩ unclashed
    simp [beats, mark, taken, Except.isOk, Except.toBool, Table.contains, sole.index]

theorem tracked_handle (reached : c.Reachable) (tracked : c.Tracked past) (host : Host)
    (request : Request) (fresh : c.MadeFree host request) :
    (c.handle host request).2.Tracked (past ++ c.beats host request) := by
  intro k h i held alive unclashed
  have ebb := ebb_handle reached.linked host request
  by_cases brings : c.brought? host request = some h
  · cases request with
    | frame x callback =>
      have sole := sole_frame reached.linked brings (fresh (by simp) h brings)
      cases sole.only _ held
      exact sole
    | createView x role =>
      cases brings
      exact tracked_createView reached tracked host x held alive unclashed
    | createSurface | createRegion =>
      have free := fresh (by simp) h brings
      exact absurd ((ebb (by simp) (by simp) (by simp)).held held) (free _)
    | _ => cases brings
  have unasked : .requested k h ∉ c.beats host request := fun asked => by
    obtain ⟨_, -, brought⟩ := requested_of_mem asked
    exact brings brought
  by_cases reports : request = .resourceDestroyed h
  · subst reports
    obtain ⟨inside, -⟩ := tracked.sole ((ebb (by simp) (by simp) (by simp)).held held) unasked alive
      unclashed
    have spared := alive.spared past.length (.reported h) inside (by simp [beats, mark]) rfl
    rw [List.take_left] at spared
    exact absurd (spared.append _) unclashed
  · have careful := careful_handle reached.linked host request brings reports
    exact (tracked.sole (careful.held held) unasked alive unclashed).2.step careful held

/-- Whatever is asked, the history goes on as it should. -/
theorem course_handle (reached : c.Reachable) (tracked : c.Tracked past) (course : Course c.dues past)
    (host : Host) (request : Request) (fresh : c.MadeFree host request) :
    Course (c.handle host request).2.dues (past ++ c.beats host request) := by
  have ebb := ebb_handle reached.linked host request
  cases request
  case frame k callback => exact course_frame course host k callback (fresh (by simp))
  case commit k => exact course_commit course host k
  case render time =>
    have passed := course_passes course reached.tidy reached.held host time c.dueOutputs
    rwa [← handle_render] at passed
  case resourceDestroyed h =>
    have ebb := ebb (by simp) (by simp) (by simp)
    simp only [beats, mark, ← List.append_assoc]
    refine course_told ((course.fewer ebb.fewer).concat (by simp) ?_ fun _ _ _ => trivial) ebb.unfired
    rintro k x member i alive rfl
    by_contra unclashed
    have held := ebb.fewer.callbacks member
    rw [callbacks_eq] at member held
    exact (tracked k h i held alive unclashed).reported (.callback k) member
  case createView k role =>
    have ebb := ebb (by simp) (by simp) (by simp)
    simp only [beats, mark, ← List.append_assoc]
    refine course_told ?_ ebb.unfired
    split
    · exact (course.fewer ebb.fewer).concat (by simp) (fun _ _ _ _ _ => trivial) fun _ _ _ => trivial
    · simpa using course.fewer ebb.fewer
  all_goals
    have ebb := ebb (by simp) (by simp) (by simp)
    simp only [beats, mark, List.nil_append, ← List.append_assoc]
    exact course_told (course.fewer ebb.fewer) ebb.unfired

/-! ### Runs -/

/-- The states that requests lead to while the transport makes no live protocol object, with the beats
on the way. The host may collect what it was told at any time. -/
inductive Chronicle : Compositor → List Beat → Prop
  | start (config : Config) (contexts : Contexts) : Chronicle { config, contexts } []
  | handle {c : Compositor} {past : List Beat} (before : Chronicle c past) (host : Host)
      (request : Request) (fresh : c.MadeFree host request) :
      Chronicle (c.handle host request).2 (past ++ c.beats host request)
  | collect {c : Compositor} {past : List Beat} (before : Chronicle c past) :
      Chronicle c.collect.2 past

variable {history : List Beat}

theorem Chronicle.reachable (chronicle : Chronicle c history) : c.Reachable := by
  induction chronicle with
  | start config contexts => exact .start config contexts
  | handle _ host request _ ih => exact ih.handle host request
  | collect _ ih => exact ih.collect

theorem Chronicle.tracked (chronicle : Chronicle c history) : c.Tracked history := by
  induction chronicle with
  | start config contexts =>
    intro k h i _ alive
    simpa using alive.requested
  | handle before host request fresh ih => exact tracked_handle before.reachable ih host request fresh
  | collect _ ih =>
    intro k h i held alive unclashed
    have sole := ih k h i held alive unclashed
    exact ⟨sole.index, sole.once, sole.only⟩

theorem Chronicle.course (chronicle : Chronicle c history) : Course c.dues history := by
  induction chronicle with
  | start config contexts => exact .nil
  | handle before host request fresh ih =>
    exact course_handle before.reachable before.tracked ih host request fresh
  | collect _ ih => exact ih

/-- The beats of a run. -/
def beatsOf (c : Compositor) : List (Host × Request) → List Beat
  | [] => []
  | x :: rest => c.beats x.1 x.2 ++ (c.handle x.1 x.2).2.beatsOf rest

/-- Every protocol object that the requests bring is new to the index. -/
def bringsNew (c : Compositor) : List (Host × Request) → Bool
  | [] => true
  | x :: rest => (c.brought? x.1 x.2).all (!c.resources.contains ·) &&
      (c.handle x.1 x.2).2.bringsNew rest

/-- A run that brings only what is new has its chronicle. -/
theorem Chronicle.run (chronicle : Chronicle c past) (indexed : c.Indexed)
    (requests : List (Host × Request)) (new : c.bringsNew requests = true) :
    Chronicle (c.run requests) (past ++ c.beatsOf requests) := by
  induction requests generalizing c past with
  | nil => simpa [beatsOf, run] using chronicle
  | cons x rest ih =>
    rw [bringsNew, Bool.and_eq_true] at new
    have trusted : c.Trusted x.1 x.2 := fun h member => by
      have absent : c.resources.contains h = false := by simpa [Option.mem_def.1 member] using new.1
      rw [indexed.free_iff]
      simpa [Table.contains] using absent
    have next := (lives_handle indexed chronicle.reachable.linked x.1 x.2 trusted).indexed
    have rest := ih (chronicle.handle x.1 x.2 fun _ => trusted) next new.2
    rwa [List.append_assoc] at rest

/-- Frame callbacks are fired once, in order, and only when they are due. -/
theorem Chronicle.fires (chronicle : Chronicle c history) : Punctual history :=
  chronicle.course.punctual

/-- A surface with a committed callback is shown on an output. -/
def shownWithCallback : List (Host × Request) := List.map (Prod.mk .willing)
  [.createSurface ⟨1⟩ 1, .pool (.register ⟨.shared, ⟨1, 1⟩, 4, .argb, none⟩),
    .attach ⟨1⟩ (some ⟨1⟩) ⟨0, 0⟩, .frame ⟨1⟩ 2, .commit ⟨1⟩, .addOutput "screen" ⟨1, 1⟩,
    .createView ⟨1⟩ ⟨⟨1⟩, 3⟩, .setViewOutput ⟨1⟩ (some ⟨1⟩)]

/-- Another callback is committed, and a third replaced before that. -/
def twoCallbacks : List (Host × Request) := shownWithCallback ++ List.map (Prod.mk .willing)
  [.frame ⟨1⟩ 4, .frame ⟨1⟩ 5, .commit ⟨1⟩, .render 7]

theorem twoCallbacks_fires :
    let start : Compositor := { config := {}, contexts := .standard }
    Chronicle (start.run twoCallbacks) (start.beatsOf twoCallbacks) ∧
      Punctual (start.beatsOf twoCallbacks) ∧
      ((start.beatsOf twoCallbacks).filterMap Beat.event?).drop 4 =
        [.destroyed ⟨⟨1⟩, 4⟩, .frameDone ⟨⟨1⟩, 2⟩ 7, .destroyed ⟨⟨1⟩, 2⟩, .frameDone ⟨⟨1⟩, 5⟩ 7,
          .destroyed ⟨⟨1⟩, 5⟩] := by
  intro start
  have chronicle :=
    (Chronicle.start {} .standard).run (start_indexed {} .standard) twoCallbacks (by decide)
  exact ⟨chronicle, chronicle.fires, by decide⟩

/-- The shown surface, and another one that has no role yet. -/
def shownWithAnother : List (Host × Request) :=
  shownWithCallback ++ [(.willing, .createSurface ⟨1⟩ 6)]

/-- The callback is passed for a role, its client destroys it, and it is fired nevertheless. -/
theorem fired_though_destroyed :
    let h : Handle := ⟨⟨1⟩, 2⟩
    let past := ({ config := {}, contexts := .standard } : Compositor).beatsOf shownWithAnother
    (∃ c, Chronicle c (past ++ [.clashed h] ++ [.reported h] ++
      [.pass [⟨1⟩], .told (.frameDone h 7), .told (.destroyed h)])) ∧
      past.count (.requested ⟨1⟩ h) = 1 := by
  intro h past
  let shown := ({ config := {}, contexts := .standard } : Compositor).run shownWithAnother
  let clashed := (shown.handle .willing (.createView ⟨2⟩ h)).2
  let reported := (clashed.handle .willing (.resourceDestroyed h)).2
  have first : Chronicle shown past :=
    (Chronicle.start {} .standard).run (start_indexed {} .standard) shownWithAnother (by decide)
  have second := first.handle .willing (.createView ⟨2⟩ h) fun other => absurd rfl (other _ _)
  have third := second.handle .willing (.resourceDestroyed h) fun _ _ => nofun
  have fourth := third.handle .willing (.render 7) fun _ _ => nofun
  have clash : shown.beats .willing (.createView ⟨2⟩ h) = [.clashed h] := by decide
  have report : clashed.beats .willing (.resourceDestroyed h) = [.reported h] := by decide
  have fire : reported.beats .willing (.render 7) =
      [.pass [⟨1⟩], .told (.frameDone h 7), .told (.destroyed h)] := by decide
  rw [clash, report, fire] at fourth
  exact ⟨⟨_, fourth⟩, by decide⟩

end Compositor

end Compositing
