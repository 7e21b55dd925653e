import Compositing.Proofs.Compositor.Counts
import Compositing.Proofs.Histories

/-!
# No release is lost or told twice

A buffer that a surface gives up goes back to its client at once if it is idle, and otherwise when the
last render that reads it ends. It goes back once, however many surfaces gave it up meanwhile, and not
at all if its client destroyed it before. All of this takes that renders are counted right: a buffer that
more renders read than a word can count would look idle. Main statement: `run_settles`.
-/

namespace Compositing

/-- Marks are cleared as renders complete, and buffers are destroyed through the compositor. -/
def Request.isOrderly : Request → Bool
  | pool (.clearBusy _) | pool (.destroy _) => false
  | _ => true

namespace BufferPool

variable {pool pool' : BufferPool} {b : BufferId} {r : PoolRequest} {reply : PoolReply}

theorem turn_of_handle? (step : pool.handle? r = some (reply, pool')) : Turn pool r reply pool' := by
  have turn := turn_handle pool r
  rwa [(handle?_eq_some_iff.1 step).2] at turn

/-- A buffer becomes idle only when its last mark is cleared, as long as marks are counted in words. -/
theorem clearBusy_of_idle (step : pool.handle? r = some (reply, pool')) (named : pool.Named)
    (busy : 0 < pool.busyCount b) (idle : pool'.busyCount b = 0) :
    r = .clearBusy b ∧ pool.busyCount b = 1 := by
  have count := (turn_of_handle? step).busyCount named b
  by_cases cleared : clears b (r, reply) = true
  · unfold clears at cleared
    split at cleared
    next x outcome same =>
      cases same
      obtain rfl : x = b := of_decide_eq_true cleared
      exact ⟨rfl, by simp [marks, clears] at count; omega⟩
    next => cases cleared
  · rw [Bool.not_eq_true] at cleared
    rw [cleared, idle] at count
    simp at count
    omega

/-- The request to destroy the buffer is parked, or was carried out. -/
def Doomed (pool : BufferPool) (b : BufferId) : Prop := pool.Parked .destroy b ∨ pool.Gone b

theorem Doomed.handle (tidy : pool.Tidy) (doomed : pool.Doomed b)
    (step : pool.handle? r = some (reply, pool')) : pool'.Doomed b := by
  have turn := turn_of_handle? step
  rcases doomed with parked | gone
  · have busy := tidy.busy b .destroy parked
    by_cases still : 0 < pool'.busyCount b
    · exact .inl ((turn.parked_iff tidy .destroy b).2 ⟨still, .inl parked⟩)
    · obtain ⟨rfl, last⟩ := clearBusy_of_idle step tidy.named busy (by omega)
      have freed := (clearBusy_completes_iff pool b .freed).2 ⟨last, .inl ⟨rfl, parked⟩⟩
      rw [(handle?_eq_some_iff.1 step).2] at freed
      exact .inr (turn.gone tidy.named (frees_iff.2 ⟨rfl, freed⟩))
  · have gone := gone.handle r
    rw [(handle?_eq_some_iff.1 step).2] at gone
    exact .inr gone

theorem doomed_destroy (tidy : pool.Tidy) {record : Buffer} (there : pool.get? b = some record)
    (step : pool.handle? (.destroy b) = some (reply, pool')) : pool'.Doomed b := by
  have turn := turn_of_handle? step
  have answered : (pool.handle (.destroy b)).1 = _ := handle_request there .destroy
  rw [(handle?_eq_some_iff.1 step).2] at answered
  split at answered
  next busy =>
    rw [← busyCount_eq there] at busy
    refine .inl ((turn.parked_iff tidy .destroy b).2 ⟨?_, .inr ⟨rfl, busy⟩⟩)
    by_contra idle
    obtain ⟨clears, -⟩ := clearBusy_of_idle step tidy.named busy (by omega)
    cases clears
  next => exact .inr (turn.gone tidy.named (frees_iff.2 ⟨rfl, answered⟩))

theorem Recounted.doomed (recounted : pool.Recounted pool') (doomed : pool.Doomed b) :
    pool'.Doomed b :=
  doomed.imp (recounted.parked .destroy b).2 fun gone =>
    ⟨by simpa [gone.1] using recounted.registered b, recounted.next ▸ gone.2⟩

/-- A doomed buffer that is still registered waits for its destruction. -/
theorem Doomed.parked (doomed : pool.Doomed b) {record : Buffer}
    (there : pool.get? b = some record) : pool.Parked .destroy b :=
  doomed.resolve_right fun gone => nomatch there.symm.trans gone.1

/-- Only an idle buffer is released at once. -/
theorem release_completes_iff (pool : BufferPool) (b : BufferId) :
    (pool.handle (.release b)).1 = .ended (some .released) ↔
      pool.contains b ∧ pool.busyCount b = 0 := by
  cases there : pool.get? b with
  | none =>
    rw [handle_of_absent rfl there]
    simp [contains, Table.contains, show pool.buffers.get? b = none from there]
  | some record =>
    have answered : (pool.handle (.release b)).1 = _ := handle_request there .release
    rw [answered, busyCount_eq there]
    have known : pool.contains b = true := (pool.buffers.contains_iff b).2 ⟨record, there⟩
    simp only [known, true_and]
    split <;> simp <;> omega

end BufferPool

namespace Compositor

variable {c c' : Compositor} {b : BufferId} {request : Request} {back : List BufferId}

/-- A surface stops showing the buffer. -/
def GivesUp (c c' : Compositor) (b : BufferId) : Prop :=
  ∃ k, c.shown k = some b ∧ c'.shown k ≠ some b

/-- The pool is asked to release the buffer, or to destroy it. -/
def Asks (c c' : Compositor) (request : Request) : Parking → BufferId → Prop
  | .release, b => c.GivesUp c' b ∨ request = .pool (.release b)
  | .destroy, b => request = .destroyBuffer b ∨ request = .pool (.destroy b)

/-! ### One request -/

theorem not_givesUp (shown : c'.shown = c.shown) : ¬c.GivesUp c' b := by
  rintro ⟨k, before, after⟩
  exact after (shown ▸ before)

theorem givesUp_update_iff {k : SurfaceId} {x : BufferId} {new : Option BufferId}
    (showed : c.shown k = some x) (other : new ≠ some x)
    (shown : c'.shown = Function.update c.shown k new) : c.GivesUp c' b ↔ x = b := by
  constructor
  · rintro ⟨j, before, after⟩
    by_cases here : j = k
    · exact Option.some.inj (showed.symm.trans (here ▸ before))
    · rw [shown, Function.update_of_ne here] at after
      exact absurd before after
  · rintro rfl
    exact ⟨k, showed, by rwa [shown, Function.update_self]⟩

theorem not_givesUp_update {k : SurfaceId} {new : Option BufferId} (showed : c.shown k = none)
    (shown : c'.shown = Function.update c.shown k new) : ¬c.GivesUp c' b := by
  rintro ⟨j, before, after⟩
  have elsewhere : j ≠ k := by
    rintro rfl
    exact nomatch showed.symm.trans before
  rw [shown, Function.update_of_ne elsewhere] at after
  exact after before

/-- A request demands nothing of the pool, or one thing. -/
inductive Demand (c c' : Compositor) (request : Request) : Prop
  | nothing (recounted : c.buffers.Recounted c'.buffers)
      (counts : ∀ b, c'.buffers.busyCount b = c.buffers.busyCount b)
      (unasked : ∀ k b, ¬c.Asks c' request k b)
  | one {r : PoolRequest} {reply : PoolReply} (step : c.buffers.handle? r = some (reply, c'.buffers))
      (asks : ∀ k b, c.Asks c' request k b ↔ r = k.request b)
      (clears : ∀ b, r = .clearBusy b → request.poolRequest? = some r)

theorem asks_iff_of_still (still : ∀ b, ¬c.GivesUp c' b) {r : Option PoolRequest}
    (asks : request.poolRequest? = r) (k : Parking) (b : BufferId) :
    c.Asks c' request k b ↔ r = some (k.request b) := by
  subst asks
  cases k <;> cases request <;> simp [Asks, still, Request.poolRequest?, Parking.request]

theorem asks_iff_givesUp (asks : request.poolRequest? = none) (k : Parking) (b : BufferId) :
    c.Asks c' request k b ↔ k = .release ∧ c.GivesUp c' b := by
  cases k <;> cases request <;> simp_all [Asks, Request.poolRequest?]

theorem Deal.demand (deal : Deal c c' back request) (counted : c.CanCount request) :
    Demand c c' request := by
  cases deal with
  | kept asks kept =>
    refine .nothing kept.recounted kept.counts fun k b asked => ?_
    exact not_givesUp kept.shown ((asks_iff_givesUp asks k b).1 asked).2
  | took commits showed _ shown buffers =>
    subst commits
    refine .nothing (buffers ▸ .refl _) (fun b => by rw [buffers]) fun k b asked => ?_
    exact not_givesUp_update showed shown ((asks_iff_givesUp rfl k b).1 asked).2
  | gaveUp asks showed other _ shown buffers =>
    have step : c.buffers.handle? (.release _) = some (_, c'.buffers) :=
      BufferPool.handle?_eq_some_iff.2 ⟨trivial, Prod.ext rfl buffers.symm⟩
    refine .one step (fun k b => ?_) nofun
    rw [asks_iff_givesUp asks, givesUp_update_iff showed other shown]
    cases k <;> simp [Parking.request]
  | @asked r asks shown buffers =>
    have countable : c.buffers.CanCount r := by
      cases request <;> cases asks <;> exact counted
    have step : c.buffers.handle? r = some (_, c'.buffers) :=
      BufferPool.handle?_eq_some_iff.2 ⟨countable, Prod.ext rfl buffers.symm⟩
    refine .one step (fun k b => ?_) fun _ _ => asks
    rw [asks_iff_of_still (fun b => not_givesUp shown) asks, Option.some_inj]

/-- What is parked follows from what was parked and what is asked, for as long as the buffer is busy. -/
theorem Demand.parked_iff (demand : Demand c c' request) (tidy : c.buffers.Tidy) (k : Parking)
    (b : BufferId) : c'.buffers.Parked k b ↔ 0 < c'.buffers.busyCount b ∧
      (c.buffers.Parked k b ∨ (c.Asks c' request k b ∧ 0 < c.buffers.busyCount b)) := by
  cases demand with
  | nothing recounted counts unasked =>
    simp only [recounted.parked, counts, unasked, false_and, or_false]
    exact ⟨fun parked => ⟨tidy.busy b k parked, parked⟩, And.right⟩
  | one step asks => rw [asks, (BufferPool.turn_of_handle? step).parked_iff tidy]

/-- Buffers become idle only as renders complete. -/
theorem Demand.renderComplete (demand : Demand c c' request) (tidy : c.buffers.Tidy)
    (orderly : request.isOrderly) (busy : 0 < c.buffers.busyCount b)
    (idle : c'.buffers.busyCount b = 0) :
    request = .renderComplete b ∧ c.buffers.busyCount b = 1 := by
  cases demand with
  | nothing _ counts =>
    rw [counts] at idle
    omega
  | one step _ clears =>
    obtain ⟨rfl, last⟩ := BufferPool.clearBusy_of_idle step tidy.named busy idle
    refine ⟨?_, last⟩
    have asked := clears b rfl
    cases request <;> cases asked
    · cases orderly
    · rfl

theorem Demand.doomed (demand : Demand c c' request) (tidy : c.buffers.Tidy)
    (doomed : c.buffers.Doomed b) : c'.buffers.Doomed b := by
  cases demand with
  | nothing recounted => exact recounted.doomed doomed
  | one step => exact doomed.handle tidy step

/-- A destruction that is asked for is parked or carried out. -/
theorem Demand.doomed_of_asks (demand : Demand c c' request) (tidy : c.buffers.Tidy)
    (asks : c.Asks c' request .destroy b) (known : c.buffers.contains b) :
    c'.buffers.Doomed b := by
  obtain ⟨record, there⟩ := (c.buffers.buffers.contains_iff b).1 known
  cases demand with
  | nothing _ _ unasked => exact absurd asks (unasked _ b)
  | one step asked =>
    obtain rfl := (asked _ b).1 asks
    exact BufferPool.doomed_destroy tidy there step

/-- What is given back, the pool was asked about. -/
theorem Deal.back_cases (deal : Deal c c' back request) : back = [] ∨ ∃ x r, r.buffer? = some x ∧
    c'.buffers = (c.buffers.handle r).2 ∧ back = releases (returned x (c.buffers.handle r).1) := by
  cases deal with
  | kept _ _ nothing | took _ _ _ _ _ nothing => exact .inl nothing
  | gaveUp _ _ _ _ _ buffers given => exact .inr ⟨_, _, rfl, buffers, given⟩
  | asked asks _ buffers given =>
    unfold answered at given
    split at given
    · cases asks
      exact .inr ⟨_, _, rfl, buffers, given⟩
    · exact .inl given

/-- A request gives back at most one buffer, once, and only if no render reads it any more. -/
theorem Deal.of_mem (deal : Deal c c' back request) (told : b ∈ back) :
    back = [b] ∧ c'.buffers.busyCount b = 0 := by
  rcases deal.back_cases with rfl | ⟨x, r, about, buffers, rfl⟩
  · cases told
  · obtain ⟨rfl, released⟩ := mem_releases_returned.1 told
    refine ⟨by rw [releases_returned, if_pos released], ?_⟩
    exact buffers ▸ (BufferPool.turn_handle ..).unread_of_ended about (.inl released)

/-- A client gets back a buffer that was idle when it was given up, or one whose last render completes
after its release was asked. -/
theorem Deal.mem_iff (deal : Deal c c' back request) : b ∈ back ↔
    (c.GivesUp c' b ∧ c.buffers.contains b ∧ c.buffers.busyCount b = 0) ∨
      (request = .renderComplete b ∧ c.buffers.busyCount b = 1 ∧ c.buffers.Parked .release b ∧
        ¬c.buffers.Parked .destroy b) := by
  have other (asks : request.poolRequest? = none) : request ≠ .renderComplete b := by
    rintro rfl
    cases asks
  cases deal with
  | kept asks kept nothing => simp [nothing, not_givesUp kept.shown, other asks]
  | took commits showed _ shown _ nothing =>
    subst commits
    simp [nothing, not_givesUp_update showed shown]
  | @gaveUp _ x _ asks showed unlike _ shown _ given =>
    rw [given, mem_releases_returned, givesUp_update_iff showed unlike shown,
      BufferPool.release_completes_iff]
    simp only [other asks, false_and, or_false]
    grind
  | @asked r asks shown _ given =>
    simp only [given, not_givesUp shown, false_and, false_or]
    cases request
    case renderComplete x =>
      rw [answered, mem_releases_returned, BufferPool.clearBusy_completes_iff]
      grind
    all_goals simp [answered, releases]

/-- Surfaces keep what they show while the pool is asked something. -/
theorem Deal.poolRequest?_of_givesUp (deal : Deal c c' back request) (gives : c.GivesUp c' b) :
    request.poolRequest? = none := by
  cases deal with
  | kept asks | gaveUp asks => exact asks
  | took commits => exact commits ▸ rfl
  | asked _ shown => exact absurd gives (not_givesUp shown)

/-! ### Runs of requests -/

/-- From a new compositor: the release of the buffer was asked while renders read it, by a surface that
gave it up or else of the pool, and renders have read it ever since. -/
def Owed (start : Compositor) (b : BufferId) (past : List (Host × Request)) : Prop :=
  Since (fun before x => (start.run before).Asks (start.run (before ++ [x])) x.2 .release b)
    (fun upto => 0 < (start.run upto).buffers.busyCount b) past

/-- The destruction of the buffer was asked while it was registered. -/
def Condemned (start : Compositor) (b : BufferId) (past : List (Host × Request)) : Prop :=
  ∃ before host after, past = before ++ (host, .destroyBuffer b) :: after ∧
    (start.run before).buffers.contains b

variable {start : Compositor} {past : List (Host × Request)}

theorem run_concat (start : Compositor) (past : List (Host × Request)) (x : Host × Request) :
    start.run (past ++ [x]) = ((start.run past).handle x.1 x.2).2 := by
  simp [run]

theorem condemned_concat_iff (x : Host × Request) : Condemned start b (past ++ [x]) ↔
    Condemned start b past ∨ (x.2 = .destroyBuffer b ∧ (start.run past).buffers.contains b) := by
  constructor
  · rintro ⟨before, host, after, split, known⟩
    rcases concat_eq_append_cons_iff.1 split with ⟨rfl, rfl, -⟩ | ⟨rest, -, rfl⟩
    · exact .inr ⟨rfl, known⟩
    · exact .inl ⟨before, host, rest, rfl, known⟩
  · rintro (⟨before, host, rest, rfl, known⟩ | ⟨asks, known⟩)
    · exact ⟨before, host, rest ++ [x], by simp, known⟩
    · exact ⟨past, x.1, [], by rw [← asks], known⟩

theorem demand_run (reached : start.Reachable) {x : Host × Request}
    (counted : (start.run past).CanCount x.2) :
    Demand (start.run past) (start.run (past ++ [x])) x.2 :=
  run_concat start past x ▸ ((reached.run past).deal x.1 x.2).demand counted

theorem unparked_of_new (new : start.buffers = .empty) (k : Parking) (b : BufferId) :
    ¬start.buffers.Parked k b := by
  rw [new]
  exact fun parked => Nat.lt_irrefl 0 (BufferPool.empty_tidy.busy b k parked)

/-- What is owed is parked. -/
theorem parked_release_iff (reached : start.Reachable) (new : start.buffers = .empty)
    (counted : start.CanCountAll past) (b : BufferId) :
    (start.run past).buffers.Parked .release b ↔ Owed start b past := by
  induction past using List.reverseRecOn with
  | nil =>
    exact ⟨fun parked => absurd parked (unparked_of_new new _ b),
      fun owed => absurd owed not_since_nil⟩
  | append_singleton past x ih =>
    obtain ⟨before, last⟩ := canCountAll_concat_iff.1 counted
    have parked := (demand_run reached last).parked_iff (reached.run past).tidy .release b
    rw [Owed, since_concat_iff, parked]
    exact and_congr_right fun _ => or_congr_left (ih before)

theorem Condemned.doomed (reached : start.Reachable) (counted : start.CanCountAll past)
    (condemned : Condemned start b past) :
    (start.run past).buffers.Doomed b := by
  induction past using List.reverseRecOn with
  | nil =>
    obtain ⟨before, host, after, split, -⟩ := condemned
    simp at split
  | append_singleton past x ih =>
    obtain ⟨earlier, last⟩ := canCountAll_concat_iff.1 counted
    have demand := demand_run reached last
    have tidy := (reached.run past).tidy
    rcases (condemned_concat_iff x).1 condemned with before | ⟨asks, known⟩
    · exact demand.doomed tidy (ih earlier before)
    · exact demand.doomed_of_asks tidy (.inl asks) known

theorem condemned_of_parked (reached : start.Reachable) (new : start.buffers = .empty)
    (counted : start.CanCountAll past) (orderly : ∀ x ∈ past, x.2.isOrderly)
    (parked : (start.run past).buffers.Parked .destroy b) : Condemned start b past := by
  induction past using List.reverseRecOn with
  | nil => exact absurd parked (unparked_of_new new _ b)
  | append_singleton past x ih =>
    obtain ⟨earlier, last⟩ := canCountAll_concat_iff.1 counted
    rw [(demand_run reached last).parked_iff (reached.run past).tidy] at parked
    rw [condemned_concat_iff]
    obtain ⟨-, before | ⟨asks | asks, busy⟩⟩ := parked
    · exact .inl (ih earlier (fun y there => orderly y (List.mem_append_left _ there)) before)
    · obtain ⟨record, there, -⟩ := BufferPool.busyCount_pos_iff.1 busy
      exact .inr ⟨asks, (Table.contains_iff _ b).2 ⟨record, there⟩⟩
    · have apart := orderly x (by simp)
      rw [asks] at apart
      cases apart

/-- What clients get back when one more request is handled after a run. -/
structure Settles (start : Compositor) (past : List (Host × Request)) (host : Host)
    (request : Request) : Prop where
  idle (b : BufferId)
    (gives : (start.run past).GivesUp ((start.run past).handle host request).2 b)
    (known : (start.run past).buffers.contains b) (idle : (start.run past).buffers.busyCount b = 0) :
    (start.run past).released host request = [b]
  busy (b : BufferId)
    (gives : (start.run past).GivesUp ((start.run past).handle host request).2 b)
    (busy : 0 < (start.run past).buffers.busyCount b) :
    b ∉ (start.run past).released host request
  /-- The last render pays what is owed, unless the client destroyed the buffer. -/
  owed (b : BufferId) (owed : Owed start b past)
    (last : ((start.run past).handle host request).2.buffers.busyCount b = 0) :
    (¬Condemned start b past → (start.run past).released host request = [b]) ∧
      (Condemned start b past → (start.run past).released host request = [])
  only (b : BufferId) (told : b ∈ (start.run past).released host request) :
    (start.run past).released host request = [b] ∧
      ((start.run past).handle host request).2.buffers.busyCount b = 0 ∧
      ¬Condemned start b (past ++ [(host, request)]) ∧
      (((start.run past).GivesUp ((start.run past).handle host request).2 b ∧
        (start.run past).buffers.busyCount b = 0) ∨ Owed start b past)

/-- From a new compositor, as long as requests are orderly and all they count can be counted, whatever
clients have to get back they get back exactly once, as soon as no render reads it, and nothing else. -/
theorem run_settles (config : Config) (contexts : Contexts) (past : List (Host × Request))
    (host : Host) (request : Request)
    (orderly : ∀ x ∈ past ++ [(host, request)], x.2.isOrderly)
    (counted : ({ config, contexts } : Compositor).CanCountAll (past ++ [(host, request)])) :
    ({ config, contexts } : Compositor).run? (past ++ [(host, request)]) =
        some (({ config, contexts } : Compositor).run (past ++ [(host, request)])) ∧
      Settles { config, contexts } past host request := by
  have reached := Reachable.start config contexts
  generalize fresh : ({ config, contexts } : Compositor) = start at reached counted ⊢
  have new : start.buffers = .empty := fresh ▸ rfl
  obtain ⟨earlier, last⟩ := canCountAll_concat_iff.1 counted
  have tidy := (reached.run past).tidy
  have deal := (reached.run past).deal host request
  have owes (b : BufferId) := parked_release_iff reached new earlier b
  have doomed (b : BufferId) : Condemned start b past → (start.run past).buffers.Doomed b :=
    Condemned.doomed reached earlier
  have parked (b : BufferId) : (start.run past).buffers.Parked .destroy b → Condemned start b past :=
    condemned_of_parked reached new earlier fun x there => orderly x (List.mem_append_left _ there)
  have still : request.isOrderly := orderly (host, request) (by simp)
  refine ⟨reached.run?_eq_some_iff.2 ⟨counted, rfl⟩, fun b gives known idle => ?_,
    fun b gives busy told => ?_, fun b owed idle => ?_,
    fun b told => ⟨(deal.of_mem told).1, (deal.of_mem told).2, ?_⟩⟩
  · exact (deal.of_mem (deal.mem_iff.2 (.inl ⟨gives, known, idle⟩))).1
  · have asks := deal.poolRequest?_of_givesUp gives
    rcases deal.mem_iff.1 told with ⟨-, -, idle⟩ | ⟨rfl, -⟩
    · exact absurd idle (Nat.ne_of_gt busy)
    · cases asks
  · obtain ⟨rfl, count⟩ := (deal.demand last).renderComplete tidy still owed.now idle
    obtain ⟨record, there, -⟩ := BufferPool.busyCount_pos_iff.1 owed.now
    constructor
    · intro free
      exact (deal.of_mem (deal.mem_iff.2 (.inr ⟨rfl, count, (owes b).2 owed, fun there =>
        free (parked b there)⟩))).1
    · intro condemned
      refine List.eq_nil_iff_forall_not_mem.2 fun x told => ?_
      rcases deal.mem_iff.1 told with ⟨gives, -⟩ | ⟨same, -, -, free⟩
      · cases deal.poolRequest?_of_givesUp gives
      · cases same
        exact free ((doomed b condemned).parked there)
  · rw [condemned_concat_iff]
    rcases deal.mem_iff.1 told with ⟨gives, known, idle⟩ | ⟨rfl, -, release, free⟩
    · obtain ⟨record, there⟩ := (Table.contains_iff _ b).1 known
      refine ⟨?_, .inl ⟨gives, idle⟩⟩
      rintro (before | ⟨rfl, -⟩)
      · exact absurd idle (Nat.ne_of_gt (tidy.busy b _ ((doomed b before).parked there)))
      · cases deal.poolRequest?_of_givesUp gives
    · have owed := (owes b).1 release
      obtain ⟨record, there, -⟩ := release
      refine ⟨?_, .inr owed⟩
      rintro (before | ⟨same, -⟩)
      · exact free ((doomed b before).parked there)
      · cases same

/-- Two surfaces give up a buffer while a render reads it. -/
def givenUpTwice : List (Host × Request) := List.map (Prod.mk .willing)
  [.createSurface ⟨1⟩ 1, .createSurface ⟨1⟩ 2, .pool (.register ⟨.shared, ⟨1, 1⟩, 4, .argb, none⟩),
    .attach ⟨1⟩ (some ⟨1⟩) ⟨0, 0⟩, .commit ⟨1⟩, .attach ⟨2⟩ (some ⟨1⟩) ⟨0, 0⟩, .commit ⟨2⟩,
    .pool (.markBusy ⟨1⟩), .attach ⟨1⟩ none ⟨0, 0⟩, .commit ⟨1⟩, .destroySurface ⟨2⟩]

theorem givenUpTwice_settles :
    (∀ x ∈ givenUpTwice ++ [(Host.willing, Request.renderComplete ⟨1⟩)], x.2.isOrderly) ∧
      ({ config := {}, contexts := .standard } : Compositor).CanCountAll
        (givenUpTwice ++ [(Host.willing, Request.renderComplete ⟨1⟩)]) ∧
      Settles { config := {}, contexts := .standard } givenUpTwice .willing (.renderComplete ⟨1⟩) ∧
      (({ config := {}, contexts := .standard } : Compositor).run givenUpTwice).released .willing
        (.renderComplete ⟨1⟩) = [⟨1⟩] := by
  have orderly : ∀ x ∈ givenUpTwice ++ [(Host.willing, Request.renderComplete ⟨1⟩)],
      x.2.isOrderly := by
    decide
  have counted : ({ config := {}, contexts := .standard } : Compositor).CanCountAll
      (givenUpTwice ++ [(Host.willing, Request.renderComplete ⟨1⟩)]) :=
    ((Reachable.start {} .standard).run?_eq_some_iff.1 rfl).1
  exact ⟨orderly, counted, (run_settles {} .standard _ _ _ orderly counted).2, by decide⟩

/-- The pool is asked to release a buffer that a render reads. -/
def releasedUnshown : List (Host × Request) := List.map (Prod.mk .willing)
  [.pool (.register ⟨.shared, ⟨1, 1⟩, 4, .argb, none⟩), .pool (.markBusy ⟨1⟩),
    .pool (.release ⟨1⟩)]

/-- A buffer that is marked again and again is read that often. -/
theorem run_marks (host : Host) {record : Buffer} (there : c.buffers.get? b = some record) (n : Nat) :
    c.run (List.replicate n (host, .pool (.markBusy b))) = c.holding [] (List.replicate n b) := by
  induction n with
  | zero => exact c.holding_nil.symm
  | succ n ih =>
    have marked : ((c.buffers.reading (List.replicate n b)).handle (.markBusy b)).2 =
        c.buffers.reading (List.replicate n b ++ [b]) := by
      rw [BufferPool.handle, BufferPool.markBusy_reading there]
      rfl
    rw [List.replicate_succ', run_concat, ih, List.replicate_succ']
    change { c.holding [] (List.replicate n b) with
      buffers := ((c.buffers.reading (List.replicate n b)).handle (.markBusy b)).2 } = _
    rw [marked]
    rfl

/-- A buffer that a render is told to read. -/
def marked : Compositor :=
  ({ config := {}, contexts := .standard } : Compositor).run <| List.map (Prod.mk .willing)
    [.pool (.register ⟨.shared, ⟨1, 1⟩, 4, .argb, none⟩)]

theorem handle?_of_full {n : Nat} (full : n + 1 = UInt32.size) :
    (marked.run (List.replicate n (.willing, .pool (.markBusy ⟨1⟩)))).buffers.busyCount ⟨1⟩ = n ∧
    (marked.run (List.replicate n (.willing, .pool (.markBusy ⟨1⟩)))).handle? .willing
      (.pool (.markBusy ⟨1⟩)) = none := by
  have there : marked.buffers.get? ⟨1⟩ = some _ := rfl
  have count : (marked.run (List.replicate n (.willing, .pool (.markBusy ⟨1⟩)))).buffers.busyCount
      ⟨1⟩ = n := by
    rw [run_marks .willing there]
    refine (busyCount_reading there _).trans ?_
    rw [List.count_replicate_self]
    exact Nat.zero_add n
  have reached : (marked.run (List.replicate n (.willing, .pool (.markBusy ⟨1⟩)))).Reachable :=
    ((Reachable.start _ _).run _).run _
  refine ⟨count, Option.eq_none_iff_forall_ne_some.2 fun answer words => ?_⟩
  have room : _ + 1 < UInt32.size := (reached.handle?_eq_some_iff.1 words).1
  omega

/-- A client gets back a buffer that no surface ever showed, if the pool is asked to release it. One more
render than a word can count is not counted. -/
theorem given_back_never_shown :
    (∀ x ∈ releasedUnshown ++ [(Host.willing, Request.renderComplete ⟨1⟩)], x.2.isOrderly) ∧
      (∀ upto ∈ (releasedUnshown ++ [(Host.willing, Request.renderComplete ⟨1⟩)]).inits,
        (({ config := {}, contexts := .standard } : Compositor).run upto).Unshown ⟨1⟩) ∧
      (({ config := {}, contexts := .standard } : Compositor).run releasedUnshown).released .willing
        (.renderComplete ⟨1⟩) = [⟨1⟩] ∧
      (marked.run (List.replicate 4294967295 (.willing, .pool (.markBusy ⟨1⟩)))).handle? .willing
        (.pool (.markBusy ⟨1⟩)) = none :=
  ⟨by decide, by decide, by decide, (handle?_of_full rfl).2⟩

end Compositor

end Compositing
