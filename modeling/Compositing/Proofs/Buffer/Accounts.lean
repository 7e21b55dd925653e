import Compositing.Proofs.Buffer.Turns
import Compositing.Proofs.Histories

/-!
# The accounts of buffers

Whatever requests a pool has had, its books are right. The busy count of a buffer is the number of
marks that were not cleared, and the buffers listed as deferred are the busy ones that somebody asked to
release or to destroy since they last became busy. A parked request completes with the last clear,
and a buffer that was freed is gone for good.
-/

namespace Compositing.BufferPool

/-! ### Runs of requests -/

/-- The pool after a run of requests. -/
def run (pool : BufferPool) (requests : List PoolRequest) : BufferPool :=
  requests.foldl (fun pool r => (pool.handle r).2) pool

/-- The requests of a run, each with its reply. -/
def history (pool : BufferPool) : List PoolRequest → List (PoolRequest × PoolReply)
  | [] => []
  | r :: rest => (r, (pool.handle r).1) :: (pool.handle r).2.history rest

/-- The request freed the buffer. -/
def frees (b : BufferId) : PoolRequest × PoolReply → Bool
  | (r, .ended (some .freed)) => r.buffer? = some b
  | _ => false

/-- The marks of the buffer that were not cleared. -/
def outstanding (b : BufferId) (exchanges : List (PoolRequest × PoolReply)) : Int :=
  exchanges.countP (marks b) - exchanges.countP (clears b)

theorem frees_iff {b : BufferId} {r : PoolRequest} {reply : PoolReply} :
    frees b (r, reply) = true ↔ r.buffer? = some b ∧ reply = .ended (some .freed) := by
  unfold frees
  split <;> simp_all

/-- From an empty pool: the release or destruction was requested while the buffer was busy, and it has
been busy ever since. -/
def RequestedSinceBusy (k : Parking) (b : BufferId) (past : List PoolRequest) : Prop :=
  Since (fun _ r => r = k.request b) (fun upto => 0 < (empty.run upto).busyCount b) past

variable {pool pool' : BufferPool} {b : BufferId} {r : PoolRequest} {reply : PoolReply}

theorem run_concat (pool : BufferPool) (past : List PoolRequest) (r : PoolRequest) :
    pool.run (past ++ [r]) = ((pool.run past).handle r).2 := by
  simp [run]

theorem history_concat (pool : BufferPool) (past : List PoolRequest) (r : PoolRequest) :
    pool.history (past ++ [r]) = pool.history past ++ [(r, ((pool.run past).handle r).1)] := by
  induction past generalizing pool with
  | nil => rfl
  | cons first rest ih => simp only [List.cons_append, history, ih, run, List.foldl_cons]

theorem run_tidy (past : List PoolRequest) : (empty.run past).Tidy := by
  induction past using List.reverseRecOn with
  | nil => exact empty_tidy
  | append_singleton past r ih => exact run_concat _ _ _ ▸ tidy_handle ih r

/-! ### Marks and clears -/

theorem outstanding_concat (b : BufferId) (exchanges : List (PoolRequest × PoolReply))
    (x : PoolRequest × PoolReply) : outstanding b (exchanges ++ [x]) =
      outstanding b exchanges + (marks b x).toNat - (clears b x).toNat := by
  simp only [outstanding, List.countP_append, List.countP_singleton]
  cases marks b x <;> cases clears b x <;> simp <;> omega

theorem outstanding_eq (past : List PoolRequest) (b : BufferId) :
    outstanding b (empty.history past) = (empty.run past).busyCount b := by
  induction past using List.reverseRecOn with
  | nil => rfl
  | append_singleton past r ih =>
    have step := (turn_handle (empty.run past) r).busyCount (run_tidy past).named b
    rw [history_concat, outstanding_concat, run_concat, ih]
    omega

theorem outstanding_eq_zero (past : List PoolRequest) (r : PoolRequest)
    (unread : ((empty.run past).handle r).2.busyCount b = 0) :
    outstanding b (empty.history (past ++ [r])) = 0 := by
  rw [outstanding_eq, run_concat, unread]
  rfl

/-! ### Parked requests -/

theorem parked_iff_requested (past : List PoolRequest) (k : Parking) (b : BufferId) :
    (empty.run past).Parked k b ↔ RequestedSinceBusy k b past := by
  induction past using List.reverseRecOn with
  | nil =>
    exact ⟨fun parked => absurd (empty_tidy.busy b k parked) (Nat.lt_irrefl 0),
      fun since => absurd since not_since_nil⟩
  | append_singleton past r ih =>
    rw [RequestedSinceBusy, since_concat_iff, run_concat,
      (turn_handle (empty.run past) r).parked_iff (run_tidy past), ih]
    rfl

/-! ### Freed buffers -/

/-- The buffer's name was drawn, and there is no such buffer. -/
def Gone (pool : BufferPool) (b : BufferId) : Prop :=
  pool.get? b = none ∧ b.number < pool.nextId.number

theorem Gone.handle (gone : pool.Gone b) (r : PoolRequest) : (pool.handle r).2.Gone b := by
  have later : pool.Later (pool.handle r).2 := handle_later r
  refine ⟨?_, Nat.lt_of_lt_of_le gone.2 later.next⟩
  cases there : (pool.handle r).2.get? b with
  | none => rfl
  | some record =>
    rcases later.sizes b record there with ⟨_, before, -⟩ | ⟨drawn, -⟩
    · exact nomatch gone.1.symm.trans before
    · exact absurd gone.2 (Nat.not_lt.2 drawn)

theorem Gone.refuses (gone : pool.Gone b) (about : r.buffer? = some b) :
    pool.handle r = (.refused (.notRegistered b), pool) :=
  handle_of_absent about gone.1

theorem Gone.not_frees (gone : pool.Gone b) (r : PoolRequest) :
    frees b (r, (pool.handle r).1) = false := by
  by_cases about : r.buffer? = some b
  · rw [gone.refuses about]
    rfl
  · unfold frees
    split <;> simp_all

/-- A buffer leaves the pool only in a request that frees it, and then it is gone. -/
theorem Turn.gone (turn : Turn pool r reply pool') (named : pool.Named)
    (freed : frees b (r, reply) = true) : pool'.Gone b := by
  cases turn with
  | @removed b _ there | @freed b _ there =>
    simp only [frees, PoolRequest.buffer?, Option.some.injEq, decide_eq_true_eq] at freed
    subst freed
    exact ⟨by simp [get?, drop, unpark, Table.get?_erase], named _ _ there⟩
  | _ => simp [frees] at freed

theorem gone_of_freed (past : List PoolRequest) (b : BufferId) :
    (empty.history past).countP (frees b) ≤ 1 ∧
      (0 < (empty.history past).countP (frees b) → (empty.run past).Gone b) := by
  induction past using List.reverseRecOn with
  | nil => simp [history]
  | append_singleton past r ih =>
    rw [history_concat, run_concat, List.countP_append, List.countP_singleton]
    by_cases before : 0 < (empty.history past).countP (frees b)
    · have gone := ih.2 before
      simp only [gone.not_frees r, Bool.false_eq_true, if_false, Nat.add_zero]
      exact ⟨ih.1, fun _ => gone.handle r⟩
    · have none : (empty.history past).countP (frees b) = 0 := by omega
      rw [none, Nat.zero_add]
      split
      next freed =>
        exact ⟨Nat.le_refl _, fun _ => (turn_handle _ r).gone (run_tidy past).named freed⟩
      next => simp

/-! ### Outcomes -/

theorem Turn.freed_of_removed {record : Buffer} (turn : Turn pool r reply pool')
    (there : pool.get? b = some record) (missing : pool'.get? b = none) :
    frees b (r, reply) = true := by
  cases turn with
  | @registered _ entered _ =>
    change (pool.update pool.nextId entered).get? b = none at missing
    grind [get?_update]
  | _ =>
    grind [get?_update, get?_drop, get?_unpark, get?_park, frees, PoolRequest.buffer?]

/-- Nobody reads a buffer that is given back or freed. -/
theorem Turn.unread_of_ended (turn : Turn pool r reply pool') (about : r.buffer? = some b)
    (ended : reply = .ended (some .released) ∨ reply = .ended (some .freed)) :
    pool'.busyCount b = 0 := by
  cases turn with
  | edited asked => simp at ended
  | _ =>
    grind [busyCount_update, busyCount_drop, busyCount_unpark, PoolRequest.buffer?, busyCount_eq]

/-- What the end of a render completes: only the last one completes anything, and a destruction goes
before a release. -/
theorem clearBusy_completes_iff (pool : BufferPool) (b : BufferId) (outcome : BufferRelease) :
    (pool.handle (.clearBusy b)).1 = .ended (some outcome) ↔ pool.busyCount b = 1 ∧
      ((outcome = .freed ∧ pool.Parked .destroy b) ∨
        (outcome = .released ∧ pool.Parked .release b ∧ ¬pool.Parked .destroy b)) := by
  have turn := turn_handle pool (.clearBusy b)
  generalize pool.handle (.clearBusy b) = exchange at turn ⊢
  obtain ⟨reply, after⟩ := exchange
  cases turn with
  | unknown about absent =>
    cases about
    simp [busyCount, absent]
  | edited asked => simp at asked
  | idle there count | cleared there count | clearedLast there count | returned there count
  | removed there count =>
    rw [busyCount_eq there, parked_iff there, parked_iff there]
    grind [Parking.holds]

/-- A clear takes one from the count, if there is one. -/
theorem Turn.busyCount_clear (turn : Turn pool (.clearBusy b) reply pool') :
    pool'.busyCount b = pool.busyCount b - 1 := by
  cases turn with
  | unknown about absent =>
    cases about
    simp [BufferPool.busyCount, absent]
  | edited asked => simp at asked
  | idle | cleared | clearedLast | returned | removed =>
    grind [busyCount_eq, busyCount_update, busyCount_drop]

/-- What a request to release or to destroy a buffer is answered. -/
theorem handle_request {record : Buffer} (there : pool.get? b = some record) (k : Parking) :
    (pool.handle (k.request b)).1 = .ended (some (if 0 < record.busyCount then .deferred
      else match k with | .release => .released | .destroy => .freed)) := by
  have turn := turn_handle pool (k.request b)
  generalize pool.handle (k.request b) = exchange at turn ⊢
  obtain ⟨reply, after⟩ := exchange
  cases k <;> cases turn with
  | unknown about absent => cases about; simp [there] at absent
  | edited asked => simp [Parking.request] at asked
  | _ => simp_all

theorem handle_refused {e : BufferError} (refused : (pool.handle r).1 = .refused e) :
    (pool.handle r).2 = pool := by
  have turn := turn_handle pool r
  generalize pool.handle r = exchange at turn refused ⊢
  obtain ⟨reply, after⟩ := exchange
  cases turn <;> first | rfl | cases refused

/-! ### The books -/

/-- The books of a pool that was empty and then had the requests, and what is answered next. -/
structure Accounted (past : List PoolRequest) : Prop where
  count (b : BufferId) : (empty.run past).busyCount b = outstanding b (empty.history past)
  nodup : (empty.run past).deferred.Nodup
  deferred (b : BufferId) : b ∈ (empty.run past).deferred ↔
    (∃ record, (empty.run past).get? b = some record ∧ 0 < record.busyCount) ∧
      ∃ k, RequestedSinceBusy k b past
  /-- A request to release or to destroy is put off while the buffer is busy. -/
  requested (b : BufferId) (record : Buffer) (k : Parking)
    (there : (empty.run past).get? b = some record) :
    ((empty.run past).handle (k.request b)).1 = .ended (some (if 0 < record.busyCount then .deferred
      else match k with | .release => .released | .destroy => .freed))
  /-- The clear that takes the count to zero completes what was requested, and no other clear
  completes anything. -/
  completes (b : BufferId) (outcome : BufferRelease) :
    ((empty.run past).handle (.clearBusy b)).1 = .ended (some outcome) ↔
      (empty.run past).busyCount b = 1 ∧
        ((outcome = .freed ∧ RequestedSinceBusy .destroy b past) ∨
          (outcome = .released ∧ RequestedSinceBusy .release b past ∧
            ¬RequestedSinceBusy .destroy b past))
  /-- Nothing is left to complete after it. -/
  completed (b : BufferId) (k : Parking) (last : (empty.run past).busyCount b = 1) :
    ¬RequestedSinceBusy k b (past ++ [.clearBusy b])
  /-- No busy buffer is given back or freed. -/
  unread (r : PoolRequest) (b : BufferId) (about : r.buffer? = some b)
    (ended : ((empty.run past).handle r).1 = .ended (some .released) ∨
      ((empty.run past).handle r).1 = .ended (some .freed)) :
    outstanding b (empty.history (past ++ [r])) = 0
  /-- A buffer leaves the pool only when it is freed, and never while it is busy. -/
  removed (r : PoolRequest) (b : BufferId) (record : Buffer)
    (there : (empty.run past).get? b = some record)
    (missing : ((empty.run past).handle r).2.get? b = none) :
    r.buffer? = some b ∧ ((empty.run past).handle r).1 = .ended (some .freed) ∧
      outstanding b (empty.history (past ++ [r])) = 0
  freed_once (b : BufferId) : (empty.history past).countP (frees b) ≤ 1
  gone (b : BufferId) (freed : 0 < (empty.history past).countP (frees b)) (r : PoolRequest)
    (about : r.buffer? = some b) :
    (empty.run past).handle r = (.refused (.notRegistered b), empty.run past)
  refused (r : PoolRequest) (e : BufferError)
    (refusal : ((empty.run past).handle r).1 = .refused e) :
    ((empty.run past).handle r).2 = empty.run past

/-- After any run of requests on an empty pool its books are right. -/
theorem run_accounted (past : List PoolRequest) : Accounted past where
  count b := (outstanding_eq past b).symm
  nodup := (run_tidy past).nodup
  deferred b := by
    have tidy := run_tidy past
    simp only [tidy.listed, ← parked_iff_requested, ← busyCount_pos_iff]
    exact ⟨fun ⟨k, parked⟩ => ⟨tidy.busy b k parked, k, parked⟩, fun ⟨_, parked⟩ => parked⟩
  requested b record k there := handle_request there k
  completes b outcome := by
    simp only [clearBusy_completes_iff, parked_iff_requested]
  completed b k last := by
    rw [← parked_iff_requested, run_concat]
    intro parked
    have busy := (tidy_handle (run_tidy past) (.clearBusy b)).busy b k parked
    rw [(turn_handle _ (.clearBusy b)).busyCount_clear, last] at busy
    exact Nat.lt_irrefl 0 busy
  unread r b about ended :=
    outstanding_eq_zero past r ((turn_handle _ r).unread_of_ended about ended)
  removed r b record there missing := by
    obtain ⟨about, freed⟩ := frees_iff.1 ((turn_handle _ r).freed_of_removed there missing)
    exact ⟨about, freed, outstanding_eq_zero past r (by simp [busyCount, missing])⟩
  freed_once b := (gone_of_freed past b).1
  gone b freed r about := ((gone_of_freed past b).2 freed).refuses about
  refused r e refusal := handle_refused refusal

end Compositing.BufferPool
