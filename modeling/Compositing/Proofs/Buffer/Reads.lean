import Compositing.Proofs.Buffer.Accounts

/-!
# Renders that come and go

`reading` is the pool while some more renders read buffers of it. A mark adds to it and a clear takes
from it, so a render that clears what it marked leaves the pool as it was. No clear completes a parked
request on the way, as a buffer that has one is read by others too.
-/

namespace Compositing

/-- The record of a buffer that some more renders read. -/
def Buffer.withReaders (b : Buffer) (n : Nat) : Buffer := { b with busyCount := b.busyCount + n }

namespace BufferPool

variable {pool pool' pool'' : BufferPool} {b : BufferId}

/-- The books differ at most in how many renders read each buffer. -/
structure Recounted (pool pool' : BufferPool) : Prop where
  tidy : pool.Tidy → pool'.Tidy
  next : pool'.nextId = pool.nextId
  registered : ∀ b, (pool'.get? b).isSome = (pool.get? b).isSome
  parked : ∀ k b, pool'.Parked k b ↔ pool.Parked k b

theorem Recounted.refl (pool : BufferPool) : pool.Recounted pool :=
  ⟨id, rfl, fun _ => rfl, fun _ _ => .rfl⟩

theorem Recounted.trans (first : pool.Recounted pool') (second : pool'.Recounted pool'') :
    pool.Recounted pool'' where
  tidy := second.tidy ∘ first.tidy
  next := second.next.trans first.next
  registered b := (second.registered b).trans (first.registered b)
  parked k b := (second.parked k b).trans (first.parked k b)

/-! ### Renders that begin and end -/

/-- The pool while some more renders read buffers of it, each as often as it is listed. -/
def reading (pool : BufferPool) (reads : List BufferId) : BufferPool :=
  { pool with buffers := pool.buffers.map fun b record => record.withReaders (reads.count b) }

theorem get?_reading {record : Buffer} (there : pool.get? b = some record) (reads : List BufferId) :
    (pool.reading reads).get? b = some (record.withReaders (reads.count b)) := by
  have found := Table.get?_map pool.buffers (fun b record => record.withReaders (reads.count b)) b
  rwa [show pool.buffers.get? b = some record from there] at found

theorem reading_nil (pool : BufferPool) : pool.reading [] = pool := by
  have same : (pool.reading []).buffers = pool.buffers := Table.map_self fun _ _ _ => rfl
  rw [show pool.reading [] = { pool with buffers := (pool.reading []).buffers } from rfl, same]

/-- Only the count in the record of the buffer changes. -/
theorem update_reading {record : Buffer} (there : pool.get? b = some record)
    (reads reads' : List BufferId) (others : ∀ x, x ≠ b → reads'.count x = reads.count x) :
    (pool.reading reads).update b (record.withReaders (reads'.count b)) = pool.reading reads' := by
  have buffers : ((pool.reading reads).update b (record.withReaders (reads'.count b))).buffers =
      (pool.reading reads').buffers := by
    apply Table.eq_of_lookups
    · exact (Table.keys_insert (get?_reading there reads) _).trans
        ((Table.keys_map ..).trans (Table.keys_map ..).symm)
    · intro x
      change ((pool.reading reads).update b _).get? x = (pool.reading reads').get? x
      rw [get?_update]
      split
      next here => rw [here, get?_reading there]
      next other =>
        simp only [reading, get?, Table.get?_map, others x other]
  exact congrArg (fun buffers => { pool with buffers }) buffers

theorem markBusy_reading {record : Buffer} (there : pool.get? b = some record)
    (reads : List BufferId) : (pool.reading reads).markBusy b =
      .ok (record.busyCount + reads.count b + 1, pool.reading (reads ++ [b])) := by
  have marked := update_reading there reads (reads ++ [b]) fun x other => by
    simp [Ne.symm other]
  rw [markBusy, lookup_of_found (get?_reading there reads), ← marked, List.count_append,
    List.count_singleton_self]
  rfl

theorem markBusy_reading_of_absent (absent : pool.get? b = none) (reads : List BufferId) :
    (pool.reading reads).markBusy b = .error (.notRegistered b) := by
  have missing : (pool.reading reads).get? b = none := by
    simpa [reading, get?, Table.get?_map] using absent
  rw [markBusy, lookup_of_absent missing]
  rfl

/-- A render that ends completes nothing, as a buffer with a parked request has other readers. -/
theorem clearBusy_reading (tidy : pool.Tidy) {record : Buffer} (there : pool.get? b = some record)
    (reads : List BufferId) :
    (pool.reading (b :: reads)).clearBusy b = .ok (none, pool.reading reads) := by
  have cleared := update_reading there (b :: reads) reads fun x other => by
    simp [Ne.symm other]
  have count : (record.withReaders ((b :: reads).count b)).busyCount =
      record.busyCount + reads.count b + 1 := by
    rw [List.count_cons_self]
    rfl
  rw [clearBusy, lookup_of_found (get?_reading there _)]
  simp only [bind, Except.bind, count]
  split
  next => rw [← cleared]; rfl
  next last =>
    -- Nobody else reads the buffer, so no request for it is parked.
    have unparked (k : Parking) : ¬pool.Parked k b := fun parked => by
      have busy := tidy.busy b k parked
      rw [busyCount_eq there] at busy
      omega
    have destroy : ¬record.destroyPending = true :=
      mt (parked_iff there .destroy).2 (unparked .destroy)
    have release : ¬record.releasePending = true :=
      mt (parked_iff there .release).2 (unparked .release)
    have listed (x) (there : x ∈ (pool.reading (b :: reads)).deferred) : x ≠ b := by
      rintro rfl
      obtain ⟨k, parked⟩ := (tidy.listed x).1 there
      exact unparked k parked
    have kept : (pool.reading (b :: reads)).unpark b = pool.reading (b :: reads) := by
      rw [unpark, List.filter_eq_self.2 fun x there => decide_eq_true (listed x there)]
    refine (if_neg destroy).trans ((if_neg release).trans ?_)
    rw [kept, ← cleared]
    rfl

end BufferPool

end Compositing
