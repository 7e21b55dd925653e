import Compositing.Proofs.Buffer.Sizes

/-!
# What a request does to one buffer

A request on the pool is refused, or it changes the record of one buffer. `Turn` lists all that can
happen, once. From it follows how the account of every buffer changes: how many renders read it, and
which requests for it are parked. A pool is tidy if only busy buffers have parked requests, and exactly
these are listed as deferred.
-/

namespace Compositing

/-- The buffer that a request is about. A registration is about none that there is. -/
def PoolRequest.buffer? : PoolRequest → Option BufferId
  | register _ => none
  | setContents b _ | setYInverted b _ | markBusy b | clearBusy b | release b | destroy b => some b

/-- What is parked while a buffer is busy. -/
inductive Parking where
  | release
  | destroy

namespace Parking

def request : Parking → BufferId → PoolRequest
  | release, b => .release b
  | destroy, b => .destroy b

/-- The record says that the request is parked. -/
def holds : Parking → Buffer → Bool
  | release, b => b.releasePending
  | destroy, b => b.destroyPending

end Parking

/-- How many renders read the buffer, and whether a release and a destruction are parked. -/
def Buffer.account (b : Buffer) : Nat × Bool × Bool := (b.busyCount, b.releasePending, b.destroyPending)

theorem Buffer.account_eq_iff {b b' : Buffer} : b'.account = b.account ↔ b'.busyCount = b.busyCount ∧
    b'.releasePending = b.releasePending ∧ b'.destroyPending = b.destroyPending := by
  simp [account]

namespace BufferPool

variable {pool pool' : BufferPool} {b x : BufferId} {r : PoolRequest} {reply : PoolReply}

/-! ### Records and the list of parked requests -/

theorem get?_update (pool : BufferPool) (b x : BufferId) (record : Buffer) :
    (pool.update b record).get? x = if x = b then some record else pool.get? x :=
  Table.get?_insert ..

theorem get?_drop (pool : BufferPool) (b x : BufferId) :
    (pool.drop b).get? x = if x = b then none else pool.get? x :=
  Table.get?_erase ..

theorem get?_unpark (pool : BufferPool) (b x : BufferId) : (pool.unpark b).get? x = pool.get? x := rfl

theorem mem_deferred_park : x ∈ (pool.park b).deferred ↔ x = b ∨ x ∈ pool.deferred := by
  unfold park
  split
  next listed => exact ⟨.inr, by rintro (rfl | there) <;> assumption⟩
  next => simp [or_comm]

theorem mem_deferred_unpark : x ∈ (pool.unpark b).deferred ↔ x ≠ b ∧ x ∈ pool.deferred := by
  simp [unpark, and_comm]

theorem nodup_deferred_park (nodup : pool.deferred.Nodup) : (pool.park b).deferred.Nodup := by
  unfold park
  split
  next => exact nodup
  next fresh => exact List.nodup_append.2 ⟨nodup, by simp, fun x there y new => by
    rintro rfl
    exact fresh (List.mem_singleton.1 new ▸ there)⟩

theorem nodup_deferred_unpark (nodup : pool.deferred.Nodup) : (pool.unpark b).deferred.Nodup :=
  nodup.filter _

/-- How many renders read a buffer; none reads one that is not registered. -/
def busyCount (pool : BufferPool) (b : BufferId) : Nat := (pool.get? b).elim 0 (·.busyCount)

theorem busyCount_eq {record : Buffer} (there : pool.get? b = some record) :
    pool.busyCount b = record.busyCount := by
  simp [busyCount, there]

/-- Either a buffer has a record, which tells how many renders read it, or none reads it. -/
theorem busyCount_pos_iff :
    0 < pool.busyCount b ↔ ∃ record, pool.get? b = some record ∧ 0 < record.busyCount := by
  cases there : pool.get? b <;> simp [busyCount, there]

/-! ### All that can happen -/

/-- What a request is answered, and what becomes of the pool. -/
inductive Turn (pool : BufferPool) : PoolRequest → PoolReply → BufferPool → Prop
  | unknown {r : PoolRequest} {b : BufferId} (about : r.buffer? = some b)
      (absent : pool.get? b = none) : Turn pool r (.refused (.notRegistered b)) pool
  | invalid (d : Description) (e : BufferError) : Turn pool (.register d) (.refused e) pool
  | misfit (b : BufferId) (pixels : Array UInt32) (e : BufferError) :
      Turn pool (.setContents b pixels) (.refused e) pool
  | idle {b : BufferId} {record : Buffer} (there : pool.get? b = some record)
      (count : record.busyCount = 0) : Turn pool (.clearBusy b) (.refused (.notBusy b)) pool
  | registered (d : Description) {record : Buffer} (account : record.account = (0, false, false)) :
      Turn pool (.register d) (.registered pool.nextId)
        { pool.update pool.nextId record with nextId := pool.nextId.next }
  | edited {r : PoolRequest} {b : BufferId} {record record' : Buffer}
      (asked : (∃ pixels, r = .setContents b pixels) ∨ ∃ inverted, r = .setYInverted b inverted)
      (there : pool.get? b = some record) (account : record'.account = record.account) :
      Turn pool r .done (pool.update b record')
  | marked {b : BufferId} {record : Buffer} (there : pool.get? b = some record) :
      Turn pool (.markBusy b) (.busy (record.busyCount + 1))
        (pool.update b { record with busyCount := record.busyCount + 1 })
  /-- Other renders still read the buffer. -/
  | cleared {b : BufferId} {record : Buffer} {n : Nat} (there : pool.get? b = some record)
      (count : record.busyCount = n + 2) : Turn pool (.clearBusy b) (.ended none)
        (pool.update b { record with busyCount := n + 1 })
  | clearedLast {b : BufferId} {record : Buffer} (there : pool.get? b = some record)
      (count : record.busyCount = 1) (kept : record.destroyPending = false)
      (own : record.releasePending = false) : Turn pool (.clearBusy b) (.ended none)
        ((pool.unpark b).update b { record with busyCount := 0 })
  | returned {b : BufferId} {record : Buffer} (there : pool.get? b = some record)
      (count : record.busyCount = 1) (kept : record.destroyPending = false)
      (parked : record.releasePending = true) : Turn pool (.clearBusy b) (.ended (some .released))
        ((pool.unpark b).update b { record with busyCount := 0, releasePending := false })
  | removed {b : BufferId} {record : Buffer} (there : pool.get? b = some record)
      (count : record.busyCount = 1) (parked : record.destroyPending = true) :
      Turn pool (.clearBusy b) (.ended (some .freed)) ((pool.unpark b).drop b)
  | released {b : BufferId} {record : Buffer} (there : pool.get? b = some record)
      (count : record.busyCount = 0) : Turn pool (.release b) (.ended (some .released)) pool
  | releaseParked {b : BufferId} {record : Buffer} (there : pool.get? b = some record)
      (busy : 0 < record.busyCount) : Turn pool (.release b) (.ended (some .deferred))
        ((pool.park b).update b { record with releasePending := true })
  | freed {b : BufferId} {record : Buffer} (there : pool.get? b = some record)
      (count : record.busyCount = 0) : Turn pool (.destroy b) (.ended (some .freed)) (pool.drop b)
  | destroyParked {b : BufferId} {record : Buffer} (there : pool.get? b = some record)
      (busy : 0 < record.busyCount) : Turn pool (.destroy b) (.ended (some .deferred))
        ((pool.park b).update b { record with destroyPending := true })

theorem lookup_of_absent (absent : pool.get? b = none) :
    pool.lookup b = .error (.notRegistered b) := by
  simp [lookup, absent]

theorem lookup_of_found {record : Buffer} (there : pool.get? b = some record) :
    pool.lookup b = .ok record := by
  simp [lookup, there]

/-- A request about a buffer that is not registered is refused. -/
theorem handle_of_absent (about : r.buffer? = some b) (absent : pool.get? b = none) :
    pool.handle r = (.refused (.notRegistered b), pool) := by
  have missing := lookup_of_absent absent
  cases r <;> cases about <;>
    simp [handle, settle, setContents, setYInverted, markBusy, clearBusy, release, destroy, missing,
      bind, Except.bind, Except.map]

theorem turn_clearBusy {record : Buffer} (there : pool.get? b = some record) :
    Turn pool (.clearBusy b) (pool.handle (.clearBusy b)).1 (pool.handle (.clearBusy b)).2 := by
  have found := lookup_of_found there
  rcases count : record.busyCount with _ | _ | n
  · have refused : pool.handle (.clearBusy b) = (.refused (.notBusy b), pool) := by
      simp [handle, settle, clearBusy, found, bind, Except.bind, count, throw, throwThe,
        MonadExceptOf.throw]
    exact refused ▸ .idle there count
  · -- The last render ended, so a parked request completes.
    cases destroyed : record.destroyPending with
    | true =>
      have removed : pool.handle (.clearBusy b) = (.ended (some .freed), (pool.unpark b).drop b) := by
        simp [handle, settle, clearBusy, found, bind, Except.bind, count, destroyed, pure,
          Except.pure]
      exact removed ▸ .removed there count destroyed
    | false =>
      cases parked : record.releasePending with
      | true =>
        have returned : pool.handle (.clearBusy b) = (.ended (some .released),
            (pool.unpark b).update b { record with busyCount := 0, releasePending := false }) := by
          simp [handle, settle, clearBusy, found, bind, Except.bind, count, destroyed, parked, pure,
            Except.pure]
        exact returned ▸ .returned there count destroyed parked
      | false =>
        have cleared : pool.handle (.clearBusy b) = (.ended none,
            (pool.unpark b).update b { record with busyCount := 0 }) := by
          simp [handle, settle, clearBusy, found, bind, Except.bind, count, destroyed, parked, pure,
            Except.pure]
        exact cleared ▸ .clearedLast there count destroyed parked
  · have cleared : pool.handle (.clearBusy b) = (.ended none,
        pool.update b { record with busyCount := n + 1 }) := by
      simp [handle, settle, clearBusy, found, bind, Except.bind, count, pure, Except.pure]
    exact cleared ▸ .cleared there count

theorem turn_release {record : Buffer} (there : pool.get? b = some record) :
    Turn pool (.release b) (pool.handle (.release b)).1 (pool.handle (.release b)).2 := by
  have found := lookup_of_found there
  by_cases busy : 0 < record.busyCount
  · have parked : pool.handle (.release b) = (.ended (some .deferred),
        (pool.park b).update b { record with releasePending := true }) := by
      simp [handle, settle, release, found, bind, Except.bind, Buffer.isBusy, busy, pure, Except.pure]
    exact parked ▸ .releaseParked there busy
  · have released : pool.handle (.release b) = (.ended (some .released), pool) := by
      simp [handle, settle, release, found, bind, Except.bind, Buffer.isBusy, busy, pure, Except.pure]
    exact released ▸ .released there (by omega)

theorem turn_destroy {record : Buffer} (there : pool.get? b = some record) :
    Turn pool (.destroy b) (pool.handle (.destroy b)).1 (pool.handle (.destroy b)).2 := by
  have found := lookup_of_found there
  by_cases busy : 0 < record.busyCount
  · have parked : pool.handle (.destroy b) = (.ended (some .deferred),
        (pool.park b).update b { record with destroyPending := true }) := by
      simp [handle, settle, destroy, found, bind, Except.bind, Buffer.isBusy, busy, pure, Except.pure]
    exact parked ▸ .destroyParked there busy
  · have freed : pool.handle (.destroy b) = (.ended (some .freed), pool.drop b) := by
      simp [handle, settle, destroy, found, bind, Except.bind, Buffer.isBusy, busy, pure, Except.pure]
    exact freed ▸ .freed there (by omega)

/-- Whatever is asked of the pool, one of these turns is taken. -/
theorem turn_handle (pool : BufferPool) (r : PoolRequest) :
    Turn pool r (pool.handle r).1 (pool.handle r).2 := by
  cases about : r.buffer? with
  | none =>
    cases r with
    | register d =>
      by_cases proper : d.size.isProper
      · simp only [handle, settle, register, proper, if_true]
        exact .registered d rfl
      · simp only [handle, settle, register, proper]
        exact .invalid d _
    | _ => cases about
  | some b =>
    cases there : pool.get? b with
    | none => exact handle_of_absent about there ▸ .unknown about there
    | some record =>
      have found := lookup_of_found there
      cases r <;> cases about
      case clearBusy.refl => exact turn_clearBusy there
      case release.refl => exact turn_release there
      case destroy.refl => exact turn_destroy there
      case markBusy.refl =>
        simp only [handle, settle, markBusy, found, bind, Except.bind, pure, Except.pure]
        exact .marked there
      case setYInverted.refl inverted =>
        simp only [handle, settle, setYInverted, found, bind, Except.bind, pure, Except.pure,
          Except.map]
        exact .edited (.inr ⟨_, rfl⟩) there rfl
      case setContents.refl pixels =>
        by_cases fits : pixels.size = record.size.pixelCount
        · simp only [handle, settle, setContents, found, bind, Except.bind, pure, Except.pure,
            Except.map, fits, dite_true]
          exact .edited (.inl ⟨_, rfl⟩) there rfl
        · simp only [handle, settle, setContents, found, bind, Except.bind, Except.map, fits,
            dite_false, throw, throwThe, MonadExceptOf.throw]
          exact .misfit _ _ _

/-- A request about one buffer leaves the records of the others. -/
theorem Turn.get?_other (turn : Turn pool r reply pool') (about : r.buffer? = some b) (other : x ≠ b) :
    pool'.get? x = pool.get? x := by
  cases turn with
  | registered d => cases about
  | edited asked =>
    rcases asked with ⟨_, rfl⟩ | ⟨_, rfl⟩ <;> cases about <;>
      exact (get?_update ..).trans (if_neg other)
  | _ => grind [PoolRequest.buffer?, get?_update, get?_drop, get?_unpark, get?_park]

/-! ### How many renders read a buffer -/

/-- A render began to read the buffer. -/
def marks (b : BufferId) : PoolRequest × PoolReply → Bool
  | (.markBusy x, .busy _) => x = b
  | _ => false

/-- A render that read the buffer ended. -/
def clears (b : BufferId) : PoolRequest × PoolReply → Bool
  | (.clearBusy x, .ended _) => x = b
  | _ => false

theorem busyCount_update (pool : BufferPool) (b x : BufferId) (record : Buffer) :
    (pool.update b record).busyCount x = if x = b then record.busyCount else pool.busyCount x := by
  rw [busyCount, get?_update]
  split <;> rfl

theorem busyCount_drop (pool : BufferPool) (b x : BufferId) :
    (pool.drop b).busyCount x = if x = b then 0 else pool.busyCount x := by
  rw [busyCount, get?_drop]
  split <;> rfl

theorem busyCount_unpark (pool : BufferPool) (b x : BufferId) :
    (pool.unpark b).busyCount x = pool.busyCount x := rfl

theorem busyCount_park (pool : BufferPool) (b x : BufferId) :
    (pool.park b).busyCount x = pool.busyCount x := by
  rw [busyCount, get?_park, busyCount]

/-- Nobody reads a buffer of a name that was not drawn yet. -/
theorem Named.busyCount_nextId (named : pool.Named) : pool.busyCount pool.nextId = 0 := by
  cases there : pool.get? pool.nextId with
  | none => simp [busyCount, there]
  | some record => exact absurd (named _ _ there) (Nat.lt_irrefl _)

/-- The count follows the renders that begin and end, also of a buffer that is freed. -/
theorem Turn.busyCount (turn : Turn pool r reply pool') (named : pool.Named) (x : BufferId) :
    pool'.busyCount x + (clears x (r, reply)).toNat =
      pool.busyCount x + (marks x (r, reply)).toNat := by
  have count {b : BufferId} {record : Buffer} (there : pool.get? b = some record) :
      pool.busyCount b = record.busyCount := busyCount_eq there
  have new := named.busyCount_nextId
  cases turn with
  | unknown about _ => cases r <;> simp [marks, clears]
  | edited asked there account =>
    obtain ⟨same, -⟩ := Buffer.account_eq_iff.1 account
    rcases asked with ⟨_, rfl⟩ | ⟨_, rfl⟩ <;> grind [busyCount_update, marks, clears]
  | @registered _ record account =>
    obtain ⟨zero, -⟩ := Prod.mk.inj account
    have entered := busyCount_update pool pool.nextId x record
    change (pool.update pool.nextId record).busyCount x + _ = _
    grind [marks, clears]
  | invalid | misfit | idle | released => simp [marks, clears]
  | marked | cleared | clearedLast | returned | removed | releaseParked | freed | destroyParked =>
    grind [busyCount_update, busyCount_drop, busyCount_unpark, busyCount_park, marks, clears]

/-! ### What is parked -/

/-- A request of that kind is parked for the buffer. -/
def Parked (pool : BufferPool) (k : Parking) (b : BufferId) : Prop :=
  ∃ record, pool.get? b = some record ∧ k.holds record = true

instance (pool : BufferPool) (k : Parking) (b : BufferId) : Decidable (pool.Parked k b) :=
  decidable_of_iff ((pool.get? b).any k.holds = true)
    (Option.any_eq_true ..)

/-- The listed buffers are those with a parked request, and renders read them. -/
structure Tidy (pool : BufferPool) : Prop where
  named : pool.Named
  nodup : pool.deferred.Nodup
  listed : ∀ b, b ∈ pool.deferred ↔ ∃ k, pool.Parked k b
  busy : ∀ b k, pool.Parked k b → 0 < pool.busyCount b

theorem empty_tidy : empty.Tidy where
  named b record there := by simp [get?, empty] at there
  nodup := .nil
  listed b := by simp [Parked, get?, empty]
  busy b k := by simp [Parked, get?, empty]

theorem parked_iff {record : Buffer} (there : pool.get? b = some record) (k : Parking) :
    pool.Parked k b ↔ k.holds record = true := by
  simp [Parked, there]

theorem exists_parking_iff {p : Parking → Prop} : (∃ k, p k) ↔ p .release ∨ p .destroy :=
  ⟨fun ⟨k, holds⟩ => by cases k <;> simp [holds], fun either => either.elim (⟨_, ·⟩) (⟨_, ·⟩)⟩

theorem parked_update (pool : BufferPool) (b x : BufferId) (record : Buffer) (k : Parking) :
    (pool.update b record).Parked k x ↔
      if x = b then k.holds record = true else pool.Parked k x := by
  simp only [Parked, get?_update]
  split <;> simp

theorem parked_drop (pool : BufferPool) (b x : BufferId) (k : Parking) :
    (pool.drop b).Parked k x ↔ x ≠ b ∧ pool.Parked k x := by
  simp only [Parked, get?_drop]
  split <;> simp [*]

theorem parked_unpark (pool : BufferPool) (b x : BufferId) (k : Parking) :
    (pool.unpark b).Parked k x ↔ pool.Parked k x := .rfl

theorem parked_park (pool : BufferPool) (b x : BufferId) (k : Parking) :
    (pool.park b).Parked k x ↔ pool.Parked k x := by
  simp only [Parked, get?_park]

/-- A request is parked if it was before or comes in a busy moment, for as long as renders read the
buffer. -/
theorem Turn.parked_iff (turn : Turn pool r reply pool') (tidy : pool.Tidy) (k : Parking)
    (x : BufferId) : pool'.Parked k x ↔
      0 < pool'.busyCount x ∧ (pool.Parked k x ∨ (r = k.request x ∧ 0 < pool.busyCount x)) := by
  have count {b : BufferId} {record : Buffer} (there : pool.get? b = some record) :
      pool.busyCount b = record.busyCount := busyCount_eq there
  have holds {b : BufferId} {record : Buffer} (there : pool.get? b = some record) :
      pool.Parked k b ↔ k.holds record = true := BufferPool.parked_iff there k
  have busy := tidy.busy x k
  cases turn with
  | unknown about absent =>
    have unread : r = k.request x → pool.busyCount x = 0 := by
      rintro rfl
      obtain rfl : x = _ := by cases k <;> exact Option.some.inj about
      simp [BufferPool.busyCount, absent]
    grind
  | @registered _ record account =>
    have new := tidy.named.busyCount_nextId
    change (pool.update pool.nextId record).Parked k x ↔
      0 < (pool.update pool.nextId record).busyCount x ∧ _
    simp only [Buffer.account, Prod.mk.injEq] at account
    cases k <;> grind [parked_update, busyCount_update, Parking.holds, Parking.request]
  | edited asked there account =>
    obtain ⟨same, own, kept⟩ := Buffer.account_eq_iff.1 account
    rcases asked with ⟨_, rfl⟩ | ⟨_, rfl⟩ <;> cases k <;>
      grind [parked_update, busyCount_update, Parking.holds, Parking.request]
  | invalid | misfit | idle | released | marked | cleared | clearedLast | returned | removed
  | releaseParked | freed | destroyParked =>
    cases k <;> grind [parked_update, parked_drop, parked_unpark, parked_park, busyCount_update,
      busyCount_drop, busyCount_unpark, busyCount_park, Parking.holds, Parking.request]

theorem mem_deferred_drop : x ∈ (pool.drop b).deferred ↔ x ∈ pool.deferred := .rfl

theorem mem_deferred_update {record : Buffer} :
    x ∈ (pool.update b record).deferred ↔ x ∈ pool.deferred := .rfl

/-- The list follows what is parked. -/
theorem Turn.listed_iff (turn : Turn pool r reply pool') (tidy : pool.Tidy) (x : BufferId) :
    x ∈ pool'.deferred ↔ ∃ k, pool'.Parked k x := by
  have listed := tidy.listed x
  have busy := tidy.busy x
  rw [exists_parking_iff] at listed ⊢
  have count {b : BufferId} {record : Buffer} (there : pool.get? b = some record) :
      pool.busyCount b = record.busyCount := busyCount_eq there
  have holds {b : BufferId} {record : Buffer} (there : pool.get? b = some record) (k : Parking) :
      pool.Parked k b ↔ k.holds record = true := BufferPool.parked_iff there k
  cases turn with
  | unknown | invalid | misfit | idle | released => exact listed
  | @registered _ record account =>
    have new := tidy.named.busyCount_nextId
    simp only [Buffer.account, Prod.mk.injEq] at account
    change x ∈ pool.deferred ↔ (pool.update pool.nextId record).Parked .release x ∨
      (pool.update pool.nextId record).Parked .destroy x
    grind [parked_update, Parking.holds]
  | edited asked there account =>
    obtain ⟨same, own, kept⟩ := Buffer.account_eq_iff.1 account
    grind [parked_update, mem_deferred_update, Parking.holds]
  | marked | cleared | clearedLast | returned | removed | releaseParked | freed | destroyParked =>
    grind [parked_update, parked_drop, parked_unpark, parked_park, mem_deferred_update,
      mem_deferred_drop, mem_deferred_unpark, mem_deferred_park, Parking.holds]

theorem Turn.nodup (turn : Turn pool r reply pool') (nodup : pool.deferred.Nodup) :
    pool'.deferred.Nodup := by
  cases turn with
  | clearedLast | returned | removed => exact nodup_deferred_unpark nodup
  | releaseParked | destroyParked => exact nodup_deferred_park nodup
  | _ => exact nodup

/-- Every request leaves the pool tidy. -/
theorem tidy_handle (tidy : pool.Tidy) (r : PoolRequest) : (pool.handle r).2.Tidy :=
  have turn := turn_handle pool r
  { named := (handle_later r).named tidy.named
    nodup := turn.nodup tidy.nodup
    listed := turn.listed_iff tidy
    busy := fun b k parked => ((turn.parked_iff tidy k b).1 parked).1 }

end BufferPool

end Compositing
