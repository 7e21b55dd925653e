import Compositing.Buffer.Pool
import Compositing.Proofs.Lookups

/-!
# Buffers keep their sizes

A name stands for one buffer for good. `Later` compares a pool with a later one: a buffer that the
later pool has was there before with the same size, or its name was drawn in between. Every request on
the pool leads to a later pool.
-/

namespace Compositing.BufferPool

/-- No buffer of the first pool was given another size, and new buffers have new names. -/
structure Later (pool pool' : BufferPool) : Prop where
  next : pool.nextId.number ≤ pool'.nextId.number
  sizes : ∀ id b', pool'.get? id = some b' →
    (∃ b, pool.get? id = some b ∧ b.size = b'.size) ∨
    (pool.nextId.number ≤ id.number ∧ id.number < pool'.nextId.number)

/-- Every registered buffer has a name that was drawn. -/
def Named (pool : BufferPool) : Prop :=
  ∀ id b, pool.get? id = some b → id.number < pool.nextId.number

variable {pool pool' pool'' : BufferPool}

theorem Later.refl (pool : BufferPool) : pool.Later pool :=
  ⟨Nat.le_refl _, fun _ b found => .inl ⟨b, found, rfl⟩⟩

theorem Later.trans (first : pool.Later pool') (second : pool'.Later pool'') :
    pool.Later pool'' := by
  refine ⟨Nat.le_trans first.next second.next, ?_⟩
  intro id b'' found
  have le := first.next
  have le' := second.next
  -- A name drawn in either half was drawn in between.
  rcases second.sizes id b'' found with ⟨b', found', size'⟩ | new
  · rcases first.sizes id b' found' with ⟨b, old, size⟩ | new
    · exact .inl ⟨b, old, size.trans size'⟩
    · exact .inr (by omega)
  · exact .inr (by omega)

theorem Later.named (later : pool.Later pool') (named : pool.Named) : pool'.Named := by
  intro id b' found
  have le := later.next
  rcases later.sizes id b' found with ⟨b, old, -⟩ | new
  · have := named id b old
    omega
  · exact new.2

/-! ### What operations do to the records -/

theorem lookup_eq_ok {id : BufferId} {b : Buffer} (found : pool.lookup id = .ok b) :
    pool.get? id = some b := by
  unfold lookup at found
  split at found
  · cases found
    assumption
  · simp at found

theorem get?_park (id x : BufferId) : (pool.park id).get? x = pool.get? x := by
  unfold park
  split <;> rfl

theorem later_of_records (next : pool'.nextId = pool.nextId)
    (records : ∀ x, pool'.get? x = pool.get? x) : pool.Later pool' :=
  ⟨Nat.le_of_eq (by rw [next]), fun x b found => .inl ⟨b, records x ▸ found, rfl⟩⟩

theorem park_later (id : BufferId) : pool.Later (pool.park id) :=
  later_of_records (by unfold park; split <;> rfl) (get?_park id)

theorem unpark_later (id : BufferId) : pool.Later (pool.unpark id) :=
  later_of_records rfl fun _ => rfl

theorem drop_later (id : BufferId) : pool.Later (pool.drop id) := by
  refine ⟨Nat.le_refl _, fun x b found => .inl ⟨b, ?_, rfl⟩⟩
  simp only [get?, drop, Table.get?_erase] at found
  split at found
  · simp at found
  · exact found

/-- The record of a buffer is replaced by one of the same size. -/
theorem update_later {id : BufferId} {b b' : Buffer} (found : pool.get? id = some b)
    (size : b'.size = b.size) : pool.Later (pool.update id b') := by
  refine ⟨Nat.le_refl _, fun x r found' => .inl ?_⟩
  simp only [get?, update, Table.get?_insert] at found'
  split at found'
  next same =>
    cases found'
    exact ⟨b, same ▸ found, size.symm⟩
  next => exact ⟨r, found', rfl⟩

/-! ### Every request -/

theorem register_later {d : Description} {id : BufferId}
    (done : pool.register d = .ok (id, pool')) : pool.Later pool' := by
  unfold register at done
  split at done
  · cases done
    refine ⟨Nat.le_succ _, ?_⟩
    intro x b found
    simp only [get?, Table.get?_insert] at found
    -- The only new name is the one drawn.
    split at found
    next same => exact .inr ⟨same ▸ Nat.le_refl _, same ▸ Nat.lt_succ_self _⟩
    next => exact .inl ⟨b, found, rfl⟩
  · simp at done

theorem setContents_later {id : BufferId} {pixels : Array UInt32}
    (done : pool.setContents id pixels = .ok pool') : pool.Later pool' := by
  simp only [setContents, bind, Except.bind] at done
  split at done
  · simp at done
  next b found =>
    split at done
    · cases done
      exact update_later (lookup_eq_ok found) rfl
    · simp [throw, throwThe, MonadExceptOf.throw] at done

theorem setYInverted_later {id : BufferId} {inverted : Bool}
    (done : pool.setYInverted id inverted = .ok pool') : pool.Later pool' := by
  simp only [setYInverted, bind, Except.bind] at done
  split at done
  · simp at done
  next b found =>
    cases done
    exact update_later (lookup_eq_ok found) rfl

theorem markBusy_later {id : BufferId} {count : Nat}
    (done : pool.markBusy id = .ok (count, pool')) : pool.Later pool' := by
  simp only [markBusy, bind, Except.bind] at done
  split at done
  · simp at done
  next b found =>
    cases done
    exact update_later (lookup_eq_ok found) rfl

theorem clearBusy_later {id : BufferId} {ended : Option BufferRelease}
    (done : pool.clearBusy id = .ok (ended, pool')) : pool.Later pool' := by
  simp only [clearBusy, bind, Except.bind] at done
  split at done
  · simp at done
  next b found =>
    -- The record is read before its requests are unparked, which leaves records alone.
    have unparked : (pool.unpark id).get? id = some b := lookup_eq_ok found
    split at done
    · simp [throw, throwThe, MonadExceptOf.throw] at done
    · split at done
      · cases done
        exact update_later (lookup_eq_ok found) rfl
      · split at done
        · cases done
          exact (unpark_later id).trans (drop_later id)
        · split at done <;>
          · cases done
            exact (unpark_later id).trans (update_later unparked rfl)

theorem release_later {id : BufferId} {outcome : BufferRelease}
    (done : pool.release id = .ok (outcome, pool')) : pool.Later pool' := by
  simp only [release, bind, Except.bind] at done
  split at done
  · simp at done
  next b found =>
    split at done
    · cases done
      exact (park_later id).trans (update_later ((get?_park id id).trans (lookup_eq_ok found)) rfl)
    · cases done
      exact .refl _

theorem destroy_later {id : BufferId} {outcome : BufferRelease}
    (done : pool.destroy id = .ok (outcome, pool')) : pool.Later pool' := by
  simp only [destroy, bind, Except.bind] at done
  split at done
  · simp at done
  next b found =>
    split at done
    · cases done
      exact (park_later id).trans (update_later ((get?_park id id).trans (lookup_eq_ok found)) rfl)
    · cases done
      exact drop_later id

theorem settle_later {α : Type} {reply : α → PoolReply}
    {result : Except BufferError (α × BufferPool)}
    (later : ∀ value after, result = .ok (value, after) → pool.Later after) :
    pool.Later (pool.settle reply result).2 := by
  unfold settle
  split
  next value after => exact later value after rfl
  next => exact .refl _

theorem handle_later (request : PoolRequest) : pool.Later (pool.handle request).2 := by
  have quiet {result : Except BufferError BufferPool}
      (later : ∀ after, result = .ok after → pool.Later after) :
      ∀ (value : Unit) after, result.map (fun after => ((), after)) = .ok (value, after) →
        pool.Later after := by
    intro value after done
    cases result with
    | error e => simp [Except.map] at done
    | ok found =>
      simp only [Except.map, Except.ok.injEq, Prod.mk.injEq, true_and] at done
      exact later after (congrArg _ done)
  cases request with
  | register d => exact settle_later fun _ _ => register_later
  | setContents id pixels => exact settle_later (quiet fun _ => setContents_later)
  | setYInverted id inverted => exact settle_later (quiet fun _ => setYInverted_later)
  | markBusy id => exact settle_later fun _ _ => markBusy_later
  | clearBusy id => exact settle_later fun _ _ => clearBusy_later
  | release id => exact settle_later fun _ _ => release_later
  | destroy id => exact settle_later fun _ _ => destroy_later

end Compositing.BufferPool
