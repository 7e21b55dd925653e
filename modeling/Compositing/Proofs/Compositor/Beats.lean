import Compositing.Proofs.Compositor.Dues
import Compositing.Proofs.Histories

/-!
# The course of frame callbacks

What matters to frame callbacks as a compositor runs, beat by beat. `Course` says that a history fits
what clients still wait for, and that whatever was fired was due. Each beat keeps it.
-/

namespace Compositing

/-- What matters to frame callbacks. -/
inductive Beat where
  | requested (surface : SurfaceId) (callback : Handle)
  | committed (surface : SurfaceId)
  | freed (surface : SurfaceId)
  /-- The client destroyed a protocol object. -/
  | reported (handle : Handle)
  /-- The host passed a live protocol object for a role, and it was taken. -/
  | clashed (handle : Handle)
  /-- A render pass begins that draws these surfaces. -/
  | pass (surfaces : List SurfaceId)
  | told (event : TransportEvent)
  deriving DecidableEq

namespace Beat

def event? : Beat → Option TransportEvent
  | told e => some e
  | _ => none

/-- A callback of the surface is neither fired, nor given up with its surface, nor destroyed by its
client, nor made anew. A report may go astray if the protocol object was passed for a role. -/
def Spares (k : SurfaceId) (h : Handle) (clash : Prop) : Beat → Prop
  | requested _ x => x ≠ h
  | freed x => x ≠ k
  | reported x => x = h → clash
  | told (.frameDone x _) => x ≠ h
  | _ => True

/-- The pending callback of the surface stays what it is. -/
def Leaves (k : SurfaceId) : Beat → Prop
  | requested x _ | committed x => x ≠ k
  | _ => True

end Beat

/-- The host passed the protocol object for a role after a place of the history. -/
def Clashed (past : List Beat) (h : Handle) (i : Nat) : Prop :=
  ∃ n, i < n ∧ past[n]? = some (.clashed h)

/-- The callback that was requested at a place of the history is still to be fired: it was not fired
yet, its surface was not freed, and its client did not destroy it. -/
structure Alive (past : List Beat) (k : SurfaceId) (h : Handle) (i : Nat) : Prop where
  requested : past[i]? = some (.requested k h)
  spared : ∀ n x, i < n → past[n]? = some x → x.Spares k h (Clashed (past.take n) h i)

/-- It waits for a commit, and was not replaced. -/
structure Waits (past : List Beat) (k : SurfaceId) (h : Handle) (i : Nat) : Prop where
  alive : Alive past k h i
  left : ∀ n x, i < n → past[n]? = some x → x.Leaves k

/-- It was committed before it was replaced. -/
structure Due (past : List Beat) (k : SurfaceId) (h : Handle) (i j : Nat) : Prop where
  alive : Alive past k h i
  later : i < j
  committed : past[j]? = some (.committed k)
  left : ∀ n x, i < n → n < j → past[n]? = some x → x.Leaves k

/-- A pass that draws the surface has begun and not ended. -/
def Drawing (past : List Beat) (k : SurfaceId) : Prop :=
  ∃ before surfaces during, past = before ++ .pass surfaces :: during ∧ k ∈ surfaces ∧
    ∀ x ∈ during, ∃ e, x = .told e

/-- The callback is fired after the first part of the history. -/
def FiredAfter (past upto : List Beat) (h : Handle) : Prop :=
  ∃ time rest, past = upto ++ .told (.frameDone h time) :: rest

variable {past upto : List Beat} {x : Beat} {k k' : SurfaceId} {h h' : Handle} {i i' j j' : Nat}

/-! ### Places in a history -/

theorem Alive.unique (alive : Alive past k h i) (alive' : Alive past k' h i') : k = k' ∧ i = i' := by
  rcases Nat.lt_trichotomy i i' with before | rfl | after
  · exact absurd rfl (alive.spared i' _ before alive'.requested)
  · cases alive.requested.symm.trans alive'.requested
    exact ⟨rfl, rfl⟩
  · exact absurd rfl (alive'.spared i _ after alive.requested)

theorem Due.unique (due : Due past k h i j) (due' : Due past k' h i' j') :
    k = k' ∧ i = i' ∧ j = j' := by
  obtain ⟨rfl, rfl⟩ := due.alive.unique due'.alive
  rcases Nat.lt_trichotomy j j' with before | rfl | after
  · exact absurd rfl (due'.left j _ due.later before due.committed)
  · exact ⟨rfl, rfl, rfl⟩
  · exact absurd rfl (due.left j' _ due'.later after due'.committed)

/-- A callback waits or was committed, but not both. -/
theorem Waits.not_due (waits : Waits past k h i) (due : Due past k' h i' j) : False := by
  obtain ⟨rfl, rfl⟩ := waits.alive.unique due.alive
  exact waits.left j _ due.later due.committed rfl

theorem lt_of_getElem? (there : past[i]? = some x) : i < past.length := by
  obtain ⟨inside, -⟩ := List.getElem?_eq_some_iff.1 there
  exact inside

/-- A place in a longer history is the last, or one in the history before. -/
theorem getElem?_concat {y : Beat} {n : Nat} (there : (past ++ [x])[n]? = some y) :
    (n < past.length ∧ past[n]? = some y ∧ (past ++ [x]).take n = past.take n) ∨
      (n = past.length ∧ y = x ∧ (past ++ [x]).take n = past) := by
  rcases Nat.lt_or_ge n past.length with inside | outside
  · rw [List.getElem?_append_left inside] at there
    exact .inl ⟨inside, there, List.take_append_of_le_length (Nat.le_of_lt inside)⟩
  · have last : n = past.length := by
      have := lt_of_getElem? there
      simp at this
      omega
    subst last
    simp at there
    exact .inr ⟨rfl, there.symm, by simp⟩

theorem Alive.concat (alive : Alive past k h i) (spares : x.Spares k h (Clashed past h i)) :
    Alive (past ++ [x]) k h i where
  requested := by rw [List.getElem?_append_left (lt_of_getElem? alive.requested), alive.requested]
  spared n y after there := by
    rcases getElem?_concat there with ⟨-, there, same⟩ | ⟨-, rfl, same⟩ <;> rw [same]
    · exact alive.spared n y after there
    · exact spares

theorem Clashed.append (clashed : Clashed past h i) (rest : List Beat) :
    Clashed (past ++ rest) h i := by
  obtain ⟨n, later, there⟩ := clashed
  exact ⟨n, later, by rw [List.getElem?_append_left (lt_of_getElem? there), there]⟩

/-- What was requested before the last beats was alive before them. -/
theorem Alive.before {rest : List Beat} (alive : Alive (past ++ rest) k h i)
    (unasked : .requested k h ∉ rest) : i < past.length ∧ Alive past k h i := by
  have same {n : Nat} (within : n < past.length) : (past ++ rest)[n]? = past[n]? :=
    List.getElem?_append_left within
  have inside : i < past.length := by
    by_contra outside
    refine unasked (List.mem_of_getElem? (i := i - past.length) ?_)
    rw [← List.getElem?_append_right (Nat.le_of_not_lt outside), alive.requested]
  refine ⟨inside, same inside ▸ alive.requested, fun n x after there => ?_⟩
  have within := lt_of_getElem? there
  have spared := alive.spared n x after ((same within).trans there)
  rwa [List.take_append_of_le_length (Nat.le_of_lt within)] at spared

theorem Waits.concat (waits : Waits past k h i) (spares : x.Spares k h (Clashed past h i))
    (leaves : x.Leaves k) : Waits (past ++ [x]) k h i where
  alive := waits.alive.concat spares
  left n y after there := by
    rcases getElem?_concat there with ⟨-, there, -⟩ | ⟨-, rfl, -⟩
    · exact waits.left n y after there
    · exact leaves

theorem Due.concat (due : Due past k h i j) (spares : x.Spares k h (Clashed past h i)) :
    Due (past ++ [x]) k h i j where
  alive := due.alive.concat spares
  later := due.later
  committed := by rw [List.getElem?_append_left (lt_of_getElem? due.committed), due.committed]
  left n y after before there := by
    have inside := lt_of_getElem? due.committed
    rcases getElem?_concat there with ⟨-, there, -⟩ | ⟨rfl, -⟩
    · exact due.left n y after before there
    · omega

/-- A commit makes the callback due that waited for it. -/
theorem Waits.commit (waits : Waits past k h i) :
    Due (past ++ [.committed k]) k h i past.length where
  alive := waits.alive.concat trivial
  later := lt_of_getElem? waits.alive.requested
  committed := by simp
  left n y after before there := by
    rw [List.getElem?_append_left before] at there
    exact waits.left n y after there

theorem waits_requested (past : List Beat) (k : SurfaceId) (h : Handle) :
    Waits (past ++ [.requested k h]) k h past.length where
  alive :=
    { requested := by simp
      spared := fun n x after there => by
        have := lt_of_getElem? there
        simp at this
        omega }
  left n x after there := by
    have := lt_of_getElem? there
    simp at this
    omega

/-! ### What clients wait for -/

/-- The frame callbacks of a surface that are still to be fired. -/
def Dues.callbacks (d : Dues) : List Handle := d.due ++ d.waiting.toList

/-- The first callback was committed before the second. -/
def CommittedBefore (past : List Beat) (k : SurfaceId) (h h' : Handle) : Prop :=
  ∀ i j i' j', Due past k h i j → Due past k h' i' j' → j < j'

/-- All that clients wait for has its place in the history. -/
structure Placed (waits : SurfaceId → Dues) (past : List Beat) : Prop where
  waiting : ∀ k h, (waits k).waiting = some h → ∃ i, Waits past k h i
  due : ∀ k, ∀ h ∈ (waits k).due, ∃ i j, Due past k h i j
  sorted : ∀ k, (waits k).due.Pairwise (CommittedBefore past k)

/-- What was fired was due, in a pass that drew the surface, and was destroyed at once. It was committed
before all that was fired later, or that clients still wait for. -/
structure Course (waits : SurfaceId → Dues) (past : List Beat) : Prop extends Placed waits past where
  fired : ∀ upto h time rest, past = upto ++ .told (.frameDone h time) :: rest →
    (∃ after, rest = .told (.destroyed h) :: after) ∧ ∃ k i j, Due upto k h i j ∧ Drawing upto k
  first : ∀ upto h k i j, FiredAfter past upto h → Due upto k h i j →
    ∀ h' ∈ (waits k).due, ∀ i' j', Due past k h' i' j' → j < j'
  ordered : ∀ upto h upto' h' k i j i' j', FiredAfter past upto h → FiredAfter past upto' h' →
    upto.length < upto'.length → Due upto k h i j → Due upto' k h' i' j' → j < j'

variable {waits waits' : SurfaceId → Dues}

/-- At first nobody waits for anything. -/
theorem Course.nil : Course (fun _ => {}) [] where
  waiting := by simp
  due := by simp
  sorted := by simp
  fired := by simp
  first := by simp
  ordered := by simp [FiredAfter]

theorem Placed.alive (placed : Placed waits past) (member : h ∈ (waits k).callbacks) :
    ∃ i, Alive past k h i := by
  rw [Dues.callbacks, List.mem_append, Option.mem_toList] at member
  rcases member with due | waiting
  · obtain ⟨i, j, due⟩ := placed.due k h due
    exact ⟨i, due.alive⟩
  · obtain ⟨i, waits⟩ := placed.waiting k h waiting
    exact ⟨i, waits.alive⟩

theorem Due.back (due : Due past k h i j) (spares : x.Spares k h (Clashed past h i))
    (due' : Due (past ++ [x]) k' h i' j') : j' = j :=
  (due'.unique (due.concat spares)).2.2

/-- A beat spares all that clients wait for. -/
def SparesAll (waits : SurfaceId → Dues) (past : List Beat) (x : Beat) : Prop :=
  ∀ k, ∀ h ∈ (waits k).callbacks, ∀ i, Alive past k h i → x.Spares k h (Clashed past h i)

theorem Placed.concat (placed : Placed waits past) (spares : SparesAll waits past x)
    (leaves : ∀ k h, (waits k).waiting = some h → x.Leaves k) : Placed waits (past ++ [x]) where
  waiting k h waiting := by
    obtain ⟨i, waits⟩ := placed.waiting k h waiting
    have spared := spares k h (by simp [Dues.callbacks, waiting]) i waits.alive
    exact ⟨i, waits.concat spared (leaves k h waiting)⟩
  due k h due := by
    obtain ⟨i, j, place⟩ := placed.due k h due
    exact ⟨i, j, place.concat (spares k h (by simp [Dues.callbacks, due]) i place.alive)⟩
  sorted k := by
    refine (placed.sorted k).imp_of_mem fun {h h'} due due' before i j i' j' place place' => ?_
    obtain ⟨i₀, j₀, old⟩ := placed.due k h due
    obtain ⟨i₁, j₁, old'⟩ := placed.due k h' due'
    rw [old.back (spares k h (by simp [Dues.callbacks, due]) i₀ old.alive) place,
      old'.back (spares k h' (by simp [Dues.callbacks, due']) i₁ old'.alive) place']
    exact before i₀ j₀ i₁ j₁ old old'

/-- Clients wait for less. -/
def Fewer (waits waits' : SurfaceId → Dues) : Prop :=
  ∀ k, (∀ h, (waits' k).waiting = some h → (waits k).waiting = some h) ∧
    (waits' k).due.Sublist (waits k).due

theorem Fewer.refl (waits : SurfaceId → Dues) : Fewer waits waits :=
  fun _ => ⟨fun _ => id, List.Sublist.refl _⟩

theorem Placed.fewer (placed : Placed waits past) (fewer : Fewer waits waits') :
    Placed waits' past where
  waiting k h waiting := placed.waiting k h ((fewer k).1 h waiting)
  due k h due := placed.due k h ((fewer k).2.subset due)
  sorted k := (placed.sorted k).sublist (fewer k).2

theorem Course.fewer (course : Course waits past) (fewer : Fewer waits waits') :
    Course waits' past where
  toPlaced := course.toPlaced.fewer fewer
  fired := course.fired
  first upto h k i j fired due h' member :=
    course.first upto h k i j fired due h' ((fewer k).2.subset member)
  ordered := course.ordered

theorem FiredAfter.concat_iff (other : ∀ h time, x ≠ .told (.frameDone h time)) :
    FiredAfter (past ++ [x]) upto h ↔ FiredAfter past upto h := by
  constructor
  · rintro ⟨time, rest, split⟩
    rcases concat_eq_append_cons_iff.1 split with ⟨-, same, -⟩ | ⟨rest', -, same⟩
    · exact absurd same (other h time)
    · exact ⟨time, rest', same⟩
  · rintro ⟨time, rest, rfl⟩
    exact ⟨time, rest ++ [x], by simp⟩

/-- A beat that fires nothing and spares all that clients wait for. -/
theorem Course.concat (course : Course waits past) (other : ∀ h time, x ≠ .told (.frameDone h time))
    (spares : SparesAll waits past x)
    (leaves : ∀ k h, (waits k).waiting = some h → x.Leaves k) : Course waits (past ++ [x]) where
  toPlaced := course.toPlaced.concat spares leaves
  fired upto h time rest split := by
    rcases concat_eq_append_cons_iff.1 split with ⟨-, same, -⟩ | ⟨rest', rfl, same⟩
    · exact absurd same (other h time)
    · obtain ⟨⟨after, rfl⟩, due⟩ := course.fired upto h time rest' same
      exact ⟨⟨after ++ [x], rfl⟩, due⟩
  first upto h k i j fired due h' member i' j' due' := by
    obtain ⟨i₀, j₀, old⟩ := course.due k h' member
    rw [old.back (spares k h' (by simp [Dues.callbacks, member]) i₀ old.alive) due']
    exact course.first upto h k i j ((FiredAfter.concat_iff other).1 fired) due h' member i₀ j₀ old
  ordered upto h upto' h' k i j i' j' fired fired' :=
    course.ordered upto h upto' h' k i j i' j' ((FiredAfter.concat_iff other).1 fired)
      ((FiredAfter.concat_iff other).1 fired')

theorem Course.tell (course : Course waits past) {e : TransportEvent}
    (other : ∀ h time, e ≠ .frameDone h time) : Course waits (past ++ [.told e]) := by
  refine course.concat (by simpa using other) (fun k h _ _ _ => ?_) fun _ _ _ => trivial
  cases e with
  | frameDone x time => exact absurd rfl (other x time)
  | _ => trivial

theorem Fewer.callbacks (fewer : Fewer waits waits') (member : h ∈ (waits' k).callbacks) :
    h ∈ (waits k).callbacks := by
  rw [Dues.callbacks, List.mem_append, Option.mem_toList] at member ⊢
  exact member.imp (fun due => (fewer k).2.subset due) ((fewer k).1 h)

theorem fewer_setWaiting (waits : SurfaceId → Dues) (k : SurfaceId) :
    Fewer waits (Function.update waits k { waits k with waiting := none }) := by
  intro x
  by_cases here : x = k <;> simp [here]

/-- A beat after which the surface has no pending callback. -/
theorem Course.drop (course : Course waits past) (other : ∀ h time, x ≠ .told (.frameDone h time))
    (spares : SparesAll waits past x) (leaves : ∀ k', k' ≠ k → x.Leaves k') :
    Course (Function.update waits k { waits k with waiting := none }) (past ++ [x]) := by
  have fewer := fewer_setWaiting waits k
  refine (course.fewer fewer).concat other (fun k' h member => spares k' h (fewer.callbacks member))
    fun k' h waiting => leaves k' ?_
  rintro rfl
  simp at waiting

/-- A callback begins to wait. -/
theorem Course.wait (course : Course waits past) (new : Waits past k h i) :
    Course (Function.update waits k { waits k with waiting := some h }) past := by
  have due (x) : (Function.update waits k { waits k with waiting := some h } x).due =
      (waits x).due := by
    by_cases here : x = k <;> simp [here]
  refine ⟨⟨fun x h' waiting => ?_, fun x => due x ▸ course.due x, fun x => due x ▸ course.sorted x⟩,
    course.fired, fun upto h' x i j => due x ▸ course.first upto h' x i j, course.ordered⟩
  by_cases here : x = k
  · subst here
    simp only [Function.update_self, Option.some_inj] at waiting
    exact ⟨i, waiting ▸ new⟩
  · rw [Function.update_of_ne here] at waiting
    exact course.waiting x h' waiting

/-- A callback is due after all others. -/
theorem Course.owe (course : Course waits past) (new : Due past k h i j)
    (last : ∀ h' ∈ (waits k).due, ∀ i' j', Due past k h' i' j' → j' < j)
    (late : ∀ upto h' i' j', FiredAfter past upto h' → Due upto k h' i' j' → j' < j) :
    Course (Function.update waits k { waits k with due := (waits k).due ++ [h] }) past := by
  have others {x : SurfaceId} (other : x ≠ k) :
      Function.update waits k { waits k with due := (waits k).due ++ [h] } x = waits x :=
    Function.update_of_ne other ..
  refine ⟨⟨fun x h' waiting => course.waiting x h' ?_, fun x h' due => ?_, fun x => ?_⟩, course.fired,
    fun upto h' x i' j' fired old h'' member i'' j'' due => ?_, course.ordered⟩ <;>
    by_cases here : x = k
  · subst here
    simpa using waiting
  · rwa [others here] at waiting
  · subst here
    rw [Function.update_self, List.mem_append, List.mem_singleton] at due
    rcases due with due | rfl
    · exact course.due x h' due
    · exact ⟨i, j, new⟩
  · rw [others here] at due
    exact course.due x h' due
  · subst here
    rw [Function.update_self]
    refine List.pairwise_append.2 ⟨course.sorted x, List.pairwise_singleton .., ?_⟩
    intro h' member y single i' j' i'' j'' due due'
    obtain rfl := List.mem_singleton.1 single
    rw [(due'.unique new).2.2]
    exact last h' member i' j' due
  · rw [others here]
    exact course.sorted x
  · subst here
    rw [Function.update_self, List.mem_append, List.mem_singleton] at member
    rcases member with member | rfl
    · exact course.first upto h' x i' j' fired old h'' member i'' j'' due
    · rw [(due.unique new).2.2]
      exact late upto h' i' j' fired old
  · rw [others here] at member
    exact course.first upto h' x i' j' fired old h'' member i'' j'' due

/-- A new callback replaces the pending one. -/
theorem Course.request (course : Course waits past) (k : SurfaceId)
    (free : ∀ k, h ∉ (waits k).callbacks) :
    Course (Function.update waits k { waits k with waiting := some h })
      (past ++ [.requested k h]) := by
  have dropped := course.drop (k := k) (x := .requested k h) (by simp)
    (fun k' h' member _ _ same => free k' (same ▸ member)) fun k' other => Ne.symm other
  have waiting := dropped.wait (waits_requested past k h)
  simpa using waiting

theorem Due.lt_length (due : Due past k h i j) : j < past.length := lt_of_getElem? due.committed

theorem FiredAfter.length_lt (fired : FiredAfter past upto h) : upto.length < past.length := by
  obtain ⟨time, rest, rfl⟩ := fired
  simp

/-- A commit makes the pending callback due. -/
theorem Course.commit (course : Course waits past) (k : SurfaceId) (shown : Option BufferId) :
    Course (Function.update waits k ⟨shown, none, (waits k).callbacks⟩)
      (past ++ [.committed k]) := by
  have dropped := course.drop (k := k) (x := .committed k) (by simp)
    (fun _ _ _ _ _ => trivial) fun k' other => Ne.symm other
  cases waiting : (waits k).waiting with
  | none =>
    refine dropped.fewer fun x => ?_
    by_cases here : x = k <;> simp [here, Dues.callbacks, waiting]
  | some h =>
    obtain ⟨i, place⟩ := course.waiting k h waiting
    have owed := dropped.owe place.commit (fun h' member i' j' due => ?_)
      fun upto h' i' j' fired due => ?_
    · refine owed.fewer fun x => ?_
      by_cases here : x = k <;> simp [here, Dues.callbacks, waiting]
    · rw [Function.update_self] at member
      obtain ⟨i₀, j₀, old⟩ := course.due k h' member
      rw [old.back (x := .committed k) trivial due]
      exact old.lt_length
    · exact due.lt_length.trans ((FiredAfter.concat_iff (by simp)).1 fired).length_lt

/-! ### What is fired -/

/-- Nobody else waits for the oldest callback. -/
theorem Placed.oldest (placed : Placed waits past) {rest : List Handle}
    (due : (waits k).due = h :: rest) (k' : SurfaceId) :
    h ∉ (Function.update waits k { waits k with due := rest } k').callbacks := by
  obtain ⟨i, j, place⟩ := placed.due k h (by simp [due])
  rw [Dues.callbacks, List.mem_append, Option.mem_toList]
  rintro (also | also)
  · by_cases here : k' = k
    · -- Callbacks of one surface were committed one after the other.
      subst here
      rw [Function.update_self] at also
      have sorted := placed.sorted k'
      rw [due, List.pairwise_cons] at sorted
      exact absurd (sorted.1 h also i j i j place place) (Nat.lt_irrefl j)
    · rw [Function.update_of_ne here] at also
      obtain ⟨i', j', place'⟩ := placed.due k' h also
      exact here (place'.unique place).1
  · have waiting : (waits k').waiting = some h := by
      by_cases here : k' = k
      · simpa [here] using also
      · rwa [Function.update_of_ne here] at also
    obtain ⟨i', place'⟩ := placed.waiting k' h waiting
    exact place'.not_due place

theorem firedAfter_fire_iff {time : UInt32} :
    FiredAfter (past ++ [.told (.frameDone h time), .told (.destroyed h)]) upto h' ↔
      (upto = past ∧ h' = h) ∨ FiredAfter past upto h' := by
  rw [← List.singleton_append, ← List.append_assoc, FiredAfter.concat_iff (by simp)]
  constructor
  · rintro ⟨time', rest, split⟩
    rcases concat_eq_append_cons_iff.1 split with ⟨rfl, same, -⟩ | ⟨rest', -, same⟩
    · cases same
      exact .inl ⟨rfl, rfl⟩
    · exact .inr ⟨time', rest', same⟩
  · rintro (⟨rfl, rfl⟩ | ⟨time', rest, rfl⟩)
    · exact ⟨time, [], rfl⟩
    · exact ⟨time', rest ++ [.told (.frameDone h time)], by simp⟩

/-- A pass that draws a surface fires the oldest of its callbacks. -/
theorem Course.fire (course : Course waits past) {rest : List Handle} (time : UInt32)
    (due : (waits k).due = h :: rest) (drawing : Drawing past k) :
    Course (Function.update waits k { waits k with due := rest })
      (past ++ [.told (.frameDone h time), .told (.destroyed h)]) := by
  have fewer : Fewer waits (Function.update waits k { waits k with due := rest }) := by
    intro x
    by_cases here : x = k <;> simp [here, due]
  obtain ⟨i, j, place⟩ := course.due k h (by simp [due])
  have alone := course.oldest due
  have spares (k') (h') (member : h' ∈
      (Function.update waits k { waits k with due := rest } k').callbacks) : h ≠ h' :=
    fun same => alone k' (same ▸ member)
  have done := (course.toPlaced.fewer fewer).concat (x := .told (.frameDone h time))
    (fun k' h' member _ _ => spares k' h' member) fun _ _ _ => trivial
  have placed := done.concat (x := .told (.destroyed h)) (fun _ _ _ _ _ => trivial)
    fun _ _ _ => trivial
  rw [List.append_assoc] at placed
  have pair : past ++ [.told (.frameDone h time), .told (.destroyed h)] =
      (past ++ [.told (.frameDone h time)]) ++ [.told (.destroyed h)] := by simp
  refine ⟨placed, fun upto h' time' after split => ?_, fun upto h' k' i' j' fired old h'' member i''
    j'' new => ?_, fun upto h' upto' h'' k' i' j' i'' j'' fired fired' before old new => ?_⟩
  · rw [pair] at split
    rcases concat_eq_append_cons_iff.1 split with ⟨-, same, -⟩ | ⟨after, rfl, earlier⟩
    · cases same
    rcases concat_eq_append_cons_iff.1 earlier with ⟨rfl, same, rfl⟩ | ⟨after, rfl, rfl⟩
    · cases same
      exact ⟨⟨[], rfl⟩, k, i, j, place, drawing⟩
    · obtain ⟨⟨after, rfl⟩, found⟩ := course.fired upto h' time' after rfl
      exact ⟨⟨_, rfl⟩, found⟩
  · obtain ⟨i₀, j₀, held⟩ := course.due k' h'' ((fewer k').2.subset member)
    have same : j'' = j₀ := by
      have kept := held.concat (x := .told (.frameDone h time))
        (spares k' h'' (by simp [Dues.callbacks, member]))
      exact kept.back (x := .told (.destroyed h)) trivial (pair ▸ new)
    rw [same]
    rcases firedAfter_fire_iff.1 fired with ⟨rfl, rfl⟩ | earlier
    · obtain ⟨rfl, -, -⟩ := old.unique place
      rw [Function.update_self] at member
      have sorted := course.sorted k'
      rw [due, List.pairwise_cons] at sorted
      exact sorted.1 h'' member i' j' i₀ j₀ old held
    · exact course.first upto h' k' i' j' earlier old h'' ((fewer k').2.subset member) i₀ j₀ held
  · rcases firedAfter_fire_iff.1 fired with ⟨rfl, rfl⟩ | earlier <;>
      rcases firedAfter_fire_iff.1 fired' with ⟨rfl, rfl⟩ | earlier'
    · exact absurd before (Nat.lt_irrefl _)
    · exact absurd before (Nat.lt_asymm earlier'.length_lt)
    · obtain ⟨rfl, -, -⟩ := new.unique place
      exact course.first upto h' k' i' j' earlier old h'' (by simp [due]) i'' j'' new
    · exact course.ordered upto h' upto' h'' k' i' j' i'' j'' earlier earlier' before old new

/-! ### The whole history -/

/-- How frame callbacks are fired in a history. -/
structure Punctual (history : List Beat) : Prop where
  /-- A callback is fired by a pass that draws its surface, after a commit that followed its request,
  and is destroyed at once. -/
  due : ∀ upto h time rest, history = upto ++ .told (.frameDone h time) :: rest →
    (∃ after, rest = .told (.destroyed h) :: after) ∧ ∃ k i j, Due upto k h i j ∧ Drawing upto k
  /-- It is fired once for each request. -/
  once : ∀ upto upto' h k k' i j j', FiredAfter history upto h → FiredAfter history upto' h →
    Due upto k h i j → Due upto' k' h i j' → upto = upto'
  /-- What was committed first is fired first. -/
  ordered : ∀ upto upto' h h' k i i' j j', FiredAfter history upto h → FiredAfter history upto' h' →
    Due upto k h i j → Due upto' k h' i' j' → (j < j' ↔ upto.length < upto'.length)

variable {upto' history : List Beat}

theorem FiredAfter.eq (fired : FiredAfter history upto h) (fired' : FiredAfter history upto' h')
    (same : upto.length = upto'.length) : upto = upto' ∧ h = h' := by
  obtain ⟨time, rest, rfl⟩ := fired
  obtain ⟨time', rest', split⟩ := fired'
  obtain ⟨rfl, tails⟩ := List.append_inj split same
  cases tails
  exact ⟨rfl, rfl⟩

/-- What was fired before was due for an earlier request. -/
theorem FiredAfter.renewed (fired : FiredAfter history upto h) (fired' : FiredAfter history upto' h')
    (before : upto.length < upto'.length) (alive : Alive upto' k h i) : upto.length ≤ i := by
  obtain ⟨time, rest, rfl⟩ := fired
  obtain ⟨time', rest', split⟩ := fired'
  by_contra later
  have there : upto'[upto.length]? = some (.told (.frameDone h time)) := by
    have whole := congrArg (·[upto.length]?) split
    simpa [List.getElem?_append_left before] using whole.symm
  exact alive.spared _ _ (Nat.lt_of_not_le later) there rfl

theorem Course.punctual (course : Course waits history) : Punctual history where
  due := course.fired
  once upto upto' h k k' i j j' fired fired' due due' := by
    have inside := lt_of_getElem? due.alive.requested
    have inside' := lt_of_getElem? due'.alive.requested
    rcases Nat.lt_trichotomy upto.length upto'.length with before | same | after
    · exact absurd (fired.renewed fired' before due'.alive) (by omega)
    · exact (fired.eq fired' same).1
    · exact absurd (fired'.renewed fired after due.alive) (by omega)
  ordered upto upto' h h' k i i' j j' fired fired' due due' := by
    refine ⟨fun committed => ?_, fun before =>
      course.ordered upto h upto' h' k i j i' j' fired fired' before due due'⟩
    rcases Nat.lt_trichotomy upto.length upto'.length with before | same | after
    · exact before
    · obtain ⟨rfl, rfl⟩ := fired.eq fired' same
      exact absurd (due.unique due').2.2 (Nat.ne_of_lt committed)
    · have := course.ordered upto' h' upto h k i' j' i j fired' fired after due' due
      omega

end Compositing
