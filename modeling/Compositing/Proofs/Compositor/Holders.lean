import Compositing.Ident
import Compositing.Resource
import Mathlib.Data.List.Count
import Mathlib.Data.List.Infix

/-!
# The holders of a surface, by its history

A surface is made for a protocol object, which holds it until it ends, and the host holds it once for
every reference it took and has not given back. From what happened, one event after the other,
`holders` tells how many hold a surface. Main statement: `Accounted.event`, by which a count that each
event changes as `HoldEvent.apply` says is that number.
-/

namespace Compositing

/-! ### What is said about the holders of a surface -/

inductive HoldEvent where
  /-- The surface was made, for a protocol object. -/
  | made (surface : SurfaceId) (object : Handle)
  /-- An object got a protocol object that some object had already. -/
  | shared (object : Handle)
  /-- The host took a reference to the surface. -/
  | acquired (surface : SurfaceId)
  /-- The host gave a reference back. -/
  | released (surface : SurfaceId)
  /-- The compositor was asked to destroy the surface, and with it the protocol object. -/
  | ended (surface : SurfaceId)
  /-- The transport reported that a protocol object is gone. -/
  | reported (object : Handle)
  /-- The surface left the table of surfaces. -/
  | freed (surface : SurfaceId)
  deriving DecidableEq

/-- What an event makes of the live protocol object of a surface. -/
def HoldEvent.relink (k : SurfaceId) (object : Option Handle) : HoldEvent → Option Handle
  | made x h => if x = k then some h else object
  | ended x => if x = k then none else object
  | reported h => if object = some h then none else object
  | _ => object

/-- The event says nothing about who holds a surface. -/
def HoldEvent.IsSilent : HoldEvent → Prop
  | shared _ | freed _ => True
  | _ => False

/-- The live protocol object of a surface. -/
def liveObject (k : SurfaceId) (history : List HoldEvent) : Option Handle :=
  history.foldl (HoldEvent.relink k) none

/-- How many hold a surface: its protocol object, and the host for each reference that it took and
did not give back. -/
def holders (k : SurfaceId) (history : List HoldEvent) : Nat :=
  (liveObject k history).isSome.toNat + history.count (.acquired k) - history.count (.released k)

/-- The host never gave back more references to a surface than it took before. -/
def Balanced (k : SurfaceId) (history : List HoldEvent) : Prop :=
  ∀ past, past <+: history → past.count (.released k) ≤ past.count (.acquired k)

instance (k : SurfaceId) (history : List HoldEvent) : Decidable (Balanced k history) :=
  decidable_of_iff (∀ past ∈ history.inits, past.count (.released k) ≤ past.count (.acquired k))
    (by simp only [Balanced, List.mem_inits])

def HoldEvent.shared? : HoldEvent → Option Handle
  | shared h => some h
  | _ => none

/-- No protocol object came to be shared while it was the live one of the surface. -/
def Unshared (k : SurfaceId) (history : List HoldEvent) : Prop :=
  ∀ past, past <+: history → ∀ h ∈ past.getLast?.bind HoldEvent.shared?, liveObject k past ≠ some h

instance (k : SurfaceId) (history : List HoldEvent) : Decidable (Unshared k history) :=
  decidable_of_iff (∀ past ∈ history.inits, ∀ h ∈ past.getLast?.bind HoldEvent.shared?,
    liveObject k past ≠ some h) (by simp only [Unshared, List.mem_inits])

def WasMade (k : SurfaceId) (history : List HoldEvent) : Prop := ∃ h, .made k h ∈ history

def HoldEvent.makes (k : SurfaceId) : HoldEvent → Bool
  | made x _ => x = k
  | _ => false

theorem HoldEvent.makes_iff {k : SurfaceId} {e : HoldEvent} :
    e.makes k = true ↔ ∃ h, e = .made k h := by
  cases e <;> simp [makes]

instance (k : SurfaceId) (history : List HoldEvent) : Decidable (WasMade k history) :=
  decidable_of_iff (history.any (·.makes k)) <| by
    simp only [List.any_eq_true, HoldEvent.makes_iff, WasMade]
    constructor
    · rintro ⟨_, member, h, rfl⟩
      exact ⟨h, member⟩
    · rintro ⟨h, member⟩
      exact ⟨_, member, h, rfl⟩

variable {k : SurfaceId} {h : Handle} {history events : List HoldEvent} {e : HoldEvent}

theorem liveObject_concat : liveObject k (history ++ [e]) = e.relink k (liveObject k history) := by
  simp [liveObject]

theorem liveObject_silent (silent : ∀ e ∈ events, e.IsSilent) :
    liveObject k (history ++ events) = liveObject k history := by
  induction events using List.reverseRecOn with
  | nil => rw [List.append_nil]
  | append_singleton events e ih =>
    have same : e.relink k (liveObject k (history ++ events)) = liveObject k (history ++ events) := by
      have quiet := silent e (by simp)
      cases e <;> first | rfl | exact quiet.elim
    rw [← List.append_assoc, liveObject_concat, same]
    exact ih fun x member => silent x (by simp [member])

theorem Balanced.before (balanced : Balanced k (history ++ events)) : Balanced k history :=
  fun past within => balanced past (within.trans (List.prefix_append _ _))

theorem Balanced.now (balanced : Balanced k history) :
    history.count (.released k) ≤ history.count (.acquired k) :=
  balanced history List.prefix_rfl

theorem Unshared.before (unshared : Unshared k (history ++ events)) : Unshared k history :=
  fun past within => unshared past (within.trans (List.prefix_append _ _))

theorem Unshared.now (unshared : Unshared k (history ++ [.shared h])) :
    liveObject k history ≠ some h := fun live =>
  unshared _ List.prefix_rfl h (by simp [HoldEvent.shared?]) (liveObject_concat.trans live)

theorem not_wasMade_of_silent (silent : ∀ e ∈ events, e.IsSilent) : ¬WasMade k events :=
  fun ⟨_, member⟩ => silent _ member

theorem wasMade_append : WasMade k (history ++ events) ↔ WasMade k history ∨ WasMade k events := by
  simp only [WasMade, List.mem_append, exists_or]

/-! ### The holders of one surface, one event after the other -/

/-- One holder fewer, unless it was the last. -/
def oneFewer (count : Nat) (object : Option Handle) : Option (Nat × Option Handle) :=
  if count - 1 = 0 then none else some (count - 1, object)

/-- What an event makes of the count of a surface and of its live protocol object. -/
def HoldEvent.apply (k : SurfaceId) (held : Option (Nat × Option Handle)) :
    HoldEvent → Option (Nat × Option Handle)
  | made x h => if x = k then some (1, some h) else held
  | acquired x => if x = k then held.map fun (n, object) => (n + 1, object) else held
  | released x => if x = k then held.bind fun (n, object) => oneFewer n object else held
  | ended x =>
    if x = k then
      held.bind fun (n, object) => if object.isSome then oneFewer n none else some (n, object)
    else held
  | reported h =>
    held.bind fun (n, object) => if object = some h then oneFewer n none else some (n, object)
  | shared _ | freed _ => held

/-- The event can happen to a surface that is held like that. -/
def HoldEvent.Fits (k : SurfaceId) (held : Option (Nat × Option Handle)) : HoldEvent → Prop
  | made x _ => x = k → held = none
  | acquired x => x = k → held.isSome = true
  | _ => True

variable {held : Option (Nat × Option Handle)} {n : Nat} {object : Option Handle}

theorem link_of_oneFewer {m : Nat} (after : oneFewer n object = some (m, some h)) :
    object = some h := by
  unfold oneFewer at after
  split at after
  · cases after
  · simpa using congrArg (Option.map Prod.snd) after

/-- Only a holder that goes can be the last. -/
theorem HoldEvent.last {held : Nat × Option Handle} (gone : e.apply k (some held) = none) :
    e = .released k ∨ e = .ended k ∨ ∃ h, e = .reported h ∧ held.2 = some h := by
  cases e <;> simp only [apply] at gone
  case released x =>
    split at gone
    next here => exact .inl (by rw [here])
    next => cases gone
  case ended x =>
    split at gone
    next here => exact .inr (.inl (by rw [here]))
    next => cases gone
  case reported h =>
    obtain ⟨n, object⟩ := held
    simp only [Option.bind_some] at gone
    split at gone
    next here => exact .inr (.inr ⟨h, rfl, here⟩)
    next => cases gone
  case shared | freed => cases gone
  all_goals split at gone <;> cases gone

/-- Who has a live protocol object was made for it, or had it before and is spared by the event. -/
theorem HoldEvent.linked (after : e.apply k held = some (n, some h)) :
    e = .made k h ∨ (∃ m, held = some (m, some h)) ∧ e.relink k (some h) = some h := by
  cases e <;> simp only [apply] at after <;> simp only [relink]
  case made x y =>
    split at after
    next here =>
      cases after
      exact .inl (by rw [here])
    next other => exact .inr ⟨⟨n, after⟩, if_neg other⟩
  case acquired x =>
    split at after
    next =>
      obtain ⟨⟨m, _⟩, rfl, same⟩ := Option.map_eq_some_iff.1 after
      cases same
      exact .inr ⟨⟨m, rfl⟩, trivial⟩
    next => exact .inr ⟨⟨n, after⟩, trivial⟩
  case released x =>
    split at after
    next =>
      obtain ⟨⟨m, object⟩, rfl, fewer⟩ := Option.bind_eq_some_iff.1 after
      obtain rfl : object = some h := link_of_oneFewer fewer
      exact .inr ⟨⟨m, rfl⟩, trivial⟩
    next => exact .inr ⟨⟨n, after⟩, trivial⟩
  case ended x =>
    split at after
    next =>
      -- After the end there is no link, so this cannot be.
      obtain ⟨⟨m, object⟩, rfl, rest⟩ := Option.bind_eq_some_iff.1 after
      cases object with
      | none => cases rest
      | some => cases link_of_oneFewer rest
    next other => exact .inr ⟨⟨n, after⟩, if_neg other⟩
  case reported x =>
    obtain ⟨⟨m, object⟩, rfl, rest⟩ := Option.bind_eq_some_iff.1 after
    simp only at rest
    split at rest
    next => cases link_of_oneFewer rest
    next other =>
      cases rest
      exact .inr ⟨⟨n, rfl⟩, if_neg other⟩
  case shared | freed => exact .inr ⟨⟨n, after⟩, trivial⟩

/-- The history tells how the surface is held. -/
def Accounted (k : SurfaceId) (history : List HoldEvent) : Option (Nat × Option Handle) → Prop
  | none => holders k history = 0
  | some (n, object) => 0 < n ∧ holders k history = n ∧ liveObject k history = object

/-- Nobody holds what is not there, not even a protocol object. -/
theorem Balanced.idle (balanced : Balanced k history) (none : holders k history = 0) :
    liveObject k history = .none ∧
      history.count (.acquired k) = history.count (.released k) := by
  have now := balanced.now
  unfold holders at none
  cases live : liveObject k history with
  | none => exact ⟨rfl, by simp only [live, Option.isSome_none, Bool.toNat_false] at none; omega⟩
  | some => simp only [live, Option.isSome_some, Bool.toNat_true] at none; omega

theorem accounted_oneFewer (count : holders k history = n - 1)
    (same : liveObject k history = object) : Accounted k history (oneFewer n object) := by
  unfold oneFewer
  split
  next last => exact count.trans last
  next others => exact ⟨Nat.pos_of_ne_zero others, count, same⟩

theorem Accounted.none_iff (accounted : Accounted k history held) :
    holders k history = 0 ↔ held = none := by
  cases held with
  | none => exact ⟨fun _ => rfl, fun _ => accounted⟩
  | some held => exact ⟨fun none => absurd (accounted.2.1 ▸ accounted.1) (by omega), nofun⟩

/-- What happens to other surfaces does not count. -/
theorem Accounted.other (accounted : Accounted k history held)
    (same : e.relink k (liveObject k history) = liveObject k history)
    (acquired : e ≠ .acquired k) (released : e ≠ .released k) :
    Accounted k (history ++ [e]) held := by
  have live : liveObject k (history ++ [e]) = liveObject k history := liveObject_concat.trans same
  have count : holders k (history ++ [e]) = holders k history := by
    simp [holders, live, acquired, released]
  cases held with
  | none => exact count.trans accounted
  | some held => exact ⟨accounted.1, count.trans accounted.2.1, live.trans accounted.2.2⟩

theorem Accounted.made (accounted : Accounted k history none) (balanced : Balanced k history)
    (h : Handle) : Accounted k (history ++ [.made k h]) (some (1, some h)) := by
  obtain ⟨-, same⟩ := balanced.idle accounted
  have live : liveObject k (history ++ [.made k h]) = some h := by
    simp [liveObject_concat, HoldEvent.relink]
  refine ⟨Nat.one_pos, ?_, live⟩
  simp [holders, live, same]

theorem Accounted.acquired (accounted : Accounted k history (some (n, object)))
    (balanced : Balanced k history) :
    Accounted k (history ++ [.acquired k]) (some (n + 1, object)) := by
  obtain ⟨some, count, same⟩ := accounted
  have now := balanced.now
  have live : liveObject k (history ++ [.acquired k]) = object := liveObject_concat.trans same
  refine ⟨Nat.succ_pos n, ?_, live⟩
  have more : holders k (history ++ [.acquired k]) = object.isSome.toNat +
      (history.count (.acquired k) + 1) - history.count (.released k) := by
    simp [holders, live]
  rw [holders, same] at count
  omega

theorem Accounted.released (accounted : Accounted k history held)
    (balanced : Balanced k (history ++ [.released k])) :
    Accounted k (history ++ [.released k]) (held.bind fun (n, object) => oneFewer n object) := by
  have now := balanced.now
  simp only [List.count_append, List.count_singleton_self] at now
  have others : [HoldEvent.released k].count (.acquired k) = 0 := by simp
  rw [others] at now
  cases held with
  | none =>
    -- Whoever gives back a reference holds the surface.
    obtain ⟨-, same⟩ := balanced.before.idle accounted
    omega
  | some held =>
    obtain ⟨n, object⟩ := held
    obtain ⟨-, count, same⟩ := accounted
    have live : liveObject k (history ++ [.released k]) = object := liveObject_concat.trans same
    refine accounted_oneFewer ?_ live
    have fewer : holders k (history ++ [.released k]) = object.isSome.toNat +
        history.count (.acquired k) - (history.count (.released k) + 1) := by
      simp [holders, live]
    rw [holders, same] at count
    omega

/-- The protocol object ends. -/
theorem Accounted.cut (accounted : Accounted k history (some (n, some h)))
    (balanced : Balanced k history) (gone : e.relink k (some h) = none)
    (acquired : e ≠ .acquired k) (released : e ≠ .released k) :
    Accounted k (history ++ [e]) (oneFewer n none) := by
  obtain ⟨-, count, same⟩ := accounted
  have now := balanced.now
  have live : liveObject k (history ++ [e]) = none := by rw [liveObject_concat, same, gone]
  refine accounted_oneFewer ?_ live
  have fewer : holders k (history ++ [e]) =
      history.count (.acquired k) - history.count (.released k) := by
    simp [holders, live, acquired, released]
  rw [holders, same, Option.isSome_some, Bool.toNat_true] at count
  omega

/-- A protocol object that has ended does not end again. -/
theorem Accounted.ended (accounted : Accounted k history held) (balanced : Balanced k history) :
    Accounted k (history ++ [.ended k]) (held.bind fun (n, object) =>
      if object.isSome then oneFewer n none else some (n, object)) := by
  cases held with
  | none =>
    obtain ⟨idle, -⟩ := balanced.idle accounted
    exact accounted.other (by simp [HoldEvent.relink, idle]) nofun nofun
  | some held =>
    obtain ⟨n, object⟩ := held
    cases object with
    | none => exact accounted.other (by simp [HoldEvent.relink, accounted.2.2]) nofun nofun
    | some h => exact accounted.cut balanced (by simp [HoldEvent.relink]) nofun nofun

/-- A report is about the surface that has the protocol object. -/
theorem Accounted.reported (accounted : Accounted k history held) (balanced : Balanced k history)
    (h : Handle) : Accounted k (history ++ [.reported h]) (held.bind fun (n, object) =>
      if object = some h then oneFewer n none else some (n, object)) := by
  cases held with
  | none =>
    obtain ⟨idle, -⟩ := balanced.idle accounted
    exact accounted.other (by simp [HoldEvent.relink, idle]) nofun nofun
  | some held =>
    obtain ⟨n, object⟩ := held
    simp only [Option.bind_some]
    split
    next here =>
      -- The history knows the same protocol object as the surface.
      subst here
      exact accounted.cut balanced (by simp [HoldEvent.relink]) nofun nofun
    next other =>
      refine accounted.other ?_ nofun nofun
      rw [HoldEvent.relink, accounted.2.2, if_neg other]

theorem Accounted.event (accounted : Accounted k history held)
    (balanced : Balanced k (history ++ [e])) (fits : e.Fits k held) :
    Accounted k (history ++ [e]) (e.apply k held) := by
  cases e with
  | made x h =>
    by_cases here : x = k
    · obtain rfl := fits here
      simpa [HoldEvent.apply, here] using accounted.made balanced.before h
    · simpa [HoldEvent.apply, here] using
        accounted.other (e := .made x h) (by simp [HoldEvent.relink, here]) nofun nofun
  | acquired x =>
    by_cases here : x = k
    · obtain ⟨⟨n, object⟩, rfl⟩ := Option.isSome_iff_exists.1 (fits here)
      simpa [HoldEvent.apply, here] using accounted.acquired balanced.before
    · simpa [HoldEvent.apply, here] using
        accounted.other (e := .acquired x) rfl (by simpa) nofun
  | released x =>
    by_cases here : x = k
    · subst here
      simpa [HoldEvent.apply] using accounted.released balanced
    · simpa [HoldEvent.apply, here] using
        accounted.other (e := .released x) rfl nofun (by simpa)
  | ended x =>
    by_cases here : x = k
    · subst here
      simpa [HoldEvent.apply] using accounted.ended balanced.before
    · simpa [HoldEvent.apply, here] using
        accounted.other (e := .ended x) (by simp [HoldEvent.relink, here]) nofun nofun
  | reported h => exact accounted.reported balanced.before h
  | shared | freed => exact accounted.other rfl nofun nofun

theorem Accounted.silent (accounted : Accounted k history held)
    (silent : ∀ e ∈ events, e.IsSilent) : Accounted k (history ++ events) held := by
  have none (e : HoldEvent) (loud : ¬e.IsSilent) : events.count e = 0 :=
    List.count_eq_zero.2 fun member => loud (silent e member)
  have count : holders k (history ++ events) = holders k history := by
    simp [holders, liveObject_silent silent, none (.acquired k) id, none (.released k) id]
  cases held with
  | none => exact count.trans accounted
  | some held =>
    exact ⟨accounted.1, count.trans accounted.2.1, (liveObject_silent silent).trans accounted.2.2⟩

end Compositing
