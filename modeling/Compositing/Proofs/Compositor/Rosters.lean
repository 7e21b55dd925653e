import Compositing.Compositor.State
import Mathlib.Data.List.Count
import Mathlib.Logic.Function.Basic

/-!
# What the policy can know

The policy is not shown the state of the compositor, it only hears notices. A roster is what it can
make of them. `Notices` relates the notices of some part of a run to what became of the views and the
outputs in it; it holds of a single notice, and of parts that follow each other.
-/

namespace Compositing

/-- What the policy answers to a notice, where there is something to answer. -/
def Host.answer (host : Host) : PolicyEvent → Bool
  | .outputCreated o => host.acceptOutput o
  | .viewCreated v => host.acceptView v
  | .geometryRequested v geometry => host.claimGeometry v geometry
  | .stateRequested v bits on => host.claimState v bits on
  | .outputDestroyed _ | .resolutionChanged _ _ _ | .viewDestroyed _ | .focusChanged _ _
  | .moved _ _ _ => true

/-- A notice to the policy, and what it answered. -/
abbrev Heard := PolicyEvent × Bool

/-! ### Rosters -/

@[ext]
structure Roster where
  /-- The views there are, each with the output that shows it, if one does. -/
  views : ViewId → Option (Option OutputId)
  /-- The outputs there are, in the order they were added. -/
  outputs : List OutputId
  focused : Option ViewId

/-- An object that the policy hears of. -/
inductive Subject where
  | view (id : ViewId)
  | output (id : OutputId)
  deriving DecidableEq, Repr

namespace Subject

def created : Subject → PolicyEvent
  | view v => .viewCreated v
  | output o => .outputCreated o

def destroyed : Subject → PolicyEvent
  | view v => .viewDestroyed v
  | output o => .outputDestroyed o

end Subject

/-- The object that a notice creates or destroys. -/
def PolicyEvent.subject? : PolicyEvent → Option Subject
  | viewCreated v | viewDestroyed v => some (.view v)
  | outputCreated o | outputDestroyed o => some (.output o)
  | resolutionChanged _ _ _ | focusChanged _ _ | moved _ _ _ | geometryRequested _ _
  | stateRequested _ _ _ => none

@[simp]
theorem Subject.subject?_created (x : Subject) : x.created.subject? = some x := by cases x <;> rfl

@[simp]
theorem Subject.subject?_destroyed (x : Subject) : x.destroyed.subject? = some x := by cases x <;> rfl

namespace Roster

def empty : Roster := { views := fun _ => none, outputs := [], focused := none }

/-- What becomes of a roster with a notice. -/
def hear (r : Roster) : Heard → Roster
  | (.outputCreated o, true) => { r with outputs := r.outputs ++ [o] }
  | (.outputDestroyed o, _) =>
    { r with
      -- The views of the output stay.
      views := fun v => (r.views v).map fun shown => if shown = some o then none else shown
      outputs := r.outputs.filter (· ≠ o) }
  | (.viewCreated v, true) => { r with views := Function.update r.views v (some none) }
  | (.viewDestroyed v, _) =>
    { r with
      views := Function.update r.views v none
      focused := if r.focused = some v then none else r.focused }
  | (.moved v _ target, _) =>
    { r with views := Function.update r.views v ((r.views v).map fun _ => target) }
  | (.focusChanged v on, _) => { r with focused := if on then some v else none }
  -- What was rejected is gone already, and the other notices are not about what there is.
  | (.outputCreated _, false) | (.viewCreated _, false) | (.resolutionChanged _ _ _, _)
  | (.geometryRequested _ _, _) | (.stateRequested _ _ _, _) => r

/-- The roster of a policy that heard some notices from the beginning on. -/
def replay (heard : List Heard) : Roster := heard.foldl hear empty

def has (r : Roster) : Subject → Bool
  | .view v => (r.views v).isSome
  | .output o => r.outputs.contains o

/-- Only the object's own notices decide whether it is there. -/
theorem has_hear (r : Roster) (event : PolicyEvent) (answer : Bool) (x : Subject) :
    (r.hear (event, answer)).has x = true ↔
      (event, answer) = (x.created, true) ∨ event ≠ x.destroyed ∧ r.has x = true := by
  cases event with
  | outputCreated o =>
    cases answer <;> cases x <;> simp [hear, has, Subject.created, Subject.destroyed]
    exact or_comm.trans (or_congr_left eq_comm)
  | outputDestroyed o =>
    cases x <;> simp [hear, has, Subject.created, Subject.destroyed]
    exact and_comm.trans (and_congr_left' (not_congr eq_comm))
  | viewCreated v =>
    cases answer <;> cases x <;>
      simp [hear, has, Subject.created, Subject.destroyed, Function.update_apply]
    grind
  | viewDestroyed v =>
    cases x <;> simp [hear, has, Subject.created, Subject.destroyed, Function.update_apply]
    grind
  | moved v before target =>
    cases x <;> simp [hear, has, Subject.created, Subject.destroyed, Function.update_apply]
    grind
  | resolutionChanged o before after | focusChanged v on | geometryRequested v geometry
  | stateRequested v bits on =>
    cases x <;> simp [hear, has, Subject.created, Subject.destroyed]

end Roster

/-- The change of a resolution that a notice tells. -/
def PolicyEvent.resized? : PolicyEvent → Option (OutputId × Size × Size)
  | resolutionChanged o before after => some (o, before, after)
  | _ => none

theorem count_notices (heard : List Heard) (event : PolicyEvent) :
    (heard.map Prod.fst).count event = heard.count (event, true) + heard.count (event, false) := by
  induction heard with
  | nil => rfl
  | cons notice heard ih =>
    obtain ⟨other, answer⟩ := notice
    rw [List.map_cons, List.count_cons, List.count_cons, List.count_cons, ih]
    by_cases same : other = event <;> cases answer <;> simp [same] <;> omega

theorem toNat_le_of_imp {a b : Bool} (imp : a = true → b = true) : a.toNat ≤ b.toNat := by
  cases a with
  | false => exact Nat.zero_le _
  | true => exact imp rfl ▸ Nat.le_refl _

/-! ### The part of the state that notices are about -/

/-- A roster with the resolutions of the outputs and the names that were not given yet. -/
structure Desk extends Roster where
  resolution : OutputId → Option Size
  nextView : ViewId
  nextOutput : OutputId

namespace Desk

/-- At the beginning there is nothing. -/
def initial : Desk :=
  { Roster.empty with resolution := fun _ => none, nextView := ⟨1⟩, nextOutput := ⟨1⟩ }

/-- No object had the name yet. -/
def isNew (d : Desk) : Subject → Bool
  | .view v => d.nextView.number ≤ v.number
  | .output o => d.nextOutput.number ≤ o.number

theorem isNew_nextView {d d' : Desk} (nextView : d'.nextView = d.nextView.next)
    (nextOutput : d'.nextOutput = d.nextOutput) (x : Subject) :
    d'.isNew x = true ↔ d.isNew x = true ∧ x ≠ .view d.nextView := by
  cases x with
  | view v =>
    have named : v = d.nextView ↔ v.number = d.nextView.number := by
      cases v
      cases d.nextView
      simp
    simp only [isNew, nextView, ViewId.next, decide_eq_true_eq, ne_eq, Subject.view.injEq, named]
    omega
  | output o => simp [isNew, nextOutput]

theorem isNew_nextOutput {d d' : Desk} (nextView : d'.nextView = d.nextView)
    (nextOutput : d'.nextOutput = d.nextOutput.next) (x : Subject) :
    d'.isNew x = true ↔ d.isNew x = true ∧ x ≠ .output d.nextOutput := by
  cases x with
  | view v => simp [isNew, nextView]
  | output o =>
    have named : o = d.nextOutput ↔ o.number = d.nextOutput.number := by
      cases o
      cases d.nextOutput
      simp
    simp only [isNew, nextOutput, OutputId.next, decide_eq_true_eq, ne_eq, Subject.output.injEq, named]
    omega

theorem isNew_of_same {d d' : Desk} (nextView : d'.nextView = d.nextView)
    (nextOutput : d'.nextOutput = d.nextOutput) (x : Subject) : d'.isNew x = d.isNew x := by
  cases x <;> simp [isNew, nextView, nextOutput]

/-- What is heard tells what became of the roster, and every object is created under a new name and
destroyed if it was there. -/
structure Notices (d : Desk) (heard : List Heard) (d' : Desk) : Prop where
  roster : d'.toRoster = heard.foldl Roster.hear d.toRoster
  balance : ∀ x : Subject, (heard.map Prod.fst).count x.destroyed + (d'.has x).toNat =
    (d.has x).toNat + heard.count (x.created, true)
  names : ∀ x : Subject, (heard.map Prod.fst).count x.created + (d'.isNew x).toNat ≤
    (d.isNew x).toNat

/-- Outputs keep their resolution, and nothing else is heard. -/
structure Unresized (d : Desk) (heard : List Heard) (d' : Desk) : Prop where
  heard : heard.filterMap (·.1.resized?) = []
  kept : ∀ o size, d'.resolution o = some size →
    d.resolution o = some size ∨ d.isNew (.output o) = true

variable {d d' d'' : Desk} {heard heard' : List Heard}

theorem Notices.isNew (notices : Notices d heard d') (x : Subject) (new : d'.isNew x = true) :
    d.isNew x = true := by
  have bound := notices.names x
  cases old : d.isNew x with
  | true => rfl
  | false => simp [new, old] at bound

theorem Notices.trans (first : Notices d heard d') (second : Notices d' heard' d'') :
    Notices d (heard ++ heard') d'' where
  roster := by rw [second.roster, first.roster, List.foldl_append]
  balance x := by
    have before := first.balance x
    have after := second.balance x
    rw [List.map_append, List.count_append, List.count_append]
    omega
  names x := by
    have before := first.names x
    have after := second.names x
    rw [List.map_append, List.count_append]
    omega

theorem Unresized.trans (first : Unresized d heard d') (second : Unresized d' heard' d'')
    (notices : Notices d heard d') : Unresized d (heard ++ heard') d'' where
  heard := by rw [List.filterMap_append, first.heard, second.heard, List.nil_append]
  kept o size now := by
    rcases second.kept o size now with before | new
    · exact first.kept o size before
    · -- A name that is new in between was new at the start.
      exact .inr (notices.isNew _ new)

/-- Nothing is heard, as there is nothing to hear. -/
theorem notices_nil (roster : d'.toRoster = d.toRoster)
    (names : ∀ x, d'.isNew x = true → d.isNew x = true) : Notices d [] d' where
  roster := roster
  balance x := by simp [roster]
  names x := by simpa using toNat_le_of_imp (names x)

theorem notices_refl (d : Desk) : Notices d [] d := notices_nil rfl fun _ new => new

theorem unresized_refl (d : Desk) : Unresized d [] d := ⟨rfl, fun _ _ => .inl⟩

/-- A single notice. -/
theorem notices_hear {event : PolicyEvent} {answer : Bool}
    (roster : d'.toRoster = d.hear (event, answer))
    (created : ∀ x : Subject, event = x.created →
      d.isNew x = true ∧ d'.isNew x = false ∧ d.has x = false)
    (destroyed : ∀ x : Subject, event = x.destroyed → d.has x = true)
    (names : ∀ x, d'.isNew x = true → d.isNew x = true) : Notices d [(event, answer)] d' where
  roster := roster
  balance x := by
    have after := d.toRoster.has_hear event answer x
    rw [← roster] at after
    -- The notice creates the object, or destroys it, or is about something else.
    by_cases made : event = x.created
    · obtain ⟨-, -, absent⟩ := created x made
      have other : x.created ≠ x.destroyed := by cases x <;> nofun
      subst made
      cases answer with
      | true =>
        have there : d'.has x = true := after.2 (.inl rfl)
        simp [there, absent, other]
      | false =>
        have gone : d'.has x = false := by simpa [absent] using after
        simp [gone, absent, other]
    · by_cases gone : event = x.destroyed
      · have absent : d'.has x = false := by simpa [gone, gone ▸ made] using after
        subst gone
        simp [absent, destroyed x rfl, made]
      · have same : d'.has x = d.has x := Bool.eq_iff_iff.2 (by simpa [made, gone] using after)
        simp [same, made, gone]
  names x := by
    have later := toNat_le_of_imp (names x)
    -- The name of what is created is new before, and not after.
    by_cases here : event = x.created
    · obtain ⟨new, used, -⟩ := created x here
      simp [here, new, used]
    · simpa [List.count_singleton, here] using later

/-- A single notice that neither creates nor destroys. -/
theorem notices_passing {event : PolicyEvent} {answer : Bool}
    (roster : d'.toRoster = d.hear (event, answer)) (passing : event.subject? = none)
    (nextView : d'.nextView = d.nextView) (nextOutput : d'.nextOutput = d.nextOutput) :
    Notices d [(event, answer)] d' :=
  notices_hear roster (fun x same => by simp [same] at passing) (fun x same => by simp [same] at passing)
    fun x new => isNew_of_same nextView nextOutput x ▸ new

end Desk

end Compositing
