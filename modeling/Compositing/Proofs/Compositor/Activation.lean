import Compositing.Proofs.Compositor.Standings

/-!
# The mark of the focused view

The activated bit is to be on the focused view and on no other. The focus moves it, and views begin and
end without it, but a request about the state of a view can set or clear any bit of any view.
`Misleads` says when such a request is about the mark of the wrong view, and `ReachableBy.marked` that
the mark is right wherever other requests lead, and that each such request would make it wrong.
-/

namespace Compositing

/-! ### One bit -/

/-- Among the bits of a word is the one that marks the focused view. -/
def marks (word : UInt32) : Bool := word &&& activatedBit != 0

theorem marks_eq (word : UInt32) : marks word = word.toBitVec.getLsbD 4 := by
  have bit : word &&& activatedBit = if word.toBitVec.getLsbD 4 then activatedBit else 0 := by
    have mask : activatedBit.toBitVec = BitVec.twoPow 32 4 := rfl
    apply UInt32.toBitVec_inj.1
    rw [UInt32.toBitVec_and, mask, BitVec.and_twoPow]
    split <;> simp [mask]
  rw [marks, bit]
  cases word.toBitVec.getLsbD 4 <;> rfl

theorem marks_switchBits (word bits : UInt32) (on : Bool) :
    marks (switchBits word bits on) = if marks bits then on else marks word := by
  simp only [marks_eq, switchBits]
  -- Switching is an "or", or an "and" with the complement, and both go bit by bit.
  cases on <;> cases bit : bits.toBitVec.getLsbD 4 <;> simp_all

/-- The view has the bit of the focused view. -/
def View.isActivated (v : View) : Bool := marks v.state

theorem View.isActivated_switchState (v : View) (bits : UInt32) (on : Bool) :
    (v.switchState bits on).2.isActivated = if marks bits then on else v.isActivated :=
  marks_switchBits v.state bits on

/-- The view and the bits of its state that a request sets or clears. -/
def Request.switch? (request : Request) (host : Host) : Option (ViewId × UInt32 × Bool) :=
  match request with
  | setViewState v bits on => some (v, bits, on)
  -- What the policy claims for itself is not done.
  | requestState v bits on => if host.claimState v bits on then none else some (v, bits, on)
  | _ => none

namespace Compositor

variable {c c' : Compositor}

/-- The views with the bit are those with the focus. -/
def Marked (c : Compositor) : Prop :=
  ∀ v w, c.views.get? v = some w → (w.isActivated = true ↔ c.focused = some v)

/-- The request would set the bit of a view without the focus, or clear that of the focused one. -/
def Misleads (c : Compositor) (host : Host) (request : Request) : Prop :=
  ∃ v bits on, request.switch? host = some (v, bits, on) ∧ c.views.contains v = true ∧
    marks bits = true ∧ (on = true ↔ c.focused ≠ some v)

theorem SameStandings.keeps_marks (same : SameStandings c c') (marked : c.Marked) : c'.Marked := by
  intro v w' found
  rcases same.views v w' found with ⟨w, there, standing, focus⟩ | ⟨-, bare, unfocused⟩
  · have state : w'.state = w.state := congrArg Prod.fst standing
    rw [View.isActivated, state, focus]
    exact marked v w there
  · have state : w'.state = 0 := congrArg Prod.fst bare
    rw [View.isActivated, state]
    exact ⟨fun on => absurd on (by decide), fun now => absurd now unfocused⟩

theorem Marked.focusView (marked : c.Marked) (target : Option ViewId) :
    (c.focusView target).Marked := by
  obtain ⟨focused, -, views⟩ := c.focusView_fields target
  intro v w' found
  rw [views] at found
  obtain ⟨w, there, rfl⟩ := Option.map_eq_some_iff.1 found
  rw [focused]
  have before := marked v w there
  split
  next unmoved => exact before.trans unmoved
  next moved =>
    rw [View.isActivated_switchState, if_pos (by decide), decide_eq_true_iff]

/-- Switching bits of one view keeps the marks right exactly if it does not mislead about that view. -/
theorem Marked.setViewState_iff (marked : c.Marked) (v : ViewId) (bits : UInt32) (on : Bool) :
    (c.setViewState v bits on).Marked ↔
      ¬(c.views.contains v = true ∧ marks bits = true ∧ (on = true ↔ c.focused ≠ some v)) := by
  obtain ⟨views, focused, -⟩ := c.setViewState_fields v bits on
  constructor
  -- If it misleads, that view itself shows it.
  · rintro marked' ⟨there, touched, wrong⟩
    obtain ⟨w, found⟩ := (c.views.contains_iff v).1 there
    have found' : (c.setViewState v bits on).views.get? v = some (w.switchState bits on).2 := by
      rw [views, Table.get?_modify, if_pos rfl, found, Option.map_some]
    have right := marked' v _ found'
    rw [View.isActivated_switchState, if_pos touched, focused] at right
    exact absurd (right.symm.trans wrong) (by tauto)
  -- If it does not, the bit of that view is as it was or follows the focus; other views are untouched.
  · intro fair x w' found
    rw [views, Table.get?_modify] at found
    rw [focused]
    split at found
    next here =>
      subst here
      obtain ⟨w, there, rfl⟩ := Option.map_eq_some_iff.1 found
      rw [View.isActivated_switchState]
      split
      next touched =>
        have known := (c.views.contains_iff x).2 ⟨w, there⟩
        by_contra wrong
        exact fair ⟨known, touched, by tauto⟩
      next => exact marked x w there
    next => exact marked x w' found

/-- The parents of views are no marks. -/
theorem Marked.setViewParent (marked : c.Marked) (v : ViewId) (parent : Option ViewId) :
    (c.setViewParent v parent).2.Marked := by
  have renamed : (c.modifyView v fun w => { w with parent }).Marked := by
    intro x w' found
    obtain ⟨w, there, state⟩ := found_of_rel (Table.rel_modify c.views v x
      (f := fun w => { w with parent }) (R := fun w w' => w'.state = w.state) (fun _ => rfl)
      fun _ _ => rfl) found
    rw [View.isActivated, state]
    exact marked x w there
  unfold Compositor.setViewParent
  split
  · exact marked
  · split
    · exact renamed
    · exact marked

theorem misleads_iff {host : Host} {request : Request} {v : ViewId} {bits : UInt32} {on : Bool}
    (switches : request.switch? host = some (v, bits, on)) : c.Misleads host request ↔
      c.views.contains v = true ∧ marks bits = true ∧ (on = true ↔ c.focused ≠ some v) := by
  constructor
  · rintro ⟨_, _, _, same, wrong⟩
    cases switches.symm.trans same
    exact wrong
  · intro wrong
    exact ⟨v, bits, on, switches, wrong⟩

theorem not_misleads {host : Host} {request : Request} (switches : request.switch? host = none) :
    ¬c.Misleads host request := by
  simp [Misleads, switches]

theorem Marked.requestState_iff (marked : c.Marked) (host : Host) (v : ViewId) (bits : UInt32)
    (on : Bool) :
    (c.requestState host v bits on).Marked ↔ ¬c.Misleads host (.requestState v bits on) := by
  unfold Compositor.requestState
  cases claimed : host.claimState v bits on with
  | true =>
    have switches : (Request.requestState v bits on).switch? host = none := if_pos claimed
    refine iff_of_true ?_ (not_misleads switches)
    split <;> exact marked
  | false =>
    have switches : (Request.requestState v bits on).switch? host = some (v, bits, on) := by
      simp [Request.switch?, claimed]
    rw [misleads_iff switches]
    split
    -- The policy hears of the request, and then it is done.
    · exact Marked.setViewState_iff (c := c.tellPolicy (.stateRequested v bits on)) marked v bits on
    next absent => exact iff_of_true marked fun wrong => absent wrong.1

theorem Marked.handle_iff (marked : c.Marked) (reached : c.Reachable) (host : Host)
    (request : Request) : (c.handle host request).2.Marked ↔ ¬c.Misleads host request := by
  -- All but four kinds of requests leave states and the focus alone.
  cases standing : request.aboutStanding with
  | false =>
    have switches : request.switch? host = none := by cases request <;> first | rfl | cases standing
    exact iff_of_true ((sameStandings_handle reached host standing).keeps_marks marked)
      (not_misleads switches)
  | true =>
    cases request with
    | focus target => exact iff_of_true (marked.focusView target) (not_misleads rfl)
    | setViewState v bits on =>
      rw [misleads_iff rfl]
      exact marked.setViewState_iff v bits on
    | requestState v bits on => exact marked.requestState_iff host v bits on
    | setViewParent v parent => exact iff_of_true (marked.setViewParent v parent) (not_misleads rfl)
    | _ => cases standing

/-! ### Runs -/

/-- As long as no request sets or clears the mark of a view against the focus, the views with the mark
are those with the focus, and the first such request makes that wrong. -/
theorem ReachableBy.marked (reached : c.ReachableBy fun c host request => ¬c.Misleads host request) :
    c.Marked ∧ ∀ host request, (c.handle host request).2.Marked ↔ ¬c.Misleads host request :=
  reached.holds_iff (fun _ _ _ _ found => by cases found)
    (fun _ before marked => marked.handle_iff before) fun _ marked => marked

/-- Two views are focused in turn; the client maximizes one of them. -/
def turned : Compositor :=
  ({ config := {}, contexts := .standard } : Compositor).run
    ([.createSurface ⟨1⟩ 1, .createSurface ⟨1⟩ 2, .createView ⟨1⟩ ⟨⟨1⟩, 3⟩, .createView ⟨2⟩ ⟨⟨1⟩, 4⟩,
      .focus (some ⟨1⟩), .requestState ⟨1⟩ 1 true, .focus (some ⟨2⟩)].map (Prod.mk .willing))

theorem turned_marked : turned.ReachableBy (fun c host request => ¬c.Misleads host request) ∧
    turned.Marked ∧ turned.focused = some ⟨2⟩ ∧
    (turned.views.get? ⟨2⟩).map (·.isActivated) = some true ∧
    (turned.views.get? ⟨1⟩).map (fun w => (w.isActivated, w.state)) = some (false, 1) ∧
    ¬(turned.handle .willing (.requestState ⟨2⟩ 16 false)).2.Marked := by
  have start : ReachableBy (fun c host request => ¬c.Misleads host request)
      { config := {}, contexts := .standard } := .start _ _
  have reached : turned.ReachableBy fun c host request => ¬c.Misleads host request :=
    ((((((start.handle .willing (.createSurface ⟨1⟩ 1) (not_misleads rfl)).handle .willing
      (.createSurface ⟨1⟩ 2) (not_misleads rfl)).handle .willing
      (.createView ⟨1⟩ ⟨⟨1⟩, 3⟩) (not_misleads rfl)).handle .willing
      (.createView ⟨2⟩ ⟨⟨1⟩, 4⟩) (not_misleads rfl)).handle .willing
      (.focus (some ⟨1⟩)) (not_misleads rfl)).handle .willing
      (.requestState ⟨1⟩ 1 true) (by rw [misleads_iff rfl]; decide)).handle .willing
      (.focus (some ⟨2⟩)) (not_misleads rfl)
  obtain ⟨marked, next⟩ := reached.marked
  have focused : turned.focused = some ⟨2⟩ := rfl
  refine ⟨reached, marked, focused, rfl, rfl, ?_⟩
  rw [next, not_not, misleads_iff rfl, focused]
  decide

/-- A client activates its own view, which the focus never was on. -/
def pretended : Compositor :=
  ({ config := {}, contexts := .standard } : Compositor).run
    ([.createSurface ⟨1⟩ 1, .createView ⟨1⟩ ⟨⟨1⟩, 2⟩, .requestState ⟨1⟩ 16 true].map
      (Prod.mk .willing))

theorem pretended_marked : pretended.Reachable ∧
    (pretended.views.get? ⟨1⟩).map (·.isActivated) = some true ∧ pretended.focused = none ∧
    ¬pretended.Marked := by
  have shown : ∃ w, pretended.views.get? ⟨1⟩ = some w ∧ w.isActivated = true := ⟨_, rfl, rfl⟩
  obtain ⟨w, found, activated⟩ := shown
  refine ⟨(Reachable.start _ _).run _, rfl, rfl, fun marked => ?_⟩
  cases (marked ⟨1⟩ w found).1 activated

end Compositor

end Compositing
