import Compositing.Proofs.Compositor.Notices

/-!
# The policy knows what there is

The policy hears of every change, so the notices since the beginning tell it which views and outputs
there are, and which resolutions changed. `Watched` is a run with all that was heard in it, and
`Watched.known` says what can be made of that.
-/

namespace Compositing

namespace Compositor

variable {c c' : Compositor}

/-! ### Resolutions -/

/-- The outputs that have another resolution than before, with the old and the new one. -/
def resolutionChanges (c c' : Compositor) : List (OutputId × Size × Size) :=
  c.outputOrder.filterMap fun o =>
    (c.desk.resolution o).bind fun before => (c'.desk.resolution o).bind fun after =>
      if before = after then none else some (o, before, after)

theorem resolutionChanges_of_unresized (linked : c.Linked) {heard : List Heard}
    (unresized : Desk.Unresized c.desk heard c'.desk) : c.resolutionChanges c' = [] := by
  apply List.filterMap_eq_nil_iff.2
  intro o listed
  obtain ⟨p, found⟩ := (linked.mem_order o).1 listed
  have before : c.desk.resolution o = some p.resolution := by simp [Compositor.desk, found]
  have old : c.desk.isNew (.output o) = false :=
    decide_eq_false (Nat.not_le.2 (linked.output_named o p found).2)
  cases after : c'.desk.resolution o with
  | none => simp [before]
  | some size =>
    have kept := (unresized.kept o size after).resolve_right (by simp [old])
    cases before.symm.trans kept
    simp [before]

theorem setOutputResolution_heard (host : Host) (o : OutputId) (size : Size) :
    c.setOutputResolution host o size = c ∨ ∃ p, c.outputs.get? o = some p ∧ p.resolution ≠ size ∧
      (c.setOutputResolution host o size).desk =
        { c.desk with resolution := Function.update c.desk.resolution o (some size) } ∧
      ∃ events, (c.setOutputResolution host o size).log = c.log ++ events ∧
        policyEvents events = [.resolutionChanged o p.resolution size] := by
  unfold setOutputResolution
  split
  · exact .inl rfl
  next p found =>
    split
    · exact .inl rfl
    next differs =>
      have resolution (f : Output → Output) (resized : ∀ q, (f q).resolution = size) (x : OutputId) :
          ((c.outputs.modify o f).get? x).map (·.resolution) =
            Function.update c.desk.resolution o (some size) x := by
        rw [Table.get?_modify, Function.update_apply]
        split
        next here =>
          subst here
          simp [found, resized]
        next => rfl
      refine .inr ⟨p, found, differs, ?_, _, List.append_assoc .., ?_⟩
      · refine congrArg (fun resolution => { c.desk with resolution }) (funext fun x => ?_)
        apply resolution
        intro q
        rfl
      · rw [policyEvents_append]
        split <;> simp

theorem filterMap_only {α β : Type} {l : List α} {a : α} (nodup : l.Nodup) (member : a ∈ l)
    {f : α → Option β} (only : ∀ x, x ≠ a → f x = none) : l.filterMap f = (f a).toList := by
  obtain ⟨before, after, rfl⟩ := List.append_of_mem member
  have apart := List.nodup_append.1 nodup
  have first : before.filterMap f = [] := List.filterMap_eq_nil_iff.2 fun x there =>
    only x (apart.2.2 x there a List.mem_cons_self)
  have last : after.filterMap f = [] := List.filterMap_eq_nil_iff.2 fun x there =>
    only x (ne_of_mem_of_not_mem there (List.nodup_cons.1 apart.2.1).1)
  rw [List.filterMap_append, List.filterMap_cons, first, last]
  cases f a <;> rfl

theorem resolutionChanges_of_resized (linked : c.Linked) {o : OutputId} {p : Output} {size : Size}
    (found : c.outputs.get? o = some p) (differs : p.resolution ≠ size)
    (desk : c'.desk.resolution = Function.update c.desk.resolution o (some size)) :
    c.resolutionChanges c' = [(o, p.resolution, size)] := by
  have before : c.desk.resolution o = some p.resolution := by simp [Compositor.desk, found]
  have listed : o ∈ c.outputOrder := (linked.mem_order o).2 ⟨p, found⟩
  rw [resolutionChanges, filterMap_only linked.order_nodup listed]
  · simp [desk, before, differs]
  · intro x other
    rw [desk, Function.update_of_ne other]
    cases c.desk.resolution x <;> simp

/-! ### Runs -/

/-- A run with what the policy heard and answered in it, and with the outputs that were resized. -/
inductive Watched : Compositor → List Heard → List (OutputId × Size × Size) → Prop
  | start (config : Config) (contexts : Contexts) : Watched { config, contexts } [] []
  | handle {c : Compositor} {heard : List Heard} {resized : List (OutputId × Size × Size)}
      (before : Watched c heard resized) (host : Host) (request : Request) :
      Watched (c.handle host request).2
        (heard ++ host.hears ((c.handle host request).2.log.drop c.log.length))
        (resized ++ c.resolutionChanges (c.handle host request).2)
  | collect {c : Compositor} {heard : List Heard} {resized : List (OutputId × Size × Size)}
      (before : Watched c heard resized) : Watched c.collect.2 heard resized

variable {heard : List Heard} {resized : List (OutputId × Size × Size)}

theorem Watched.reachable (watched : Watched c heard resized) : c.Reachable := by
  induction watched with
  | start config contexts => exact .start config contexts
  | handle _ host request ih => exact ih.handle host request
  | collect _ ih => exact ih.collect

/-- Every reachable state has been watched. -/
theorem Reachable.watched (reached : c.Reachable) : ∃ heard resized, Watched c heard resized := by
  induction reached with
  | start config contexts => exact ⟨_, _, .start config contexts⟩
  | handle _ host request ih =>
    obtain ⟨_, _, watched⟩ := ih
    exact ⟨_, _, watched.handle host request⟩
  | collect _ ih =>
    obtain ⟨_, _, watched⟩ := ih
    exact ⟨_, _, watched.collect⟩

theorem Watched.notices (watched : Watched c heard resized) :
    Desk.Notices Desk.initial heard c.desk ∧ heard.filterMap (·.1.resized?) = resized := by
  induction watched with
  | start config contexts => exact ⟨Desk.notices_refl _, rfl⟩
  | @handle c heard resized before host request ih =>
    obtain ⟨notices, same⟩ := ih
    have reached := before.reachable
    -- Only one request changes a resolution, and it changes nothing else on the desk.
    by_cases resizes : ∃ o size, request = .setResolution o size
    · obtain ⟨o, size, rfl⟩ := resizes
      have handled : (c.handle host (.setResolution o size)).2 = c.setOutputResolution host o size := rfl
      rw [handled]
      rcases setOutputResolution_heard (c := c) host o size with
        kept | ⟨p, found, differs, desk, events, log, only⟩
      · rw [kept, resolutionChanges_of_unresized reached.linked (Desk.unresized_refl _)]
        simpa [Host.hears] using ⟨notices, same⟩
      · have heard : host.hears events = [(.resolutionChanged o p.resolution size, true)] := by
          simp [Host.hears, only, Host.answer]
        have told : Desk.Notices c.desk [(.resolutionChanged o p.resolution size, true)]
            { c.desk with resolution := Function.update c.desk.resolution o (some size) } :=
          Desk.notices_passing rfl rfl rfl rfl
        rw [resolutionChanges_of_resized reached.linked found differs (by rw [desk]), log,
          List.drop_left, heard, desk]
        exact ⟨notices.trans told, by rw [List.filterMap_append, same]; rfl⟩
    · obtain ⟨events, log, later, unresized⟩ := announced_handle reached host request
        fun o size same => resizes ⟨o, size, same⟩
      rw [log, List.drop_left, resolutionChanges_of_unresized reached.linked unresized]
      exact ⟨notices.trans later, by rw [List.filterMap_append, same, unresized.heard]⟩
  | collect _ ih => exact ih

/-- The notices tell the policy what there is, and every resolution that changed. Of an object that was
accepted and is gone it hears the end once, and of no other. -/
theorem Watched.known (watched : Watched c heard resized) :
    Roster.replay heard =
      { views := fun v => (c.views.get? v).map (·.output)
        outputs := c.outputOrder
        focused := c.focused } ∧
    heard.filterMap (·.1.resized?) = resized ∧
    ∀ x : Subject, (heard.map Prod.fst).count x.destroyed =
        (if (x.created, true) ∈ heard ∧ c.desk.has x = false then 1 else 0) ∧
      ((x.created, false) ∈ heard → x.destroyed ∉ heard.map Prod.fst) := by
  obtain ⟨notices, same⟩ := watched.notices
  refine ⟨notices.roster.symm, same, fun x => ?_⟩
  have balance := notices.balance x
  have names := notices.names x
  have absent : (Desk.initial.has x).toNat = 0 := by cases x <;> rfl
  have once : (Desk.initial.isNew x).toNat ≤ 1 := Bool.toNat_le _
  -- At the beginning nothing is there, so the balance counts creations against destructions.
  rw [absent] at balance
  rw [count_notices] at names
  constructor
  · by_cases accepted : (x.created, true) ∈ heard
    · have made := List.count_pos_iff.2 accepted
      cases there : c.desk.has x with
      | true =>
        rw [there, Bool.toNat_true] at balance
        simp only [Bool.true_eq_false, and_false, if_false]
        omega
      | false =>
        rw [there, Bool.toNat_false] at balance
        simp only [accepted, and_self, if_true]
        omega
    · rw [List.count_eq_zero.2 accepted] at balance
      simp only [accepted, false_and, if_false]
      omega
  · intro rejected
    have made := List.count_pos_iff.2 rejected
    -- It was created once, so it was not accepted.
    exact List.count_eq_zero.1 (by omega)

/-- A host that accepts one view only. -/
def choosy : Host := { Host.willing with acceptView := fun v => v = ⟨1⟩ }

/-- Of two views one is accepted, and goes with its surface after it was shown and focused. -/
def departed : Compositor :=
  ({ config := {}, contexts := .standard } : Compositor).run
    ([.createSurface ⟨1⟩ 1, .createSurface ⟨1⟩ 2, .addOutput "screen" ⟨2, 1⟩,
      .createView ⟨1⟩ ⟨⟨1⟩, 3⟩, .createView ⟨2⟩ ⟨⟨1⟩, 4⟩, .setViewOutput ⟨1⟩ (some ⟨1⟩),
      .focus (some ⟨1⟩), .setResolution ⟨1⟩ ⟨3, 2⟩, .destroySurface ⟨1⟩].map (Prod.mk choosy))

def departedNotices : List Heard :=
  [(.outputCreated ⟨1⟩, true), (.viewCreated ⟨1⟩, true), (.viewCreated ⟨2⟩, false),
    (.moved ⟨1⟩ none (some ⟨1⟩), true), (.focusChanged ⟨1⟩ true, true),
    (.resolutionChanged ⟨1⟩ ⟨2, 1⟩ ⟨3, 2⟩, true), (.viewDestroyed ⟨1⟩, true)]

theorem departed_known : Watched departed departedNotices [(⟨1⟩, ⟨2, 1⟩, ⟨3, 2⟩)] ∧
    (Roster.replay departedNotices).views ⟨1⟩ = (departed.views.get? ⟨1⟩).map (·.output) ∧
    (Roster.replay departedNotices).outputs = departed.outputOrder ∧
    (departedNotices.map Prod.fst).count (.viewDestroyed ⟨1⟩) = 1 ∧
    .viewDestroyed ⟨2⟩ ∉ departedNotices.map Prod.fst := by
  have watched : Watched departed departedNotices [(⟨1⟩, ⟨2, 1⟩, ⟨3, 2⟩)] :=
    (((((((((Watched.start {} .standard).handle choosy (.createSurface ⟨1⟩ 1)).handle choosy
      (.createSurface ⟨1⟩ 2)).handle choosy (.addOutput "screen" ⟨2, 1⟩)).handle choosy
      (.createView ⟨1⟩ ⟨⟨1⟩, 3⟩)).handle choosy (.createView ⟨2⟩ ⟨⟨1⟩, 4⟩)).handle choosy
      (.setViewOutput ⟨1⟩ (some ⟨1⟩))).handle choosy (.focus (some ⟨1⟩))).handle choosy
      (.setResolution ⟨1⟩ ⟨3, 2⟩)).handle choosy (.destroySurface ⟨1⟩)
  obtain ⟨replayed, -, counted⟩ := watched.known
  refine ⟨watched, by rw [replayed], by rw [replayed], (counted (.view ⟨1⟩)).1, ?_⟩
  exact (counted (.view ⟨2⟩)).2 (by decide)

end Compositor

end Compositing
