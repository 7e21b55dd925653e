import Compositing.Proofs.Compositor.Standings
import Mathlib.Data.Finset.Card
import Mathlib.Logic.Relation

/-!
# Parents of views

A view may name another one as its parent. From a view to its parent, to the parent's parent and so on,
the way should end. A request for a parent is checked for the view itself only, so two such requests
can make two views each other's parent. `ClosesLoop` says when a request gives a view one of its own
descendants as parent, and `ReachableBy.forest` that without such requests the parents of views are a
forest, and that each of them ends that.
-/

namespace Compositing

open Relation

namespace Compositor

variable {c c' : Compositor}

/-! ### Parents and ancestors -/

def ChildOf (c : Compositor) (v p : ViewId) : Prop := c.parentOf? v = some p

/-- Nobody is an own ancestor. -/
def Forest (c : Compositor) : Prop := ∀ v, ¬TransGen c.ChildOf v v

/-- The view some steps up from a view. -/
def ancestor? (c : Compositor) : Nat → ViewId → Option ViewId
  | 0, v => some v
  | n + 1, v => (c.parentOf? v).bind (c.ancestor? n)

/-- The request gives a view one of its descendants as parent. -/
def ClosesLoop (c : Compositor) (request : Request) : Prop :=
  ∃ v p, request = .setViewParent v (some p) ∧ TransGen c.ChildOf p v

/-! ### Names of parents -/

/-- The view names another one as its parent, which may be gone. -/
def NamesParent (c : Compositor) (v p : ViewId) : Prop :=
  ∃ w, c.views.get? v = some w ∧ w.parent = some p

theorem childOf_iff {v p : ViewId} :
    c.ChildOf v p ↔ c.NamesParent v p ∧ c.views.contains p = true := by
  rw [ChildOf, parentOf?, Option.filter_eq_some_iff, Option.bind_eq_some_iff]
  rfl

theorem NamesParent.contains {v p : ViewId} (named : c.NamesParent v p) : c.views.contains v = true := by
  obtain ⟨w, found, -⟩ := named
  exact (c.views.contains_iff v).2 ⟨w, found⟩

/-- On the way up every view but the last has a parent, so only the last can be gone. -/
theorem transGen_childOf_iff {v p : ViewId} :
    TransGen c.ChildOf v p ↔ TransGen c.NamesParent v p ∧ c.views.contains p = true := by
  constructor
  · intro up
    refine ⟨TransGen.mono (fun _ _ child => (childOf_iff.1 child).1) _ _ up, ?_⟩
    cases up with
    | single child => exact (childOf_iff.1 child).2
    | tail _ child => exact (childOf_iff.1 child).2
  · rintro ⟨up, known⟩
    induction up with
    | single named => exact .single (childOf_iff.2 ⟨named, known⟩)
    | tail _ named ih => exact (ih named.contains).tail (childOf_iff.2 ⟨named, known⟩)

theorem forest_iff : c.Forest ↔ ∀ v, ¬TransGen c.NamesParent v v := by
  have known {v : ViewId} (up : TransGen c.NamesParent v v) : c.views.contains v = true := by
    obtain ⟨_, named, -⟩ := TransGen.head'_iff.1 up
    exact named.contains
  constructor
  · intro forest v up
    exact forest v (transGen_childOf_iff.2 ⟨up, known up⟩)
  · intro forest v up
    exact forest v (transGen_childOf_iff.1 up).1

/-- Where parents are only lost, a forest stays one. -/
theorem Forest.mono (forest : c.Forest) (fewer : ∀ v p, c'.NamesParent v p → c.NamesParent v p) :
    c'.Forest :=
  forest_iff.2 fun v up => forest_iff.1 forest v (TransGen.mono fewer _ _ up)

/-! ### The way up ends -/

theorem ancestor?_add (m n : Nat) (v : ViewId) :
    c.ancestor? (m + n) v = (c.ancestor? m v).bind (c.ancestor? n) := by
  induction m generalizing v with
  | zero => rw [Nat.zero_add]; rfl
  | succ m ih =>
    rw [Nat.add_right_comm, ancestor?, ancestor?, Option.bind_assoc]
    exact congrArg _ (funext ih)

theorem transGen_of_ancestor? {n : Nat} {v a : ViewId} (up : c.ancestor? (n + 1) v = some a) :
    TransGen c.ChildOf v a := by
  induction n generalizing v with
  | zero =>
    obtain ⟨p, child, same⟩ := Option.bind_eq_some_iff.1 up
    cases same
    exact .single child
  | succ n ih =>
    obtain ⟨p, child, up⟩ := Option.bind_eq_some_iff.1 up
    exact (ih up).head child

/-- In a forest the views on the way up are different ones. -/
theorem Forest.ancestor?_ne (forest : c.Forest) {m n : Nat} {v a : ViewId} (less : m < n)
    (up : c.ancestor? m v = some a) : c.ancestor? n v ≠ some a := by
  obtain ⟨k, rfl⟩ := Nat.exists_eq_add_of_lt less
  intro again
  rw [Nat.add_assoc, ancestor?_add, up] at again
  exact forest a (transGen_of_ancestor? again)

/-- The way goes on as long as every view on it has a parent. -/
theorem exists_ancestor {v : ViewId} {m : Nat}
    (parents : ∀ n ≤ m, ∀ a, c.ancestor? n v = some a → c.parentOf? a ≠ none) {n : Nat}
    (le : n ≤ m) : ∃ a, c.ancestor? n v = some a ∧ a ∈ c.views.keys := by
  have found : ∃ a, c.ancestor? n v = some a := by
    induction n with
    | zero => exact ⟨v, rfl⟩
    | succ n ih =>
      obtain ⟨a, up⟩ := ih (Nat.le_of_succ_le le)
      obtain ⟨p, child⟩ := Option.ne_none_iff_exists'.1 (parents n (Nat.le_of_succ_le le) a up)
      exact ⟨p, by rw [ancestor?_add, up]; simp [ancestor?, child]⟩
  obtain ⟨a, up⟩ := found
  obtain ⟨p, child⟩ := Option.ne_none_iff_exists'.1 (parents n le a up)
  exact ⟨a, up, (c.views.mem_keys_iff a).2 (childOf_iff.1 child).1.contains⟩

/-- From every view the way up ends, at most as many steps away as there are views. -/
theorem Forest.root (forest : c.Forest) (v : ViewId) :
    ∃ n ≤ c.views.size, ∃ root, c.ancestor? n v = some root ∧ c.parentOf? root = none := by
  by_contra endless
  push Not at endless
  -- Otherwise there are more views on the way up than there are views.
  choose! a up member using fun n => exists_ancestor endless (n := n)
  have few : c.views.keys.toFinset.card < (Finset.range (c.views.size + 1)).card := by
    rw [Finset.card_range]
    refine Nat.lt_succ_of_le ((List.toFinset_card_le _).trans ?_)
    rw [Table.keys, List.length_map, Table.size]
  obtain ⟨m, inside, n, inside', differ, same⟩ := Finset.exists_ne_map_eq_of_card_lt_of_maps_to few
    (f := a) fun n inside => by
      simpa using member n (Nat.lt_succ_iff.1 (Finset.mem_range.1 inside))
  -- So some view stands there twice.
  rw [Finset.mem_range, Nat.lt_succ_iff] at inside inside'
  rcases Nat.lt_or_gt_of_ne differ with less | less
  · exact forest.ancestor?_ne less (up m inside) (same ▸ up n inside')
  · exact forest.ancestor?_ne less (up n inside') (same ▸ up m inside)

/-! ### Requests -/

theorem SameStandings.namesParent (same : SameStandings c c') {v p : ViewId}
    (named : c'.NamesParent v p) : c.NamesParent v p := by
  obtain ⟨w', found, parent⟩ := named
  rcases same.views v w' found with ⟨w, there, standing, -⟩ | ⟨-, bare, -⟩
  · exact ⟨w, there, (congrArg Prod.snd standing).symm.trans parent⟩
  · cases (congrArg Prod.snd bare).symm.trans parent

theorem namesParent_setViewState {v : ViewId} {bits : UInt32} {on : Bool} {a p : ViewId}
    (named : (c.setViewState v bits on).NamesParent a p) : c.NamesParent a p := by
  obtain ⟨w', found, parent⟩ := named
  rw [(c.setViewState_fields v bits on).1] at found
  obtain ⟨w, there, same⟩ := found_of_rel (R := fun w w' => w'.parent = w.parent)
    (Table.rel_modify c.views v a (fun _ => rfl) fun _ _ => rfl) found
  exact ⟨w, there, same.symm.trans parent⟩

theorem namesParent_focusView {target : Option ViewId} {a p : ViewId}
    (named : (c.focusView target).NamesParent a p) : c.NamesParent a p := by
  obtain ⟨w', found, parent⟩ := named
  rw [(c.focusView_fields target).2.2] at found
  obtain ⟨w, there, rfl⟩ := Option.map_eq_some_iff.1 found
  refine ⟨w, there, ?_⟩
  split at parent <;> exact parent

theorem namesParent_requestState {host : Host} {v : ViewId} {bits : UInt32} {on : Bool}
    {a p : ViewId} (named : (c.requestState host v bits on).NamesParent a p) : c.NamesParent a p := by
  unfold requestState at named
  split at named
  · simp only at named
    split at named
    · exact named
    · exact namesParent_setViewState (c := c.tellPolicy (.stateRequested v bits on)) named
  · exact named

/-- The compositor where a view has another parent, or none. -/
def withParent (c : Compositor) (v : ViewId) (parent : Option ViewId) : Compositor :=
  c.modifyView v fun w => { w with parent }

theorem namesParent_withParent {v : ViewId} (known : c.views.contains v = true)
    (parent : Option ViewId) (a b : ViewId) : (c.withParent v parent).NamesParent a b ↔
      if a = v then parent = some b else c.NamesParent a b := by
  obtain ⟨w, found⟩ := (c.views.contains_iff v).1 known
  simp only [NamesParent, withParent, modifyView_fields, Table.get?_modify]
  split
  next here => simp [here, found]
  next => rfl

theorem setViewParent_eq (v : ViewId) (parent : Option ViewId) : (c.setViewParent v parent).2 =
    if c.views.contains v = true ∧ (∀ p, parent = some p → p ≠ v ∧ c.views.contains p = true)
    then c.withParent v parent else c := by
  unfold setViewParent
  cases parent with
  | none => cases c.views.contains v <;> simp [withParent]
  | some p =>
    by_cases same : p = v <;> cases known : c.views.contains v <;>
      cases there : c.views.contains p <;> simp [withParent, same, known, there]

/-- With one edge more, what is on a way was so before, or the way leads over the new edge. -/
theorem transGen_or_over {r s : ViewId → ViewId → Prop} {v p a b : ViewId} (up : TransGen s a b)
    (edges : ∀ x y, s x y → r x y ∨ (x = v ∧ y = p)) :
    TransGen r a b ∨ (ReflTransGen r a v ∧ ReflTransGen r p b) := by
  -- By induction along the way; each step is an old edge, or the new one, which starts over at its head.
  induction up with
  | single edge =>
    rcases edges _ _ edge with old | ⟨rfl, rfl⟩
    · exact .inl (.single old)
    · exact .inr ⟨.refl, .refl⟩
  | tail _ edge ih =>
    rcases ih, edges _ _ edge with ⟨before | ⟨before, after⟩, old | ⟨rfl, rfl⟩⟩
    · exact .inl (before.tail old)
    · exact .inr ⟨before.to_reflTransGen, .refl⟩
    · exact .inr ⟨before, after.tail old⟩
    · exact .inr ⟨before, .refl⟩

/-- A descendant as parent closes a loop: in a forest the way up from the descendant comes by the view
only at its end, so the new parent changes nothing on it. -/
theorem Forest.withParent_loops (forest : c.Forest) {v p : ViewId}
    (known : c.views.contains v = true) (descends : TransGen c.ChildOf p v) :
    ¬(c.withParent v (some p)).Forest := by
  intro forest'
  have names := namesParent_withParent known (some p)
  have edge : (c.withParent v (some p)).NamesParent v p := (names v p).2 (by rw [if_pos rfl])
  have kept {a b : ViewId} (named : c.NamesParent a b) (ahead : ReflTransGen c.NamesParent b v) :
      (c.withParent v (some p)).NamesParent a b := by
    have other : a ≠ v := by
      rintro rfl
      exact forest_iff.1 forest a (.head' named ahead)
    rw [names, if_neg other]
    exact named
  have climbs {a : ViewId} (up : TransGen c.NamesParent a v) :
      TransGen (c.withParent v (some p)).NamesParent a v := by
    induction up using TransGen.head_induction_on with
    | single named => exact .single (kept named .refl)
    | head named rest ih => exact .head (kept named rest.to_reflTransGen) ih
  exact forest_iff.1 forest' v (.head edge (climbs (transGen_childOf_iff.1 descends).1))

/-- A loop would lead over the new edge, and so from the parent to the view before there was one. -/
theorem Forest.withParent (forest : c.Forest) {v p : ViewId} (apart : p ≠ v)
    (known : c.views.contains v = true) (unrelated : ¬TransGen c.ChildOf p v) :
    (c.withParent v (some p)).Forest := by
  refine forest_iff.2 fun x up => ?_
  have edges (a b : ViewId) (named : (c.withParent v (some p)).NamesParent a b) :
      c.NamesParent a b ∨ (a = v ∧ b = p) := by
    rw [namesParent_withParent known] at named
    split at named
    next here => exact .inr ⟨here, (Option.some.inj named).symm⟩
    next => exact .inl named
  rcases transGen_or_over up edges with loop | ⟨before, after⟩
  · exact forest_iff.1 forest x loop
  · rcases reflTransGen_iff_eq_or_transGen.1 (after.trans before) with same | descends
    · exact apart same.symm
    · exact unrelated (transGen_childOf_iff.2 ⟨descends, known⟩)

theorem Forest.setViewParent_iff (forest : c.Forest) (v p : ViewId) :
    (c.setViewParent v (some p)).2.Forest ↔ ¬TransGen c.ChildOf p v := by
  rw [setViewParent_eq]
  split
  next accepted =>
    exact ⟨fun forest' descends => forest.withParent_loops accepted.1 descends forest',
      forest.withParent (accepted.2 p rfl).1 accepted.1⟩
  next refused =>
    -- A descendant is another view that exists, so its request is not refused.
    refine iff_of_true forest fun descends => refused ⟨(transGen_childOf_iff.1 descends).2, ?_⟩
    rintro _ ⟨⟩
    refine ⟨fun same => forest v (same ▸ descends), ?_⟩
    obtain ⟨_, child, -⟩ := TransGen.head'_iff.1 descends
    exact (childOf_iff.1 child).1.contains

/-- A view without a parent is no part of a loop. -/
theorem Forest.setViewParent_none (forest : c.Forest) (v : ViewId) :
    (c.setViewParent v none).2.Forest := by
  rw [setViewParent_eq]
  split
  next accepted =>
    refine forest.mono fun a b named => ?_
    rw [namesParent_withParent accepted.1] at named
    split at named
    · cases named
    · exact named
  next => exact forest

theorem closesLoop_setViewParent {v : ViewId} {parent : Option ViewId} :
    c.ClosesLoop (.setViewParent v parent) ↔ ∃ p, parent = some p ∧ TransGen c.ChildOf p v := by
  constructor
  · rintro ⟨_, p, ⟨⟩, descends⟩
    exact ⟨p, rfl, descends⟩
  · rintro ⟨p, rfl, descends⟩
    exact ⟨v, p, rfl, descends⟩

/-- A view without a parent is nobody's descendant. -/
theorem not_closesLoop_of_root {v p : ViewId} (root : c.parentOf? p = none) :
    ¬c.ClosesLoop (.setViewParent v (some p)) := by
  rintro ⟨_, _, ⟨⟩, descends⟩
  obtain ⟨_, child, -⟩ := TransGen.head'_iff.1 descends
  cases root.symm.trans child

theorem not_closesLoop_of_other {request : Request}
    (differs : ∀ v p, request ≠ .setViewParent v (some p)) : ¬c.ClosesLoop request := by
  rintro ⟨v, p, same, -⟩
  exact differs v p same

theorem Forest.handle_iff (forest : c.Forest) (reached : c.Reachable) (host : Host)
    (request : Request) : (c.handle host request).2.Forest ↔ ¬c.ClosesLoop request := by
  cases standing : request.aboutStanding with
  | false =>
    have fewer := fun v p => (sameStandings_handle reached host standing).namesParent (v := v) (p := p)
    refine iff_of_true (forest.mono fewer) (not_closesLoop_of_other ?_)
    rintro v p rfl
    cases standing
  | true =>
    cases request with
    | focus target =>
      exact iff_of_true (forest.mono fun _ _ => namesParent_focusView)
        (not_closesLoop_of_other nofun)
    | setViewState v bits on =>
      exact iff_of_true (forest.mono fun _ _ => namesParent_setViewState)
        (not_closesLoop_of_other nofun)
    | requestState v bits on =>
      exact iff_of_true (forest.mono fun _ _ => namesParent_requestState)
        (not_closesLoop_of_other nofun)
    | setViewParent v parent =>
      rw [closesLoop_setViewParent]
      cases parent with
      | none => exact iff_of_true (forest.setViewParent_none v) (by simp)
      | some p =>
        simp only [Option.some.injEq, exists_eq_left']
        exact forest.setViewParent_iff v p
    | _ => cases standing

/-! ### Runs -/

theorem forest_start (config : Config) (contexts : Contexts) :
    ({ config, contexts } : Compositor).Forest := by
  intro v up
  obtain ⟨p, child, -⟩ := TransGen.head'_iff.1 up
  cases child

/-- As long as no view gets one of its own descendants as parent, the parents of views are a forest, so
the way up from any view ends, and the first such request makes a loop. -/
theorem ReachableBy.forest (reached : c.ReachableBy fun c _ request => ¬c.ClosesLoop request) :
    c.Forest ∧
    (∀ v, ∃ n ≤ c.views.size, ∃ root, c.ancestor? n v = some root ∧ c.parentOf? root = none) ∧
    ∀ host request, (c.handle host request).2.Forest ↔ ¬c.ClosesLoop request := by
  obtain ⟨forest, next⟩ := reached.holds_iff forest_start
    (fun _ before forest => forest.handle_iff before) fun _ forest => forest
  exact ⟨forest, forest.root, next⟩

/-- Three views. -/
def family : Compositor :=
  ({ config := {}, contexts := .standard } : Compositor).run
    ([.createSurface ⟨1⟩ 1, .createSurface ⟨1⟩ 2, .createSurface ⟨1⟩ 3, .createView ⟨1⟩ ⟨⟨1⟩, 4⟩,
      .createView ⟨2⟩ ⟨⟨1⟩, 5⟩, .createView ⟨3⟩ ⟨⟨1⟩, 6⟩].map (Prod.mk .willing))

/-- The third view is the parent of the second, and that of the first. -/
def lineage : Compositor :=
  family.run ([.setViewParent ⟨1⟩ (some ⟨2⟩), .setViewParent ⟨2⟩ (some ⟨3⟩)].map (Prod.mk .willing))

theorem lineage_forest : lineage.ReachableBy (fun c _ request => ¬c.ClosesLoop request) ∧
    lineage.Forest ∧ lineage.ancestor? 2 ⟨1⟩ = some ⟨3⟩ ∧ lineage.parentOf? ⟨3⟩ = none ∧
    ¬(lineage.handle .willing (.setViewParent ⟨3⟩ (some ⟨1⟩))).2.Forest := by
  have start : ReachableBy (fun c _ request => ¬c.ClosesLoop request)
      { config := {}, contexts := .standard } := .start _ _
  have reached : lineage.ReachableBy fun c _ request => ¬c.ClosesLoop request :=
    (((((((start.handle .willing
      (.createSurface ⟨1⟩ 1) (not_closesLoop_of_other nofun)).handle .willing
      (.createSurface ⟨1⟩ 2) (not_closesLoop_of_other nofun)).handle .willing
      (.createSurface ⟨1⟩ 3) (not_closesLoop_of_other nofun)).handle .willing
      (.createView ⟨1⟩ ⟨⟨1⟩, 4⟩) (not_closesLoop_of_other nofun)).handle .willing
      (.createView ⟨2⟩ ⟨⟨1⟩, 5⟩) (not_closesLoop_of_other nofun)).handle .willing
      (.createView ⟨3⟩ ⟨⟨1⟩, 6⟩) (not_closesLoop_of_other nofun)).handle .willing
      (.setViewParent ⟨1⟩ (some ⟨2⟩)) (not_closesLoop_of_root rfl)).handle .willing
      (.setViewParent ⟨2⟩ (some ⟨3⟩)) (not_closesLoop_of_root rfl)
  obtain ⟨forest, -, next⟩ := reached.forest
  refine ⟨reached, forest, rfl, rfl, ?_⟩
  rw [next, not_not, closesLoop_setViewParent]
  exact ⟨⟨1⟩, rfl, transGen_of_ancestor? (n := 1) rfl⟩

/-- Two of the views are each other's parent. -/
def entangled : Compositor :=
  family.run ([.setViewParent ⟨1⟩ (some ⟨2⟩), .setViewParent ⟨2⟩ (some ⟨1⟩)].map (Prod.mk .willing))

theorem entangled_forest : entangled.Reachable ∧ entangled.parentOf? ⟨1⟩ = some ⟨2⟩ ∧
    entangled.parentOf? ⟨2⟩ = some ⟨1⟩ ∧ ¬entangled.Forest := by
  have reached : entangled.Reachable := ((Reachable.start _ _).run _).run _
  exact ⟨reached, rfl, rfl, fun forest => forest ⟨1⟩ (transGen_of_ancestor? (n := 1) rfl)⟩

end Compositor

end Compositing
