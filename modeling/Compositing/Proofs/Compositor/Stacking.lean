import Compositing.Proofs.Compositor.Hits
import Compositing.Proofs.Compositor.Strangers
import Compositing.Proofs.Rendering.Blitting

/-!
# Stacking views

Moving a view changes its own place in the stack of its output and nothing else, and looking further and
further down from the top goes around the stack without leaving a view out. Main statement:
`Reachable.restackView_exact`.
-/

namespace Compositing

namespace Stack

variable {stack before behind : List ViewId} {v other : ViewId} {move : Output.Restack}

/-! ### Moving a view -/

/-- The view is in the stack, and so is another one if the move is beside another one. -/
def Movable (stack : List ViewId) (v : ViewId) (move : Output.Restack) : Prop :=
  v ∈ stack ∧ ∀ other, move.other? = some other → other ≠ v ∧ other ∈ stack

/-- The view stands where the move takes it. -/
def Stands (stack : List ViewId) (v : ViewId) : Output.Restack → Prop
  | .front => stack.getLast? = some v
  | .back => stack.head? = some v
  | .below other => [v, other] <:+: stack
  | .above other => [other, v] <:+: stack

/-- The stack after a move of a view: the same views, all others in the order they were in. -/
structure Moved (stack : List ViewId) (v : ViewId) (move : Output.Restack) (moved : List ViewId) :
    Prop where
  perm : moved.Perm stack
  stands : Stands moved v move
  others : moved.filter (· ≠ v) = stack.filter (· ≠ v)

/-- A view that was taken out and put back at any place was moved to that place. -/
theorem Moved.putBack (once : stack.Nodup) (there : v ∈ stack) (cut : stack.erase v = before ++ behind)
    (stands : Stands (before ++ v :: behind) v move) : Moved stack v move (before ++ v :: behind) where
  perm := List.perm_middle.trans (cut ▸ (List.perm_cons_erase there).symm)
  stands := stands
  others :=
    calc (before ++ v :: behind).filter (· ≠ v)
      _ = (before ++ behind).filter (· ≠ v) := by simp
      _ = (stack.filter (· != v)).filter (· ≠ v) := by rw [← cut, once.erase_eq_filter]
      _ = stack.filter (· ≠ v) := by
        rw [List.filter_filter]
        exact List.filter_congr fun w _ => by by_cases here : w = v <;> simp [here]

theorem insertBelow_append (free : other ∉ before) :
    insertBelow v other (before ++ other :: behind) = before ++ v :: other :: behind := by
  -- On the way that is walked, which is the part before the other view, nothing changes.
  induction before with
  | nil => exact if_pos rfl
  | cons first rest ih =>
    obtain ⟨differ, later⟩ := not_or.1 (mt List.mem_cons.2 free)
    rw [List.cons_append, insertBelow, if_neg (Ne.symm differ), ih later, List.cons_append]

theorem insertAbove_append (free : other ∉ before) :
    insertAbove v other (before ++ other :: behind) = before ++ other :: v :: behind := by
  induction before with
  | nil => exact if_pos rfl
  | cons first rest ih =>
    obtain ⟨differ, later⟩ := not_or.1 (mt List.mem_cons.2 free)
    rw [List.cons_append, insertAbove, if_neg (Ne.symm differ), ih later, List.cons_append]

theorem moved_toFront (once : stack.Nodup) (there : v ∈ stack) :
    Moved stack v .front (toFront stack v) :=
  .putBack once there (List.append_nil _).symm (List.getLast?_concat ..)

theorem moved_toBack (once : stack.Nodup) (there : v ∈ stack) : Moved stack v .back (toBack stack v) :=
  .putBack once there (List.nil_append _).symm rfl

theorem moved_below (once : stack.Nodup) (there : v ∈ stack) (differ : other ≠ v)
    (beside : other ∈ stack) : Moved stack v (.below other) (below stack v other) := by
  -- The other view is looked for once the view is out, and may have gone down by one place then.
  have left : other ∈ stack.erase v := (List.mem_erase_of_ne differ).2 beside
  obtain ⟨before, behind, cut, free⟩ := List.eq_append_cons_of_mem left
  rw [below, cut, insertBelow_append free]
  exact .putBack once there cut ⟨before, behind, by simp⟩

theorem moved_above (once : stack.Nodup) (there : v ∈ stack) (differ : other ≠ v)
    (beside : other ∈ stack) : Moved stack v (.above other) (above stack v other) := by
  have left : other ∈ stack.erase v := (List.mem_erase_of_ne differ).2 beside
  obtain ⟨before, behind, cut, free⟩ := List.eq_append_cons_of_mem left
  rw [above, cut, insertAbove_append free]
  -- What stays before the view ends with the other one here.
  rw [List.append_cons] at cut ⊢
  exact .putBack once there cut ⟨before, behind, by simp⟩

/-! ### Looking down the stack -/

/-- The place of the view that some places further finds, as it is counted in machine words; none if a
step leaves them. -/
def place? (length offset : Nat) : Option Nat := do
  let sum ← Blit.unsigned? (offset % length + length : Nat)
  let last ← Blit.unsigned? ((sum : Int) - 1)
  return last % length

/-- Looking down a stack from the top, and around from the bottom to the top again. -/
structure Circled (stack : List ViewId) (seen : Nat → Option ViewId) : Prop where
  none_iff : ∀ offset, seen offset = none ↔ stack = []
  seen_eq : ∀ offset, stack ≠ [] → seen offset = stack[(stack.length - 1 + offset) % stack.length]?
  /-- Counting leaves no word. Half their range is more than any list in memory has entries. -/
  in_words : ∀ offset, stack ≠ [] → stack.length ≤ 2 ^ 63 →
    place? stack.length offset = some ((stack.length - 1 + offset) % stack.length)
  /-- A round shows each view once, wherever it begins. -/
  round : ∀ first, ((List.range' first stack.length).map seen).Perm (stack.map some)

theorem last_mod {length : Nat} (proper : 0 < length) (offset : Nat) :
    (offset % length + length - 1) % length = (length - 1 + offset) % length := by
  rw [Nat.add_sub_assoc proper, Nat.mod_add_mod, Nat.add_comm]

theorem place?_eq {length : Nat} (proper : 0 < length) (fits : length ≤ 2 ^ 63) (offset : Nat) :
    place? length offset = some ((length - 1 + offset) % length) := by
  -- The sum is less than twice the length, and it is positive, so one less is a word as well.
  have below := Nat.mod_lt offset proper
  have last : ((offset % length + length : Nat) : Int) - 1 = (offset % length + length - 1 : Nat) := by
    omega
  rw [place?, Blit.unsigned?_eq (by omega), Option.bind_eq_bind, Option.bind_some, last,
    Blit.unsigned?_eq (by omega), ← last_mod proper]
  rfl

theorem topmost_eq (proper : stack ≠ []) (offset : Nat) :
    topmost stack offset = stack[(stack.length - 1 + offset) % stack.length]? := by
  rw [topmost, last_mod (List.length_pos_iff.2 proper)]

theorem topmost_eq_none_iff (offset : Nat) : topmost stack offset = none ↔ stack = [] := by
  refine ⟨fun nothing => ?_, fun empty => by rw [empty]; rfl⟩
  by_contra proper
  have within := Nat.mod_lt (stack.length - 1 + offset) (List.length_pos_iff.2 proper)
  rw [topmost_eq proper, List.getElem?_eq_none_iff] at nothing
  omega

/-- What a round shows is the stack, turned. -/
theorem map_topmost (stack : List ViewId) (first : Nat) :
    (List.range' first stack.length).map (topmost stack) =
      (stack.rotate (stack.length - 1 + first)).map some := by
  refine List.ext_getElem? fun k => ?_
  -- Rotating reads the entries modulo the length too, from where the round begins.
  by_cases within : k < stack.length
  · have proper : stack ≠ [] := List.length_pos_iff.1 (by omega)
    have turned := List.getElem?_rotate (n := stack.length - 1 + first) within
    have there : k < (stack.rotate (stack.length - 1 + first)).length := by rwa [List.length_rotate]
    have place : stack.length - 1 + (first + k) = k + (stack.length - 1 + first) := by omega
    rw [List.getElem?_map, List.getElem?_range' within, Option.map_some, topmost_eq proper, Nat.one_mul,
      List.getElem?_map, place, ← turned, List.getElem?_eq_getElem there, Option.map_some]
  · rw [List.getElem?_eq_none (by simp; omega), List.getElem?_eq_none (by simp; omega)]

theorem circled_topmost (stack : List ViewId) : Circled stack (topmost stack) where
  none_iff := topmost_eq_none_iff
  seen_eq offset proper := topmost_eq proper offset
  in_words offset proper fits := place?_eq (List.length_pos_iff.2 proper) fits offset
  round first := map_topmost stack first ▸ (List.rotate_perm ..).map some

theorem topmost_zero (stack : List ViewId) : topmost stack 0 = stack.getLast? := by
  by_cases empty : stack = []
  · rw [empty]; rfl
  · have within : stack.length - 1 < stack.length := by
      have proper := List.length_pos_iff.2 empty
      omega
    rw [topmost_eq empty, Nat.add_zero, Nat.mod_eq_of_lt within, List.getLast?_eq_getElem?]

/-- The lowest view of at least two is not the topmost one. -/
theorem topmost_zero_ne (once : stack.Nodup) (several : 2 ≤ stack.length)
    (lowest : stack.head? = some v) : topmost stack 0 ≠ some v := by
  obtain ⟨rest, rfl⟩ := List.head?_eq_some_iff.1 lowest
  have more : 0 < rest.length := Nat.le_of_succ_le_succ several
  obtain ⟨second, upper, rfl⟩ := List.exists_cons_of_length_pos more
  -- The topmost view is among those above the lowest one, which is not there once more.
  rw [topmost_zero, List.getLast?_cons_cons]
  exact fun last => (List.nodup_cons.1 once).1 (List.mem_of_getLast? last)

end Stack

namespace Output

variable {o : Output} {v : ViewId} {move : Restack}

theorem restack?_movable (once : o.paintOrder.Nodup) (movable : Stack.Movable o.paintOrder v move) :
    ∃ stack, Stack.Moved o.paintOrder v move stack ∧
      o.restack? v move = some { o with paintOrder := stack } := by
  obtain ⟨there, beside⟩ := movable
  cases move with
  | front => exact ⟨_, Stack.moved_toFront once there, if_pos there⟩
  | back => exact ⟨_, Stack.moved_toBack once there, if_pos there⟩
  | below other =>
    obtain ⟨differ, listed⟩ := beside other rfl
    exact ⟨_, Stack.moved_below once there differ listed, if_pos ⟨differ.symm, there, listed⟩⟩
  | above other =>
    obtain ⟨differ, listed⟩ := beside other rfl
    exact ⟨_, Stack.moved_above once there differ listed, if_pos ⟨differ.symm, there, listed⟩⟩

theorem restack?_stuck (stuck : ¬Stack.Movable o.paintOrder v move) : o.restack? v move = none := by
  cases move with
  | front => exact if_neg fun there => stuck ⟨there, nofun⟩
  | back => exact if_neg fun there => stuck ⟨there, nofun⟩
  | below other | above other =>
    refine if_neg fun ⟨differ, there, listed⟩ => stuck ⟨there, fun w beside => ?_⟩
    cases beside
    exact ⟨differ.symm, listed⟩

end Output

namespace Compositor

variable {c : Compositor} {o : OutputId} {p : Output} {v : ViewId} {move : Output.Restack}

/-- The output that a view names is the one whose stack it is in. -/
theorem Linked.shown_iff (linked : c.Linked) (v : ViewId) (p : Output) :
    (c.outputOf? v).bind c.outputs.get? = some p ↔
      ∃ o, c.outputs.get? o = some p ∧ v ∈ p.paintOrder := by
  have listed {o : OutputId} (found : c.outputs.get? o = some p) :
      v ∈ p.paintOrder ↔ ∃ view, c.views.get? v = some view ∧ view.output = some o :=
    (linked.paint_perm o p found).mem_iff.trans (linked.mem_creation o p found v)
  constructor
  · intro shown
    obtain ⟨o, named, found⟩ := Option.bind_eq_some_iff.1 shown
    exact ⟨o, found, (listed found).2 (Option.bind_eq_some_iff.1 named)⟩
  · rintro ⟨o, found, there⟩
    exact Option.bind_eq_some_iff.2 ⟨o, Option.bind_eq_some_iff.2 ((listed found).1 there), found⟩

theorem restackView_movable (linked : c.Linked) (found : c.outputs.get? o = some p)
    (movable : Stack.Movable p.paintOrder v move) :
    ∃ stack, Stack.Moved p.paintOrder v move stack ∧
      p.restack? v move = some { p with paintOrder := stack } ∧
      c.restackView v move = (true, c.modifyOutput o fun _ =>
        { p with paintOrder := stack, pendingRender := true }) := by
  have once := (linked.paint_perm o p found).nodup_iff.2 (linked.creation_nodup o p found)
  obtain ⟨stack, moved, done⟩ := Output.restack?_movable once movable
  have shown := (linked.shown_iff v p).2 ⟨o, found, movable.1⟩
  refine ⟨stack, moved, done, ?_⟩
  -- The output found by the name that the view keeps is stored under its own name again.
  unfold restackView
  simp only [shown, done, (linked.output_named o p found).1]
  rfl

theorem restackView_stuck (linked : c.Linked)
    (stuck : ∀ o p, c.outputs.get? o = some p → ¬Stack.Movable p.paintOrder v move) :
    c.restackView v move = (false, c) := by
  unfold restackView
  split
  next => rfl
  next p shown =>
    -- The view is on an output, which refuses.
    obtain ⟨o, found, -⟩ := (linked.shown_iff v p).1 shown
    rw [Output.restack?_stuck (stuck o p found)]

theorem topmost?_modifyOutput (found : c.outputs.get? o = some p) (q : Output) (offset : Nat) :
    (c.modifyOutput o fun _ => q).topmost? o offset = Stack.topmost q.paintOrder offset := by
  simp [topmost?, modifyOutput, Table.get?_modify, found]

/-- A view is moved if it is on an output, and the one it is moved beside is another one there; else
nothing happens. The move changes the place of the view and has the output painted again. Looking down
from the top goes around the stack. A view in front is the topmost one, and a view at the back is not,
unless it is alone. -/
theorem Reachable.restackView_exact (reached : c.Reachable) :
    (∀ v move,
      ((c.restackView v move).1 = true ↔
        ∃ o p, c.outputs.get? o = some p ∧ Stack.Movable p.paintOrder v move) ∧
      ((c.restackView v move).1 = false → (c.restackView v move).2 = c)) ∧
    ∀ o p, c.outputs.get? o = some p →
      p.paintOrder.Nodup ∧ Stack.Circled p.paintOrder (c.topmost? o) ∧
      ∀ v move,
        (p.restack? v move = none ↔ ¬Stack.Movable p.paintOrder v move) ∧
        (Stack.Movable p.paintOrder v move → ∃ stack,
          Stack.Moved p.paintOrder v move stack ∧
          p.restack? v move = some { p with paintOrder := stack } ∧
          (c.restackView v move).2 = (c.modifyOutput o fun _ =>
            { p with paintOrder := stack, pendingRender := true }) ∧
          (move = .front → (c.restackView v move).2.topmost? o 0 = some v) ∧
          (move = .back → 2 ≤ p.paintOrder.length →
            (c.restackView v move).2.topmost? o 0 ≠ some v)) := by
  have linked := reached.linked
  refine ⟨fun v move => ?_, fun o p found => ?_⟩
  · by_cases movable : ∃ o p, c.outputs.get? o = some p ∧ Stack.Movable p.paintOrder v move
    · obtain ⟨o, p, found, here⟩ := movable
      obtain ⟨stack, -, -, done⟩ := restackView_movable linked found here
      rw [done]
      exact ⟨iff_of_true rfl ⟨o, p, found, here⟩, nofun⟩
    · rw [restackView_stuck linked fun o p found here => movable ⟨o, p, found, here⟩]
      exact ⟨iff_of_false nofun movable, fun _ => rfl⟩
  · have once := (linked.paint_perm o p found).nodup_iff.2 (linked.creation_nodup o p found)
    have looks : c.topmost? o = Stack.topmost p.paintOrder := by
      funext offset
      rw [topmost?, found, Option.bind_some]
    refine ⟨once, looks ▸ Stack.circled_topmost p.paintOrder, fun v move => ⟨?_, fun movable => ?_⟩⟩
    · refine ⟨fun refused movable => ?_, Output.restack?_stuck⟩
      obtain ⟨stack, -, done⟩ := Output.restack?_movable once movable
      cases refused.symm.trans done
    · obtain ⟨stack, moved, done, whole⟩ := restackView_movable linked found movable
      refine ⟨stack, moved, done, by rw [whole], ?_, ?_⟩
      · rintro rfl
        rw [whole, topmost?_modifyOutput found, Stack.topmost_zero]
        exact moved.stands
      · rintro rfl several
        rw [whole, topmost?_modifyOutput found]
        exact Stack.topmost_zero_ne (moved.perm.nodup_iff.2 once) (moved.perm.length_eq ▸ several)
          moved.stands

/-- Three views are shown on an output. -/
def pile : Compositor :=
  stackedViews.run <| List.map (Prod.mk .willing)
    [.createSurface ⟨1⟩ 5, .createView ⟨3⟩ ⟨⟨1⟩, 6⟩, .setViewOutput ⟨3⟩ (some ⟨1⟩)]

theorem restackView_exact_pile :
    pile.Reachable ∧ ∃ p, pile.outputs.get? ⟨1⟩ = some p ∧ p.paintOrder = [⟨1⟩, ⟨2⟩, ⟨3⟩] ∧
      (pile.restackView ⟨1⟩ (.below ⟨3⟩)).1 = true ∧
      (pile.restackView ⟨1⟩ (.above ⟨1⟩)).2 = pile ∧
      (pile.restackView ⟨1⟩ .front).2.topmost? ⟨1⟩ 0 = some ⟨1⟩ ∧
      (pile.restackView ⟨3⟩ .back).2.topmost? ⟨1⟩ 0 ≠ some ⟨3⟩ ∧
      Stack.place? 3 (2 ^ 64 - 1) = some 2 := by
  have listed : (pile.outputs.get? ⟨1⟩).map (·.paintOrder) = some [⟨1⟩, ⟨2⟩, ⟨3⟩] := by decide +kernel
  have refused : (pile.restackView ⟨1⟩ (.above ⟨1⟩)).1 = false := by decide +kernel
  obtain ⟨p, found, order⟩ := Option.map_eq_some_iff.1 listed
  have reached : pile.Reachable := ((Reachable.start {} .standard).run _).run _
  obtain ⟨asked, there⟩ := reached.restackView_exact
  obtain ⟨-, circled, moves⟩ := there ⟨1⟩ p found
  rw [order] at circled moves
  have below : Stack.Movable [⟨1⟩, ⟨2⟩, ⟨3⟩] ⟨1⟩ (.below ⟨3⟩) := ⟨by decide, fun _ beside => by
    cases beside
    decide⟩
  obtain ⟨-, -, -, -, front, -⟩ := (moves ⟨1⟩ .front).2 ⟨by decide, nofun⟩
  obtain ⟨-, -, -, -, -, back⟩ := (moves ⟨3⟩ .back).2 ⟨by decide, nofun⟩
  exact ⟨reached, p, found, order, (asked _ _).1.2 ⟨⟨1⟩, p, found, order ▸ below⟩,
    (asked _ _).2 refused, front rfl, back rfl (by decide),
    circled.in_words (2 ^ 64 - 1) nofun (by decide)⟩

end Compositor

end Compositing
