import Mathlib.Data.List.Infix

/-!
# Reading a history from its end

A history grows at its end, so what it tells is compared before and after one more entry. `Since` says
that something began with an entry and has lasted to the end of the history, `Standing` that it began and
that no later entry ended it.
-/

namespace Compositing

variable {α : Type}

/-- Where a history with one more entry is split, the split is at the last entry or before it. -/
theorem concat_eq_append_cons_iff {past before after : List α} {a x : α} :
    past ++ [a] = before ++ x :: after ↔
      (past = before ∧ a = x ∧ after = []) ∨
      ∃ rest, after = rest ++ [a] ∧ past = before ++ x :: rest := by
  constructor
  · intro split
    rcases after.eq_nil_or_concat with rfl | ⟨rest, last, rfl⟩
    · obtain ⟨rfl, same⟩ := List.append_inj' split rfl
      exact .inl ⟨rfl, List.singleton_inj.1 same, rfl⟩
    · rw [List.concat_eq_append, ← List.cons_append, ← List.append_assoc] at split
      obtain ⟨rfl, same⟩ := List.append_inj' split rfl
      obtain rfl := List.singleton_inj.1 same
      exact .inr ⟨rest, List.concat_eq_append, rfl⟩
  · rintro (⟨rfl, rfl, rfl⟩ | ⟨rest, rfl, rfl⟩) <;> simp

/-- An entry began something, and since then it has lasted. -/
def Since (began : List α → α → Prop) (lasts : List α → Prop) (past : List α) : Prop :=
  ∃ before x after, past = before ++ x :: after ∧ began before x ∧
    ∀ upto, before <+: upto → upto <+: past → lasts upto

variable {began : List α → α → Prop} {lasts : List α → Prop} {past : List α}

theorem Since.now (since : Since began lasts past) : lasts past := by
  obtain ⟨before, x, after, rfl, -, lasting⟩ := since
  exact lasting _ (List.prefix_append _ _) List.prefix_rfl

theorem not_since_nil : ¬Since began lasts [] := by
  rintro ⟨before, x, after, split, -⟩
  simp at split

theorem since_concat_iff (x : α) : Since began lasts (past ++ [x]) ↔
    lasts (past ++ [x]) ∧ (Since began lasts past ∨ (began past x ∧ lasts past)) := by
  constructor
  · intro since
    refine ⟨since.now, ?_⟩
    obtain ⟨before, y, after, split, begun, lasting⟩ := since
    rcases concat_eq_append_cons_iff.1 split with ⟨rfl, rfl, -⟩ | ⟨rest, -, rfl⟩
    · exact .inr ⟨begun, lasting past List.prefix_rfl (List.prefix_append _ _)⟩
    · exact .inl ⟨before, y, rest, rfl, begun, fun upto after within =>
        lasting upto after (within.trans (List.prefix_append _ _))⟩
  · rintro ⟨last, ⟨before, y, rest, rfl, begun, lasting⟩ | ⟨begun, here⟩⟩
    · refine ⟨before, y, rest ++ [x], by simp, begun, fun upto after within => ?_⟩
      rcases List.prefix_concat_iff.1 within with rfl | within
      · exact last
      · exact lasting upto after within
    · refine ⟨past, x, [], rfl, begun, fun upto after within => ?_⟩
      rcases List.prefix_concat_iff.1 within with rfl | within
      · exact last
      · exact after.eq_of_length_le within.length_le ▸ here

/-- An entry began something, and none after it ended it. -/
def Standing (began : List α → α → Prop) (ends : α → Prop) (past : List α) : Prop :=
  ∃ before x after, past = before ++ x :: after ∧ began before x ∧ ∀ y ∈ after, ¬ends y

variable {ends : α → Prop}

theorem not_standing_nil : ¬Standing began ends [] := by
  rintro ⟨before, x, after, split, -⟩
  simp at split

theorem standing_concat_iff (x : α) : Standing began ends (past ++ [x]) ↔
    began past x ∨ (Standing began ends past ∧ ¬ends x) := by
  constructor
  · rintro ⟨before, y, after, split, begun, standing⟩
    rcases concat_eq_append_cons_iff.1 split with ⟨rfl, rfl, -⟩ | ⟨rest, rfl, rfl⟩
    · exact .inl begun
    · exact .inr ⟨⟨before, y, rest, rfl, begun, fun z later => standing z (by simp [later])⟩,
        standing x (by simp)⟩
  · rintro (begun | ⟨⟨before, y, rest, rfl, begun, standing⟩, last⟩)
    · exact ⟨past, x, [], rfl, begun, by simp⟩
    · refine ⟨before, y, rest ++ [x], by simp, begun, fun z later => ?_⟩
      rcases List.mem_append.1 later with later | here
      · exact standing z later
      · exact List.mem_singleton.1 here ▸ last

/-- What is so after a history if the last entry began it, or if it was so and the last entry did not end
it, stands. -/
theorem standing_iff (holds : List α → Prop) (nil : ¬holds [])
    (concat : ∀ past x, holds (past ++ [x]) ↔ began past x ∨ (holds past ∧ ¬ends x)) (past : List α) :
    holds past ↔ Standing began ends past := by
  induction past using List.reverseRecOn with
  | nil => exact ⟨fun now => (nil now).elim, fun standing => (not_standing_nil standing).elim⟩
  | append_singleton past x ih => rw [concat, standing_concat_iff, ih]

end Compositing
