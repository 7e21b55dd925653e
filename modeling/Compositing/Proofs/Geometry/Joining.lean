import Compositing.Proofs.Geometry.Covering

/-!
# Joining rectangles anywhere

Edges can be further apart than the largest extent of a rectangle. The rectangle between them then
ends early, and what lies beyond is lost. Main statement: `contains_merge?_iff` says which points a
joined rectangle has, for all coordinates.
-/

namespace Compositing

/-- Every integer of the coordinate range is a coordinate. -/
theorem exists_toInt_eq {n : Int} (low : -2147483648 ≤ n) (high : n ≤ 2147483647) :
    ∃ a : Int32, a.toInt = n :=
  ⟨clampCoordinate n, by rw [toInt_clampCoordinate]; omega⟩

namespace Rectangle

/-- No extent is negative. -/
def Upright (r : Rectangle) : Prop := 0 ≤ r.width.toInt ∧ 0 ≤ r.height.toInt

instance (r : Rectangle) : Decidable r.Upright := inferInstanceAs (Decidable (_ ∧ _))

section

variable {r s t : Rectangle} {x y : Int32}

theorem upright_of_isEmpty (proper : r.isEmpty = false) : r.Upright := by
  have extents := isEmpty_eq_false_iff.1 proper
  exact ⟨by omega, by omega⟩

theorem Upright.span_bounds (upright : r.Upright) :
    r.x.toInt ≤ r.right.toInt ∧ r.right.toInt - r.x.toInt ≤ 2147483647 ∧
      r.y.toInt ≤ r.bottom.toInt ∧ r.bottom.toInt - r.y.toInt ≤ 2147483647 := by
  unfold Upright at upright
  have right := r.toInt_right
  have bottom := r.toInt_bottom
  have := r.x.le_toInt
  have := r.x.toInt_lt
  have := r.y.le_toInt
  have := r.y.toInt_lt
  have := r.width.toInt_lt
  have := r.height.toInt_lt
  omega

/-- An upright rectangle without an extent has no points between its edges either. -/
theorem Upright.contains_iff (upright : r.Upright) : r.contains x y = true ↔
    r.x.toInt ≤ x.toInt ∧ x.toInt < r.right.toInt ∧ r.y.toInt ≤ y.toInt ∧
      y.toInt < r.bottom.toInt := by
  unfold Upright at upright
  have right := r.toInt_right
  have bottom := r.toInt_bottom
  have := x.le_toInt
  have := y.le_toInt
  rw [Rectangle.contains_iff, isEmpty_eq_false_iff]
  omega

/-! ### Between any edges -/

theorem contains_ofEdges_iff {left top right bottom : Int32} :
    (ofEdges left top right bottom).contains x y = true ↔
      left.toInt ≤ x.toInt ∧ x.toInt < right.toInt ∧ top.toInt ≤ y.toInt ∧
        y.toInt < bottom.toInt ∧ x.toInt - left.toInt < 2147483647 ∧
        y.toInt - top.toInt < 2147483647 := by
  have width : (ofEdges left top right bottom).width.toInt =
      max (-2147483648) (min (right.toInt - left.toInt) 2147483647) := toInt_clampCoordinate _
  have height : (ofEdges left top right bottom).height.toInt =
      max (-2147483648) (min (bottom.toInt - top.toInt) 2147483647) := toInt_clampCoordinate _
  have := left.le_toInt
  have := top.le_toInt
  have := right.toInt_lt
  have := bottom.toInt_lt
  rw [Rectangle.contains_iff, isEmpty_eq_false_iff, toInt_right, toInt_bottom, width, height,
    show (ofEdges left top right bottom).x = left from rfl,
    show (ofEdges left top right bottom).y = top from rfl]
  omega

theorem upright_ofEdges {left top right bottom : Int32} (columns : left.toInt ≤ right.toInt)
    (rows : top.toInt ≤ bottom.toInt) : (ofEdges left top right bottom).Upright := by
  unfold Upright
  rw [ofEdges, toInt_clampCoordinate, toInt_clampCoordinate]
  omega

/-! ### Two neighbours -/

/-- `r` lies directly above `s`, and both have the same columns. -/
def Above (r s : Rectangle) : Prop := r.x = s.x ∧ r.right = s.right ∧ r.bottom = s.y

/-- `r` lies directly to the left of `s`, and both have the same rows. -/
def Before (r s : Rectangle) : Prop := r.y = s.y ∧ r.bottom = s.bottom ∧ r.right = s.x

/-- Of two neighbours that are joined, one gives the upper left corner and the other the far
edges. -/
theorem exists_of_merge? (uprightR : r.Upright) (uprightS : s.Upright)
    (joined : r.merge? s = some t) :
    ∃ first last, (first = r ∧ last = s ∨ first = s ∧ last = r) ∧
      (first.Upright ∧ last.Upright) ∧ (first.Above last ∨ first.Before last) ∧
      t = ofEdges first.x first.y last.right last.bottom := by
  have uprights := And.intro uprightR uprightS
  unfold merge? at joined
  split at joined
  next there =>
    obtain ⟨left, wide, edge⟩ := there
    have right : r.right = s.right := by rw [Rectangle.right, Rectangle.right, left, wide]
    cases joined
    exact ⟨r, s, .inl ⟨rfl, rfl⟩, uprights, .inl ⟨left, right, edge⟩, by rw [right]⟩
  split at joined
  next there =>
    obtain ⟨left, wide, edge⟩ := there
    have right : r.right = s.right := by rw [Rectangle.right, Rectangle.right, left, wide]
    cases joined
    exact ⟨s, r, .inr ⟨rfl, rfl⟩, uprights.symm, .inl ⟨left.symm, right.symm, edge⟩, by rw [left]⟩
  split at joined
  next there =>
    obtain ⟨top, high, edge⟩ := there
    have bottom : r.bottom = s.bottom := by rw [Rectangle.bottom, Rectangle.bottom, top, high]
    cases joined
    exact ⟨r, s, .inl ⟨rfl, rfl⟩, uprights, .inr ⟨top, bottom, edge⟩, by rw [bottom]⟩
  split at joined
  next there =>
    obtain ⟨top, high, edge⟩ := there
    have bottom : r.bottom = s.bottom := by rw [Rectangle.bottom, Rectangle.bottom, top, high]
    cases joined
    exact ⟨s, r, .inr ⟨rfl, rfl⟩, uprights.symm, .inr ⟨top.symm, bottom.symm, edge⟩, by rw [top]⟩
  · simp at joined

theorem upright_merge? (uprightR : r.Upright) (uprightS : s.Upright)
    (joined : r.merge? s = some t) : t.Upright := by
  obtain ⟨first, last, -, upright, neighbours, rfl⟩ := exists_of_merge? uprightR uprightS joined
  have := upright.1.span_bounds
  have := upright.2.span_bounds
  simp only [Above, Before, ← Int32.toInt_inj] at neighbours
  apply upright_ofEdges <;> omega

/-- A joined rectangle has those points of the two that are not too far from its corner. -/
theorem contains_merge?_iff (uprightR : r.Upright) (uprightS : s.Upright)
    (joined : r.merge? s = some t) : t.contains x y = true ↔
      (r.contains x y = true ∨ s.contains x y = true) ∧
        x.toInt - t.x.toInt < 2147483647 ∧ y.toInt - t.y.toInt < 2147483647 := by
  obtain ⟨first, last, which, upright, neighbours, rfl⟩ := exists_of_merge? uprightR uprightS joined
  -- The two play the same part, so it does not matter which of them comes first.
  have either : (r.contains x y = true ∨ s.contains x y = true) ↔
      (first.contains x y = true ∨ last.contains x y = true) := by
    rcases which with ⟨rfl, rfl⟩ | ⟨rfl, rfl⟩
    · exact Iff.rfl
    · exact or_comm
  have := upright.1.span_bounds
  have := upright.2.span_bounds
  simp only [Above, Before, ← Int32.toInt_inj] at neighbours
  rw [either, upright.1.contains_iff, upright.2.contains_iff, contains_ofEdges_iff,
    show (ofEdges first.x first.y last.right last.bottom).x = first.x from rfl,
    show (ofEdges first.x first.y last.right last.bottom).y = first.y from rfl]
  omega

/-- If two neighbours have a point at all, one of them has the corner of the joined rectangle. -/
theorem contains_corner_merge? (uprightR : r.Upright) (uprightS : s.Upright)
    (joined : r.merge? s = some t) (some : r.contains x y = true ∨ s.contains x y = true) :
    r.contains t.x t.y = true ∨ s.contains t.x t.y = true := by
  obtain ⟨first, last, which, -, neighbours, rfl⟩ := exists_of_merge? uprightR uprightS joined
  simp only [Above, Before, ← Int32.toInt_inj] at neighbours
  have := uprightR.span_bounds
  have := uprightS.span_bounds
  rw [uprightR.contains_iff, uprightS.contains_iff] at *
  change (_ ≤ first.x.toInt ∧ first.x.toInt < _ ∧ _ ≤ first.y.toInt ∧ first.y.toInt < _) ∨
    (_ ≤ first.x.toInt ∧ first.x.toInt < _ ∧ _ ≤ first.y.toInt ∧ first.y.toInt < _)
  rcases which with ⟨rfl, rfl⟩ | ⟨rfl, rfl⟩ <;> omega

end

end Rectangle

end Compositing
