import Compositing.Geometry.Placement
import Compositing.Geometry.Rectangle
import Mathlib.Data.Set.Basic

/-!
# The points of a rectangle

A rectangle stands for the points that it contains. Main statements: `contains_intersection` and
`contains_subtract` say that intersection and subtraction act on the points exactly, for all
coordinates, and `contains_merge?` that joining does inside the plane, where no edge saturates.
-/

namespace Compositing

theorem toInt_max (a b : Int32) : (max a b).toInt = max a.toInt b.toInt := by
  show (if a ≤ b then b else a).toInt = _
  split
  next le => rw [Int32.le_iff_toInt_le] at le; omega
  next gt => rw [Int32.le_iff_toInt_le] at gt; omega

theorem toInt_min (a b : Int32) : (min a b).toInt = min a.toInt b.toInt := by
  show (if a ≤ b then a else b).toInt = _
  split
  next le => rw [Int32.le_iff_toInt_le] at le; omega
  next gt => rw [Int32.le_iff_toInt_le] at gt; omega

namespace Rectangle

/-- The points that a rectangle covers. -/
def points (r : Rectangle) : Set Point := {p | r.contains p.x p.y}

/-- No edge of `r` lies outside `s`. -/
def Inside (r s : Rectangle) : Prop :=
  s.x.toInt ≤ r.x.toInt ∧ s.y.toInt ≤ r.y.toInt ∧
    r.right.toInt ≤ s.right.toInt ∧ r.bottom.toInt ≤ s.bottom.toInt

instance (r s : Rectangle) : Decidable (r.Inside s) :=
  inferInstanceAs (Decidable (_ ∧ _ ∧ _ ∧ _))

theorem Inside.trans {r s t : Rectangle} (inner : r.Inside s) (outer : s.Inside t) : r.Inside t := by
  unfold Inside at *
  omega

theorem Inside.refl (r : Rectangle) : r.Inside r := by
  unfold Inside
  omega

/-! ### Edges as integers -/

theorem isEmpty_eq_false_iff {r : Rectangle} :
    r.isEmpty = false ↔ 0 < r.width.toInt ∧ 0 < r.height.toInt := by
  simp [isEmpty, Int32.le_iff_toInt_le]

theorem toInt_right (r : Rectangle) :
    r.right.toInt = max (-2147483648) (min (r.x.toInt + r.width.toInt) 2147483647) :=
  toInt_saturatingAdd _ _

theorem toInt_bottom (r : Rectangle) :
    r.bottom.toInt = max (-2147483648) (min (r.y.toInt + r.height.toInt) 2147483647) :=
  toInt_saturatingAdd _ _

theorem contains_iff {r : Rectangle} {x y : Int32} :
    r.contains x y = true ↔ r.isEmpty = false ∧ r.x.toInt ≤ x.toInt ∧ x.toInt < r.right.toInt ∧
      r.y.toInt ≤ y.toInt ∧ y.toInt < r.bottom.toInt := by
  simp [contains, Int32.le_iff_toInt_le, Int32.lt_iff_toInt_lt, and_assoc]

theorem contains_eq_false_iff {r : Rectangle} {x y : Int32} :
    r.contains x y = false ↔ ¬(r.isEmpty = false ∧ r.x.toInt ≤ x.toInt ∧
      x.toInt < r.right.toInt ∧ r.y.toInt ≤ y.toInt ∧ y.toInt < r.bottom.toInt) := by
  rw [← contains_iff, Bool.not_eq_true]

/-- The extents of a rectangle that is not empty are at least those of its edges, which fit a
coordinate. -/
theorem span_bounds {r : Rectangle} (proper : r.isEmpty = false) :
    r.x.toInt ≤ r.right.toInt ∧ r.right.toInt - r.x.toInt ≤ 2147483647 ∧
      r.y.toInt ≤ r.bottom.toInt ∧ r.bottom.toInt - r.y.toInt ≤ 2147483647 := by
  have extents := isEmpty_eq_false_iff.1 proper
  have right := r.toInt_right
  have bottom := r.toInt_bottom
  have := r.x.le_toInt
  have := r.x.toInt_lt
  have := r.y.le_toInt
  have := r.y.toInt_lt
  have := r.width.toInt_lt
  have := r.height.toInt_lt
  omega

/-- A rectangle that is not empty and has these edges, none of which saturated. -/
structure HasEdges (r : Rectangle) (left top right bottom : Int) : Prop where
  left_eq : r.x.toInt = left
  top_eq : r.y.toInt = top
  right_eq : r.right.toInt = right
  bottom_eq : r.bottom.toInt = bottom
  width_eq : r.width.toInt = right - left
  height_eq : r.height.toInt = bottom - top
  wide : left < right
  high : top < bottom

section

variable {r s t : Rectangle} {left top right bottom : Int} {x y : Int32}

theorem HasEdges.isEmpty (edges : r.HasEdges left top right bottom) : r.isEmpty = false := by
  have := edges.width_eq
  have := edges.height_eq
  have := edges.wide
  have := edges.high
  rw [isEmpty_eq_false_iff]
  omega

theorem HasEdges.contains_iff (edges : r.HasEdges left top right bottom) :
    r.contains x y = true ↔
      left ≤ x.toInt ∧ x.toInt < right ∧ top ≤ y.toInt ∧ y.toInt < bottom := by
  rw [Rectangle.contains_iff, edges.left_eq, edges.top_eq, edges.right_eq, edges.bottom_eq]
  simp [edges.isEmpty]

/-- Edges in order that are not too far apart are the edges of the rectangle between them. -/
theorem hasEdges_ofEdges (left top right bottom : Int32) (wide : left.toInt < right.toInt)
    (high : top.toInt < bottom.toInt) (columns : right.toInt - left.toInt ≤ 2147483647)
    (rows : bottom.toInt - top.toInt ≤ 2147483647) :
    (ofEdges left top right bottom).HasEdges left.toInt top.toInt right.toInt bottom.toInt := by
  have width : (ofEdges left top right bottom).width.toInt = right.toInt - left.toInt := by
    rw [ofEdges, toInt_clampCoordinate]
    omega
  have height : (ofEdges left top right bottom).height.toInt = bottom.toInt - top.toInt := by
    rw [ofEdges, toInt_clampCoordinate]
    omega
  have := right.toInt_lt
  have := bottom.toInt_lt
  have := left.le_toInt
  have := top.le_toInt
  -- The extents were not cut, so the far edges are sums that do not saturate.
  refine ⟨rfl, rfl, ?_, ?_, width, height, wide, high⟩
  · rw [toInt_right, width, show (ofEdges left top right bottom).x = left from rfl]
    omega
  · rw [toInt_bottom, height, show (ofEdges left top right bottom).y = top from rfl]
    omega

/-! ### Intersection -/

theorem intersection_eq_some_iff : r.intersection s = some t ↔
    r.isEmpty = false ∧ s.isEmpty = false ∧ max r.x s.x < min r.right s.right ∧
      max r.y s.y < min r.bottom s.bottom ∧
      ofEdges (max r.x s.x) (max r.y s.y) (min r.right s.right) (min r.bottom s.bottom) = t := by
  unfold intersection
  cases r.isEmpty <;> cases s.isEmpty <;> simp [and_assoc]

/-- The common part has the inner ones of the edges. -/
theorem hasEdges_intersection (common : r.intersection s = some t) :
    t.HasEdges (max r.x.toInt s.x.toInt) (max r.y.toInt s.y.toInt)
      (min r.right.toInt s.right.toInt) (min r.bottom.toInt s.bottom.toInt) := by
  obtain ⟨proper, _, wide, high, rfl⟩ := intersection_eq_some_iff.1 common
  rw [Int32.lt_iff_toInt_lt] at wide high
  have span := span_bounds proper
  simp only [← toInt_max, ← toInt_min] at *
  apply hasEdges_ofEdges _ _ _ _ wide high
  · rw [toInt_max, toInt_min]
    omega
  · rw [toInt_max, toInt_min]
    omega

theorem inside_of_intersection (common : r.intersection s = some t) : t.Inside r ∧ t.Inside s := by
  have edges := hasEdges_intersection common
  unfold Inside
  rw [edges.left_eq, edges.top_eq, edges.right_eq, edges.bottom_eq]
  omega

theorem ordered_of_intersection (common : r.intersection s = some t) :
    t.x.toInt < t.right.toInt ∧ t.y.toInt < t.bottom.toInt := by
  have edges := hasEdges_intersection common
  rw [edges.left_eq, edges.top_eq, edges.right_eq, edges.bottom_eq]
  exact ⟨edges.wide, edges.high⟩

theorem contains_intersection (common : r.intersection s = some t) :
    t.contains x y = true ↔ r.contains x y = true ∧ s.contains x y = true := by
  obtain ⟨someR, someS, _⟩ := intersection_eq_some_iff.1 common
  rw [(hasEdges_intersection common).contains_iff, contains_iff, contains_iff]
  simp only [someR, someS, true_and]
  omega

theorem not_contains_of_intersection (apart : r.intersection s = none)
    (inR : r.contains x y = true) : s.contains x y = false := by
  by_contra inS
  rw [Bool.not_eq_false, contains_iff] at inS
  rw [contains_iff] at inR
  -- A common point makes the rectangles overlap in both directions.
  have common : r.intersection s = some
      (ofEdges (max r.x s.x) (max r.y s.y) (min r.right s.right) (min r.bottom s.bottom)) := by
    refine intersection_eq_some_iff.2 ⟨inR.1, inS.1, ?_, ?_, rfl⟩
    · rw [Int32.lt_iff_toInt_lt, toInt_max, toInt_min]
      omega
    · rw [Int32.lt_iff_toInt_lt, toInt_max, toInt_min]
      omega
  simp [apart] at common

/-! ### Subtraction -/

theorem mem_pieceIf {present : Bool} {piece : Rectangle} :
    t ∈ pieceIf present piece ↔ present = true ∧ t = piece := by
  cases present <;> simp [pieceIf]

theorem mem_around {piece : Rectangle} : piece ∈ r.around t ↔
    (r.y.toInt < t.y.toInt ∧ piece = ofEdges r.x r.y r.right t.y) ∨
    (t.bottom.toInt < r.bottom.toInt ∧ piece = ofEdges r.x t.bottom r.right r.bottom) ∨
    (r.x.toInt < t.x.toInt ∧ piece = ofEdges r.x t.y t.x t.bottom) ∨
    (t.right.toInt < r.right.toInt ∧ piece = ofEdges t.right t.y r.right t.bottom) := by
  simp only [around, List.mem_append, mem_pieceIf, decide_eq_true_eq, Int32.lt_iff_toInt_lt,
    or_assoc]

/-- A piece beside a hole has points, lies inside the rectangle, and leaves the hole out. -/
theorem piece_beside (common : r.intersection s = some t) {piece : Rectangle}
    (member : piece ∈ r.around t) :
    piece.isEmpty = false ∧ piece.Inside r ∧
      (piece.contains x y = true → t.contains x y = false) := by
  -- No edge of a piece is new: each is one of the rectangle or of the hole, so none saturates.
  have span := span_bounds (intersection_eq_some_iff.1 common).1
  have inner := (inside_of_intersection common).1
  have ordered := ordered_of_intersection common
  unfold Inside at *
  rw [contains_eq_false_iff]
  rcases mem_around.1 member with ⟨there, rfl⟩ | ⟨there, rfl⟩ | ⟨there, rfl⟩ | ⟨there, rfl⟩
  · have edges := hasEdges_ofEdges r.x r.y r.right t.y (by omega) there (by omega) (by omega)
    rw [edges.contains_iff, edges.left_eq, edges.top_eq, edges.right_eq, edges.bottom_eq]
    exact ⟨edges.isEmpty, by omega, by omega⟩
  · have edges := hasEdges_ofEdges r.x t.bottom r.right r.bottom (by omega) there (by omega)
      (by omega)
    rw [edges.contains_iff, edges.left_eq, edges.top_eq, edges.right_eq, edges.bottom_eq]
    exact ⟨edges.isEmpty, by omega, by omega⟩
  · have edges := hasEdges_ofEdges r.x t.y t.x t.bottom there (by omega) (by omega) (by omega)
    rw [edges.contains_iff, edges.left_eq, edges.top_eq, edges.right_eq, edges.bottom_eq]
    exact ⟨edges.isEmpty, by omega, by omega⟩
  · have edges := hasEdges_ofEdges t.right t.y r.right t.bottom there (by omega) (by omega)
      (by omega)
    rw [edges.contains_iff, edges.left_eq, edges.top_eq, edges.right_eq, edges.bottom_eq]
    exact ⟨edges.isEmpty, by omega, by omega⟩

/-- A point outside a hole lies above it, below it, to its left or to its right. -/
theorem exists_piece_beside (common : r.intersection s = some t) (inside : r.contains x y = true)
    (outside : t.contains x y = false) : ∃ piece ∈ r.around t, piece.contains x y = true := by
  have span := span_bounds (intersection_eq_some_iff.1 common).1
  have inner := (inside_of_intersection common).1
  have ordered := ordered_of_intersection common
  unfold Inside at inner
  rw [contains_eq_false_iff] at outside
  rw [contains_iff] at inside
  simp only [(hasEdges_intersection common).isEmpty, true_and] at outside
  -- The pieces above and below take the whole width, so the other two need only the rows of the hole.
  by_cases above : y.toInt < t.y.toInt
  · have edges := hasEdges_ofEdges r.x r.y r.right t.y (by omega) (by omega) (by omega) (by omega)
    exact ⟨_, mem_around.2 (.inl ⟨by omega, rfl⟩), edges.contains_iff.2 (by omega)⟩
  by_cases below : t.bottom.toInt ≤ y.toInt
  · have edges := hasEdges_ofEdges r.x t.bottom r.right r.bottom (by omega) (by omega) (by omega)
      (by omega)
    exact ⟨_, mem_around.2 (.inr (.inl ⟨by omega, rfl⟩)), edges.contains_iff.2 (by omega)⟩
  by_cases before : x.toInt < t.x.toInt
  · have edges := hasEdges_ofEdges r.x t.y t.x t.bottom (by omega) (by omega) (by omega) (by omega)
    exact ⟨_, mem_around.2 (.inr (.inr (.inl ⟨by omega, rfl⟩))), edges.contains_iff.2 (by omega)⟩
  · have edges := hasEdges_ofEdges t.right t.y r.right t.bottom (by omega) (by omega) (by omega)
      (by omega)
    exact ⟨_, mem_around.2 (.inr (.inr (.inr ⟨by omega, rfl⟩))), edges.contains_iff.2 (by omega)⟩

/-- Every piece of a difference is a rectangle with points inside the first one. -/
theorem inside_of_mem_subtract {piece : Rectangle} (member : piece ∈ r.subtract s) :
    piece.isEmpty = false ∧ piece.Inside r := by
  unfold subtract at member
  split at member
  next hole common =>
    -- Any point will do, as nothing is asked of the points here.
    have beside := piece_beside (x := 0) (y := 0) common member
    exact ⟨beside.1, beside.2.1⟩
  next =>
    split at member
    · simp at member
    next proper =>
      obtain rfl : piece = r := by simpa using member
      exact ⟨by simpa using proper, .refl _⟩

theorem contains_of_inside (inner : r.Inside s) (proper : s.isEmpty = false)
    (member : r.contains x y = true) : s.contains x y = true := by
  unfold Inside at inner
  rw [contains_iff] at *
  exact ⟨proper, by omega⟩

/-- Some piece of a difference covers a point exactly when `r` does and `s` does not. -/
theorem contains_subtract :
    (∃ piece ∈ r.subtract s, piece.contains x y = true) ↔
      r.contains x y = true ∧ s.contains x y = false := by
  unfold subtract
  split
  next hole common =>
    -- Inside the first rectangle, to be outside the second is to be outside their common part.
    have proper := (intersection_eq_some_iff.1 common).1
    constructor
    · rintro ⟨piece, member, covered⟩
      obtain ⟨_, inner, apart⟩ := piece_beside (x := x) (y := y) common member
      have inR := contains_of_inside inner proper covered
      refine ⟨inR, ?_⟩
      by_contra inS
      rw [Bool.not_eq_false] at inS
      have inHole := (contains_intersection common).2 ⟨inR, inS⟩
      simp [apart covered] at inHole
    · rintro ⟨inR, outS⟩
      apply exists_piece_beside common inR
      by_contra inHole
      rw [Bool.not_eq_false] at inHole
      have inS := ((contains_intersection common).1 inHole).2
      simp [outS] at inS
  next apart =>
    cases empty : r.isEmpty with
    | true => simp [contains_iff, empty]
    | false =>
      simp only [Bool.false_eq_true, if_false, List.mem_singleton, exists_eq_left]
      exact ⟨fun inR => ⟨inR, not_contains_of_intersection apart inR⟩, fun both => both.1⟩

/-! ### Joining in the plane -/

/-- The edges of the plane. -/
theorem inside_plane_iff : r.Inside plane ↔ -1073741824 ≤ r.x.toInt ∧ -1073741824 ≤ r.y.toInt ∧
    r.right.toInt ≤ 1073741823 ∧ r.bottom.toInt ≤ 1073741823 := by
  have left : plane.x.toInt = -1073741824 := by decide
  have top : plane.y.toInt = -1073741824 := by decide
  have right : plane.right.toInt = 1073741823 := by decide
  have bottom : plane.bottom.toInt = 1073741823 := by decide
  rw [Inside, left, top, right, bottom]

/-- In the plane no edge saturates. -/
theorem hasEdges_of_inside_plane (proper : r.isEmpty = false) (inner : r.Inside plane) :
    r.HasEdges r.x.toInt r.y.toInt r.right.toInt r.bottom.toInt := by
  rw [inside_plane_iff] at inner
  have extents := isEmpty_eq_false_iff.1 proper
  have right := r.toInt_right
  have bottom := r.toInt_bottom
  -- The edges lie so far from the ends of the coordinates that the sums are exact.
  exact ⟨rfl, rfl, rfl, rfl, by omega, by omega, by omega, by omega⟩

/-- The rectangle between edges that enclose the points of two rectangles, and no others, covers what
they cover together. -/
theorem contains_spanning {l₁ t₁ r₁ b₁ l₂ t₂ r₂ b₂ : Int} (edgesR : r.HasEdges l₁ t₁ r₁ b₁)
    (edgesS : s.HasEdges l₂ t₂ r₂ b₂) {left top right bottom : Int32}
    (wide : left.toInt < right.toInt) (high : top.toInt < bottom.toInt)
    (columns : -1073741824 ≤ left.toInt ∧ right.toInt ≤ 1073741823)
    (rows : -1073741824 ≤ top.toInt ∧ bottom.toInt ≤ 1073741823)
    (joint : ∀ x y : Int, (left.toInt ≤ x ∧ x < right.toInt ∧ top.toInt ≤ y ∧ y < bottom.toInt) ↔
      (l₁ ≤ x ∧ x < r₁ ∧ t₁ ≤ y ∧ y < b₁) ∨ (l₂ ≤ x ∧ x < r₂ ∧ t₂ ≤ y ∧ y < b₂)) :
    let whole := ofEdges left top right bottom
    whole.isEmpty = false ∧ whole.Inside plane ∧ ∀ x y, whole.contains x y = true ↔
      r.contains x y = true ∨ s.contains x y = true := by
  have edges := hasEdges_ofEdges left top right bottom wide high (by omega) (by omega)
  refine ⟨edges.isEmpty, ?_, ?_⟩
  · rw [inside_plane_iff, edges.left_eq, edges.top_eq, edges.right_eq, edges.bottom_eq]
    omega
  · intro x y
    rw [edges.contains_iff, edgesR.contains_iff, edgesS.contains_iff]
    exact joint x.toInt y.toInt

/-- Two neighbours in the plane cover together what the joined rectangle covers. -/
theorem contains_merge? (someR : r.isEmpty = false) (someS : s.isEmpty = false)
    (innerR : r.Inside plane) (innerS : s.Inside plane) (joined : r.merge? s = some t) :
    t.isEmpty = false ∧ t.Inside plane ∧ ∀ x y, t.contains x y = true ↔
      r.contains x y = true ∨ s.contains x y = true := by
  have edgesR := hasEdges_of_inside_plane someR innerR
  have edgesS := hasEdges_of_inside_plane someS innerS
  have spanning {left top right bottom : Int32} :=
    @contains_spanning r s _ _ _ _ _ _ _ _ edgesR edgesS left top right bottom
  rw [inside_plane_iff] at innerR innerS
  have wideR := edgesR.width_eq
  have wideS := edgesS.width_eq
  have highR := edgesR.height_eq
  have highS := edgesS.height_eq
  have := edgesR.wide
  have := edgesR.high
  have := edgesS.wide
  have := edgesS.high
  unfold merge? at joined
  simp only [← Int32.toInt_inj] at joined
  -- The second lies below the first, above it, to its right or to its left.
  split at joined
  · cases joined
    exact spanning (by omega) (by omega) (by omega) (by omega) (by omega)
  split at joined
  · cases joined
    exact spanning (by omega) (by omega) (by omega) (by omega) (by omega)
  split at joined
  · cases joined
    exact spanning (by omega) (by omega) (by omega) (by omega) (by omega)
  split at joined
  · cases joined
    exact spanning (by omega) (by omega) (by omega) (by omega) (by omega)
  · simp at joined

end

end Rectangle

end Compositing
