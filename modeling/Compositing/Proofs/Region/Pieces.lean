import Compositing.Proofs.Region.NormalForm

/-!
# The pieces of a difference

What is left of a rectangle when another is cut out of it is divided among the pieces, each point going
to one of them. Main statement: `Rectangle.subtract_exact`, for all rectangles, those with a saturated
edge included. Every edge of a piece beside a cut is that of a coordinate, so no piece saturates; but a
rectangle that the cut does not meet is left as it is, `Rectangle.subtract_saturated`.
-/

namespace Compositing

/-- Of entries that exclude each other at most one passes a test. -/
theorem countP_of_apart {α : Type} {test : α → Bool} {entries : List α}
    (apart : entries.Pairwise fun a b => ¬(test a = true ∧ test b = true)) :
    entries.countP test = if entries.any test then 1 else 0 := by
  induction entries with
  | nil => rfl
  | cons a rest ih =>
    obtain ⟨others, apart⟩ := List.pairwise_cons.1 apart
    rw [List.countP_cons, ih apart, List.any_cons]
    cases here : test a with
    | false => simp
    | true =>
      -- The first entry passes, so none of the others does.
      have none_later : rest.any test = false :=
        List.any_eq_false.2 fun b member there => others b member ⟨here, there⟩
      simp [none_later]

namespace Rectangle

section

variable {r s t piece : Rectangle}

/-- The edges between which a piece lies are coordinates, as the hole has points. -/
theorem exact_of_mem_around (common : r.intersection s = some t) (member : piece ∈ r.around t) :
    piece.Exact := by
  have inner := (inside_of_intersection common).1
  have ordered := ordered_of_intersection common
  unfold Inside at inner
  -- Above and below the hole the piece is as wide as the rectangle, beside it as high as the hole.
  rcases mem_around.1 member with ⟨there, rfl⟩ | ⟨there, rfl⟩ | ⟨there, rfl⟩ | ⟨there, rfl⟩
  · exact exact_ofEdges (by omega) there
  · exact exact_ofEdges (by omega) there
  · exact exact_ofEdges there ordered.2
  · exact exact_ofEdges there ordered.2

/-- Only a rectangle that was not cut can leave a piece with a saturated edge, and that is itself. -/
theorem exact_of_mem_subtract (member : piece ∈ r.subtract s) :
    piece.Exact ∨ (r.intersection s = none ∧ piece = r) := by
  unfold subtract at member
  split at member
  next hole common => exact .inl (exact_of_mem_around common member)
  next apart =>
    split at member
    · simp at member
    · exact .inr ⟨apart, by simpa using member⟩

/-- A piece and the rectangle that was cut out have no common point. -/
theorem piece_intersection (member : piece ∈ r.subtract s) : piece.intersection s = none := by
  refine intersection_eq_none_iff.2 (Set.disjoint_left.2 fun p inPiece inS => ?_)
  have outside := (contains_subtract.1 ⟨piece, member, inPiece⟩).2
  exact Bool.false_ne_true (outside.symm.trans inS)

theorem any_contains_subtract (r s : Rectangle) (x y : Int32) :
    (r.subtract s).any (·.contains x y) = (r.contains x y && !s.contains x y) := by
  rw [Bool.eq_iff_iff, List.any_eq_true, contains_subtract, Bool.and_eq_true, Bool.not_eq_true']

/-- A point goes to at most one of the pieces. -/
theorem countP_contains_subtract (r s : Rectangle) (x y : Int32) :
    (r.subtract s).countP (·.contains x y) = if r.contains x y && !s.contains x y then 1 else 0 := by
  have apart : (r.subtract s).Pairwise fun a b => ¬(a.contains x y = true ∧ b.contains x y = true) := by
    refine (subtract_pairwise r s).imp ?_
    rintro a b disjoint ⟨inA, inB⟩
    exact Set.disjoint_left.1 disjoint (show (⟨x, y⟩ : Point) ∈ a.points from inA) inB
  rw [countP_of_apart apart, any_contains_subtract]

theorem intersection_any_contains (r s : Rectangle) (x y : Int32) :
    (r.intersection s).any (·.contains x y) = (r.contains x y && s.contains x y) := by
  cases common : r.intersection s with
  | some t => rw [Option.any_some, Bool.eq_iff_iff, contains_intersection common, Bool.and_eq_true]
  | none =>
    cases inR : r.contains x y with
    | false => simp
    | true => simp [not_contains_of_intersection common inR]

end

/-- Intersection and subtraction are exact for all rectangles. The common part has the points that both
have, and there is none exactly if there are no such points. The pieces of a difference overlap neither
each other nor what was cut out, a point that is left is in one of them and any other point in none, and
no edge of a piece is beyond the coordinates, unless the rectangle was not cut at all. -/
theorem subtract_exact (r s : Rectangle) :
    (∀ x y, (r.intersection s).any (·.contains x y) = (r.contains x y && s.contains x y)) ∧
    (r.intersection s = none ↔ ∀ x y, ¬(r.contains x y = true ∧ s.contains x y = true)) ∧
    ((r.subtract s).Pairwise fun a b => a.intersection b = none ∧ b.intersection a = none) ∧
    (∀ piece ∈ r.subtract s, piece.intersection s = none ∧ s.intersection piece = none) ∧
    (∀ piece ∈ r.subtract s, (piece.x.toInt + piece.width.toInt ≤ 2147483647 ∧
        piece.y.toInt + piece.height.toInt ≤ 2147483647) ∨ (r.intersection s = none ∧ piece = r)) ∧
    ∀ x y, (r.subtract s).countP (·.contains x y) =
      if r.contains x y && !s.contains x y then 1 else 0 := by
  have comm {a b : Rectangle} (apart : a.intersection b = none) : b.intersection a = none :=
    intersection_eq_none_iff.2 (intersection_eq_none_iff.1 apart).symm
  refine ⟨intersection_any_contains r s, ?_, ?_, ?_, ?_, countP_contains_subtract r s⟩
  · rw [intersection_eq_none_iff, Set.disjoint_left]
    exact ⟨fun apart x y both => apart (show (⟨x, y⟩ : Point) ∈ r.points from both.1) both.2,
      fun apart p inR inS => apart p.x p.y ⟨inR, inS⟩⟩
  · refine (subtract_pairwise r s).imp fun disjoint => ?_
    have apart := intersection_eq_none_iff.2 disjoint
    exact ⟨apart, comm apart⟩
  · intro piece member
    have apart := piece_intersection member
    exact ⟨apart, comm apart⟩
  · intro piece member
    exact (exact_of_mem_subtract member).imp_left fun exact => (exact_iff.1 exact).2

/-- A hole in a rectangle whose right edge saturates. The pieces end at the last column of the
coordinates, and one of them has the corner. -/
theorem subtract_exact_hole :
    let r : Rectangle := ⟨2147483000, 0, 1000, 10⟩
    let s : Rectangle := ⟨2147483100, 2, 50, 3⟩
    r.subtract s = [⟨2147483000, 0, 647, 2⟩, ⟨2147483000, 5, 647, 5⟩, ⟨2147483000, 2, 100, 3⟩,
      ⟨2147483150, 2, 497, 3⟩] ∧
    (∀ piece ∈ r.subtract s, piece.x.toInt + piece.width.toInt ≤ 2147483647) ∧
    (r.subtract s).countP (·.contains 2147483646 9) = 1 := by
  intro r s
  obtain ⟨-, -, -, -, edges, divided⟩ := subtract_exact r s
  refine ⟨by decide, fun piece member => ?_, (divided 2147483646 9).trans (by decide)⟩
  have met : r.intersection s ≠ none := by decide
  exact (edges piece member).elim And.left fun uncut => absurd uncut.1 met

/-- A rectangle that ends beyond the coordinates is left as it is by a cut elsewhere. -/
theorem subtract_saturated :
    let r : Rectangle := ⟨2147483640, 0, 100, 1⟩
    let s : Rectangle := ⟨0, 0, 1, 1⟩
    ¬∀ piece ∈ r.subtract s, piece.x.toInt + piece.width.toInt ≤ 2147483647 ∧
      piece.y.toInt + piece.height.toInt ≤ 2147483647 := by
  decide

end Rectangle

end Compositing
