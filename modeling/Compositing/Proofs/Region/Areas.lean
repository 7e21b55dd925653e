import Compositing.Proofs.Region.Spans
import Mathlib.Data.FinEnum
import Mathlib.Data.Int.ConditionallyCompleteOrder
import Mathlib.Data.Int.Interval
import Mathlib.Data.Set.Card
import Mathlib.Order.CompletePartialOrder

/-!
# Areas of regions

Regions are compared by their areas. That is a comparison of their points if no rectangle of a
region overlaps another, which holds however the region was built, and if each rectangle is as large
as it says, which holds after clipping. Main statements: `counted_iff`, when an area counts points,
and `sameCoverage_iff_counted`, what the comparison tells.
-/

namespace Compositing

instance : Finite Point :=
  .of_injective (fun p => (p.x, p.y)) fun p q same => by
    obtain ⟨x, y⟩ := p
    obtain ⟨x', y'⟩ := q
    simpa using same

namespace Rectangle

/-- The rectangle has points, and neither of its far edges saturated. -/
def Exact (r : Rectangle) : Prop :=
  r.HasEdges r.x.toInt r.y.toInt r.right.toInt r.bottom.toInt

theorem HasEdges.exact {r : Rectangle} {left top right bottom : Int}
    (edges : r.HasEdges left top right bottom) : r.Exact := by
  have same := edges
  rwa [← edges.left_eq, ← edges.top_eq, ← edges.right_eq, ← edges.bottom_eq] at same

theorem exact_iff {r : Rectangle} : r.Exact ↔ r.isEmpty = false ∧
    r.x.toInt + r.width.toInt ≤ 2147483647 ∧ r.y.toInt + r.height.toInt ≤ 2147483647 := by
  have right := r.toInt_right
  have bottom := r.toInt_bottom
  have := r.right.toInt_lt
  have := r.bottom.toInt_lt
  constructor
  · intro exact
    have := exact.width_eq
    have := exact.height_eq
    exact ⟨exact.isEmpty, by omega, by omega⟩
  · rintro ⟨proper, columns, rows⟩
    have extents := isEmpty_eq_false_iff.1 proper
    have := r.x.le_toInt
    have := r.y.le_toInt
    exact ⟨rfl, rfl, rfl, rfl, by omega, by omega, by omega, by omega⟩

instance (r : Rectangle) : Decidable r.Exact := decidable_of_iff _ exact_iff.symm

section

variable {r s t : Rectangle}

theorem mem_points_iff (proper : r.isEmpty = false) {p : Point} : p ∈ r.points ↔
    r.x.toInt ≤ p.x.toInt ∧ p.x.toInt < r.right.toInt ∧ r.y.toInt ≤ p.y.toInt ∧
      p.y.toInt < r.bottom.toInt := by
  change r.contains p.x p.y = true ↔ _
  simp only [contains_iff, proper, true_and]

theorem Exact.mem_points_iff (exact : r.Exact) {p : Point} : p ∈ r.points ↔
    r.x.toInt ≤ p.x.toInt ∧ p.x.toInt < r.right.toInt ∧ r.y.toInt ≤ p.y.toInt ∧
      p.y.toInt < r.bottom.toInt := Rectangle.mem_points_iff exact.isEmpty

/-- Between edges in order there is a rectangle none of whose edges saturates, even if it ends
early. -/
theorem exact_ofEdges {left top right bottom : Int32} (wide : left.toInt < right.toInt)
    (high : top.toInt < bottom.toInt) : (ofEdges left top right bottom).Exact := by
  have width : (ofEdges left top right bottom).width.toInt =
      max (-2147483648) (min (right.toInt - left.toInt) 2147483647) := toInt_clampCoordinate _
  have height : (ofEdges left top right bottom).height.toInt =
      max (-2147483648) (min (bottom.toInt - top.toInt) 2147483647) := toInt_clampCoordinate _
  have := right.toInt_lt
  have := bottom.toInt_lt
  rw [exact_iff, isEmpty_eq_false_iff, width, height,
    show (ofEdges left top right bottom).x = left from rfl,
    show (ofEdges left top right bottom).y = top from rfl]
  omega

theorem exact_intersection (common : r.intersection s = some t) : t.Exact :=
  (hasEdges_intersection common).exact

/-- The points at the two ends of a rectangle. -/
theorem Exact.exists_corners (exact : r.Exact) :
    (⟨r.x, r.y⟩ : Point) ∈ r.points ∧
      ∃ p ∈ r.points, p.x.toInt = r.right.toInt - 1 ∧ p.y.toInt = r.bottom.toInt - 1 := by
  have wide := exact.wide
  have high := exact.high
  have := r.x.le_toInt
  have := r.y.le_toInt
  have := r.right.toInt_lt
  have := r.bottom.toInt_lt
  obtain ⟨x, column⟩ := exists_toInt_eq (n := r.right.toInt - 1) (by omega) (by omega)
  obtain ⟨y, row⟩ := exists_toInt_eq (n := r.bottom.toInt - 1) (by omega) (by omega)
  refine ⟨exact.mem_points_iff.2 ⟨le_refl _, wide, le_refl _, high⟩, ⟨x, y⟩, ?_, column, row⟩
  rw [exact.mem_points_iff, column, row]
  omega

/-- The integer coordinates of a point. -/
def coordinates (p : Point) : Int × Int := (p.x.toInt, p.y.toInt)

theorem coordinates_injective : Function.Injective coordinates := by
  intro p q same
  obtain ⟨x, y⟩ := p
  obtain ⟨x', y'⟩ := q
  simpa [coordinates, Int32.toInt_inj] using same

theorem image_coordinates (proper : r.isEmpty = false) : coordinates '' r.points =
    ↑(Finset.Ico r.x.toInt r.right.toInt ×ˢ Finset.Ico r.y.toInt r.bottom.toInt) := by
  ext ⟨i, j⟩
  simp only [Set.mem_image, mem_points_iff proper, Finset.coe_product, Set.mem_prod,
    Finset.coe_Ico, Set.mem_Ico]
  constructor
  · rintro ⟨p, inside, same⟩
    obtain ⟨rfl, rfl⟩ : p.x.toInt = i ∧ p.y.toInt = j := by simpa [coordinates] using same
    omega
  · rintro ⟨columns, rows⟩
    have := r.x.le_toInt
    have := r.y.le_toInt
    have := r.right.toInt_lt
    have := r.bottom.toInt_lt
    obtain ⟨x, rfl⟩ := exists_toInt_eq (n := i) (by omega) (by omega)
    obtain ⟨y, rfl⟩ := exists_toInt_eq (n := j) (by omega) (by omega)
    exact ⟨⟨x, y⟩, ⟨columns.1, columns.2, rows.1, rows.2⟩, rfl⟩

/-- The number of points is the product of the distances between the edges, wherever these are. -/
theorem ncard_points (proper : r.isEmpty = false) : (r.points.ncard : Int) =
    (r.right.toInt - r.x.toInt) * (r.bottom.toInt - r.y.toInt) := by
  have span := span_bounds proper
  rw [← Set.ncard_image_of_injective r.points coordinates_injective, image_coordinates proper,
    Set.ncard_coe_finset, Finset.card_product, Int.card_Ico, Int.card_Ico]
  push_cast
  rw [Int.toNat_of_nonneg (by omega), Int.toNat_of_nonneg (by omega)]

/-- The distances between the edges are at most the extents. -/
theorem span_le_extents (proper : r.isEmpty = false) :
    r.right.toInt - r.x.toInt ≤ r.width.toInt ∧ r.bottom.toInt - r.y.toInt ≤ r.height.toInt := by
  have extents := isEmpty_eq_false_iff.1 proper
  have right := r.toInt_right
  have bottom := r.toInt_bottom
  have := r.x.le_toInt
  have := r.y.le_toInt
  omega

/-- A rectangle has no more points than its area says. -/
theorem ncard_points_le_area (r : Rectangle) : (r.points.ncard : Int) ≤ r.area := by
  cases empty : r.isEmpty with
  | true => simp [Region.points_eq_empty empty, area, empty]
  | false =>
    have span := span_bounds empty
    have inner := span_le_extents empty
    rw [ncard_points empty, area, empty]
    exact Int.mul_le_mul inner.1 inner.2 (by omega) (by omega)

/-- The area counts the points exactly if no edge saturated. -/
theorem area_eq_ncard_iff :
    r.area = (r.points.ncard : Int) ↔ (r.isEmpty = false → r.Exact) := by
  cases empty : r.isEmpty with
  | true => simp [Region.points_eq_empty empty, area, empty]
  | false =>
    have extents := isEmpty_eq_false_iff.1 empty
    have span := span_bounds empty
    have inner := span_le_extents empty
    have edges : r.Exact ↔ r.right.toInt - r.x.toInt = r.width.toInt ∧
        r.bottom.toInt - r.y.toInt = r.height.toInt :=
      ⟨fun exact => ⟨exact.width_eq.symm, exact.height_eq.symm⟩, fun same =>
        ⟨rfl, rfl, rfl, rfl, by omega, by omega, by omega, by omega⟩⟩
    simp only [forall_const, edges]
    rw [ncard_points empty, area, empty]
    constructor
    · intro same
      -- A product of smaller factors is smaller, as no factor of the area is zero.
      constructor
      · by_contra differ
        have less := Int.mul_lt_mul_of_pos_right
          (show r.right.toInt - r.x.toInt < r.width.toInt by omega) extents.2
        have := Int.mul_le_mul_of_nonneg_left inner.2
          (show 0 ≤ r.right.toInt - r.x.toInt by omega)
        simp at same
        omega
      · by_contra differ
        have less := Int.mul_lt_mul_of_pos_left
          (show r.bottom.toInt - r.y.toInt < r.height.toInt by omega) extents.1
        have := Int.mul_le_mul_of_nonneg_right inner.1
          (show 0 ≤ r.bottom.toInt - r.y.toInt by omega)
        simp at same
        omega
    · rintro ⟨columns, rows⟩
      rw [columns, rows]
      rfl

/-- The points of a rectangle can be counted in a signed 64-bit word. -/
theorem ncard_points_lt (r : Rectangle) : (r.points.ncard : Int) < 9223372036854775808 := by
  cases empty : r.isEmpty with
  | true => simp [Region.points_eq_empty empty]
  | false =>
    have span := span_bounds empty
    rw [ncard_points empty]
    calc (r.right.toInt - r.x.toInt) * (r.bottom.toInt - r.y.toInt)
        ≤ 2147483647 * 2147483647 := Int.mul_le_mul (by omega) (by omega) (by omega) (by omega)
      _ < 9223372036854775808 := by decide

/-! ### Pieces that do not overlap -/

/-- No point lies in two of the pieces beside a hole. -/
theorem around_pairwise (common : r.intersection s = some t) :
    (r.around t).Pairwise fun a b => Disjoint a.points b.points := by
  have ordered := ordered_of_intersection common
  have singleton (present : Bool) (piece : Rectangle) :
      (pieceIf present piece).Pairwise fun a b => Disjoint a.points b.points := by
    cases present <;> simp [pieceIf]
  simp only [around, List.pairwise_append, singleton, List.mem_append, mem_pieceIf, true_and]
  -- The pieces above and below the hole are apart from each other and from those beside it by rows,
  -- and these by columns.
  refine ⟨⟨?_, ?_⟩, ?_⟩
  · rintro a ⟨_, rfl⟩ b ⟨_, rfl⟩
    simp only [Set.disjoint_left, points, Set.mem_ofPred_eq, contains_ofEdges_iff]
    omega
  · rintro a (⟨_, rfl⟩ | ⟨_, rfl⟩) b ⟨_, rfl⟩ <;>
    · simp only [Set.disjoint_left, points, Set.mem_ofPred_eq, contains_ofEdges_iff]
      omega
  · rintro a ((⟨_, rfl⟩ | ⟨_, rfl⟩) | ⟨_, rfl⟩) b ⟨_, rfl⟩ <;>
    · simp only [Set.disjoint_left, points, Set.mem_ofPred_eq, contains_ofEdges_iff]
      omega

theorem subtract_pairwise (r cut : Rectangle) :
    (r.subtract cut).Pairwise fun a b => Disjoint a.points b.points := by
  unfold subtract
  split
  next hole common => exact around_pairwise common
  next => split <;> simp

/-- Two neighbours that are as large as they say form one that is so too. -/
theorem exact_merge? (exactR : r.Exact) (exactS : s.Exact) (joined : r.merge? s = some t) :
    t.Exact := by
  obtain ⟨first, last, which, -, neighbours, rfl⟩ := exists_of_merge?
    (upright_of_isEmpty exactR.isEmpty) (upright_of_isEmpty exactS.isEmpty) joined
  have exacts : first.Exact ∧ last.Exact := by
    rcases which with ⟨rfl, rfl⟩ | ⟨rfl, rfl⟩
    · exact ⟨exactR, exactS⟩
    · exact ⟨exactS, exactR⟩
  have := exacts.1.wide
  have := exacts.1.high
  have := exacts.2.wide
  have := exacts.2.high
  simp only [Above, Before, ← Int32.toInt_inj] at neighbours
  exact exact_ofEdges (by omega) (by omega)

end

end Rectangle

namespace Region

/-! ### Rectangles that do not overlap -/

/-- No point lies in two rectangles of the list. -/
def Apart (rs : List Rectangle) : Prop := rs.Pairwise fun r s => Disjoint r.points s.points

theorem apart_perm {rs ss : List Rectangle} (perm : rs.Perm ss) : Apart rs ↔ Apart ss :=
  perm.pairwise_iff fun {_ _} apart => apart.symm

theorem apart_cons {r : Rectangle} {rs : List Rectangle} :
    Apart (r :: rs) ↔ Disjoint r.points (cover rs) ∧ Apart rs := by
  rw [Apart, List.pairwise_cons]
  refine and_congr_left' ⟨fun apart => ?_, fun apart s member => ?_⟩
  · rw [Set.disjoint_left]
    rintro p inR ⟨s, member, inS⟩
    exact Set.disjoint_left.1 (apart s member) inR inS
  · refine apart.mono_right ?_
    intro p inS
    exact ⟨s, member, inS⟩

theorem apart_append {rs ss : List Rectangle} :
    Apart (rs ++ ss) ↔ Apart rs ∧ Apart ss ∧ Disjoint (cover rs) (cover ss) := by
  induction rs with
  | nil => simp [Apart]
  | cons r rs ih =>
    rw [List.cons_append, apart_cons, apart_cons, ih, cover_append, cover_cons,
      Set.disjoint_union_left, Set.disjoint_union_right]
    tauto

/-- Parts of rectangles that do not overlap do not overlap either. -/
theorem apart_flatMap {rs : List Rectangle} (apart : Apart rs) {f : Rectangle → List Rectangle}
    (parts : ∀ r, Apart (f r)) (inner : ∀ r, cover (f r) ⊆ r.points) : Apart (rs.flatMap f) := by
  refine List.pairwise_flatMap.2 ⟨fun r _ => parts r, List.Pairwise.imp ?_ apart⟩
  intro r s disjoint a inR b inS
  exact disjoint.mono (fun p inA => inner r ⟨a, inR, inA⟩) fun p inB => inner s ⟨b, inS, inB⟩

theorem apart_flatMap_subtract {rs : List Rectangle} (apart : Apart rs) (cut : Rectangle) :
    Apart (rs.flatMap (·.subtract cut)) :=
  apart_flatMap apart (Rectangle.subtract_pairwise · cut) fun r =>
    cover_subtract r cut ▸ Set.sdiff_subset

theorem apart_intersections {ss : List Rectangle} (apart : Apart ss) (r : Rectangle) :
    Apart (ss.filterMap r.intersection) := by
  refine List.pairwise_filterMap.2 (List.Pairwise.imp ?_ apart)
  intro s t disjoint a inS b inT
  exact disjoint.mono (fun p inA => ((Rectangle.contains_intersection inS).1 inA).2)
    fun p inB => ((Rectangle.contains_intersection inT).1 inB).2

theorem cover_intersections (r : Rectangle) (ss : List Rectangle) :
    cover (ss.filterMap r.intersection) = r.points ∩ cover ss := by
  simpa using cover_overlaps [r] ss

theorem apart_overlaps {rs ss : List Rectangle} (first : Apart rs) (second : Apart ss) :
    Apart (rs.flatMap fun r => ss.filterMap r.intersection) :=
  apart_flatMap first (apart_intersections second) fun r =>
    cover_intersections r ss ▸ Set.inter_subset_left

theorem joinOnce?_apart {rs next : List Rectangle} (found : joinOnce? rs = some next)
    (upright : Upright rs) (apart : Apart rs) : Apart next := by
  obtain ⟨r, s, joined, others, merged, before, after⟩ := perm_joinOnce? found
  rw [upright_perm before] at upright
  rw [apart_perm before, apart_cons, apart_cons, cover_cons, Set.disjoint_union_right] at apart
  obtain ⟨⟨-, apartR⟩, apartS, rest⟩ := apart
  rw [apart_perm after, apart_cons]
  refine ⟨?_, rest⟩
  exact (Set.disjoint_union_left.2 ⟨apartR, apartS⟩).mono_left
    (points_merge?_subset (upright r (by simp)) (upright s (by simp)) merged)

theorem apart_normalize {rs : List Rectangle} (apart : Apart rs) : Apart (normalize rs) := by
  rw [apart_perm (perm_normalize rs)]
  refine (?_ : Upright (coalesce (rs.filter (!·.isEmpty))) ∧ _).2
  apply coalesce_invariant (P := fun ss => Upright ss ∧ Apart ss)
  · rintro ss next found ⟨upright, apart⟩
    exact ⟨(joinOnce?_upright found upright).1, joinOnce?_apart found upright apart⟩
  · exact ⟨upright_filter rs, apart.sublist List.filter_sublist⟩

theorem apart_uncovered (rs : List Rectangle) (r : Rectangle) : Apart (uncovered rs r) := by
  unfold uncovered
  have single : Apart [r] := List.pairwise_singleton _ r
  -- As in the induction on what is covered, one rectangle becomes several.
  generalize [r] = pieces at single
  induction rs generalizing pieces with
  | nil => exact single
  | cons s rest ih => exact ih _ (apart_flatMap_subtract single s)

/-- What is appended of a rectangle overlaps nothing that is there. -/
theorem apart_append_uncovered {rs : List Rectangle} (apart : Apart rs) (r : Rectangle) :
    Apart (rs ++ uncovered rs r) := by
  rw [apart_append, cover_uncovered]
  exact ⟨apart, apart_uncovered _ _, Set.disjoint_sdiff_right⟩

/-! ### Regions that clients build -/

/-- A region made by adding and removing rectangles. -/
inductive Built : Region → Prop
  | empty : Built empty
  | insertRect {g : Region} (before : Built g) (r : Rectangle) : Built (g.insertRect r)
  | eraseRect {g : Region} (before : Built g) (cut : Rectangle) : Built (g.eraseRect cut)

theorem insertRect_apart {g : Region} (apart : Apart g.rects) (r : Rectangle) :
    Apart (g.insertRect r).rects := by
  unfold insertRect
  split
  · exact apart
  · exact apart_normalize (apart_append_uncovered apart r)

theorem eraseRect_apart {g : Region} (apart : Apart g.rects) (cut : Rectangle) :
    Apart (g.eraseRect cut).rects := by
  unfold eraseRect
  split
  · exact apart
  · exact apart_normalize (apart_flatMap_subtract apart cut)

theorem Built.apart {g : Region} (built : g.Built) : Apart g.rects := by
  induction built with
  | empty => exact List.Pairwise.nil
  | insertRect _ r ih => exact insertRect_apart ih r
  | eraseRect _ cut ih => exact eraseRect_apart ih cut

/-! ### Clipping -/

/-- Rectangles as large as they say, none of which overlaps another. -/
structure Measured (rs : List Rectangle) : Prop where
  exact : ∀ r ∈ rs, r.Exact
  apart : Apart rs

theorem exact_normalize {rs : List Rectangle} (exact : ∀ r ∈ rs, r.Exact) :
    ∀ r ∈ normalize rs, r.Exact := by
  simp only [(perm_normalize rs).mem_iff]
  apply coalesce_invariant (P := fun ss => ∀ r ∈ ss, r.Exact)
  · intro ss next found exact
    obtain ⟨r, s, joined, others, merged, before, after⟩ := perm_joinOnce? found
    simp only [before.mem_iff] at exact
    intro t member
    rcases List.mem_cons.1 (after.mem_iff.1 member) with rfl | member
    · exact Rectangle.exact_merge? (exact r (by simp)) (exact s (by simp)) merged
    · exact exact t (by simp [member])
  · exact fun r member => exact r (List.mem_filter.1 member).1

theorem exact_overlaps (g h : Region) : ∀ t ∈ g.overlaps h, t.Exact := by
  intro t member
  obtain ⟨r, _, part⟩ := List.mem_flatMap.1 member
  obtain ⟨s, _, common⟩ := List.mem_filterMap.1 part
  exact Rectangle.exact_intersection common

/-- What two regions have in common is exact, however they were built, as long as its points lie
close together. -/
theorem intersection_exact {g h : Region} (narrow : Narrow (g.points ∩ h.points)) :
    (∀ s ∈ (g.intersection h).rects, s.Exact) ∧
      (g.intersection h).points = g.points ∩ h.points := by
  have common : cover (g.overlaps h) = g.points ∩ h.points := by
    rw [overlaps, cover_overlaps, points_eq_cover, points_eq_cover]
  have close : Narrow (cover (g.overlaps h)) := common ▸ narrow
  refine ⟨exact_normalize (exact_overlaps g h), ?_⟩
  rw [← common, ← (cover_normalize _).2 close, points_eq_cover]
  rfl

/-- Clipping to a rectangle is exact as long as the points of the rectangle lie close together. -/
theorem clip_exact (g : Region) {r : Rectangle} (narrow : Narrow r.points) :
    (∀ s ∈ (g.clip r).rects, s.Exact) ∧ (g.clip r).points = g.points ∩ r.points := by
  have single : (Region.mk [r]).points = r.points := by simp [points_eq_cover]
  rw [clip_eq_intersection, ← single]
  exact intersection_exact (narrow.mono (single ▸ Set.inter_subset_right))

theorem clip_apart {g : Region} (apart : Apart g.rects) (r : Rectangle) :
    Apart (g.clip r).rects := by
  rw [clip_eq_intersection]
  exact apart_normalize (apart_overlaps apart (List.pairwise_singleton _ r))

theorem clip_measured {g : Region} (apart : Apart g.rects) {r : Rectangle}
    (narrow : Narrow r.points) : Measured (g.clip r).rects :=
  ⟨(clip_exact g narrow).1, clip_apart apart r⟩

/-! ### Counting points -/

theorem areaOf_cons (r : Rectangle) (rs : List Rectangle) :
    areaOf (r :: rs) = r.area + areaOf rs := rfl

/-- No more points are covered than the areas add up to. -/
theorem ncard_cover_le_areaOf (rs : List Rectangle) : ((cover rs).ncard : Int) ≤ areaOf rs := by
  induction rs with
  | nil => simp [areaOf]
  | cons r rs ih =>
    have both : ((cover (r :: rs)).ncard : Int) ≤ r.points.ncard + (cover rs).ncard := by
      rw [cover_cons]
      exact_mod_cast Set.ncard_union_le _ _
    have := r.ncard_points_le_area
    rw [areaOf_cons]
    omega

/-- The area of rectangles that do not overlap counts the points they cover, exactly if no edge of
one that has an extent saturated. -/
theorem areaOf_eq_ncard_iff {rs : List Rectangle} (apart : Apart rs) :
    areaOf rs = ((cover rs).ncard : Int) ↔ ∀ r ∈ rs, r.isEmpty = false → r.Exact := by
  induction rs with
  | nil => simp [areaOf]
  | cons r rs ih =>
    obtain ⟨beside, rest⟩ := apart_cons.1 apart
    have first := r.ncard_points_le_area
    have others := ncard_cover_le_areaOf rs
    rw [List.forall_mem_cons, ← ih rest, ← Rectangle.area_eq_ncard_iff, cover_cons,
      Set.ncard_union_eq beside, areaOf_cons]
    -- Neither area is too small, so neither makes up for the other.
    push_cast
    omega

theorem areaOf_eq_ncard {rs : List Rectangle} (measured : Measured rs) :
    areaOf rs = ((cover rs).ncard : Int) :=
  (areaOf_eq_ncard_iff measured.apart).2 fun r member _ => measured.exact r member

theorem measured_overlaps {g h : Region} (first : Measured g.rects) (second : Measured h.rects) :
    Measured (g.overlaps h) where
  exact := exact_overlaps g h
  apart := apart_overlaps first.apart second.apart

/-- The overlaps of two regions count their common points, even where their areas do not. -/
theorem areaOf_overlaps {g h : Region} (first : Apart g.rects) (second : Apart h.rects) :
    areaOf (g.overlaps h) = ((g.points ∩ h.points).ncard : Int) := by
  rw [areaOf_eq_ncard ⟨exact_overlaps g h, apart_overlaps first second⟩, overlaps, cover_overlaps,
    points_eq_cover, points_eq_cover]

/-- The area of the region counts its points. -/
def Counted (g : Region) : Prop := g.area = (g.points.ncard : Int)

theorem counted_iff {g : Region} (apart : Apart g.rects) :
    g.Counted ↔ ∀ r ∈ g.rects, r.isEmpty = false → r.Exact := by
  rw [Counted, area, points_eq_cover]
  exact areaOf_eq_ncard_iff apart

theorem ncard_points_le_area (g : Region) : (g.points.ncard : Int) ≤ g.area := by
  rw [points_eq_cover]
  exact ncard_cover_le_areaOf g.rects

/-- The comparison of areas finds two regions the same exactly if they cover the same points and both
areas count them. -/
theorem sameCoverage_iff_counted {g h : Region} (first : Apart g.rects) (second : Apart h.rects) :
    g.sameCoverage h = true ↔ g.points = h.points ∧ g.Counted ∧ h.Counted := by
  rw [sameCoverage, Bool.and_eq_true, beq_iff_eq, beq_iff_eq, areaOf_overlaps first second]
  constructor
  · rintro ⟨same, all⟩
    have atMostG := g.ncard_points_le_area
    have atMostH := h.ncard_points_le_area
    -- The common part is as large as either, so it is all of both.
    have inG : g.points ∩ h.points = g.points :=
      Set.eq_of_subset_of_ncard_le Set.inter_subset_left (by omega)
    have inH : g.points ∩ h.points = h.points :=
      Set.eq_of_subset_of_ncard_le Set.inter_subset_right (by omega)
    refine ⟨inG.symm.trans inH, ?_, ?_⟩
    · rw [Counted, ← all, inG]
    · rw [Counted, ← same, ← all, inH]
  · rintro ⟨same, countedG, countedH⟩
    rw [Counted] at countedG countedH
    rw [countedG, countedH, same, Set.inter_self]
    exact ⟨rfl, rfl⟩

/-- The comparison of areas tells exactly whether two regions cover the same points. -/
theorem sameCoverage_iff {g h : Region} (first : Measured g.rects) (second : Measured h.rects) :
    g.sameCoverage h = true ↔ g.points = h.points := by
  have countedG := (counted_iff first.apart).2 fun r member _ => first.exact r member
  have countedH := (counted_iff second.apart).2 fun r member _ => second.exact r member
  rw [sameCoverage_iff_counted first.apart second.apart]
  exact and_iff_left ⟨countedG, countedH⟩

/-- The area of some of the rectangles is no larger than the number of points that all cover. -/
theorem areaOf_le_ncard {rs part : List Rectangle} (measured : Measured rs)
    (sublist : part.Sublist rs) : areaOf part ≤ ((cover rs).ncard : Int) := by
  have measured' : Measured part :=
    ⟨fun r member => measured.exact r (sublist.mem member), measured.apart.sublist sublist⟩
  have fewer : cover part ⊆ cover rs :=
    fun p ⟨r, member, inside⟩ => ⟨r, sublist.mem member, inside⟩
  rw [areaOf_eq_ncard measured']
  exact_mod_cast Set.ncard_le_ncard fewer

end Region

end Compositing
