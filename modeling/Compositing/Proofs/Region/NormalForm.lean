import Compositing.Proofs.Region.Areas
import Mathlib

/-!
# The normal form of regions

Whatever is added, removed or kept, the rectangles of a region do not overlap, stand in order, and
no two of them form one rectangle. Saturated edges do no harm, as long as a region that has some is
not moved. Main statement: `Composed.decomposed`.
-/

namespace Compositing

namespace Rectangle

section

variable {r s : Rectangle} {dx dy : Int32}

/-! ### Two rectangles -/

/-- Rectangles overlap exactly if they have a common point. -/
theorem intersection_eq_none_iff : r.intersection s = none ↔ Disjoint r.points s.points := by
  constructor
  · intro apart
    refine Set.disjoint_left.2 fun p inR inS => ?_
    have outside := not_contains_of_intersection apart inR
    exact Bool.false_ne_true (outside.symm.trans inS)
  · intro apart
    cases common : r.intersection s with
    | none => rfl
    | some t =>
      obtain ⟨corner, -⟩ := (exact_intersection common).exists_corners
      obtain ⟨inR, inS⟩ := (contains_intersection common).1 corner
      exact absurd inS (Set.disjoint_left.1 apart inR)

theorem merge?_eq_none_iff : r.merge? s = none ↔
    ¬(r.x = s.x ∧ r.width = s.width ∧ (r.bottom = s.y ∨ s.bottom = r.y)) ∧
      ¬(r.y = s.y ∧ r.height = s.height ∧ (r.right = s.x ∨ s.right = r.x)) := by
  unfold merge?
  split_ifs <;> grind

/-- It does not matter which of two rectangles is asked whether they form one. -/
theorem merge?_eq_none_comm : r.merge? s = none ↔ s.merge? r = none := by
  simp only [merge?_eq_none_iff, eq_comm (a := r.x), eq_comm (a := r.width), eq_comm (a := r.y),
    eq_comm (a := r.height), or_comm]

/-! ### Moving -/

@[simp] theorem width_translate (r : Rectangle) (dx dy : Int32) :
    (r.translate dx dy).width = r.width := rfl

@[simp] theorem height_translate (r : Rectangle) (dx dy : Int32) :
    (r.translate dx dy).height = r.height := rfl

/-- The corner moves by the offset, and stops at no end of the coordinates. -/
def Shifts (r : Rectangle) (dx dy : Int32) : Prop :=
  (r.translate dx dy).x.toInt = r.x.toInt + dx.toInt ∧
    (r.translate dx dy).y.toInt = r.y.toInt + dy.toInt

instance (r : Rectangle) (dx dy : Int32) : Decidable (r.Shifts dx dy) :=
  inferInstanceAs (Decidable (_ ∧ _))

theorem Shifts.bounds (shifts : r.Shifts dx dy) :
    (-2147483648 ≤ r.x.toInt + dx.toInt ∧ r.x.toInt + dx.toInt < 2147483648) ∧
      -2147483648 ≤ r.y.toInt + dy.toInt ∧ r.y.toInt + dy.toInt < 2147483648 := by
  rw [← shifts.1, ← shifts.2]
  exact ⟨⟨Int32.le_toInt _, Int32.toInt_lt _⟩, Int32.le_toInt _, Int32.toInt_lt _⟩

/-- Where no edge saturates, one of two rectangles without a common point ends before the other
begins. -/
theorem Exact.beside (exactR : r.Exact) (exactS : s.Exact) (apart : Disjoint r.points s.points) :
    r.right.toInt ≤ s.x.toInt ∨ s.right.toInt ≤ r.x.toInt ∨ r.bottom.toInt ≤ s.y.toInt ∨
      s.bottom.toInt ≤ r.y.toInt := by
  by_contra overlap
  have corner : (⟨max r.x s.x, max r.y s.y⟩ : Point) ∈ r.points ∩ s.points := by
    have := exactR.wide
    have := exactR.high
    have := exactS.wide
    have := exactS.high
    rw [Set.mem_inter_iff, exactR.mem_points_iff, exactS.mem_points_iff, toInt_max, toInt_max]
    omega
  exact Set.disjoint_left.1 apart corner.1 corner.2

/-- The edges of a rectangle that moved. The far ones may have saturated. -/
theorem Exact.edges_translate (exact : r.Exact) (shifts : r.Shifts dx dy) :
    (r.translate dx dy).right.toInt = min (r.right.toInt + dx.toInt) 2147483647 ∧
      (r.translate dx dy).bottom.toInt = min (r.bottom.toInt + dy.toInt) 2147483647 := by
  have := exact.width_eq
  have := exact.height_eq
  have := exact.wide
  have := exact.high
  have := shifts.bounds
  rw [toInt_right, toInt_bottom, shifts.1, shifts.2, width_translate, height_translate]
  omega

variable (exactR : r.Exact) (exactS : s.Exact) (shiftsR : r.Shifts dx dy)
  (shiftsS : s.Shifts dx dy) (apart : Disjoint r.points s.points)

include exactR exactS shiftsR shiftsS apart

theorem disjoint_translate :
    Disjoint (r.translate dx dy).points (s.translate dx dy).points := by
  have beside := exactR.beside exactS apart
  have edgesR := exactR.edges_translate shiftsR
  have edgesS := exactS.edges_translate shiftsS
  refine Set.disjoint_left.2 fun p inR inS => ?_
  have boundsR := (contains_iff.1 inR).2
  have boundsS := (contains_iff.1 inS).2
  rw [shiftsR.1, shiftsR.2, edgesR.1, edgesR.2] at boundsR
  rw [shiftsS.1, shiftsS.2, edgesS.1, edgesS.2] at boundsS
  omega

/-- Two rectangles that formed none form none when they moved. -/
theorem merge?_translate (alone : r.merge? s = none) :
    (r.translate dx dy).merge? (s.translate dx dy) = none := by
  have beside := exactR.beside exactS apart
  have edgesR := exactR.edges_translate shiftsR
  have edgesS := exactS.edges_translate shiftsS
  have := exactR.wide
  have := exactR.high
  have := exactS.wide
  have := exactS.high
  have := exactR.width_eq
  have := exactR.height_eq
  have := exactS.width_eq
  have := exactS.height_eq
  have := shiftsR.bounds
  have := shiftsS.bounds
  rw [merge?_eq_none_iff] at alone ⊢
  simp only [← Int32.toInt_inj, edgesR, edgesS, shiftsR.1, shiftsR.2, shiftsS.1, shiftsS.2,
    width_translate, height_translate] at alone ⊢
  -- An edge that stops at the end of the coordinates meets no corner: that would lie inside.
  refine ⟨?_, ?_⟩
  · rintro ⟨columns, wide, below | above⟩
    · exact alone.1 ⟨by omega, wide, .inl (by omega)⟩
    · exact alone.1 ⟨by omega, wide, .inr (by omega)⟩
  · rintro ⟨rows, high, after | before⟩
    · exact alone.2 ⟨by omega, high, .inl (by omega)⟩
    · exact alone.2 ⟨by omega, high, .inr (by omega)⟩

end

end Rectangle

namespace Region

/-! ### What joining and sorting leave -/

/-- No two of the rectangles form one. -/
def Coalesced (rs : List Rectangle) : Prop := rs.Pairwise fun r s => r.merge? s = none

/-- The rectangles stand by row, and in a row by column. -/
def Ordered (rs : List Rectangle) : Prop := rs.Pairwise fun r s => before r s = true

theorem absorb?_eq_none_iff {r : Rectangle} {rs : List Rectangle} :
    absorb? r rs = none ↔ ∀ s ∈ rs, r.merge? s = none := by
  induction rs with
  | nil => simp [absorb?]
  | cons s rest ih =>
    rw [absorb?, List.forall_mem_cons, ← ih]
    cases r.merge? s <;> simp

/-- The search for two neighbours fails only if there are none. -/
theorem joinOnce?_eq_none_iff {rs : List Rectangle} : joinOnce? rs = none ↔ Coalesced rs := by
  induction rs with
  | nil => simp [joinOnce?, Coalesced]
  | cons r rest ih =>
    rw [joinOnce?, Coalesced, List.pairwise_cons, ← absorb?_eq_none_iff, ← Coalesced, ← ih]
    cases absorb? r rest <;> simp

theorem coalesced_coalesce (rs : List Rectangle) : Coalesced (coalesce rs) := by
  fun_induction coalesce rs with
  | case1 rs next _ _ ih => exact ih
  | case2 rs found => exact joinOnce?_eq_none_iff.1 found

theorem before_iff {r s : Rectangle} : before r s = true ↔
    r.y.toInt < s.y.toInt ∨ (r.y.toInt = s.y.toInt ∧ r.x.toInt ≤ s.x.toInt) := by
  simp [before, Int32.lt_iff_toInt_lt, Int32.le_iff_toInt_le, Int32.toInt_inj]

theorem coalesced_normalize (rs : List Rectangle) : Coalesced (normalize rs) :=
  ((perm_normalize rs).pairwise_iff Rectangle.merge?_eq_none_comm.1).2 (coalesced_coalesce _)

theorem ordered_normalize (rs : List Rectangle) : Ordered (normalize rs) := by
  refine List.pairwise_mergeSort ?_ ?_ _
  · intro r s t
    simp only [before_iff]
    omega
  · intro r s
    rw [Bool.or_eq_true, before_iff, before_iff]
    omega

/-- The form in which regions are stored. -/
structure Normal (rs : List Rectangle) : Prop where
  apart : Apart rs
  ordered : Ordered rs
  coalesced : Coalesced rs

theorem normal_normalize {rs : List Rectangle} (apart : Apart rs) : Normal (normalize rs) :=
  ⟨apart_normalize apart, ordered_normalize rs, coalesced_normalize rs⟩

/-! ### Operations -/

section

variable {g h : Region}

theorem insertRect_normal (normal : Normal g.rects) (r : Rectangle) :
    Normal (g.insertRect r).rects := by
  unfold insertRect
  split
  · exact normal
  · exact normal_normalize (apart_append_uncovered normal.apart r)

theorem eraseRect_normal (normal : Normal g.rects) (cut : Rectangle) :
    Normal (g.eraseRect cut).rects := by
  unfold eraseRect
  split
  · exact normal
  · exact normal_normalize (apart_flatMap_subtract normal.apart cut)

theorem intersection_normal (normal : Normal g.rects) (normal' : Normal h.rects) :
    Normal (g.intersection h).rects :=
  normal_normalize (apart_overlaps normal.apart normal'.apart)

theorem clip_normal (normal : Normal g.rects) (r : Rectangle) : Normal (g.clip r).rects := by
  rw [clip_eq_intersection]
  exact normal_normalize (apart_overlaps normal.apart (List.pairwise_singleton _ r))

/-- Each rectangle is cut against those added before it, so they need not be apart. -/
theorem apart_addAll {rs : List Rectangle} (apart : Apart rs) (added : List Rectangle) :
    Apart (added.foldl (fun rs r => rs ++ uncovered rs r) rs) := by
  induction added generalizing rs with
  | nil => exact apart
  | cons r rest ih => exact ih (apart_append_uncovered apart r)

theorem union_normal (normal : Normal g.rects) (h : Region) : Normal (g.union h).rects :=
  normal_normalize (apart_addAll normal.apart h.rects)

theorem difference_normal (normal : Normal g.rects) (h : Region) :
    Normal (g.difference h).rects := by
  unfold difference
  induction h.rects generalizing g with
  | nil => exact normal
  | cons cut rest ih => exact ih (eraseRect_normal normal cut)

/-- Moving keeps the form if no edge saturates before and no corner afterwards. -/
theorem translate_normal {dx dy : Int32} (normal : Normal g.rects)
    (free : ∀ r ∈ g.rects, r.Exact ∧ r.Shifts dx dy) : Normal (g.translate dx dy).rects := by
  obtain ⟨apart, ordered, coalesced⟩ := normal
  refine ⟨List.pairwise_map.2 ?_, List.pairwise_map.2 ?_, List.pairwise_map.2 ?_⟩
  · refine apart.imp_of_mem fun {r s} inR inS disjoint => ?_
    obtain ⟨⟨exactR, shiftsR⟩, exactS, shiftsS⟩ := And.intro (free r inR) (free s inS)
    exact Rectangle.disjoint_translate exactR exactS shiftsR shiftsS disjoint
  · refine ordered.imp_of_mem fun {r s} inR inS order => ?_
    obtain ⟨⟨-, shiftsR⟩, -, shiftsS⟩ := And.intro (free r inR) (free s inS)
    rw [before_iff] at order ⊢
    rw [shiftsR.1, shiftsR.2, shiftsS.1, shiftsS.2]
    omega
  · refine (apart.and coalesced).imp_of_mem fun {r s} inR inS ⟨disjoint, alone⟩ => ?_
    obtain ⟨⟨exactR, shiftsR⟩, exactS, shiftsS⟩ := And.intro (free r inR) (free s inS)
    exact Rectangle.merge?_translate exactR exactS shiftsR shiftsS disjoint alone

end

/-! ### Sequences of operations -/

/-- The regions that sequences of operations lead to, whatever they are applied to. A region is moved
only if none of its rectangles is empty or has a saturated edge, and none of their corners saturates.
Copying gives a region that is there already, and clearing the empty one. -/
inductive Composed : Region → Prop
  | empty : Composed empty
  | plane : Composed plane
  | insertRect {g : Region} (before : Composed g) (r : Rectangle) : Composed (g.insertRect r)
  | eraseRect {g : Region} (before : Composed g) (cut : Rectangle) : Composed (g.eraseRect cut)
  | clip {g : Region} (before : Composed g) (r : Rectangle) : Composed (g.clip r)
  | union {g h : Region} (first : Composed g) (second : Composed h) : Composed (g.union h)
  | difference {g h : Region} (first : Composed g) (second : Composed h) :
      Composed (g.difference h)
  | intersection {g h : Region} (first : Composed g) (second : Composed h) :
      Composed (g.intersection h)
  | translate {g : Region} (before : Composed g) (dx dy : Int32)
      (free : ∀ r ∈ g.rects, r.Exact ∧ r.Shifts dx dy) : Composed (g.translate dx dy)

theorem Composed.normal {g : Region} (composed : g.Composed) : Normal g.rects := by
  induction composed with
  | empty => exact ⟨List.Pairwise.nil, List.Pairwise.nil, List.Pairwise.nil⟩
  | plane =>
    exact ⟨List.pairwise_singleton _ _, List.pairwise_singleton _ _, List.pairwise_singleton _ _⟩
  | insertRect _ r ih => exact insertRect_normal ih r
  | eraseRect _ cut ih => exact eraseRect_normal ih cut
  | clip _ r ih => exact clip_normal ih r
  | @union _ h _ _ ih _ => exact union_normal ih h
  | @difference _ h _ _ ih _ => exact difference_normal ih h
  | intersection _ _ ih ih' => exact intersection_normal ih ih'
  | translate _ _ _ free ih => exact translate_normal ih free

/-- No two rectangles of a region overlap or form one rectangle, and they stand by row and then by
column. -/
theorem Composed.decomposed {g : Region} (composed : g.Composed) :
    (g.rects.Pairwise fun r s => r.intersection s = none ∧ s.intersection r = none) ∧
    (g.rects.Pairwise fun r s => r.y < s.y ∨ (r.y = s.y ∧ r.x ≤ s.x)) ∧
    g.rects.Pairwise fun r s => r.merge? s = none ∧ s.merge? r = none := by
  obtain ⟨apart, ordered, coalesced⟩ := composed.normal
  refine ⟨apart.imp fun {r s} disjoint => ?_, ordered.imp fun {r s} order => ?_,
    coalesced.imp fun {r s} alone => ⟨alone, Rectangle.merge?_eq_none_comm.1 alone⟩⟩
  · rw [Rectangle.intersection_eq_none_iff, Rectangle.intersection_eq_none_iff]
    exact ⟨disjoint, disjoint.symm⟩
  · simpa [before] using order

/-- Two rectangles at the right end of the coordinates, one of them without a point as its edge
saturates, next to one that overlaps neither. What is inside the coordinates is kept, and moved. -/
theorem decomposed_corner :
    let g := (((empty.insertRect ⟨2147483642, 0, 10, 1⟩).insertRect ⟨2147483647, 0, 5, 2⟩).insertRect
      ⟨2147483640, 1, 4, 4⟩).clip ⟨2147483600, -5, 45, 10⟩
    let moved := g.translate (-100) 7
    g.rects = [⟨2147483642, 0, 3, 1⟩, ⟨2147483640, 1, 4, 4⟩] ∧
      moved.rects.Pairwise fun r s => r.intersection s = none ∧ s.intersection r = none := by
  intro g moved
  have shape : g.rects = [⟨2147483642, 0, 3, 1⟩, ⟨2147483640, 1, 4, 4⟩] := by cbv
  have free : ∀ r ∈ g.rects, r.Exact ∧ r.Shifts (-100) 7 := by
    rw [shape]
    decide
  have composed : moved.Composed :=
    ((((Composed.empty.insertRect _).insertRect _).insertRect _).clip _).translate (-100) 7 free
  exact ⟨shape, composed.decomposed.1⟩

/-- A rectangle whose edge saturated is longer when it moved back from the end of the coordinates. It
then overlaps one that began where it was cut short, although nothing saturated on the way. -/
theorem translate_overlaps :
    let g := (ofRect ⟨2147483642, 0, 10, 1⟩).insertRect ⟨2147483647, 0, 5, 2⟩
    (∀ r ∈ g.rects, r.Shifts (-100) 0 ∧ (r.translate (-100) 0).Exact) ∧
      ¬(g.translate (-100) 0).rects.Pairwise fun r s => r.intersection s = none := by
  intro g
  have shape : g.rects = [⟨2147483642, 0, 10, 1⟩, ⟨2147483647, 0, 5, 2⟩] := by cbv
  rw [translate, shape]
  decide

end Region

end Compositing
