import Compositing.Proofs.Geometry.Covering
import Compositing.Region
import Mathlib.Data.Set.Lattice
import Mathlib.Logic.Function.Basic

/-!
# Regions as sets of points

Every operation on regions acts on the covered points as its name says, as long as what is added lies
in the plane; what is removed or kept may be any rectangle. Main statement: `contains_edits`, for all
sequences of operations on any number of regions.

The proofs carry one invariant, `InPlane`: stored rectangles have points and lie in the plane, so
joining neighbours never meets a saturated edge. That the rectangles do not overlap is not needed.
-/

namespace Compositing.Region

/-- The points that some rectangle of a list covers. -/
def cover (rs : List Rectangle) : Set Point := {p | ∃ r ∈ rs, p ∈ r.points}

/-- The points of a region. -/
def points (g : Region) : Set Point := {p | g.contains p.x p.y}

/-- Every rectangle has points and lies in the plane. -/
def InPlane (rs : List Rectangle) : Prop :=
  ∀ r ∈ rs, r.isEmpty = false ∧ r.Inside Rectangle.plane

theorem points_eq_cover (g : Region) : g.points = cover g.rects := by
  ext p
  simp [points, cover, contains, Rectangle.points]

@[simp] theorem cover_nil : cover [] = ∅ := by
  ext p
  simp [cover]

@[simp] theorem cover_cons (r : Rectangle) (rs : List Rectangle) :
    cover (r :: rs) = r.points ∪ cover rs := by
  ext p
  simp [cover]

@[simp] theorem cover_append (rs ss : List Rectangle) : cover (rs ++ ss) = cover rs ∪ cover ss := by
  ext p
  simp [cover, or_and_right, exists_or]

theorem cover_flatMap (f : Rectangle → List Rectangle) (rs : List Rectangle) :
    cover (rs.flatMap f) = {p | ∃ r ∈ rs, p ∈ cover (f r)} := by
  ext p
  simp only [cover, List.mem_flatMap, Set.mem_ofPred_eq]
  constructor
  · rintro ⟨piece, ⟨r, member, inner⟩, covered⟩
    exact ⟨r, member, piece, inner, covered⟩
  · rintro ⟨r, member, piece, inner, covered⟩
    exact ⟨piece, ⟨r, member, inner⟩, covered⟩

theorem cover_perm {rs ss : List Rectangle} (perm : rs.Perm ss) : cover rs = cover ss := by
  ext p
  simp [cover, perm.mem_iff]

theorem inPlane_perm {rs ss : List Rectangle} (perm : rs.Perm ss) : InPlane rs ↔ InPlane ss := by
  simp [InPlane, perm.mem_iff]

/-! ### Rectangles as sets of points -/

theorem points_eq_empty {r : Rectangle} (empty : r.isEmpty = true) : r.points = ∅ := by
  ext p
  simp [Rectangle.points, Rectangle.contains_iff, empty]

theorem cover_subtract (r cut : Rectangle) : cover (r.subtract cut) = r.points \ cut.points := by
  ext p
  simpa [cover, Rectangle.points] using
    Rectangle.contains_subtract (r := r) (s := cut) (x := p.x) (y := p.y)

theorem cover_flatMap_subtract (rs : List Rectangle) (cut : Rectangle) :
    cover (rs.flatMap (·.subtract cut)) = cover rs \ cut.points := by
  rw [cover_flatMap]
  ext p
  simp only [cover_subtract]
  simp only [cover, Set.mem_ofPred_eq, Set.mem_sdiff]
  constructor
  · rintro ⟨r, member, inR, outside⟩
    exact ⟨⟨r, member, inR⟩, outside⟩
  · rintro ⟨⟨r, member, inR⟩, outside⟩
    exact ⟨r, member, inR, outside⟩

/-- A rectangle in the plane that is not empty covers its own corner. -/
theorem corner_mem_points {r : Rectangle} (proper : r.isEmpty = false)
    (inner : r.Inside Rectangle.plane) : (⟨r.x, r.y⟩ : Point) ∈ r.points := by
  have edges := Rectangle.hasEdges_of_inside_plane proper inner
  exact edges.contains_iff.2 ⟨le_refl _, edges.wide, le_refl _, edges.high⟩

/-! ### Joining neighbours -/

/-- What holds before joining and is kept by each join holds afterwards. -/
theorem coalesce_invariant {P : List Rectangle → Prop}
    (step : ∀ rs next, joinOnce? rs = some next → P rs → P next) {rs : List Rectangle}
    (start : P rs) : P (coalesce rs) := by
  -- The induction follows the joins, as the search runs over the whole list after each.
  fun_induction coalesce rs with
  | case1 rs next found _ ih => exact ih (step rs next found start)
  | case2 rs found => exact start

theorem joinOnce?_inPlane {rs next : List Rectangle} (found : joinOnce? rs = some next)
    (inPlane : InPlane rs) : InPlane next ∧ cover next = cover rs := by
  -- Up to order, one join replaces two rectangles at the front by the joined one.
  obtain ⟨r, s, joined, others, merged, before, after⟩ := perm_joinOnce? found
  rw [inPlane_perm before] at inPlane
  have ⟨someR, innerR⟩ := inPlane r (by simp)
  have ⟨someS, innerS⟩ := inPlane s (by simp)
  obtain ⟨someJ, innerJ, joint⟩ := Rectangle.contains_merge? someR someS innerR innerS merged
  constructor
  · rw [inPlane_perm after]
    intro t member
    rcases List.mem_cons.1 member with rfl | member
    · exact ⟨someJ, innerJ⟩
    · exact inPlane t (by simp [member])
  · have together : joined.points = r.points ∪ s.points := by
      ext p
      exact joint p.x p.y
    rw [cover_perm before, cover_perm after]
    simp [together, Set.union_assoc]

theorem perm_normalize (rs : List Rectangle) :
    (normalize rs).Perm (coalesce (rs.filter (!·.isEmpty))) := List.mergeSort_perm _ _

/-- What is empty has no points. -/
theorem cover_filter (rs : List Rectangle) : cover (rs.filter (!·.isEmpty)) = cover rs := by
  ext p
  simp only [cover, List.mem_filter, Set.mem_ofPred_eq]
  constructor
  · rintro ⟨r, ⟨member, _⟩, covered⟩
    exact ⟨r, member, covered⟩
  · rintro ⟨r, member, covered⟩
    exact ⟨r, ⟨member, by simpa using (Rectangle.contains_iff.1 covered).1⟩, covered⟩

/-- Joining and sorting keep the points; what was empty is gone. -/
theorem normalize_inPlane {rs : List Rectangle}
    (inner : ∀ r ∈ rs, r.isEmpty = false → r.Inside Rectangle.plane) :
    InPlane (normalize rs) ∧ cover (normalize rs) = cover rs := by
  have kept : InPlane (rs.filter (!·.isEmpty)) := by
    intro r member
    simp only [List.mem_filter, Bool.not_eq_true'] at member
    exact ⟨member.2, inner r member.1 member.2⟩
  -- Neither the plane nor the points care for the order that sorting leaves.
  rw [inPlane_perm (perm_normalize rs), cover_perm (perm_normalize rs), ← cover_filter rs]
  apply coalesce_invariant (P := fun ss => InPlane ss ∧ cover ss = cover (rs.filter (!·.isEmpty)))
  · rintro ss next found ⟨inPlane, same⟩
    have joined := joinOnce?_inPlane found inPlane
    exact ⟨joined.1, joined.2.trans same⟩
  · exact ⟨kept, rfl⟩

/-! ### Cutting -/

/-- Pieces outside one rectangle after the other. -/
theorem cover_cut (rs pieces : List Rectangle) :
    cover (rs.foldl (fun pieces s => pieces.flatMap (·.subtract s)) pieces) =
      cover pieces \ cover rs := by
  induction rs generalizing pieces with
  | nil => simp
  | cons s rest ih =>
    rw [List.foldl_cons, ih, cover_cons, ← Set.sdiff_sdiff, cover_flatMap_subtract]

theorem cover_uncovered (rs : List Rectangle) (r : Rectangle) :
    cover (uncovered rs r) = r.points \ cover rs := by
  simp [uncovered, cover_cut]

theorem inPlane_flatMap_subtract {rs : List Rectangle} (inPlane : InPlane rs) (cut : Rectangle) :
    InPlane (rs.flatMap (·.subtract cut)) := by
  intro piece member
  obtain ⟨r, inner, part⟩ := List.mem_flatMap.1 member
  have ⟨proper, inside⟩ := Rectangle.inside_of_mem_subtract part
  exact ⟨proper, inside.trans (inPlane r inner).2⟩

theorem inPlane_uncovered {rs : List Rectangle} {r : Rectangle} (inPlane : InPlane [r]) :
    InPlane (uncovered rs r) := by
  unfold uncovered
  -- What is left of the rectangle is more than one piece after the first cut.
  generalize [r] = pieces at inPlane
  induction rs generalizing pieces with
  | nil => exact inPlane
  | cons s rest ih => exact ih _ (inPlane_flatMap_subtract inPlane s)

/-! ### Operations -/

section

variable {g h : Region} {r : Rectangle}

theorem insertRect_inPlane (inPlane : InPlane g.rects)
    (inner : r.isEmpty = true ∨ r.Inside Rectangle.plane) :
    InPlane (g.insertRect r).rects ∧ (g.insertRect r).points = g.points ∪ r.points := by
  unfold insertRect
  split
  next empty => simpa [points_eq_empty empty] using inPlane
  next proper =>
    have single : InPlane [r] := by
      simpa [InPlane] using And.intro (by simpa using proper) (inner.resolve_left proper)
    have both : InPlane (g.rects ++ uncovered g.rects r) := by
      intro piece member
      exact (List.mem_append.1 member).elim (inPlane piece) (inPlane_uncovered single piece)
    obtain ⟨normal, same⟩ := normalize_inPlane fun piece member _ => (both piece member).2
    refine ⟨normal, ?_⟩
    rw [points_eq_cover, same, points_eq_cover, cover_append, cover_uncovered, Set.union_sdiff_self]

theorem eraseRect_inPlane (inPlane : InPlane g.rects) :
    InPlane (g.eraseRect r).rects ∧ (g.eraseRect r).points = g.points \ r.points := by
  unfold eraseRect
  split
  next trivial =>
    refine ⟨inPlane, ?_⟩
    rcases Bool.or_eq_true_iff.1 trivial with empty | nothing
    · simp [points_eq_empty empty]
    · have none : g.points = ∅ := by
        simp [points_eq_cover, List.isEmpty_iff.1 nothing]
      simp [none]
  next =>
    have pieces := inPlane_flatMap_subtract inPlane r
    obtain ⟨normal, same⟩ := normalize_inPlane fun piece member _ => (pieces piece member).2
    refine ⟨normal, ?_⟩
    rw [points_eq_cover, same, points_eq_cover, cover_flatMap_subtract]

/-- The overlaps of all rectangles with all others. -/
theorem cover_overlaps (rs ss : List Rectangle) :
    cover (rs.flatMap fun s => ss.filterMap s.intersection) = cover rs ∩ cover ss := by
  ext p
  simp only [cover, List.mem_flatMap, List.mem_filterMap, Set.mem_ofPred_eq, Set.mem_inter_iff]
  constructor
  · rintro ⟨piece, ⟨s, inner, t, other, common⟩, covered⟩
    have both := (Rectangle.contains_intersection common).1 covered
    exact ⟨⟨s, inner, both.1⟩, ⟨t, other, both.2⟩⟩
  · rintro ⟨⟨s, inner, inS⟩, ⟨t, other, inT⟩⟩
    cases common : s.intersection t with
    | none =>
      simp [Rectangle.points, Rectangle.not_contains_of_intersection common inS] at inT
    | some piece =>
      exact ⟨piece, ⟨s, inner, t, other, common⟩,
        (Rectangle.contains_intersection common).2 ⟨inS, inT⟩⟩

/-- The overlaps of rectangles in the plane with others are in the plane. -/
theorem overlaps_inPlane {rs : List Rectangle} (inPlane : InPlane rs) (ss : List Rectangle) :
    InPlane (rs.flatMap fun s => ss.filterMap s.intersection) := by
  intro piece member
  obtain ⟨s, inner, part⟩ := List.mem_flatMap.1 member
  obtain ⟨t, _, common⟩ := List.mem_filterMap.1 part
  exact ⟨(Rectangle.hasEdges_intersection common).isEmpty,
    (Rectangle.inside_of_intersection common).1.trans (inPlane s inner).2⟩

theorem intersection_inPlane (inPlane : InPlane g.rects) :
    InPlane (g.intersection h).rects ∧ (g.intersection h).points = g.points ∩ h.points := by
  have pieces := overlaps_inPlane inPlane h.rects
  -- Common parts lie in the plane because the first region does, whatever the second is.
  obtain ⟨normal, same⟩ := normalize_inPlane fun piece member _ => (pieces piece member).2
  refine ⟨normal, ?_⟩
  rw [points_eq_cover, points_eq_cover, points_eq_cover, ← cover_overlaps]
  exact same

/-- Clipping is intersection with one rectangle. -/
theorem clip_eq_intersection (g : Region) (r : Rectangle) : g.clip r = g.intersection ⟨[r]⟩ := by
  -- A rectangle and one other have at most one common part, so both keep the same order.
  have single (s : Rectangle) : [r].filterMap s.intersection = (s.intersection r).toList := by
    cases common : s.intersection r <;> simp [common]
  have same (rs : List Rectangle) : rs.filterMap (·.intersection r) =
      rs.flatMap fun s => [r].filterMap s.intersection := by
    simp only [single]
    induction rs with
    | nil => rfl
    | cons s rest ih => cases common : s.intersection r <;> simp [common, ih]
  rw [clip, intersection, same]

theorem clip_inPlane (inPlane : InPlane g.rects) :
    InPlane (g.clip r).rects ∧ (g.clip r).points = g.points ∩ r.points := by
  rw [clip_eq_intersection]
  simpa [points_eq_cover ⟨[r]⟩] using intersection_inPlane (h := ⟨[r]⟩) inPlane

/-- Rectangles added one after the other, each without what is there already. -/
theorem cover_addAll (rs ss : List Rectangle) :
    cover (ss.foldl (fun rs r => rs ++ uncovered rs r) rs) = cover rs ∪ cover ss := by
  induction ss generalizing rs with
  | nil => simp
  | cons s rest ih =>
    rw [List.foldl_cons, ih, cover_append, cover_uncovered, Set.union_sdiff_self, cover_cons,
      Set.union_assoc]

theorem addAll_inPlane {rs ss : List Rectangle} (first : InPlane rs) (added : InPlane ss) :
    InPlane (ss.foldl (fun rs r => rs ++ uncovered rs r) rs) := by
  induction ss generalizing rs with
  | nil => exact first
  | cons s rest ih =>
    have single : InPlane [s] := by simpa [InPlane] using added s (by simp)
    have both : InPlane (rs ++ uncovered rs s) := by
      intro piece member
      exact (List.mem_append.1 member).elim (first piece) (inPlane_uncovered single piece)
    exact ih both fun t member => added t (by simp [member])

theorem union_inPlane (inPlane : InPlane g.rects) (added : InPlane h.rects) :
    InPlane (g.union h).rects ∧ (g.union h).points = g.points ∪ h.points := by
  have all := addAll_inPlane inPlane added
  obtain ⟨normal, same⟩ := normalize_inPlane fun piece member _ => (all piece member).2
  refine ⟨normal, ?_⟩
  rw [points_eq_cover, points_eq_cover, points_eq_cover, ← cover_addAll]
  exact same

theorem difference_inPlane (inPlane : InPlane g.rects) :
    InPlane (g.difference h).rects ∧ (g.difference h).points = g.points \ h.points := by
  obtain ⟨cuts⟩ := h
  unfold difference
  -- Each cut normalizes the region, so the region is general in the induction on the cuts.
  induction cuts generalizing g with
  | nil => simpa [points_eq_cover ⟨[]⟩] using inPlane
  | cons cut rest ih =>
    obtain ⟨without, less⟩ := eraseRect_inPlane (r := cut) inPlane
    obtain ⟨all, same⟩ := ih without
    refine ⟨all, same.trans ?_⟩
    rw [less, Set.sdiff_sdiff, points_eq_cover ⟨rest⟩, points_eq_cover ⟨cut :: rest⟩, cover_cons]

theorem empty_inPlane : InPlane empty.rects ∧ empty.points = ∅ := by
  simp [InPlane, points_eq_cover, empty]

theorem ofRect_inPlane (inner : r.isEmpty = true ∨ r.Inside Rectangle.plane) :
    InPlane (ofRect r).rects ∧ (ofRect r).points = r.points := by
  obtain ⟨inPlane, same⟩ := insertRect_inPlane empty_inPlane.1 inner
  exact ⟨inPlane, by rw [ofRect, same, empty_inPlane.2, Set.empty_union]⟩

theorem plane_inPlane : InPlane plane.rects ∧ plane.points = Rectangle.plane.points := by
  constructor
  · simp only [plane, InPlane, List.mem_singleton, forall_eq]
    exact ⟨by decide, .refl _⟩
  · simp [points_eq_cover, plane]

theorem isEmpty_iff_of_nonempty (some : ∀ r ∈ g.rects, r.points.Nonempty) :
    g.isEmpty = true ↔ g.points = ∅ := by
  rw [isEmpty, List.isEmpty_iff, points_eq_cover]
  constructor
  · intro nothing
    rw [nothing, cover_nil]
  · intro nothing
    rw [List.eq_nil_iff_forall_not_mem]
    intro r member
    obtain ⟨p, inR⟩ := some r member
    have covered : p ∈ cover g.rects := ⟨r, member, inR⟩
    simp [nothing] at covered

/-- A stored rectangle in the plane would cover its own corner. -/
theorem isEmpty_iff_points (inPlane : InPlane g.rects) : g.isEmpty = true ↔ g.points = ∅ :=
  isEmpty_iff_of_nonempty fun r member =>
    ⟨_, corner_mem_points (inPlane r member).1 (inPlane r member).2⟩

end

/-! ### Sequences of operations -/

/-- One operation on named regions: the target, and for some the region it is combined with. -/
inductive Edit (ι : Type) where
  | insertRect (target : ι) (r : Rectangle)
  | eraseRect (target : ι) (r : Rectangle)
  | clip (target : ι) (r : Rectangle)
  | union (target source : ι)
  | difference (target source : ι)
  | intersection (target source : ι)
  | copy (target source : ι)
  | clear (target : ι)
  | ofRect (target : ι) (r : Rectangle)
  | plane (target : ι)

namespace Edit

variable {ι : Type}

def target : Edit ι → ι
  | insertRect t _ | eraseRect t _ | clip t _ | union t _ | difference t _ | intersection t _
  | copy t _ | clear t | ofRect t _ | plane t => t

/-- The new value of the target. -/
def value (store : ι → Region) : Edit ι → Region
  | insertRect t r => (store t).insertRect r
  | eraseRect t r => (store t).eraseRect r
  | clip t r => (store t).clip r
  | union t s => (store t).union (store s)
  | difference t s => (store t).difference (store s)
  | intersection t s => (store t).intersection (store s)
  | copy _ s => store s
  | clear _ => Region.empty
  | ofRect _ r => Region.ofRect r
  | plane _ => Region.plane

/-- The same operation on sets of points. -/
def pointSet (sets : ι → Set Point) : Edit ι → Set Point
  | insertRect t r => sets t ∪ r.points
  | eraseRect t r => sets t \ r.points
  | clip t r => sets t ∩ r.points
  | union t s => sets t ∪ sets s
  | difference t s => sets t \ sets s
  | intersection t s => sets t ∩ sets s
  | copy _ s => sets s
  | clear _ => ∅
  | ofRect _ r => r.points
  | plane _ => Rectangle.plane.points

/-- What is added has no points at all or lies in the plane. -/
def AddsInPlane : Edit ι → Prop
  | insertRect _ r | ofRect _ r => r.isEmpty = true ∨ r.Inside Rectangle.plane
  | _ => True

def apply [DecidableEq ι] (store : ι → Region) (e : Edit ι) : ι → Region :=
  Function.update store e.target (e.value store)

def applySets [DecidableEq ι] (sets : ι → Set Point) (e : Edit ι) : ι → Set Point :=
  Function.update sets e.target (e.pointSet sets)

/-- Regions in the plane that cover given sets. -/
def Covers (store : ι → Region) (sets : ι → Set Point) : Prop :=
  ∀ i, InPlane (store i).rects ∧ (store i).points = sets i

theorem value_covers {store : ι → Region} {sets : ι → Set Point} (covers : Covers store sets)
    (e : Edit ι) (inner : e.AddsInPlane) :
    InPlane (e.value store).rects ∧ (e.value store).points = e.pointSet sets := by
  have same (i : ι) : sets i = (store i).points := (covers i).2.symm
  cases e with
  | insertRect t r => simpa only [value, pointSet, same] using insertRect_inPlane (covers t).1 inner
  | eraseRect t r => simpa only [value, pointSet, same] using eraseRect_inPlane (covers t).1
  | clip t r => simpa only [value, pointSet, same] using clip_inPlane (covers t).1
  | union t s => simpa only [value, pointSet, same] using union_inPlane (covers t).1 (covers s).1
  | difference t s => simpa only [value, pointSet, same] using difference_inPlane (covers t).1
  | intersection t s => simpa only [value, pointSet, same] using intersection_inPlane (covers t).1
  | copy t s => exact covers s
  | clear t => exact empty_inPlane
  | ofRect t r => exact ofRect_inPlane inner
  | plane t => exact plane_inPlane

variable [DecidableEq ι]

theorem apply_covers {store : ι → Region} {sets : ι → Set Point} (covers : Covers store sets)
    (e : Edit ι) (inner : e.AddsInPlane) : Covers (e.apply store) (e.applySets sets) := by
  intro i
  unfold apply applySets
  by_cases same : i = e.target
  · subst same
    simpa using value_covers covers e inner
  · simpa [same] using covers i

theorem foldl_covers {store : ι → Region} {sets : ι → Set Point} (covers : Covers store sets)
    (edits : List (Edit ι)) (inner : ∀ e ∈ edits, e.AddsInPlane) :
    Covers (edits.foldl apply store) (edits.foldl applySets sets) := by
  induction edits generalizing store sets with
  | nil => exact covers
  | cons e rest ih =>
    exact ih (apply_covers covers e (inner e (by simp))) fun f member => inner f (by simp [member])

end Edit

/-- However regions that were empty at first are edited, each contains exactly the points that the
same operations on sets of points give, and is empty exactly when it contains none. -/
theorem contains_edits {ι : Type} [DecidableEq ι] (edits : List (Edit ι))
    (inner : ∀ e ∈ edits, e.AddsInPlane) (i : ι) :
    let g := edits.foldl Edit.apply (fun _ => empty) i
    let set := edits.foldl Edit.applySets (fun _ => ∅) i
    (∀ p : Point, g.contains p.x p.y = true ↔ p ∈ set) ∧
      (g.isEmpty = true ↔ ∀ p : Point, g.contains p.x p.y = false) := by
  intro g set
  have start : Edit.Covers (fun _ : ι => empty) (fun _ => ∅) := fun _ => empty_inPlane
  obtain ⟨inPlane, same⟩ := Edit.foldl_covers start edits inner i
  have exact (p : Point) : g.contains p.x p.y = true ↔ p ∈ set := by
    change p ∈ g.points ↔ p ∈ set
    rw [same]
  refine ⟨exact, ?_⟩
  rw [isEmpty_iff_points inPlane, Set.eq_empty_iff_forall_notMem]
  exact forall_congr' fun p => Bool.not_eq_true (g.contains p.x p.y) ▸ Iff.rfl

/-- Two overlapping rectangles in one region and a third cut out of it through another region, with a
cut that reaches beyond the coordinates. -/
theorem contains_edits_overlap :
    let edits : List (Edit Nat) :=
      [.insertRect 0 ⟨0, 0, 4, 4⟩, .insertRect 0 ⟨2, 2, 4, 4⟩, .plane 1,
        .clip 1 ⟨3, 3, 2147483647, 2147483647⟩, .difference 0 1]
    (∀ e ∈ edits, e.AddsInPlane) ∧
      ∀ p : Point, (edits.foldl Edit.apply (fun _ => empty) 0).contains p.x p.y = true ↔
        p ∈ edits.foldl Edit.applySets (fun _ => ∅) 0 := by
  intro edits
  have inner : ∀ e ∈ edits, e.AddsInPlane := by
    simp only [edits, List.forall_mem_cons, Edit.AddsInPlane, Rectangle.inside_plane_iff]
    exact ⟨by decide, by decide, trivial, trivial, trivial, by simp⟩
  exact ⟨inner, (contains_edits edits inner 0).1⟩

end Compositing.Region
