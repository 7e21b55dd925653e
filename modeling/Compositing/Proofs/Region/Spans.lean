import Compositing.Proofs.Geometry.Joining
import Compositing.Proofs.Region.PointSets

/-!
# Regions anywhere

Outside the plane a joined rectangle can be cut short. Joining then drops points, but it never adds
any, and it drops none as long as all points of the result lie closer together than the largest
extent of a rectangle. Main statement: `union_spanning`, for regions and rectangles anywhere.
-/

namespace Compositing.Region

/-- The points lie so close together that one rectangle could cover them all. -/
def Narrow (set : Set Point) : Prop :=
  ∀ p ∈ set, ∀ q ∈ set, p.x.toInt - q.x.toInt < 2147483647 ∧ p.y.toInt - q.y.toInt < 2147483647

theorem Narrow.mono {set part : Set Point} (narrow : Narrow set) (inner : part ⊆ set) :
    Narrow part :=
  fun p inP q inQ => narrow p (inner inP) q (inner inQ)

/-- No rectangle has a negative extent. -/
def Upright (rs : List Rectangle) : Prop := ∀ r ∈ rs, r.Upright

theorem upright_perm {rs ss : List Rectangle} (perm : rs.Perm ss) : Upright rs ↔ Upright ss := by
  simp [Upright, perm.mem_iff]

theorem upright_filter (rs : List Rectangle) : Upright (rs.filter (!·.isEmpty)) := by
  intro r member
  exact Rectangle.upright_of_isEmpty (by simpa using (List.mem_filter.1 member).2)

/-! ### Joining neighbours -/

section

variable {r s joined : Rectangle}

theorem points_merge?_subset (uprightR : r.Upright) (uprightS : s.Upright)
    (merged : r.merge? s = some joined) : joined.points ⊆ r.points ∪ s.points :=
  fun _ inside => ((Rectangle.contains_merge?_iff uprightR uprightS merged).1 inside).1

theorem points_merge? (uprightR : r.Upright) (uprightS : s.Upright)
    (merged : r.merge? s = some joined) (narrow : Narrow (r.points ∪ s.points)) :
    joined.points = r.points ∪ s.points := by
  apply (points_merge?_subset uprightR uprightS merged).antisymm
  intro p either
  have corner : (⟨joined.x, joined.y⟩ : Point) ∈ r.points ∪ s.points :=
    Rectangle.contains_corner_merge? uprightR uprightS merged either
  obtain ⟨columns, rows⟩ := narrow p either _ corner
  have inside : joined.contains p.x p.y = true :=
    (Rectangle.contains_merge?_iff uprightR uprightS merged).2 ⟨either, columns, rows⟩
  exact inside

end

theorem joinOnce?_upright {rs next : List Rectangle} (found : joinOnce? rs = some next)
    (upright : Upright rs) :
    Upright next ∧ cover next ⊆ cover rs ∧ (Narrow (cover rs) → cover next = cover rs) := by
  obtain ⟨r, s, joined, others, merged, before, after⟩ := perm_joinOnce? found
  rw [upright_perm before] at upright
  have uprightR := upright r (by simp)
  have uprightS := upright s (by simp)
  rw [upright_perm after, cover_perm before, cover_perm after]
  simp only [cover_cons, ← Set.union_assoc]
  refine ⟨?_, Set.union_subset_union_left _ (points_merge?_subset uprightR uprightS merged), ?_⟩
  · intro t member
    rcases List.mem_cons.1 member with rfl | member
    · exact Rectangle.upright_merge? uprightR uprightS merged
    · exact upright t (by simp [member])
  · intro narrow
    rw [points_merge? uprightR uprightS merged (narrow.mono Set.subset_union_left)]

/-- Joining and sorting add no point, and drop none of points that are close together. -/
theorem cover_normalize (rs : List Rectangle) :
    cover (normalize rs) ⊆ cover rs ∧ (Narrow (cover rs) → cover (normalize rs) = cover rs) := by
  rw [cover_perm (perm_normalize rs)]
  -- That no extent is negative is part of the invariant, as joining relies on it.
  refine (?_ : Upright (coalesce (rs.filter (!·.isEmpty))) ∧ _).2
  apply coalesce_invariant (P := fun ss => Upright ss ∧ cover ss ⊆ cover rs ∧
    (Narrow (cover rs) → cover ss = cover rs))
  · rintro ss next found ⟨upright, inner, same⟩
    obtain ⟨upright, fewer, kept⟩ := joinOnce?_upright found upright
    refine ⟨upright, fewer.trans inner, fun narrow => ?_⟩
    rw [kept (narrow.mono inner), same narrow]
  · exact ⟨upright_filter rs, (cover_filter rs).subset, fun _ => cover_filter rs⟩

/-! ### Union -/

/-- Adding a rectangle or a region anywhere adds no point that neither of the two had, and loses
none as long as the points of both lie close together. -/
theorem union_spanning (g h : Region) (r : Rectangle) :
    ((g.insertRect r).points ⊆ g.points ∪ r.points ∧
      (Narrow (g.points ∪ r.points) → (g.insertRect r).points = g.points ∪ r.points)) ∧
    (g.union h).points ⊆ g.points ∪ h.points ∧
      (Narrow (g.points ∪ h.points) → (g.union h).points = g.points ∪ h.points) := by
  constructor
  · unfold insertRect
    split
    next empty => simp [points_eq_empty empty]
    next =>
      have pieces := cover_normalize (g.rects ++ uncovered g.rects r)
      rw [cover_append, cover_uncovered, Set.union_sdiff_self, ← points_eq_cover g] at pieces
      rwa [points_eq_cover ⟨normalize _⟩]
  · have pieces := cover_normalize (h.rects.foldl (fun rs r => rs ++ uncovered rs r) g.rects)
    rw [cover_addAll, ← points_eq_cover g, ← points_eq_cover h] at pieces
    rwa [points_eq_cover (g.union h), union]

/-- Two overlapping rectangles at the right end of the coordinates, where an edge of the second
saturates. -/
theorem union_spanning_corner :
    let r : Rectangle := ⟨2147483000, 0, 600, 4⟩
    let s : Rectangle := ⟨2147483500, 2, 600, 4⟩
    Narrow ((Region.mk [r]).points ∪ s.points) ∧
      ((Region.mk [r]).insertRect s).points = (Region.mk [r]).points ∪ s.points := by
  intro r s
  have narrow : Narrow ((Region.mk [r]).points ∪ s.points) := by
    have uprightR : r.Upright := by decide
    have uprightS : s.Upright := by decide
    have edgesR : r.right.toInt = 2147483600 ∧ r.bottom.toInt = 4 := by decide
    have edgesS : s.right.toInt = 2147483647 ∧ s.bottom.toInt = 6 := by decide
    have cornerR : r.x.toInt = 2147483000 ∧ r.y.toInt = 0 := by decide
    have cornerS : s.x.toInt = 2147483500 ∧ s.y.toInt = 2 := by decide
    rw [points_eq_cover, cover_cons, cover_nil, Set.union_empty]
    intro p inP q inQ
    simp only [Set.mem_union, Rectangle.points, Set.mem_ofPred_eq, uprightR.contains_iff,
      uprightS.contains_iff] at inP inQ
    omega
  exact ⟨narrow, (union_spanning ⟨[r]⟩ empty s).1.2 narrow⟩

/-- A row of points around the middle of the coordinates, and one from their left end up to it. Both
are as wide as a rectangle can be, and nothing of the first is left when the second is added. -/
theorem insertRect_forgets :
    (ofRect ⟨-1, 0, 2147483647, 1⟩).contains 0 0 = true ∧
      ((ofRect ⟨-1, 0, 2147483647, 1⟩).insertRect ⟨-2147483648, 0, 2147483647, 1⟩).contains 0 0 =
        false := by
  decide +kernel

end Compositing.Region
