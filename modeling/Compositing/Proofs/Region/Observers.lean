import Compositing.Proofs.Region.NormalForm

/-!
# What can be read off a region

Regions tell whether they cover the same points, how many points they cover, and the smallest
rectangle around these. All of it is about the points as long as no rectangle is stored that is empty
or has a saturated edge. Main statements: `Composed.measures`, for regions in one window, and
`Composed.lawful`, for regions anywhere.
-/

namespace Compositing.Region

variable {g h k : Region}

/-! ### Sums that fit -/

theorem area?_eq_some (fits : g.area < 9223372036854775808) : g.area? = some g.area := by
  change (if g.area < 9223372036854775808 then some g.area else none) = _
  rw [if_pos fits]

/-- The common part of two regions is no larger than either, so it can be measured if they can. -/
theorem sameCoverage?_eq_some (first : Apart g.rects) (second : Apart h.rects)
    (fitsG : g.area < 9223372036854775808) (fitsH : h.area < 9223372036854775808) :
    g.sameCoverage? h = some (g.sameCoverage h) := by
  have common : areaOf (g.overlaps h) < 9223372036854775808 := by
    have fewer : ((g.points ∩ h.points).ncard : Int) ≤ g.points.ncard :=
      Int.ofNat_le.2 (Set.ncard_le_ncard Set.inter_subset_left)
    have := g.ncard_points_le_area
    rw [areaOf_overlaps first second]
    omega
  have shared : (if areaOf (g.overlaps h) < 9223372036854775808 then
      some (areaOf (g.overlaps h)) else none) = some (areaOf (g.overlaps h)) := if_pos common
  rw [sameCoverage?, area?_eq_some fitsG, area?_eq_some fitsH, sameCoverage]
  by_cases same : g.area = h.area
  · change (if g.area = h.area then (if _ then some _ else none : Option Int).bind
      fun shared => some (shared == g.area) else some false) = _
    rw [shared]
    simp [same]
  · simp [same]

/-! ### The rectangle around a region -/

/-- Going through a list and keeping the better of two values ends with the best one. -/
theorem foldl_picks {pick : Int32 → Int32 → Int32} (better : Int32 → Int32 → Prop)
    (refl : ∀ a, better a a) (trans : ∀ a b c, better a b → better b c → better a c)
    (picks : ∀ a b, (pick a b = a ∧ better a b) ∨ (pick a b = b ∧ better b a))
    (key : Rectangle → Int32) (first : Rectangle) (rest : List Rectangle) :
    ∃ r ∈ first :: rest, rest.foldl (fun best s => pick best (key s)) (key first) = key r ∧
      ∀ s ∈ first :: rest, better (key r) (key s) := by
  induction rest generalizing first with
  | nil => exact ⟨first, by simp, rfl, by simpa using refl _⟩
  | cons s rest ih =>
    rw [List.foldl_cons]
    rcases picks (key first) (key s) with ⟨same, order⟩ | ⟨same, order⟩
    · obtain ⟨r, member, result, best⟩ := ih first
      refine ⟨r, by grind, by rw [same, result], ?_⟩
      simp only [List.forall_mem_cons] at best ⊢
      exact ⟨best.1, trans _ _ _ best.1 order, best.2⟩
    · obtain ⟨r, member, result, best⟩ := ih s
      refine ⟨r, by grind, by rw [same, result], ?_⟩
      simp only [List.forall_mem_cons] at best ⊢
      exact ⟨trans _ _ _ best.1 order, best.1, best.2⟩

theorem min_picks (a b : Int32) :
    (min a b = a ∧ a.toInt ≤ b.toInt) ∨ (min a b = b ∧ b.toInt ≤ a.toInt) := by
  simp only [← Int32.toInt_inj, toInt_min]
  omega

theorem max_picks (a b : Int32) :
    (max a b = a ∧ b.toInt ≤ a.toInt) ∨ (max a b = b ∧ a.toInt ≤ b.toInt) := by
  simp only [← Int32.toInt_inj, toInt_max]
  omega

/-- Each edge of the rectangle around a region is the outermost one of some stored rectangle. -/
theorem exists_extents (some : g.rects ≠ []) :
    ∃ a ∈ g.rects, ∃ b ∈ g.rects, ∃ c ∈ g.rects, ∃ d ∈ g.rects,
      g.extents = Rectangle.ofEdges a.x b.y c.right d.bottom ∧
      ∀ r ∈ g.rects, a.x.toInt ≤ r.x.toInt ∧ b.y.toInt ≤ r.y.toInt ∧
        r.right.toInt ≤ c.right.toInt ∧ r.bottom.toInt ≤ d.bottom.toInt := by
  obtain ⟨rects⟩ := g
  cases rects with
  | nil => exact absurd rfl some
  | cons first rest =>
    have least := foldl_picks (fun a b => a.toInt ≤ b.toInt) (fun _ => Int.le_refl _)
      (fun _ _ _ => Int.le_trans) min_picks
    have greatest := foldl_picks (fun a b => b.toInt ≤ a.toInt) (fun _ => Int.le_refl _)
      (fun _ _ _ first second => Int.le_trans second first) max_picks
    obtain ⟨a, inA, left, leftmost⟩ := least (·.x) first rest
    obtain ⟨b, inB, top, topmost⟩ := least (·.y) first rest
    obtain ⟨c, inC, right, rightmost⟩ := greatest (·.right) first rest
    obtain ⟨d, inD, bottom, lowest⟩ := greatest (·.bottom) first rest
    refine ⟨a, inA, b, inB, c, inC, d, inD, ?_, fun r member =>
      ⟨leftmost r member, topmost r member, rightmost r member, lowest r member⟩⟩
    change Rectangle.ofEdges _ _ _ _ = _
    rw [left, top, right, bottom]

section

variable {window : Rectangle}

/-- The rectangle around a region inside a window covers the region, and as little else as a rectangle
can. -/
theorem extents_least (inner : ∀ r ∈ g.rects, r.Exact ∧ r.Inside window) :
    g.points ⊆ g.extents.points ∧
      ∀ r : Rectangle, g.points ⊆ r.points → g.extents.points ⊆ r.points := by
  by_cases some : g.rects = []
  · have extents : g.extents = Rectangle.zero := by simp [Region.extents, some]
    rw [extents, points_eq_cover, some, cover_nil, points_eq_empty rfl]
    exact ⟨subset_rfl, fun _ _ => Set.empty_subset _⟩
  obtain ⟨a, inA, b, inB, c, inC, d, inD, extents, outermost⟩ := exists_extents some
  have inside {r : Rectangle} (member : r ∈ g.rects) : r.points ⊆ g.points := by
    rw [points_eq_cover]
    exact fun p covered => ⟨r, member, covered⟩
  have edges : g.extents.HasEdges a.x.toInt b.y.toInt c.right.toInt d.bottom.toInt := by
    have := (inner a inA).1.wide
    have := (inner b inB).1.high
    have leftmost := (inner a inA).2
    have topmost := (inner b inB).2
    have rightmost := (inner c inC).2
    have lowest := (inner d inD).2
    have right := window.toInt_right
    have bottom := window.toInt_bottom
    have := window.width.toInt_lt
    have := window.height.toInt_lt
    have := window.x.le_toInt
    have := window.y.le_toInt
    have := outermost a inA
    have := outermost b inB
    unfold Rectangle.Inside at leftmost topmost rightmost lowest
    rw [extents]
    exact Rectangle.hasEdges_ofEdges _ _ _ _ (by omega) (by omega) (by omega) (by omega)
  constructor
  · intro p covered
    rw [points_eq_cover] at covered
    obtain ⟨r, member, inR⟩ := covered
    have bounds := outermost r member
    rw [(inner r member).1.mem_points_iff] at inR
    exact edges.contains_iff.2 (by omega)
  · intro r around p covered
    -- Each edge has a point of the region beside it, and these points lie in the other rectangle.
    obtain ⟨left, -⟩ := (inner a inA).1.exists_corners
    obtain ⟨top, -⟩ := (inner b inB).1.exists_corners
    obtain ⟨-, right, inRight, column, -⟩ := (inner c inC).1.exists_corners
    obtain ⟨-, bottom, inBottom, -, row⟩ := (inner d inD).1.exists_corners
    have bounds {q : Point} (member : q ∈ g.points) := Rectangle.contains_iff.1 (around member)
    have := bounds (inside inC inRight)
    have := bounds (inside inD inBottom)
    have fromLeft : r.x.toInt ≤ a.x.toInt := (bounds (inside inA left)).2.1
    have fromTop : r.y.toInt ≤ b.y.toInt := (bounds (inside inB top)).2.2.2.1
    have here := edges.contains_iff.1 covered
    have inR : r.contains p.x p.y = true :=
      Rectangle.contains_iff.2 ⟨(bounds (inside inA left)).1, by omega⟩
    exact inR

/-- A region inside a window has few enough points to be measured. -/
theorem area_lt_of_inside (counted : g.Counted)
    (inner : ∀ r ∈ g.rects, r.Exact ∧ r.Inside window) : g.area < 9223372036854775808 := by
  have within : g.points ⊆ window.points := by
    intro p covered
    rw [points_eq_cover] at covered
    obtain ⟨r, member, inR⟩ := covered
    obtain ⟨exact, inside⟩ := inner r member
    have proper : window.isEmpty = false := by
      have := exact.wide
      have := exact.high
      have right := window.toInt_right
      have bottom := window.toInt_bottom
      have := window.x.le_toInt
      have := window.y.le_toInt
      unfold Rectangle.Inside at inside
      rw [Rectangle.isEmpty_eq_false_iff]
      omega
    exact Rectangle.contains_of_inside inside proper inR
  have fewer : (g.points.ncard : Int) ≤ window.points.ncard :=
    Int.ofNat_le.2 (Set.ncard_le_ncard within)
  have := window.ncard_points_lt
  rw [Counted] at counted
  omega

/-! ### In one window -/

/-- Of regions inside one window, whose rectangles all have points and no saturated edges, the
comparison tells whether they have the same points, the area how many, and the extents are the
smallest rectangle around them. -/
theorem Composed.measures (first : g.Composed) (second : h.Composed)
    (inner : ∀ r ∈ g.rects ++ h.rects, r.Exact ∧ r.Inside window) :
    (∃ same, g.sameCoverage? h = some same ∧ (same = true ↔ g.points = h.points)) ∧
    g.area? = some (g.points.ncard : Int) ∧
    g.points ⊆ g.extents.points ∧
    ∀ r : Rectangle, g.points ⊆ r.points → g.extents.points ⊆ r.points := by
  obtain ⟨innerG, innerH⟩ := List.forall_mem_append.1 inner
  have apartG := first.normal.apart
  have apartH := second.normal.apart
  have countedG := (counted_iff apartG).2 fun r member _ => (innerG r member).1
  have countedH := (counted_iff apartH).2 fun r member _ => (innerH r member).1
  have fitsG := area_lt_of_inside countedG innerG
  have fitsH := area_lt_of_inside countedH innerH
  refine ⟨⟨_, sameCoverage?_eq_some apartG apartH fitsG fitsH, ?_⟩, ?_, extents_least innerG⟩
  · rw [sameCoverage_iff_counted apartG apartH]
    exact and_iff_left ⟨countedG, countedH⟩
  · rw [area?_eq_some fitsG, countedG]

end

/-- An angle made of two rows, and one made of two columns. -/
theorem measures_angle :
    let g := (ofRect ⟨0, 0, 10, 5⟩).insertRect ⟨0, 5, 4, 5⟩
    let h := (ofRect ⟨0, 0, 4, 10⟩).insertRect ⟨4, 0, 6, 5⟩
    (∀ r ∈ g.rects ++ h.rects, r.Exact ∧ r.Inside ⟨-1, -1, 20, 20⟩) ∧
      g.rects ≠ h.rects ∧ g.points = h.points ∧ g.points.ncard = 70 := by
  intro g h
  have rows : g.rects = [⟨0, 0, 10, 5⟩, ⟨0, 5, 4, 5⟩] := by cbv
  have columns : h.rects = [⟨0, 0, 4, 10⟩, ⟨4, 0, 6, 5⟩] := by cbv
  have inner : ∀ r ∈ g.rects ++ h.rects, r.Exact ∧ r.Inside ⟨-1, -1, 20, 20⟩ := by
    rw [rows, columns]
    decide
  have first : g.Composed := (Composed.empty.insertRect _).insertRect _
  have second : h.Composed := (Composed.empty.insertRect _).insertRect _
  obtain ⟨⟨same, compared, exact⟩, area, -⟩ := first.measures second inner
  have equal : g.sameCoverage? h = some true := by
    rw [sameCoverage?, area?, area?, overlaps, Region.area, Region.area, rows, columns]
    decide
  have count : g.area? = some 70 := by
    rw [area?, Region.area, rows]
    decide
  refine ⟨inner, by rw [rows, columns]; decide, exact.1 ?_, ?_⟩
  · exact Option.some_inj.1 (compared.symm.trans equal)
  · have := Option.some_inj.1 (area.symm.trans count)
    omega

/-- A region that was moved back from the end of the coordinates is not found equal to itself, as two
of its rectangles overlap. -/
theorem sameCoverage?_moved :
    let g := ((ofRect ⟨2147483642, 0, 10, 1⟩).insertRect ⟨2147483647, 0, 5, 2⟩).translate (-100) 0
    (∀ r ∈ g.rects, r.Exact ∧ r.Inside ⟨2147483500, 0, 100, 10⟩) ∧
      g.sameCoverage? g = some false := by
  intro g
  have shape : g.rects = [⟨2147483542, 0, 10, 1⟩, ⟨2147483547, 0, 5, 2⟩] := by cbv
  rw [sameCoverage?, area?, overlaps, Region.area, shape]
  decide

/-! ### Anywhere -/

/-- The comparison of regions is symmetric and transitive. It finds a region equal to itself, and its
area counts its points, exactly if no stored rectangle has a saturated edge; and if none is empty
either, it is the empty region only if it has no points. -/
theorem Composed.lawful (composedG : g.Composed) (composedH : h.Composed) (composedK : k.Composed)
    (fitsG : g.area < 9223372036854775808) (fitsH : h.area < 9223372036854775808)
    (fitsK : k.area < 9223372036854775808) :
    (∃ same, g.sameCoverage? h = some same ∧ h.sameCoverage? g = some same) ∧
    (g.sameCoverage? h = some true → h.sameCoverage? k = some true →
      g.sameCoverage? k = some true) ∧
    ((∀ r ∈ g.rects, r.isEmpty = false → r.Exact) ↔ g.sameCoverage? g = some true) ∧
    ((∀ r ∈ g.rects, r.isEmpty = false → r.Exact) ↔ g.area? = some (g.points.ncard : Int)) ∧
    ((∀ r ∈ g.rects, r.points.Nonempty) →
      (g.isEmpty = true ↔ ∀ p : Point, g.contains p.x p.y = false)) := by
  have apartG := composedG.normal.apart
  have apartH := composedH.normal.apart
  have apartK := composedK.normal.apart
  rw [sameCoverage?_eq_some apartG apartH fitsG fitsH, sameCoverage?_eq_some apartH apartG fitsH fitsG,
    sameCoverage?_eq_some apartH apartK fitsH fitsK, sameCoverage?_eq_some apartG apartK fitsG fitsK,
    sameCoverage?_eq_some apartG apartG fitsG fitsG, area?_eq_some fitsG]
  simp only [Option.some_inj, sameCoverage_iff_counted, apartG, apartH, apartK, ← counted_iff]
  refine ⟨⟨_, rfl, ?_⟩, ?_, ?_, Iff.rfl, fun some => ?_⟩
  · rw [Bool.eq_iff_iff, sameCoverage_iff_counted apartH apartG,
      sameCoverage_iff_counted apartG apartH]
    exact ⟨fun ⟨same, h, g⟩ => ⟨same.symm, g, h⟩, fun ⟨same, g, h⟩ => ⟨same.symm, h, g⟩⟩
  · rintro ⟨same, countedG, -⟩ ⟨same', -, countedK⟩
    exact ⟨same.trans same', countedG, countedK⟩
  · simp
  · rw [isEmpty_iff_of_nonempty some, Set.eq_empty_iff_forall_notMem]
    exact forall_congr' fun p => Bool.not_eq_true (g.contains p.x p.y) ▸ Iff.rfl

/-- Two decompositions of an angle at the right end of the coordinates, and one that is left of a
rectangle with a saturated edge. -/
theorem lawful_corner :
    let g := (ofRect ⟨2147483637, 0, 10, 5⟩).insertRect ⟨2147483637, 5, 4, 5⟩
    let h := (ofRect ⟨2147483637, 0, 4, 10⟩).insertRect ⟨2147483641, 0, 6, 5⟩
    let k := ((ofRect ⟨2147483637, 0, 100, 10⟩).eraseRect ⟨2147483641, 5, 1000, 50⟩).clip
      ⟨0, 0, 2147483647, 100⟩
    g.sameCoverage? h = some true ∧ h.sameCoverage? k = some true ∧
      g.sameCoverage? k = some true ∧ g.sameCoverage? g = some true ∧
      g.area? = some (g.points.ncard : Int) := by
  intro g h k
  have rows : g.rects = [⟨2147483637, 0, 10, 5⟩, ⟨2147483637, 5, 4, 5⟩] := by cbv
  have columns : h.rects = [⟨2147483637, 0, 4, 10⟩, ⟨2147483641, 0, 6, 5⟩] := by cbv
  have rest : k.rects = [⟨2147483637, 0, 10, 5⟩, ⟨2147483637, 5, 4, 5⟩] := by cbv
  have areaG : g.area < 9223372036854775808 := by rw [Region.area, rows]; decide
  have areaH : h.area < 9223372036854775808 := by rw [Region.area, columns]; decide
  have areaK : k.area < 9223372036854775808 := by rw [Region.area, rest]; decide
  have first : g.sameCoverage? h = some true := by
    rw [sameCoverage?, area?, area?, overlaps, Region.area, Region.area, rows, columns]
    decide
  have second : h.sameCoverage? k = some true := by
    rw [sameCoverage?, area?, area?, overlaps, Region.area, Region.area, columns, rest]
    decide
  have exact : ∀ r ∈ g.rects, r.isEmpty = false → r.Exact := by rw [rows]; decide
  have laws := Composed.lawful (g := g) (h := h) (k := k)
    ((Composed.empty.insertRect _).insertRect _) ((Composed.empty.insertRect _).insertRect _)
    (((Composed.empty.insertRect _).eraseRect _).clip _) areaG areaH areaK
  obtain ⟨-, transitive, reflexive, counting, -⟩ := laws
  exact ⟨first, second, transitive first second, reflexive.1 exact, counting.1 exact⟩

/-- A rectangle that begins at the end of the coordinates is stored although it has no points. Its
region is not found equal to itself, nor empty, and has an area. -/
theorem sameCoverage?_saturated :
    let g := ofRect ⟨2147483647, 0, 5, 1⟩
    g.sameCoverage? g = some false ∧ g.isEmpty = false ∧ g.area? = some 5 ∧
      ∀ p : Point, g.contains p.x p.y = false := by
  intro g
  have shape : g.rects = [⟨2147483647, 0, 5, 1⟩] := by cbv
  rw [sameCoverage?, area?, overlaps, Region.area, isEmpty, shape]
  refine ⟨by decide, by decide, by decide, fun p => ?_⟩
  have left : (2147483647 : Int32).toInt = 2147483647 := rfl
  have right : (Rectangle.mk 2147483647 0 5 1).right.toInt = 2147483647 := by decide
  rw [contains, shape, List.any_cons, List.any_nil, Bool.or_false, Rectangle.contains_eq_false_iff,
    right, left]
  omega

end Compositing.Region
