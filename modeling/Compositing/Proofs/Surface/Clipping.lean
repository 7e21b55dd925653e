import Compositing.Proofs.Region.Areas
import Compositing.Surface

/-!
# What a commit leaves of regions

Whatever a client asks for, a commit cuts the damage, the opaque and the input region of a surface
to the buffer that it shows, and loses no point inside. It tells whether other points are opaque
than before, although it compares areas only. Main statement: `commit_clips`.
-/

namespace Compositing.Surface

/-! ### Runs of a surface -/

/-- What can happen to the state of a surface. -/
inductive Action where
  | attach (buffer : Option BufferId) (offset : Point)
  | damage (r : Rectangle)
  | setOpaque (region : Option Region)
  | setInput (region : Option Region)
  | frame (callback : Handle)
  | commit (pool : BufferPool)
  | takeDamage

namespace Action

def commits : Action → Bool
  | commit _ => true
  | _ => false

/-- Regions come from rectangles that were added and removed. -/
def Built : Action → Prop
  | setOpaque region | setInput region => ∀ g ∈ region, g.Built
  | _ => True

end Action

def perform (s : Surface) : Action → Surface
  | .attach buffer offset => s.attach buffer offset
  | .damage r => s.addDamage r
  | .setOpaque region => s.setOpaque region
  | .setInput region => s.setInput region
  | .frame callback => (s.setCallback callback).2
  | .commit pool => (s.commit pool).surface
  | .takeDamage => s.takeDamage.2

def run (s : Surface) (actions : List Action) : Surface := actions.foldl perform s

theorem run_concat (s : Surface) (actions : List Action) (a : Action) :
    s.run (actions ++ [a]) = (s.run actions).perform a := by
  simp [run]

/-! ### Bounds -/

/-- The points of the surface. Those beyond the largest coordinate are none. -/
def inBounds (s : Surface) : Set Point :=
  {p | 0 ≤ p.x.toInt ∧ p.x.toInt < min s.size.width.toNat 2147483647 ∧
    0 ≤ p.y.toInt ∧ p.y.toInt < min s.size.height.toNat 2147483647}

theorem toInt_coordinateOfLength (n : UInt32) :
    (coordinateOfLength n).toInt = min n.toNat 2147483647 := by
  rw [coordinateOfLength, toInt_clampCoordinate]
  omega

theorem bounds_toInt (s : Surface) :
    (s.bounds.x.toInt = 0 ∧ s.bounds.y.toInt = 0) ∧
    s.bounds.width.toInt = min s.size.width.toNat 2147483647 ∧
    s.bounds.height.toInt = min s.size.height.toNat 2147483647 ∧
    s.bounds.right.toInt = min s.size.width.toNat 2147483647 ∧
    s.bounds.bottom.toInt = min s.size.height.toNat 2147483647 := by
  have zero : (0 : Int32).toInt = 0 := rfl
  have corner : s.bounds.x = 0 ∧ s.bounds.y = 0 := ⟨rfl, rfl⟩
  have width : s.bounds.width.toInt = min s.size.width.toNat 2147483647 :=
    toInt_coordinateOfLength _
  have height : s.bounds.height.toInt = min s.size.height.toNat 2147483647 :=
    toInt_coordinateOfLength _
  rw [Rectangle.toInt_right, Rectangle.toInt_bottom, width, height, corner.1, corner.2, zero]
  omega

theorem points_bounds (s : Surface) : s.bounds.points = s.inBounds := by
  obtain ⟨⟨left, top⟩, width, height, right, bottom⟩ := s.bounds_toInt
  have upright : s.bounds.Upright := by
    unfold Rectangle.Upright
    omega
  ext p
  change s.bounds.contains p.x p.y = true ↔ _
  rw [upright.contains_iff, left, top, right, bottom]
  rfl

theorem narrow_bounds (s : Surface) : Region.Narrow s.bounds.points := by
  rw [points_bounds]
  rintro p ⟨_, _, _, _⟩ q ⟨_, _, _, _⟩
  omega

/-- There are fewer points in the bounds than a signed 64-bit word can count. -/
theorem ncard_inBounds_lt (s : Surface) : (s.inBounds.ncard : Int) < 9223372036854775808 := by
  rw [← points_bounds]
  exact s.bounds.ncard_points_lt

/-! ### Commits -/

/-- The opaque region that a commit compares with the one before. -/
def visible (s : Surface) (pool : BufferPool) : Region :=
  s.pending.opaqueRegion.clip (s.commit pool).surface.bounds

theorem commitBuffer_regions (s : Surface) (pool : BufferPool) :
    let attached := (s.commitBuffer pool).1
    attached.pending.opaqueRegion = s.pending.opaqueRegion ∧
    attached.pending.inputRegion = s.pending.inputRegion ∧
    attached.pending.damage = s.pending.damage ∧
    attached.committed.opaqueRegion = s.committed.opaqueRegion ∧
    attached.committed.damage = s.committed.damage := by
  unfold commitBuffer
  split <;> exact ⟨rfl, rfl, rfl, rfl, rfl⟩

theorem commit_regions (s : Surface) (pool : BufferPool) :
    (s.commit pool).surface.committed.damage =
      (s.committed.damage.union s.pending.damage).clip (s.commit pool).surface.bounds ∧
    (s.commit pool).surface.committed.opaqueRegion =
      (if (s.visible pool).sameCoverage s.committed.opaqueRegion then s.committed.opaqueRegion
        else s.visible pool) ∧
    (s.commit pool).surface.committed.inputRegion =
      s.pending.inputRegion.clip (s.commit pool).surface.bounds ∧
    (s.commit pool).outcome.opaqueChanged =
      !(s.visible pool).sameCoverage s.committed.opaqueRegion ∧
    (s.commit pool).surface.pending.opaqueRegion = s.pending.opaqueRegion ∧
    (s.commit pool).surface.pending.damage = Region.empty := by
  obtain ⟨opaqueRegion, inputRegion, damage, shown, kept⟩ := s.commitBuffer_regions pool
  simp only [visible, ← opaqueRegion, ← inputRegion, ← damage, ← shown, ← kept]
  refine ⟨rfl, ?_, rfl, rfl, rfl, rfl⟩
  change (if (!_) = true then _ else _) = _
  simp only [Bool.not_eq_true', ← Bool.not_eq_true, ite_not]
  rfl

/-- What the comparison of opaque regions relies on. -/
structure Comparable (s : Surface) : Prop where
  pending : Region.Apart s.pending.opaqueRegion.rects
  committed : Region.Measured s.committed.opaqueRegion.rects
  inner : s.committed.opaqueRegion.points ⊆ s.inBounds

section

variable {s : Surface} (pool : BufferPool)

theorem visible_measured (comparable : s.Comparable) :
    Region.Measured (s.visible pool).rects :=
  Region.clip_measured comparable.pending (narrow_bounds _)

theorem points_visible (s : Surface) (pool : BufferPool) : (s.visible pool).points =
    s.pending.opaqueRegion.points ∩ (s.commit pool).surface.inBounds := by
  rw [visible, (Region.clip_exact _ (narrow_bounds _)).2, points_bounds]

/-- The committed opaque region covers what is visible of the pending one, even if it was kept. -/
theorem points_committed (comparable : s.Comparable) :
    (s.commit pool).surface.committed.opaqueRegion.points = (s.visible pool).points := by
  rw [(s.commit_regions pool).2.1]
  split
  next same =>
    exact ((Region.sameCoverage_iff (visible_measured pool comparable)
      comparable.committed).1 same).symm
  next => rfl

theorem opaqueChanged_iff (comparable : s.Comparable) :
    (s.commit pool).outcome.opaqueChanged = true ↔
      (s.commit pool).surface.committed.opaqueRegion.points ≠ s.committed.opaqueRegion.points := by
  obtain ⟨-, -, -, changed, -⟩ := s.commit_regions pool
  rw [changed, Bool.not_eq_true', ← Bool.not_eq_true, points_committed pool comparable,
    Region.sameCoverage_iff (visible_measured pool comparable) comparable.committed]

theorem Comparable.commit (comparable : s.Comparable) : (s.commit pool).surface.Comparable := by
  obtain ⟨-, opaqueRegion, -, -, pending, -⟩ := s.commit_regions pool
  constructor
  case pending => exact pending ▸ comparable.pending
  case committed =>
    rw [opaqueRegion]
    split
    · exact comparable.committed
    · exact visible_measured pool comparable
  case inner =>
    rw [points_committed pool comparable, points_visible]
    exact Set.inter_subset_right

theorem comparable_ofHandle (id : SurfaceId) (handle : Handle) :
    (ofHandle id handle).Comparable where
  pending := List.Pairwise.nil
  committed := ⟨fun _ member => absurd member List.not_mem_nil, List.Pairwise.nil⟩
  inner := Region.empty_inPlane.2 ▸ Set.empty_subset _

theorem Comparable.perform (comparable : s.Comparable) {a : Action} (built : a.Built) :
    (s.perform a).Comparable := by
  cases a with
  | commit pool => exact comparable.commit pool
  | setOpaque region =>
    refine ⟨?_, comparable.committed, comparable.inner⟩
    cases region with
    | none => exact List.Pairwise.nil
    | some g => exact (built g rfl).apart
  | attach | damage | setInput | frame | takeDamage =>
    exact ⟨comparable.pending, comparable.committed, comparable.inner⟩

theorem Comparable.run (comparable : s.Comparable) {actions : List Action}
    (built : ∀ a ∈ actions, a.Built) : (s.run actions).Comparable := by
  induction actions generalizing s with
  | nil => exact comparable
  | cons a actions ih =>
    exact ih (comparable.perform (built a (by simp))) fun b member => built b (by simp [member])

/-! ### Between commits -/

/-- Until the next commit nothing is committed, though the damage may be taken. -/
theorem run_between {actions : List Action} (between : ∀ a ∈ actions, a.commits = false) :
    (s.run actions).committed.opaqueRegion = s.committed.opaqueRegion ∧
    (s.run actions).committed.inputRegion = s.committed.inputRegion ∧
    ((s.run actions).committed.damage = s.committed.damage ∨
      (s.run actions).committed.damage = Region.empty) := by
  induction actions generalizing s with
  | nil => exact ⟨rfl, rfl, .inl rfl⟩
  | cons a actions ih =>
    obtain ⟨opaqueRegion, inputRegion, damage⟩ :=
      ih (s := s.perform a) fun b member => between b (by simp [member])
    have here := between a (by simp)
    cases a with
    | commit => simp [Action.commits] at here
    | takeDamage =>
      -- Whether the damage is taken again or not, nothing is left of it.
      exact ⟨opaqueRegion, inputRegion, .inr (damage.elim (fun same => same) fun empty => empty)⟩
    | attach | damage | setOpaque | setInput | frame => exact ⟨opaqueRegion, inputRegion, damage⟩

end

/-! ### Every commit -/

/-- No sum of areas, added one after the other, leaves a signed 64-bit word. -/
def SumsFit (rs : List Rectangle) : Prop :=
  ∀ part, part <+: rs → Region.areaOf part < 9223372036854775808

theorem sumsFit_of_subset {s : Surface} {rs : List Rectangle} (measured : Region.Measured rs)
    (inner : Region.cover rs ⊆ s.inBounds) : SumsFit rs := by
  intro part start
  have count := Region.areaOf_le_ncard measured start.sublist
  have fewer := Set.ncard_le_ncard inner
  have := s.ncard_inBounds_lt
  omega

/-- After any requests, a commit leaves in its bounds all of the pending opaque and input region
and nothing outside, also of the damage, until the next commit. It tells exactly whether other
points are opaque than before, and no sum of areas that it compares overflows. -/
theorem commit_clips (id : SurfaceId) (handle : Handle) (before : List Action) (pool : BufferPool)
    (after : List Action) (built : ∀ a ∈ before, a.Built)
    (between : ∀ a ∈ after, a.commits = false) :
    let s := (ofHandle id handle).run before
    let done := s.commit pool
    let later := done.surface.run after
    let bounds := done.surface.inBounds
    later.committed.damage.points ⊆ bounds ∧
    later.committed.opaqueRegion.points = s.pending.opaqueRegion.points ∩ bounds ∧
    later.committed.inputRegion.points = s.pending.inputRegion.points ∩ bounds ∧
    (done.outcome.opaqueChanged = true ↔
      done.surface.committed.opaqueRegion.points ≠ s.committed.opaqueRegion.points) ∧
    SumsFit (s.visible pool).rects ∧ SumsFit s.committed.opaqueRegion.rects ∧
    SumsFit ((s.visible pool).overlaps s.committed.opaqueRegion) := by
  intro s done later bounds
  have comparable : s.Comparable := (comparable_ofHandle id handle).run built
  have visible := visible_measured pool comparable
  obtain ⟨opaqueRegion, inputRegion, damage⟩ := run_between (s := done.surface) between
  obtain ⟨committedDamage, -, committedInput, -, -, -⟩ := s.commit_regions pool
  refine ⟨?_, ?_, ?_, opaqueChanged_iff pool comparable, ?_, ?_, ?_⟩
  · rcases damage with same | taken
    · rw [same, committedDamage, (Region.clip_exact _ (narrow_bounds _)).2, points_bounds]
      exact Set.inter_subset_right
    · rw [taken, Region.empty_inPlane.2]
      exact Set.empty_subset _
  · rw [opaqueRegion, points_committed pool comparable, points_visible]
  · rw [inputRegion, committedInput, (Region.clip_exact _ (narrow_bounds _)).2, points_bounds]
  · apply sumsFit_of_subset (s := done.surface) visible
    rw [← Region.points_eq_cover, points_visible]
    exact Set.inter_subset_right
  · apply sumsFit_of_subset comparable.committed
    rw [← Region.points_eq_cover]
    exact comparable.inner
  · -- The overlaps lie in the old bounds, whatever the new ones are.
    apply sumsFit_of_subset (s := s) (Region.measured_overlaps visible comparable.committed)
    rw [Region.overlaps, Region.cover_overlaps, ← Region.points_eq_cover s.committed.opaqueRegion]
    exact Set.inter_subset_right.trans comparable.inner

/-- A buffer of two pixels in a row. -/
def twoPixels : BufferPool :=
  BufferPool.empty.update ⟨1⟩
    { id := ⟨1⟩, memory := .shared, size := ⟨2, 1⟩, stride := 8, format := .argb }

/-- A client that calls more opaque than the buffer it shows, but not its first pixel. -/
def eagerClient : List Action :=
  [.attach (some ⟨1⟩) ⟨0, 0⟩, .damage ⟨-3, -3, 9, 9⟩,
    .setOpaque (some ((Region.ofRect ⟨-1, 0, 4, 2⟩).eraseRect ⟨0, 0, 1, 1⟩))]

theorem commit_clips_eagerClient :
    let s := (ofHandle ⟨1⟩ ⟨⟨1⟩, 2⟩).run eagerClient
    let done := s.commit twoPixels
    let later := done.surface.run [.damage ⟨0, 0, 1, 1⟩, .takeDamage]
    (∀ a ∈ eagerClient, a.Built) ∧ done.surface.size = ⟨2, 1⟩ ∧
    later.committed.opaqueRegion.points =
      (Rectangle.points ⟨-1, 0, 4, 2⟩ \ Rectangle.points ⟨0, 0, 1, 1⟩) ∩ done.surface.inBounds := by
  intro s done later
  have built : ∀ a ∈ eagerClient, a.Built := by
    simp only [eagerClient, List.forall_mem_cons]
    refine ⟨trivial, trivial, ?_, fun a member => absurd member List.not_mem_nil⟩
    rintro g ⟨⟩
    exact (Region.Built.empty.insertRect _).eraseRect _
  have kept := (commit_clips ⟨1⟩ ⟨⟨1⟩, 2⟩ eagerClient twoPixels
    [.damage ⟨0, 0, 1, 1⟩, .takeDamage] built (by simp [Action.commits])).2.1
  have inner : Rectangle.Inside ⟨-1, 0, 4, 2⟩ Rectangle.plane := by
    rw [Rectangle.inside_plane_iff]
    decide
  obtain ⟨inPlane, whole⟩ := Region.ofRect_inPlane (.inr inner)
  refine ⟨built, rfl, kept.trans ?_⟩
  rw [← whole, ← (Region.eraseRect_inPlane inPlane).2]
  rfl

end Compositing.Surface
