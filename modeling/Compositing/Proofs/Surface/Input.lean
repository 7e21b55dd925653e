import Compositing.Proofs.Surface.Clipping

/-!
# Surfaces that take input everywhere

A surface whose input region was not set, or was reset since, is to take input wherever it is shown.
The region that stands for this is a plane that ends before the coordinates do, and a commit leaves of
a surface only what lies in it. So a very long surface takes no input at its far end. Main statement:
`commit_input_unset`.
-/

namespace Compositing.Surface

/-! ### The points in the plane -/

/-- The points from the corner of a surface up to its lengths. -/
def upTo (width height : Nat) : Set Point :=
  {p | (0 ≤ p.x.toInt ∧ p.x.toInt < width) ∧ 0 ≤ p.y.toInt ∧ p.y.toInt < height}

/-- The longest side with which a surface lies in the plane. -/
def planeLength : Nat := 1073741823

variable {s : Surface}

theorem inBounds_inter_plane (s : Surface) : Region.plane.points ∩ s.inBounds =
    upTo (min s.size.width.toNat planeLength) (min s.size.height.toNat planeLength) := by
  have edges : Rectangle.plane.HasEdges (-1073741824) (-1073741824) 1073741823 1073741823 :=
    Rectangle.hasEdges_of_inside_plane rfl (.refl _)
  ext p
  rw [Region.plane_inPlane.2, Set.mem_inter_iff]
  refine (and_congr_left' edges.contains_iff).trans ?_
  simp only [inBounds, upTo, planeLength, Set.mem_ofPred_eq]
  omega

theorem upTo_subset_plane_iff {width height : Nat} :
    upTo width height ⊆ upTo (min width planeLength) (min height planeLength) ↔
      width = 0 ∨ height = 0 ∨ (width ≤ planeLength ∧ height ≤ planeLength) := by
  have far : (1073741823 : Int32).toInt = 1073741823 := rfl
  have zero : (0 : Int32).toInt = 0 := rfl
  constructor
  · intro covered
    by_contra long
    -- One of the first points outside the plane lies on the surface.
    have right := @covered ⟨1073741823, 0⟩
    have bottom := @covered ⟨0, 1073741823⟩
    simp only [upTo, planeLength, Set.mem_ofPred_eq, far, zero] at right bottom long
    omega
  · rintro short p inside
    simp only [upTo, Set.mem_ofPred_eq] at inside ⊢
    omega

/-! ### The pending input region -/

/-- The input region was never set, or it was reset to the whole surface since. -/
def InputUnset (past : List Action) : Prop :=
  (∀ region, .setInput region ∉ past) ∨
  ∃ before after, past = before ++ .setInput none :: after ∧ ∀ region, .setInput region ∉ after

/-- Only one request sets the pending input region. -/
theorem perform_input {a : Action} (other : ∀ region, a ≠ .setInput region) :
    (s.perform a).pending.inputRegion = s.pending.inputRegion := by
  cases a with
  | setInput region => exact absurd rfl (other region)
  | commit pool => exact (s.commitBuffer_regions pool).2.1
  | attach | damage | setOpaque | frame | takeDamage => rfl

theorem run_input {actions : List Action} (unset : ∀ region, .setInput region ∉ actions) :
    (s.run actions).pending.inputRegion = s.pending.inputRegion := by
  induction actions generalizing s with
  | nil => rfl
  | cons a actions ih =>
    simp only [List.mem_cons, not_or] at unset
    exact (ih fun region => (unset region).2).trans
      (perform_input fun region => Ne.symm (unset region).1)

theorem InputUnset.pending {past : List Action} (unset : InputUnset past) (id : SurfaceId)
    (handle : Handle) : ((ofHandle id handle).run past).pending.inputRegion = Region.plane := by
  rcases unset with never | ⟨before, after, rfl, since⟩
  · exact run_input never
  · have reset : (ofHandle id handle).run (before ++ .setInput none :: after) =
        (((ofHandle id handle).run before).setInput none).run after := by
      simp [run, perform]
    rw [reset, run_input since]
    rfl

/-! ### The committed input region -/

/-- A surface whose input region is not set takes input at its points that lie in the plane, until the
next commit. These are all its points exactly if none of its sides is longer than the plane. -/
theorem commit_input_unset (id : SurfaceId) (handle : Handle) (before : List Action)
    (pool : BufferPool) (after : List Action) (unset : InputUnset before)
    (between : ∀ a ∈ after, a.commits = false) :
    let done := (((ofHandle id handle).run before).commit pool).surface
    let later := done.run after
    let width := done.size.width.toNat
    let height := done.size.height.toNat
    later.committed.inputRegion.points = upTo (min width planeLength) (min height planeLength) ∧
    (upTo width height ⊆ later.committed.inputRegion.points ↔
      width = 0 ∨ height = 0 ∨ (width ≤ planeLength ∧ height ≤ planeLength)) := by
  intro done later width height
  have input : later.committed.inputRegion.points =
      upTo (min width planeLength) (min height planeLength) := by
    rw [(run_between between).2.1, (commit_regions _ pool).2.2.1, unset.pending,
      (Region.clip_inPlane Region.plane_inPlane.1).2, points_bounds, inBounds_inter_plane]
  exact ⟨input, by rw [input, upTo_subset_plane_iff]⟩

/-- A row of pixels that is one pixel longer than the plane. -/
def longRow : BufferPool :=
  (BufferPool.empty.handle (.register
    { memory := .device, size := ⟨1073741824, 1⟩, stride := 1073741824, format := .nv12, owner := none })).2

/-- Shows the row after the input region was set and reset. -/
def showRow : List Action :=
  [.setInput (some Region.empty), .attach (some ⟨1⟩) ⟨0, 0⟩, .setInput none]

theorem commit_input_unset_longRow :
    let done := (((ofHandle ⟨1⟩ ⟨⟨1⟩, 2⟩).run showRow).commit longRow).surface
    let later := done.run [.setInput (some Region.empty)]
    InputUnset showRow ∧ later.committed.inputRegion.points = upTo 1073741823 1 := by
  intro done later
  have unset : InputUnset showRow := .inr ⟨showRow.take 2, [], rfl, by simp⟩
  exact ⟨unset, (commit_input_unset ⟨1⟩ ⟨⟨1⟩, 2⟩ showRow longRow [.setInput (some Region.empty)]
    unset (by simp [Action.commits])).1⟩

/-- The last pixel of the row is on the surface, and takes no input. -/
theorem unset_input_ends :
    let done := (((ofHandle ⟨1⟩ ⟨⟨1⟩, 2⟩).run [.attach (some ⟨1⟩) ⟨0, 0⟩]).commit longRow).surface
    InputUnset [.attach (some ⟨1⟩) ⟨0, 0⟩] ∧ done.size = ⟨1073741824, 1⟩ ∧
      ⟨1073741823, 0⟩ ∈ upTo done.size.width.toNat done.size.height.toNat ∧
      done.committed.inputRegion.contains 1073741823 0 = false := by
  refine ⟨.inl (by simp), rfl, ?_, by decide +kernel⟩
  exact show ((0 : Int) ≤ 1073741823 ∧ (1073741823 : Int) < 1073741824) ∧ (0 : Int) ≤ 0 ∧ (0 : Int) < 1
    by decide

end Compositing.Surface
