import Compositing.Proofs.Compositor.Cores
import Compositing.Proofs.Compositor.Custody
import Compositing.Proofs.Surface.Clipping

/-!
# What is found under a point

Hit testing walks over the views of an output as a render pass does, but by itself. Both agree: the
view found under a point is that of the topmost item of a pass which is painted there and takes input
there, `Asked.viewAt?_topmost`. A surface whose input region was never set takes input wherever it is
painted, unless it is very large.
-/

namespace Compositing

theorem Placement.contains_iff {a : Placement} {x y : Int32} :
    a.contains x y = true ↔
      (a.origin.x.toInt ≤ x.toInt ∧ a.origin.y.toInt ≤ y.toInt) ∧
      x.toInt < a.origin.x.toInt + a.size.width.toNat ∧
      y.toInt < a.origin.y.toInt + a.size.height.toNat := by
  simp only [contains, Bool.and_eq_true, decide_eq_true_eq, and_assoc]

/-! ### Surfaces that take input everywhere -/

/-- The input region was never set: it is the plane, cut to the bounds by a commit. -/
structure Surface.Receptive (s : Surface) : Prop where
  pending : s.pending.inputRegion = Region.plane
  committed : ∀ p ∈ s.inBounds, p ∈ Region.plane.points → p ∈ s.committed.inputRegion.points

namespace Surface

variable {s s' : Surface}

theorem receptive_ofHandle (id : SurfaceId) (handle : Handle) :
    (ofHandle id handle).Receptive :=
  ⟨rfl, fun _ _ within => within⟩

theorem Receptive.of_core (receptive : s.Receptive) (same : s'.core = s.core) : s'.Receptive := by
  obtain ⟨-, -, size, pending, -, input⟩ := core_eq same
  refine ⟨by rw [pending, receptive.pending], fun p inside within => ?_⟩
  rw [inBounds, size] at inside
  exact input ▸ receptive.committed p inside within

theorem Receptive.commit (receptive : s.Receptive) (pool : BufferPool) :
    (s.commit pool).surface.Receptive := by
  have kept : (s.commit pool).surface.pending.inputRegion = s.pending.inputRegion :=
    (s.commitBuffer_regions pool).2.1
  obtain ⟨-, -, input, -⟩ := s.commit_regions pool
  refine ⟨kept.trans receptive.pending, fun p inside within => ?_⟩
  rw [input, receptive.pending, (Region.clip_inPlane Region.plane_inPlane.1).2, points_bounds]
  exact ⟨within, inside⟩

theorem mem_plane {p : Point} (left : 0 ≤ p.x.toInt) (right : p.x.toInt < 1073741823)
    (top : 0 ≤ p.y.toInt) (bottom : p.y.toInt < 1073741823) : p ∈ Region.plane.points := by
  have edges : Rectangle.plane.HasEdges (-1073741824) (-1073741824) 1073741823 1073741823 :=
    Rectangle.hasEdges_of_inside_plane rfl (.refl _)
  rw [Region.plane_inPlane.2]
  exact edges.contains_iff.2 (by omega)

end Surface

namespace Compositor

variable {c c' : Compositor}

/-! ### The requests of a run -/

/-- The states that requests lead to, with the requests, whatever the host answers. The host may
collect what it was told at any time. -/
inductive Asked : Compositor → List Request → Prop
  | start (config : Config) (contexts : Contexts) : Asked { config, contexts } []
  | handle {c : Compositor} {requests : List Request} (before : Asked c requests) (host : Host)
      (request : Request) : Asked (c.handle host request).2 (requests ++ [request])
  | collect {c : Compositor} {requests : List Request} (before : Asked c requests) :
      Asked c.collect.2 requests

variable {requests : List Request}

theorem Asked.reachable (asked : Asked c requests) : c.Reachable := by
  induction asked with
  | start config contexts => exact .start config contexts
  | handle _ host request ih => exact ih.handle host request
  | collect _ ih => exact ih.collect

/-- Every reachable state comes from some requests. -/
theorem Reachable.asked (reached : c.Reachable) : ∃ requests, Asked c requests := by
  induction reached with
  | start config contexts => exact ⟨[], .start config contexts⟩
  | handle _ host request ih =>
    obtain ⟨requests, asked⟩ := ih
    exact ⟨_, asked.handle host request⟩
  | collect _ ih =>
    obtain ⟨requests, asked⟩ := ih
    exact ⟨requests, asked.collect⟩

theorem Asked.run (asked : Asked c requests) (steps : List (Host × Request)) :
    Asked (c.run steps) (requests ++ steps.map Prod.snd) := by
  induction steps generalizing c requests with
  | nil => simpa [Compositor.run] using asked
  | cons x rest ih => simpa [Compositor.run] using ih (asked.handle x.1 x.2)

theorem Turned.receptive {request : Request} {k : SurfaceId} {s : Surface}
    (turned : Turned c k request s) (before : ∀ s, c.surfaces.get? k = some s → s.Receptive)
    (unset : ∀ region, request ≠ .setInput k region) : s.Receptive := by
  cases turned with
  | made handle => exact Surface.receptive_ofHandle k handle
  | attached found => exact ⟨(before _ found).pending, (before _ found).committed⟩
  | inputSet found asked => exact absurd asked (unset _)
  | committed found => exact (before _ found).commit c.buffers
  | kept found size committed _ input =>
    obtain ⟨pending, everywhere⟩ := before _ found
    refine ⟨input.trans pending, fun p inside within => ?_⟩
    rw [Surface.inBounds, size] at inside
    exact committed ▸ everywhere p inside within

theorem Asked.receptive (asked : Asked c requests) {k : SurfaceId}
    (unset : ∀ region, .setInput k region ∉ requests) {s : Surface}
    (found : c.surfaces.get? k = some s) : s.Receptive := by
  induction asked generalizing s with
  | start => simp at found
  | @handle c requests before host request ih =>
    obtain ⟨t, turned, same⟩ := turned_handle before.reachable.tidy before.reachable.held found
    refine (turned.receptive (fun s found => ih ?_ found) ?_).of_core same
    · exact fun region asked => unset region (by simp [asked])
    · exact fun region same => unset region (by simp [same])
  | collect _ ih => exact ih unset found

/-! ### Items under a point -/

/-- The item is painted at the point, and its surface takes input there. -/
structure Hit (c : Compositor) (x y : Int32) (item : PaintItem) : Prop where
  painted : item.placement.contains x y = true
  taken : ∃ s p, c.surfaces.get? item.surface = some s ∧ p ∈ s.committed.inputRegion.points ∧
    p.x.toInt = x.toInt - item.placement.origin.x.toInt ∧
    p.y.toInt = y.toInt - item.placement.origin.y.toInt

/-- The view is that of the last item with a property, and none if no item has it. -/
def Topmost (c : Compositor) (items : List PaintItem) (P : PaintItem → Prop) :
    Option ViewId → Prop
  | some v => ∃ below item above, items = below ++ item :: above ∧ P item ∧
      (∀ other ∈ above, ¬P other) ∧ ∃ s, c.surfaces.get? item.surface = some s ∧ s.view = some v
  | none => ∀ item ∈ items, ¬P item

theorem Topmost.congr {items : List PaintItem} {P Q : PaintItem → Prop} {v : Option ViewId}
    (topmost : c.Topmost items P v) (same : ∀ item ∈ items, P item ↔ Q item) :
    c.Topmost items Q v := by
  cases v with
  | none => exact fun item member hit => topmost item member ((same item member).2 hit)
  | some v =>
    obtain ⟨below, item, above, rfl, hit, free, view⟩ := topmost
    refine ⟨below, item, above, rfl, (same item (by simp)).1 hit, fun other member hit => ?_, view⟩
    exact free other member ((same other (by simp [member])).2 hit)

theorem toInt_ofInt {n : Int} (low : -2147483648 ≤ n) (high : n < 2147483648) :
    (Int32.ofInt n).toInt = n :=
  Int32.toInt_ofInt_of_le low high

/-- What an item draws is a mapped surface, in its size. -/
theorem paintItem?_found (linked : c.Linked) {p : Output} {v : ViewId} {item : PaintItem}
    (drawn : c.paintItem? p v = some item) :
    ∃ w s, c.views.get? v = some w ∧ w.visibleOn p.mask = true ∧
      c.surfaces.get? item.surface = some s ∧ s.isMapped = true ∧ s.view = some v ∧
      w.surface = item.surface ∧ item.placement = ⟨w.geometry.origin, s.size⟩ := by
  simp only [paintItem?_eq, Option.bind_eq_some_iff, Option.ite_none_right_eq_some,
    Option.some.injEq] at drawn
  obtain ⟨w, there, s, found, ⟨seen, mapped⟩, rfl⟩ := drawn
  have named : s.id = w.surface := (linked.surface_named w.surface s found).1
  obtain ⟨t, found', role⟩ := linked.surface_exists v w there
  cases found.symm.trans found'
  exact ⟨w, s, there, by simpa [View.visibleOn] using seen, named ▸ found, mapped, role, named.symm,
    rfl⟩

/-- Where a surface is painted, hit testing asks its input region about the point on the surface, if
that has coordinates. -/
theorem inputTaken_iff {w : View} {s : Surface} {x y : Int32}
    (area : (paintedArea w s).contains x y = true) :
    (decide (x.toInt - w.geometry.origin.x.toInt < 2147483648) &&
      decide (y.toInt - w.geometry.origin.y.toInt < 2147483648) &&
      s.committed.inputRegion.contains (Int32.ofInt (x.toInt - w.geometry.origin.x.toInt))
        (Int32.ofInt (y.toInt - w.geometry.origin.y.toInt))) = true ↔
    ∃ q ∈ s.committed.inputRegion.points, q.x.toInt = x.toInt - w.geometry.origin.x.toInt ∧
      q.y.toInt = y.toInt - w.geometry.origin.y.toInt := by
  obtain ⟨⟨left, top⟩, -⟩ := Placement.contains_iff.1 area
  change w.geometry.origin.x.toInt ≤ x.toInt at left
  change w.geometry.origin.y.toInt ≤ y.toInt at top
  simp only [Bool.and_eq_true, decide_eq_true_eq]
  constructor
  · rintro ⟨⟨narrow, low⟩, inside⟩
    exact ⟨⟨_, _⟩, inside, toInt_ofInt (by omega) narrow, toInt_ofInt (by omega) low⟩
  · rintro ⟨q, inside, column, row⟩
    -- The coordinates of a point of the region are in range, so the offsets are.
    have right := q.x.toInt_lt
    have bottom := q.y.toInt_lt
    rw [← column, ← row, Int32.ofInt_toInt, Int32.ofInt_toInt]
    exact ⟨⟨by omega, by omega⟩, inside⟩

/-- Hit testing looks at a view as a render pass does. -/
theorem takesInput_iff (linked : c.Linked) (p : Output) (x y : Int32) (v : ViewId) :
    c.takesInput p x y v = true ↔ ∃ item, c.paintItem? p v = some item ∧ c.Hit x y item := by
  constructor
  · intro takes
    unfold takesInput at takes
    split at takes
    next => cases takes
    next w there =>
      obtain ⟨there, seen⟩ := Option.filter_eq_some_iff.1 there
      split at takes
      next => cases takes
      next s shown =>
        obtain ⟨found, mapped⟩ := Option.filter_eq_some_iff.1 shown
        have named : s.id = w.surface := (linked.surface_named w.surface s found).1
        simp only [Bool.and_assoc] at takes
        obtain ⟨area, input⟩ := Bool.and_eq_true_iff.1 takes
        obtain ⟨q, inside, offset⟩ :=
          (inputTaken_iff area).1 ((Bool.and_assoc _ _ _).trans input)
        refine ⟨⟨s.id, paintedArea w s⟩, ?_, area, s, q, named ▸ found, inside, offset⟩
        rw [paintItem?_eq, there, Option.bind_some, found, Option.bind_some, if_pos]
        · rfl
        · exact ⟨by simpa [View.visibleOn] using seen, mapped⟩
  · rintro ⟨item, drawn, area, s, q, found, inside, offset⟩
    obtain ⟨w, t, there, seen, found', mapped, -, named, placement⟩ := paintItem?_found linked drawn
    cases found.symm.trans found'
    rw [placement] at area offset
    have input := (inputTaken_iff (w := w) (s := s) area).2 ⟨q, inside, offset⟩
    have there' : (c.views.get? v).filter (·.visibleOn p.mask) = some w :=
      Option.filter_eq_some_iff.2 ⟨there, seen⟩
    have shown : c.mappedSurface? w = some s :=
      Option.filter_eq_some_iff.2 ⟨named ▸ found, mapped⟩
    simp only [takesInput, there', shown, Bool.and_assoc]
    exact Bool.and_eq_true_iff.2 ⟨area, (Bool.and_assoc _ _ _).symm.trans input⟩

/-- The last view that a test accepts is that of the last item that it accepts. -/
theorem topmost_find? (linked : c.Linked) (p : Output) {P : PaintItem → Prop} {q : ViewId → Bool}
    (same : ∀ v, q v = true ↔ ∃ item, c.paintItem? p v = some item ∧ P item) :
    c.Topmost (c.paintItems p) P (p.paintOrder.reverse.find? q) := by
  have refused {v : ViewId} {item : PaintItem} (drawn : c.paintItem? p v = some item)
      (other : ¬q v = true) : ¬P item := fun hit => other ((same v).2 ⟨item, drawn, hit⟩)
  cases looked : p.paintOrder.reverse.find? q with
  | none =>
    intro item member
    obtain ⟨v, listed, drawn⟩ := List.mem_filterMap.1 member
    exact refused drawn (List.find?_eq_none.1 looked v (by simpa using listed))
  | some v =>
    obtain ⟨accepted, above, below, split, free⟩ := List.find?_eq_some_iff_append.1 looked
    obtain ⟨item, drawn, hit⟩ := (same v).1 accepted
    obtain ⟨w, s, -, -, found, -, role, -⟩ := paintItem?_found linked drawn
    -- The search starts on top, so it refused the views above the one that it found.
    have order : p.paintOrder = below.reverse ++ v :: above.reverse := by
      rw [← List.reverse_reverse p.paintOrder, split]
      simp
    refine ⟨below.reverse.filterMap (c.paintItem? p), item, above.reverse.filterMap (c.paintItem? p),
      ?_, hit, fun other member => ?_, s, found, role⟩
    · rw [paintItems, order, List.filterMap_append, List.filterMap_cons_some drawn]
    · obtain ⟨w, listed, drawn⟩ := List.mem_filterMap.1 member
      exact refused drawn (by simpa using free w (by simpa using listed))

/-- An item whose surface takes input everywhere is hit where it is painted. -/
theorem Asked.hit_iff (asked : Asked c requests) {p : Output} {x y : Int32} {item : PaintItem}
    (member : item ∈ c.paintItems p) (width : item.placement.size.width.toNat < 2 ^ 30)
    (height : item.placement.size.height.toNat < 2 ^ 30)
    (unset : ∀ region, .setInput item.surface region ∉ requests) :
    c.Hit x y item ↔ item.placement.contains x y = true := by
  refine ⟨Hit.painted, fun area => ⟨area, ?_⟩⟩
  obtain ⟨v, -, drawn⟩ := List.mem_filterMap.1 member
  obtain ⟨w, s, -, -, found, -, -, -, placement⟩ := paintItem?_found asked.reachable.linked drawn
  rw [placement] at area width height ⊢
  obtain ⟨⟨left, top⟩, right, bottom⟩ := Placement.contains_iff.1 area
  dsimp only at left top right bottom width height
  -- Offsets within a surface that is not very large have coordinates, and these lie in the plane.
  obtain ⟨q, column, row⟩ : ∃ q : Point, q.x.toInt = x.toInt - w.geometry.origin.x.toInt ∧
      q.y.toInt = y.toInt - w.geometry.origin.y.toInt :=
    ⟨⟨_, _⟩, toInt_ofInt (by omega) (by omega), toInt_ofInt (by omega) (by omega)⟩
  have inside : q ∈ s.inBounds := by
    show 0 ≤ q.x.toInt ∧ _ ∧ 0 ≤ q.y.toInt ∧ _
    omega
  have within : q ∈ Region.plane.points :=
    Surface.mem_plane (by omega) (by omega) (by omega) (by omega)
  exact ⟨s, q, found, (asked.receptive unset found).committed q inside within, column, row⟩

/-- The view under a point of an output is that of the topmost item that is painted there and takes
input there, among the items that a render pass on the output would draw. If no surface that is drawn
is very large or had its input region set, it is that of the topmost item painted there. -/
theorem Asked.viewAt?_topmost (asked : Asked c requests) (o : OutputId) (x y : Int32) :
    (c.outputs.get? o = none → c.viewAt? o x y = none) ∧
    ∀ p, c.outputs.get? o = some p →
      c.Topmost (c.paintItems p) (c.Hit x y) (c.viewAt? o x y) ∧
      ((∀ item ∈ c.paintItems p, item.placement.size.width.toNat < 2 ^ 30 ∧
          item.placement.size.height.toNat < 2 ^ 30 ∧
          ∀ region, .setInput item.surface region ∉ requests) →
        c.Topmost (c.paintItems p) (fun item => item.placement.contains x y = true)
          (c.viewAt? o x y)) := by
  have linked := asked.reachable.linked
  refine ⟨fun absent => by simp [viewAt?, absent], fun p found => ?_⟩
  have looked : c.viewAt? o x y = p.paintOrder.reverse.find? (c.takesInput p x y) := by
    simp [viewAt?, found]
  rw [looked]
  have topmost := topmost_find? linked p (c.takesInput_iff linked p x y)
  refine ⟨topmost, fun small => topmost.congr fun item member => ?_⟩
  obtain ⟨width, height, unset⟩ := small item member
  exact asked.hit_iff member width height unset

/-- Two surfaces are shown on an output, one above the other. -/
def stackedRequests : List Request :=
  [.createSurface ⟨1⟩ 1, .createSurface ⟨1⟩ 2, .pool (.register ⟨.shared, ⟨1, 1⟩, 4, .argb, none⟩),
    .addOutput "screen" ⟨1, 1⟩, .createView ⟨1⟩ ⟨⟨1⟩, 3⟩, .createView ⟨2⟩ ⟨⟨1⟩, 4⟩,
    .setViewOutput ⟨1⟩ (some ⟨1⟩), .setViewOutput ⟨2⟩ (some ⟨1⟩),
    .attach ⟨1⟩ (some ⟨1⟩) ⟨0, 0⟩, .commit ⟨1⟩, .attach ⟨2⟩ (some ⟨1⟩) ⟨0, 0⟩, .commit ⟨2⟩]

def stackedViews : Compositor :=
  ({ config := {}, contexts := .standard } : Compositor).run
    (stackedRequests.map (Prod.mk .willing))

/-- The upper one takes no input any more. -/
def upperIgnored : Compositor :=
  stackedViews.run <| List.map (Prod.mk .willing)
    [.createRegion ⟨1⟩ 5, .setInput ⟨2⟩ (some ⟨1⟩), .commit ⟨2⟩]

theorem upperIgnored_viewAt? :
    (∃ p, stackedViews.outputs.get? ⟨1⟩ = some p ∧
      stackedViews.Topmost (stackedViews.paintItems p)
        (fun item => item.placement.contains 0 0 = true) (some ⟨2⟩)) ∧
    ∃ p, upperIgnored.outputs.get? ⟨1⟩ = some p ∧
      upperIgnored.Topmost (upperIgnored.paintItems p) (upperIgnored.Hit 0 0) (some ⟨1⟩) := by
  have above : stackedViews.viewAt? ⟨1⟩ 0 0 = some ⟨2⟩ := by decide +kernel
  have below : upperIgnored.viewAt? ⟨1⟩ 0 0 = some ⟨1⟩ := by decide +kernel
  have small : (stackedViews.outputs.get? ⟨1⟩).any (fun p =>
      (stackedViews.paintItems p).all fun item =>
        item.placement.size.width.toNat < 2 ^ 30 && item.placement.size.height.toNat < 2 ^ 30) := by
    decide +kernel
  have there : (upperIgnored.outputs.get? ⟨1⟩).isSome := by decide +kernel
  obtain ⟨p, found, small⟩ := (Option.any_eq_true _ _).1 small
  obtain ⟨q, found'⟩ := Option.isSome_iff_exists.1 there
  have asked : Asked stackedViews
      ([] ++ (stackedRequests.map (Prod.mk Host.willing)).map Prod.snd) :=
    (Asked.start {} .standard).run _
  refine ⟨⟨p, found, ?_⟩, q, found', below ▸ ((asked.run _).viewAt?_topmost ⟨1⟩ 0 0).2 q found' |>.1⟩
  refine above ▸ ((asked.viewAt?_topmost ⟨1⟩ 0 0).2 p found).2 fun item member => ?_
  have sizes := List.all_eq_true.1 small item member
  rw [Bool.and_eq_true, decide_eq_true_eq, decide_eq_true_eq] at sizes
  exact ⟨sizes.1, sizes.2, by simp [stackedRequests]⟩

end Compositor

end Compositing
