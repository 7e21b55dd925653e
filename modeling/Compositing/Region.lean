import Compositing.Geometry.Rectangle

/-!
# Regions

A region is a set of points kept as a list of rectangles that do not overlap, ordered by row and
then by column, with neighbours joined wherever two of them form one rectangle. Clients build
regions rectangle by rectangle; surfaces use them for damage, for opaque content and for input.

Only the covered points matter to the rest of the library, yet the decomposition is fixed by the
operations below: a new rectangle is cut against what is there, the remaining pieces are appended,
and `normalize` joins and sorts. Main statement: `perm_joinOnce?`, which says that joining replaces
two neighbours by one rectangle.
-/

namespace Compositing

structure Region where
  rects : List Rectangle
  deriving DecidableEq, Repr, Inhabited

namespace Region

def empty : Region := ⟨[]⟩

def plane : Region := ⟨[Rectangle.plane]⟩

def isEmpty (r : Region) : Bool := r.rects.isEmpty

def contains (r : Region) (x y : Int32) : Bool := r.rects.any (·.contains x y)

/-- The smallest rectangle around the region, with no extent when the region is empty. -/
def extents (r : Region) : Rectangle :=
  match r.rects with
  | [] => Rectangle.zero
  | first :: rest =>
    Rectangle.ofEdges
      (rest.foldl (fun edge s => min edge s.x) first.x)
      (rest.foldl (fun edge s => min edge s.y) first.y)
      (rest.foldl (fun edge s => max edge s.right) first.right)
      (rest.foldl (fun edge s => max edge s.bottom) first.bottom)

/-! ### Joining neighbours -/

/-- The list without its first place: the last rectangle moves into the place that became free. -/
def closeGap (rest : List Rectangle) : List Rectangle :=
  match rest.getLast? with
  | some last => last :: rest.dropLast
  | none => []

/-- Joins `r` with the first of `rs` that forms one rectangle with it. Gives the joined rectangle and
the others. -/
def absorb? (r : Rectangle) : List Rectangle → Option (Rectangle × List Rectangle)
  | [] => none
  | s :: rest =>
    match r.merge? s with
    | some joined => some (joined, closeGap rest)
    | none => (absorb? r rest).map fun (joined, others) => (joined, s :: others)

def joinOnce? : List Rectangle → Option (List Rectangle)
  | [] => none
  | r :: rest =>
    match absorb? r rest with
    | some (joined, others) => some (joined :: others)
    | none => (joinOnce? rest).map (r :: ·)

theorem perm_closeGap (rest : List Rectangle) : (closeGap rest).Perm rest := by
  unfold closeGap
  cases last : rest.getLast? with
  | none => simp [List.getLast?_eq_none_iff.1 last]
  | some r =>
    obtain ⟨front, rfl⟩ := List.getLast?_eq_some_iff.1 last
    simpa using (List.perm_append_singleton r front).symm

/-- Joining takes one rectangle out and leaves the others, in some order. -/
theorem perm_absorb? {r joined : Rectangle} {rs others : List Rectangle}
    (found : absorb? r rs = some (joined, others)) :
    ∃ s, r.merge? s = some joined ∧ rs.Perm (s :: others) := by
  induction rs generalizing joined others with
  | nil => simp [absorb?] at found
  | cons s rest ih =>
    unfold absorb? at found
    split at found
    next merged =>
      obtain ⟨rfl, rfl⟩ : _ = joined ∧ closeGap rest = others := by simpa using found
      exact ⟨s, merged, (perm_closeGap rest).symm.cons s⟩
    · obtain ⟨⟨_, kept⟩, inner, eq⟩ := Option.map_eq_some_iff.1 found
      cases eq
      obtain ⟨t, merged, perm⟩ := ih inner
      exact ⟨t, merged, (perm.cons s).trans (.swap t s kept)⟩

theorem perm_joinOnce? {rs next : List Rectangle} (found : joinOnce? rs = some next) :
    ∃ r s joined others, r.merge? s = some joined ∧ rs.Perm (r :: s :: others) ∧
      next.Perm (joined :: others) := by
  induction rs generalizing next with
  | nil => simp [joinOnce?] at found
  | cons r rest ih =>
    unfold joinOnce? at found
    split at found
    next joined others absorbed =>
      cases found
      obtain ⟨s, merged, perm⟩ := perm_absorb? absorbed
      exact ⟨r, s, joined, others, merged, perm.cons r, .refl _⟩
    next =>
      obtain ⟨inner, eq, rfl⟩ := Option.map_eq_some_iff.1 found
      obtain ⟨t, u, joined, others, merged, before, after⟩ := ih eq
      refine ⟨t, u, joined, r :: others, merged, ?_, ?_⟩
      · exact (before.cons r).trans ((List.Perm.swap t r _).trans ((List.Perm.swap u r _).cons t))
      · exact (after.cons r).trans (.swap joined r others)

theorem length_joinOnce? {rs next : List Rectangle} (found : joinOnce? rs = some next) :
    next.length + 1 = rs.length := by
  obtain ⟨r, s, joined, others, _, before, after⟩ := perm_joinOnce? found
  have := before.length_eq
  have := after.length_eq
  simp_all

/-- Joins neighbours, one pair at a time, until no two rectangles form one. -/
def coalesce (rs : List Rectangle) : List Rectangle :=
  match found : joinOnce? rs with
  -- The joined rectangle may fit one that came before it, so the search begins anew.
  | some next =>
    have shorter : next.length < rs.length := by have := length_joinOnce? found; omega
    coalesce next
  | none => rs
termination_by rs.length

/-- The order of the stored rectangles: by row, then by column. -/
def before (r s : Rectangle) : Bool := r.y < s.y || (r.y == s.y && r.x ≤ s.x)

/-- Drops empty rectangles, joins neighbours and sorts. -/
def normalize (rs : List Rectangle) : List Rectangle :=
  (coalesce (rs.filter (!·.isEmpty))).mergeSort before

/-! ### Operations on point sets -/

/-- The parts of `r` that `rs` does not cover. -/
def uncovered (rs : List Rectangle) (r : Rectangle) : List Rectangle :=
  rs.foldl (fun pieces s => pieces.flatMap (·.subtract s)) [r]

/-- Adds a rectangle. An empty one changes nothing. -/
def insertRect (g : Region) (r : Rectangle) : Region :=
  if r.isEmpty then g else ⟨normalize (g.rects ++ uncovered g.rects r)⟩

/-- Removes the points of a rectangle. An empty one changes nothing. -/
def eraseRect (g : Region) (cut : Rectangle) : Region :=
  if cut.isEmpty || g.isEmpty then g else ⟨normalize (g.rects.flatMap (·.subtract cut))⟩

/-- Keeps the points inside a rectangle; none are inside an empty one. -/
def clip (g : Region) (r : Rectangle) : Region :=
  ⟨normalize (g.rects.filterMap (·.intersection r))⟩

def ofRect (r : Rectangle) : Region := empty.insertRect r

def ofRects (rs : List Rectangle) : Region := rs.foldl insertRect empty

def union (g h : Region) : Region :=
  -- A rectangle is cut against the pieces added before it as well.
  ⟨normalize (h.rects.foldl (fun rs r => rs ++ uncovered rs r) g.rects)⟩

def difference (g h : Region) : Region := h.rects.foldl eraseRect g

def intersection (g h : Region) : Region :=
  ⟨normalize (g.rects.flatMap fun r => h.rects.filterMap r.intersection)⟩

/-- Moves every rectangle; corners saturate, and the order is left as it was. -/
def translate (g : Region) (dx dy : Int32) : Region := ⟨g.rects.map (·.translate dx dy)⟩

/-! ### Measure and equality of coverage -/

def areaOf (rs : List Rectangle) : Int := rs.foldr (fun r rest => r.area + rest) 0

def area (g : Region) : Int := areaOf g.rects

/-- The overlaps of every rectangle of one region with every rectangle of the other. -/
def overlaps (g h : Region) : List Rectangle :=
  g.rects.flatMap fun r => h.rects.filterMap r.intersection

/-- Two regions cover the same points when they are equally large and their common part is as large.
No overlap is counted twice, since neither decomposition overlaps itself. -/
def sameCoverage (g h : Region) : Bool :=
  g.area == h.area && areaOf (g.overlaps h) == g.area

private def measured? (area : Int) : Option Int :=
  if area < 9223372036854775808 then some area else none

/-- The area, unless it exceeds a signed 64-bit word. -/
def area? (g : Region) : Option Int := measured? g.area

/-- `sameCoverage`, unless an area that it compares exceeds a signed 64-bit word. The common part is
measured only for regions of the same size. -/
def sameCoverage? (g h : Region) : Option Bool := do
  let area ← g.area?
  let other ← h.area?
  if area = other then
    let shared ← measured? (areaOf (g.overlaps h))
    return shared == area
  else
    return false

end Region

end Compositing
