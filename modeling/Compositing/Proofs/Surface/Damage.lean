import Compositing.Proofs.Histories
import Compositing.Proofs.Surface.Clipping

/-!
# Damage over a history

The committed damage of a surface is told by the requests so far alone: by what was damaged before
each commit, by the bounds at the commits, and by when the damage was last taken. Main statement:
`damage_accumulates`.
-/

namespace Compositing.Surface

def Action.takes : Action → Bool
  | takeDamage => true
  | _ => false

/-! ### What the requests so far tell -/

/-- The point was damaged after the last commit. -/
def Requested (past : List Action) (p : Point) : Prop :=
  ∃ before r after, past = before ++ .damage r :: after ∧ p ∈ r.points ∧
    ∀ a ∈ after, a.commits = false

/-- After the damage was last taken, a commit applied damage with the point in it, and the point
was in the bounds of that commit and of every later one. -/
def Accumulated (s : Surface) (past : List Action) (p : Point) : Prop :=
  ∃ before pool after, past = before ++ .commit pool :: after ∧ Requested before p ∧
    (∀ a ∈ after, a.takes = false) ∧
    ∀ upto here rest, past = upto ++ .commit here :: rest → before <+: upto →
      p ∈ (s.run (upto ++ [.commit here])).inBounds

/-! ### One more request -/

variable {s : Surface} {past : List Action} {p : Point}

theorem not_requested_nil : ¬Requested [] p := by
  rintro ⟨before, r, after, split, -⟩
  simp at split

theorem requested_concat_iff (a : Action) : Requested (past ++ [a]) p ↔
    (a.commits = false ∧ Requested past p) ∨ ∃ r, a = .damage r ∧ p ∈ r.points := by
  constructor
  · rintro ⟨before, r, after, split, inside, quiet⟩
    rcases concat_eq_append_cons_iff.1 split with ⟨-, rfl, -⟩ | ⟨rest, rfl, rfl⟩
    · exact .inr ⟨r, rfl, inside⟩
    · simp only [List.forall_mem_append, List.forall_mem_singleton] at quiet
      exact .inl ⟨quiet.2, before, r, rest, rfl, inside, quiet.1⟩
  · rintro (⟨quiet, before, r, rest, rfl, inside, between⟩ | ⟨r, rfl, inside⟩)
    · refine ⟨before, r, rest ++ [a], by simp, inside, ?_⟩
      simpa [or_imp, forall_and] using ⟨between, quiet⟩
    · exact ⟨past, r, [], rfl, inside, by simp⟩

theorem not_accumulated_nil : ¬Accumulated s [] p := by
  rintro ⟨before, pool, after, split, -⟩
  simp at split

theorem accumulated_concat_of_quiet {a : Action} (commits : a.commits = false)
    (takes : a.takes = false) : Accumulated s (past ++ [a]) p ↔ Accumulated s past p := by
  have other (pool : BufferPool) : a ≠ .commit pool := by rintro rfl; cases commits
  constructor
  · rintro ⟨before, pool, after, split, requested, kept, inner⟩
    rcases concat_eq_append_cons_iff.1 split with ⟨-, rfl, -⟩ | ⟨rest, rfl, rfl⟩
    · cases commits
    · refine ⟨before, pool, rest, rfl, requested, fun b member => kept b (by simp [member]), ?_⟩
      intro upto here rest' split' start
      exact inner upto here (rest' ++ [a])
        (concat_eq_append_cons_iff.2 (.inr ⟨rest', rfl, split'⟩)) start
  · rintro ⟨before, pool, rest, rfl, requested, kept, inner⟩
    refine ⟨before, pool, rest ++ [a], by simp, requested, ?_, ?_⟩
    · simpa [or_imp, forall_and] using ⟨kept, takes⟩
    · intro upto here rest' split start
      rcases concat_eq_append_cons_iff.1 split with ⟨-, last, -⟩ | ⟨rest'', -, split'⟩
      · exact absurd last (other here)
      · exact inner upto here rest'' split' start

theorem accumulated_concat_commit (pool : BufferPool) :
    Accumulated s (past ++ [.commit pool]) p ↔
      (Accumulated s past p ∨ Requested past p) ∧
        p ∈ (s.run (past ++ [.commit pool])).inBounds := by
  constructor
  · rintro ⟨before, first, after, split, requested, kept, inner⟩
    rcases concat_eq_append_cons_iff.1 split with ⟨rfl, -, -⟩ | ⟨rest, rfl, rfl⟩
    · exact ⟨.inr requested, inner past pool [] rfl List.prefix_rfl⟩
    · have kept' : ∀ a ∈ rest, a.takes = false := fun b member => kept b (by simp [member])
      refine ⟨.inl ⟨before, first, rest, rfl, requested, kept', ?_⟩,
        inner _ pool [] rfl (List.prefix_append _ _)⟩
      intro upto here rest' split' start
      exact inner upto here (rest' ++ [_])
        (concat_eq_append_cons_iff.2 (.inr ⟨rest', rfl, split'⟩)) start
  · rintro ⟨⟨before, first, rest, rfl, requested, kept, inner⟩ | requested, here⟩
    · refine ⟨before, first, rest ++ [.commit pool], by simp, requested, ?_, ?_⟩
      · simpa [or_imp, forall_and, Action.takes] using kept
      · intro upto last rest' split start
        rcases concat_eq_append_cons_iff.1 split with ⟨rfl, ⟨⟩, -⟩ | ⟨rest'', -, split'⟩
        · exact here
        · exact inner upto last rest'' split' start
    · refine ⟨past, pool, [], rfl, requested, by simp, ?_⟩
      intro upto last rest split start
      rcases concat_eq_append_cons_iff.1 split with ⟨rfl, ⟨⟩, -⟩ | ⟨rest', -, rfl⟩
      · exact here
      · -- A commit before the end has fewer requests before it than there are.
        simpa using start.length_le

theorem not_accumulated_concat_takeDamage : ¬Accumulated s (past ++ [.takeDamage]) p := by
  rintro ⟨before, pool, after, split, -, kept, -⟩
  rcases concat_eq_append_cons_iff.1 split with ⟨-, ⟨⟩, -⟩ | ⟨rest, rfl, -⟩
  simpa [Action.takes] using kept .takeDamage (by simp)

/-! ### The stored damage -/

/-- The stored regions are what the requests so far tell. -/
structure Faithful (s : Surface) (past : List Action) : Prop where
  pendingPlane : Region.InPlane (s.run past).pending.damage.rects
  committedPlane : Region.InPlane (s.run past).committed.damage.rects
  pending : (s.run past).pending.damage.points = {p | Requested past p}
  committed : (s.run past).committed.damage.points = {p | Accumulated s past p}

theorem faithful_nil (id : SurfaceId) (handle : Handle) : Faithful (ofHandle id handle) [] where
  pendingPlane := Region.empty_inPlane.1
  committedPlane := Region.empty_inPlane.1
  pending := Region.empty_inPlane.2.trans (by simp [not_requested_nil])
  committed := Region.empty_inPlane.2.trans (by simp [not_accumulated_nil])

/-- Rectangles that a client damages lie in the plane, or have no points. -/
def Action.DamagesInPlane : Action → Prop
  | damage r => r.isEmpty = true ∨ r.Inside Rectangle.plane
  | _ => True

theorem Faithful.concat (faithful : Faithful s past) {a : Action} (inner : a.DamagesInPlane) :
    Faithful s (past ++ [a]) := by
  obtain ⟨pendingPlane, committedPlane, pending, committed⟩ := faithful
  cases a with
  | damage r =>
    obtain ⟨inPlane, more⟩ := Region.insertRect_inPlane pendingPlane inner
    constructor <;> rw [run_concat]
    case pendingPlane => exact inPlane
    case committedPlane => exact committedPlane
    case pending =>
      refine more.trans ?_
      ext p
      simp [requested_concat_iff, pending, Action.commits]
    case committed =>
      refine committed.trans ?_
      ext p
      exact (accumulated_concat_of_quiet rfl rfl).symm
  | commit pool =>
    obtain ⟨damage, -, -, -, -, none⟩ := (s.run past).commit_regions pool
    obtain ⟨joined, both⟩ := Region.union_inPlane committedPlane pendingPlane
    obtain ⟨inPlane, cut⟩ :=
      Region.clip_inPlane (r := ((s.run past).commit pool).surface.bounds) joined
    rw [← damage] at inPlane cut
    constructor <;> rw [run_concat]
    case pendingPlane => exact none ▸ Region.empty_inPlane.1
    case committedPlane => exact inPlane
    case pending =>
      refine (none ▸ Region.empty_inPlane.2 : Region.points _ = ∅).trans ?_
      simp [requested_concat_iff, Action.commits]
    case committed =>
      refine cut.trans ?_
      rw [both, pending, committed, points_bounds]
      ext p
      simp [accumulated_concat_commit, run_concat, perform]
  | takeDamage =>
    constructor <;> rw [run_concat]
    case pendingPlane => exact pendingPlane
    case committedPlane => exact Region.empty_inPlane.1
    case pending => exact pending.trans (by simp [requested_concat_iff, Action.commits])
    case committed =>
      exact Region.empty_inPlane.2.trans (by simp [not_accumulated_concat_takeDamage])
  | attach | setOpaque | setInput | frame =>
    constructor <;> rw [run_concat]
    case pendingPlane => exact pendingPlane
    case committedPlane => exact committedPlane
    case pending => exact pending.trans (by simp [requested_concat_iff, Action.commits])
    case committed =>
      refine committed.trans ?_
      ext p
      exact (accumulated_concat_of_quiet rfl rfl).symm

theorem faithful (id : SurfaceId) (handle : Handle) {past : List Action}
    (inner : ∀ a ∈ past, a.DamagesInPlane) : Faithful (ofHandle id handle) past := by
  -- The requests are told apart by what came before them, so the induction is from the end.
  induction past using List.reverseRecOn with
  | nil => exact faithful_nil id handle
  | append_singleton past a ih =>
    simp only [List.forall_mem_append, List.forall_mem_singleton] at inner
    exact (ih inner.1).concat inner.2

/-- The committed damage is the damage that was accumulated. It is what the damage is taken as, of
which nothing remains, and no request adds to it until the next commit. -/
theorem damage_accumulates (id : SurfaceId) (handle : Handle) (past : List Action)
    (inner : ∀ a ∈ past, a.DamagesInPlane) :
    let s := (ofHandle id handle).run past
    s.committed.damage.points = {p | Accumulated (ofHandle id handle) past p} ∧
    s.takeDamage.1.points = {p | Accumulated (ofHandle id handle) past p} ∧
    s.takeDamage.2.committed.damage.points = ∅ ∧
    ∀ later, (∀ a ∈ later, a.commits = false) →
      (s.run later).committed.damage.points ⊆ {p | Accumulated (ofHandle id handle) past p} := by
  intro s
  have committed := (faithful id handle inner).committed
  refine ⟨committed, committed, Region.empty_inPlane.2, fun later between => ?_⟩
  rcases (run_between (s := s) between).2.2 with same | taken
  · rw [same, committed]
  · rw [taken, Region.empty_inPlane.2]
    exact Set.empty_subset _

/-- More is damaged than there is to show, and then a part that is not committed. -/
theorem damage_accumulates_twoPixels :
    let shown : List Action :=
      [.attach (some ⟨1⟩) ⟨0, 0⟩, .damage ⟨-3, -3, 9, 9⟩, .commit twoPixels]
    let past := shown ++ [.damage ⟨0, 0, 1, 1⟩]
    let taken := ((ofHandle ⟨1⟩ ⟨⟨1⟩, 2⟩).run past).takeDamage.1
    (∀ a ∈ past, a.DamagesInPlane) ∧
      taken.points = {p | Accumulated (ofHandle ⟨1⟩ ⟨⟨1⟩, 2⟩) past p} ∧ ⟨1, 0⟩ ∈ taken.points := by
  intro shown past taken
  have inner : ∀ a ∈ past, a.DamagesInPlane := by
    simp only [past, shown, List.cons_append, List.nil_append, List.forall_mem_cons,
      Action.DamagesInPlane, Rectangle.inside_plane_iff]
    exact ⟨trivial, by decide, trivial, by decide, by simp⟩
  have whole := (damage_accumulates ⟨1⟩ ⟨⟨1⟩, 2⟩ past inner).2.1
  refine ⟨inner, whole, whole ▸ (accumulated_concat_of_quiet rfl rfl).2 ?_⟩
  have covered : Rectangle.contains ⟨-3, -3, 9, 9⟩ 1 0 = true := by decide
  have requested : Requested (shown.take 2) ⟨1, 0⟩ :=
    ⟨[.attach (some ⟨1⟩) ⟨0, 0⟩], ⟨-3, -3, 9, 9⟩, [], rfl, covered, by simp⟩
  refine (accumulated_concat_commit twoPixels).2 ⟨.inr requested, ?_⟩
  exact show (0 : Int) ≤ 1 ∧ (1 : Int) < min 2 2147483647 ∧ (0 : Int) ≤ 0 ∧
    (0 : Int) < min 1 2147483647 by decide

end Compositing.Surface
