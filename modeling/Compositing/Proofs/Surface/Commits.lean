import Compositing.Compositor.Surfaces
import Compositing.Proofs.Surface.Clipping
import Mathlib.Data.List.Destutter
import Mathlib.Data.List.ReduceOption

/-!
# What a commit shows

However often a client attaches buffers between two commits, only the last attach counts. What a
commit shows, in what size and at which offset, what the backend is told of it and which buffer it
reports as superseded is told by that attach and by the pool at the commit. Over a history the
reports are the buffers that were shown, one report for each time. Main statement:
`commit_shows_lastAttach`.
-/

namespace Compositing

namespace Surface

/-! ### Histories of a surface -/

/-- What is done with a surface: what changes its state, and what the compositor does besides. -/
inductive Use where
  | act (action : Action)
  | takeCallbacks
  | forgetCallback (callback : Handle)
  | acquire
  | release
  | detachResource
  | setView (view : Option ViewId)

namespace Use

def commits : Use → Bool
  | act action => action.commits
  | _ => false

/-- The buffer and the offset of an attach. -/
def attach? : Use → Option (Option BufferId × Point)
  | act (.attach buffer offset) => some (buffer, offset)
  | _ => none

/-- Frame callbacks are handed in or over, or forgotten. -/
def onCallbacks : Use → Bool
  | act (.frame _) | takeCallbacks | forgetCallback _ => true
  | _ => false

end Use

def use (s : Surface) : Use → Surface
  | .act action => s.perform action
  | .takeCallbacks => s.takeCallbacks.2
  | .forgetCallback callback => s.forgetCallback callback
  | .acquire => s.acquire
  | .release => s.release.2
  | .detachResource => s.detachResource.2
  | .setView view => { s with view }

def useAll (s : Surface) (uses : List Use) : Surface := uses.foldl use s

/-- The commits of a history, in their order. -/
def commits (s : Surface) : List Use → List Commit
  | [] => []
  | .act (.commit pool) :: rest => s.commit pool :: (s.commit pool).surface.commits rest
  | u :: rest => (s.use u).commits rest

/-- The last attach since the last commit. -/
def lastAttach? (past : List Use) : Option (Option BufferId × Point) :=
  (past.reverse.takeWhile fun u => !u.commits).findSome? Use.attach?

/-- What the backend is told of a commit: the buffer that was attached, if there was an attach. -/
def Commit.notice? (done : Commit) : Option (Option Buffer) :=
  if done.outcome.attached then some done.content else none

/-- The buffers that the commits of a history superseded, as they reported it. -/
def superseded (s : Surface) (past : List Use) : List BufferId :=
  (s.commits past).filterMap (·.outcome.superseded)

/-- The buffers that were shown, each as often as it came to be shown. A buffer that is shown by
several commits in a row is shown once. -/
def showings (s : Surface) (past : List Use) : List BufferId :=
  (((s.commits past).map (·.surface.buffer)).destutter' (· ≠ ·) s.buffer).reduceOption

/-! ### One commit -/

/-- The record of an attached buffer, if it is one that is registered. -/
def attachedRecord (pool : BufferPool) (attached : Option BufferId × Point) : Option Buffer :=
  attached.1.bind pool.get?

/-- What a commit does with the buffer and the offset, for an attach that it was made with. -/
structure Shows (s : Surface) (pool : BufferPool) (attached : Option (Option BufferId × Point))
    (done : Commit) : Prop where
  buffer : done.surface.buffer = attached.elim s.buffer (·.1)
  size : done.surface.size =
    attached.elim s.size fun a => (attachedRecord pool a).elim Size.zero (·.size)
  offset : done.surface.committed.offset = attached.elim ⟨0, 0⟩ (·.2)
  notice : done.notice? = attached.map (attachedRecord pool)
  sizeChanged : done.outcome.sizeChanged = true ↔ done.surface.size ≠ s.size
  superseded : done.outcome.superseded = if done.surface.buffer = s.buffer then none else s.buffer

/-- The pending half holds an attach, or what there is without one. -/
structure Holds (s : Surface) (attached : Option (Option BufferId × Point)) : Prop where
  newlyAttached : s.pending.newlyAttached = attached.isSome
  buffer : s.pending.buffer = attached.bind (·.1)
  offset : s.pending.offset = attached.elim ⟨0, 0⟩ (·.2)

theorem shows_commit {s : Surface} {attached : Option (Option BufferId × Point)}
    (holds : s.Holds attached) (pool : BufferPool) : s.Shows pool attached (s.commit pool) := by
  obtain ⟨newlyAttached, buffer, offset⟩ := holds
  cases attached with
  | none =>
    have unattached : s.commitBuffer pool = (s, {}, none) := by
      rw [commitBuffer, newlyAttached]
      rfl
    simp only [commit, unattached]
    exact ⟨rfl, rfl, offset, rfl, by simp [commitRegions], (if_pos rfl).symm⟩
  | some a =>
    have attached : s.pending.newlyAttached = true := newlyAttached
    have record : s.pending.buffer.bind pool.get? = attachedRecord pool a := by rw [buffer]; rfl
    simp only [commit, commitBuffer, attached, if_true]
    refine ⟨buffer, ?_, offset, ?_, ?_, rfl⟩
    · exact congrArg (fun r => Option.elim r Size.zero (·.size)) record
    · exact congrArg some record
    · simp [commitRegions]

/-- A commit uses the attach up. -/
theorem holds_commit {s : Surface} {attached : Option (Option BufferId × Point)}
    (holds : s.Holds attached) (pool : BufferPool) : (s.commit pool).surface.Holds none := by
  refine ⟨rfl, ?_, rfl⟩
  have unattached := holds.buffer
  have newlyAttached := holds.newlyAttached
  simp only [commit, commitRegions, commitBuffer]
  split
  next => rfl
  next none =>
    -- Without an attach no buffer is pending.
    cases attached <;> simp_all

/-! ### Histories -/

theorem lastAttach?_concat (past : List Use) (u : Use) :
    lastAttach? (past ++ [u]) = if u.commits then none else u.attach?.or (lastAttach? past) := by
  simp only [lastAttach?, List.reverse_concat, List.takeWhile_cons]
  cases u.commits <;> cases found : u.attach? <;> simp [found]

theorem useAll_concat (s : Surface) (past : List Use) (u : Use) :
    s.useAll (past ++ [u]) = (s.useAll past).use u := by
  simp [useAll]

/-- The pending half is kept but for an attach and a commit. -/
theorem Holds.use {s : Surface} {attached : Option (Option BufferId × Point)}
    (holds : s.Holds attached) (u : Use) :
    (s.use u).Holds (if u.commits then none else u.attach?.or attached) := by
  cases u with
  | act action =>
    cases action with
    | attach buffer offset => exact ⟨rfl, rfl, rfl⟩
    | commit pool => exact holds_commit holds pool
    | damage | setOpaque | setInput | frame | takeDamage =>
      exact ⟨holds.newlyAttached, holds.buffer, holds.offset⟩
  | forgetCallback callback =>
    simp only [Surface.use, forgetCallback]
    split <;> exact ⟨holds.newlyAttached, holds.buffer, holds.offset⟩
  | takeCallbacks | acquire | release | detachResource | setView =>
    exact ⟨holds.newlyAttached, holds.buffer, holds.offset⟩

theorem holds_lastAttach (id : SurfaceId) (handle : Handle) (past : List Use) :
    ((ofHandle id handle).useAll past).Holds (lastAttach? past) := by
  induction past using List.reverseRecOn with
  | nil => exact ⟨rfl, rfl, rfl⟩
  | append_singleton past u ih =>
    rw [useAll_concat, lastAttach?_concat]
    exact ih.use u

/-! ### Between commits -/

/-- What is left alone by all that is done with a surface but a commit. -/
structure Keeps (s : Surface) (u : Use) : Prop where
  size : (s.use u).size = s.size
  buffer : (s.use u).buffer = s.buffer
  committed : u ≠ .act .takeDamage → (s.use u).committed = s.committed
  callbacks : u.onCallbacks = false → (s.use u).callbacks = s.callbacks

theorem keeps (s : Surface) {u : Use} (between : u.commits = false) : s.Keeps u := by
  cases u with
  | act action =>
    cases action with
    | commit => cases between
    | takeDamage => exact ⟨rfl, rfl, fun other => absurd rfl other, fun _ => rfl⟩
    | attach | damage | setOpaque | setInput | frame =>
      exact ⟨rfl, rfl, fun _ => rfl, fun _ => rfl⟩
  | forgetCallback callback =>
    have kept : (s.forgetCallback callback).size = s.size ∧
        (s.forgetCallback callback).committed = s.committed := by
      unfold forgetCallback
      split <;> exact ⟨rfl, rfl⟩
    exact ⟨kept.1, congrArg SurfaceState.buffer kept.2, fun _ => kept.2,
      by simp [Use.onCallbacks]⟩
  | takeCallbacks => exact ⟨rfl, rfl, fun _ => rfl, by simp [Use.onCallbacks]⟩
  | acquire | release | detachResource | setView =>
    exact ⟨rfl, rfl, fun _ => rfl, fun _ => rfl⟩

/-! ### What was shown -/

theorem Use.eq_commit_of_commits {u : Use} (commits : u.commits = true) :
    ∃ pool, u = .act (.commit pool) := by
  cases u with
  | act action =>
    cases action with
    | commit pool => exact ⟨pool, rfl⟩
    | _ => cases commits
  | _ => cases commits

theorem commits_cons (s : Surface) {u : Use} (between : u.commits = false) (rest : List Use) :
    s.commits (u :: rest) = (s.use u).commits rest := by
  cases u with
  | act action =>
    cases action with
    | commit => cases between
    | _ => rfl
  | _ => rfl

theorem superseded_commit (s : Surface) (pool : BufferPool) :
    (s.commit pool).outcome.superseded =
      if (s.commit pool).surface.buffer = s.buffer then none else s.buffer := by
  simp only [commit, commitBuffer]
  split
  next => rfl
  next => exact (if_pos rfl).symm

/-- The reports, and the buffer that is still shown at the end, are all that was shown. -/
theorem superseded_append (s : Surface) (past : List Use) :
    s.superseded past ++ (s.useAll past).buffer.toList = s.showings past := by
  -- The induction is from the first commit on, for whatever buffer is shown before it.
  induction past generalizing s with
  | nil => cases shown : s.buffer <;> simp [superseded, showings, commits, useAll, shown]
  | cons u rest ih =>
    have later : (s.use u).superseded rest ++ (s.useAll (u :: rest)).buffer.toList =
        (s.use u).showings rest := ih (s.use u)
    cases between : u.commits with
    | false =>
      have same := (s.keeps between).buffer
      rw [superseded, showings, commits_cons s between, ← same]
      exact later
    | true =>
      obtain ⟨pool, rfl⟩ := Use.eq_commit_of_commits between
      have report := s.superseded_commit pool
      rw [showings, commits, List.map_cons]
      by_cases same : (s.commit pool).surface.buffer = s.buffer
      · -- The same buffer again is neither reported nor shown anew.
        rw [List.destutter'_cons_neg _ (by simp [same]), superseded, commits,
          List.filterMap_cons_none (by rw [report, if_pos same]), ← same]
        exact later
      · rw [List.destutter'_cons_pos _ (Ne.symm same), superseded, commits]
        cases shown : s.buffer with
        | none =>
          rw [List.filterMap_cons_none (by rw [report, if_neg same, shown]),
            List.reduceOption_cons_of_none]
          exact later
        | some b =>
          rw [List.filterMap_cons_some (by rw [report, if_neg same, shown]),
            List.reduceOption_cons_of_some, List.cons_append]
          exact congrArg (b :: ·) later

/-! ### Every commit -/

/-- Whatever was done with a surface, a commit shows what was last attached since the commit before,
and else goes on with what is shown. The buffers that it and the commits before it superseded are
those that came to be shown and are not shown any more, each reported once for each time. Nothing
but commits changes what is shown. -/
theorem commit_shows_lastAttach (id : SurfaceId) (handle : Handle) (past : List Use) :
    let s := (ofHandle id handle).useAll past
    (∀ pool, s.Shows pool (lastAttach? past) (s.commit pool)) ∧
    (ofHandle id handle).superseded past ++ s.buffer.toList =
      (ofHandle id handle).showings past ∧
    ∀ u : Use, u.commits = false → s.Keeps u :=
  ⟨shows_commit (holds_lastAttach id handle past), superseded_append _ past, fun _ => keeps _⟩

/-- A buffer is attached and replaced before a commit, shown twice, and taken away again. -/
example :
    let past : List Use :=
      [.act (.attach none ⟨3, 3⟩), .act (.attach (some ⟨1⟩) ⟨0, 0⟩), .act (.commit twoPixels),
        .acquire, .act (.attach (some ⟨1⟩) ⟨1, 0⟩), .act (.commit twoPixels),
        .act (.attach (some ⟨2⟩) ⟨0, 0⟩), .act (.commit twoPixels)]
    (ofHandle ⟨1⟩ ⟨⟨1⟩, 2⟩).superseded past = [⟨1⟩] ∧
      (ofHandle ⟨1⟩ ⟨⟨1⟩, 2⟩).showings past = [⟨1⟩, ⟨2⟩] := ⟨rfl, rfl⟩

end Surface

/-! ### The compositor's backend -/

namespace Compositor

/-- A commit hands the output of the surface just what the backend is to be told, and lets go of just
the buffer that is superseded. -/
theorem commitSurface_found {c : Compositor} {id : SurfaceId} {s : Surface}
    (found : c.surfaces.get? id = some s) (host : Host) :
    let done := s.commit c.buffers
    let stored := c.modifySurface id fun _ => done.surface
    let told := done.notice?.elim stored (stored.importContent host id)
    c.commitSurface host id = (some done.outcome,
      (done.outcome.superseded.elim told told.releaseBuffer).scheduleSurface id) := by
  intro done stored told
  have imported : (if done.outcome.attached then stored.importContent host id done.content
      else stored) = told := by
    simp only [told, Surface.Commit.notice?]
    cases done.outcome.attached <;> rfl
  simp only [commitSurface, found]
  refine congrArg (Prod.mk _) (congrArg (scheduleSurface · id) ?_)
  cases (s.commit c.buffers).outcome.superseded with
  | none => exact imported
  | some buffer => exact congrArg (releaseBuffer · buffer) imported

end Compositor

end Compositing
