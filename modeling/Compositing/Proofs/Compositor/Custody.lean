import Compositing.Proofs.Compositor.Waits

/-!
# Who has a buffer

A surface that shows a buffer keeps it from its client, until the compositor gives it back. `Deal` says
for every request which buffer changes hands. As long as clients show a buffer anew only after they got
it back, they never get back one that is still shown: `Lent.unshown`.
-/

namespace Compositing

/-- The buffers that clients get back. -/
def releases (events : List TransportEvent) : List BufferId :=
  events.filterMap fun
    | .bufferRelease b => some b
    | _ => none

theorem releases_append (first second : List TransportEvent) :
    releases (first ++ second) = releases first ++ releases second :=
  List.filterMap_append

/-- Only notices give buffers back. -/
theorem releases_filter (events : List TransportEvent) :
    releases (events.filter TransportEvent.isNotice) = releases events := by
  rw [releases, List.filterMap_filter, releases]
  congr
  funext e
  cases e <;> rfl

theorem releases_returned (b : BufferId) (reply : PoolReply) : releases (returned b reply) =
    if reply = .ended (some .released) then [b] else [] := by
  unfold returned
  split <;> simp_all [releases]

theorem mem_releases_returned {b x : BufferId} {reply : PoolReply} :
    x ∈ releases (returned b reply) ↔ x = b ∧ reply = .ended (some .released) := by
  rw [releases_returned]
  split <;> simp [*]

theorem releases_fireAll (callbacks : List Handle) (time : UInt32) :
    releases (callbacks.flatMap (Surface.fireCallback · time)) = [] := by
  induction callbacks with
  | nil => rfl
  | cons callback callbacks ih => rw [List.flatMap_cons, releases_append, ih]; rfl

namespace Compositor

variable {c c' c'' : Compositor} {b : BufferId}

/-- The buffer that a surface shows. -/
def shown (c : Compositor) (k : SurfaceId) : Option BufferId := (c.dues k).shown

/-- No surface shows the buffer. -/
def Unshown (c : Compositor) (b : BufferId) : Prop := ∀ k, c.shown k ≠ some b

/-- The buffer that a surface shows after its next commit. -/
def toShow? (c : Compositor) (k : SurfaceId) : Option BufferId :=
  (c.surfaces.get? k).bind Surface.toShow

/-- The buffers that clients get back by a request. -/
def released (c : Compositor) (host : Host) (request : Request) : List BufferId :=
  releases (transportEvents ((c.handle host request).2.log.drop c.log.length))

theorem unshown_congr (shown : c'.shown = c.shown) : c'.Unshown b ↔ c.Unshown b := by
  rw [Unshown, shown, Unshown]

theorem unshown_iff : c.Unshown b ↔ ∀ k ∈ c.surfaces.keys, c.shown k ≠ some b := by
  refine ⟨fun unshown k _ => unshown k, fun listed k shows => ?_⟩
  cases found : c.surfaces.get? k with
  | none => simp [shown, dues_absent found] at shows
  | some s => exact listed k ((c.surfaces.mem_keys_iff k).2 (by simp [found])) shows

instance (c : Compositor) (b : BufferId) : Decidable (c.Unshown b) :=
  decidable_of_iff' _ unshown_iff

/-! ### What a request does -/

/-- No buffer changes hands, although some may have been read. -/
structure Kept (c c' : Compositor) : Prop where
  recounted : c.buffers.Recounted c'.buffers
  counts : ∀ b, c'.buffers.busyCount b = c.buffers.busyCount b
  shown : c'.shown = c.shown
  told : ∃ events, c'.log = c.log ++ events ∧ releases (transportEvents events) = []

theorem Kept.refl (c : Compositor) : Kept c c := ⟨.refl _, fun _ => rfl, rfl, [], by simp, rfl⟩

theorem Kept.trans (first : Kept c c') (second : Kept c' c'') : Kept c c'' where
  recounted := first.recounted.trans second.recounted
  counts b := (second.counts b).trans (first.counts b)
  shown := second.shown.trans first.shown
  told := by
    obtain ⟨events, log, none⟩ := first.told
    obtain ⟨events', log', none'⟩ := second.told
    exact ⟨events ++ events', by simp [log, log'], by simp [releases_append, none, none']⟩

/-- A request changes what a surface shows, or asks something of the pool, or neither. -/
inductive Deal (c c' : Compositor) (back : List BufferId) (request : Request) : Prop
  | kept (asks : request.poolRequest? = none) (kept : Kept c c') (nothing : back = [])
  /-- The surface shows another buffer instead, or none. -/
  | gaveUp {k : SurfaceId} {b : BufferId} {new : Option BufferId}
      (asks : request.poolRequest? = none) (showed : c.shown k = some b) (other : new ≠ some b)
      (attached : new = none ∨ (request = .commit k ∧ c.toShow? k = new))
      (shown : c'.shown = Function.update c.shown k new)
      (buffers : c'.buffers = (c.buffers.handle (.release b)).2)
      (given : back = releases (returned b (c.buffers.handle (.release b)).1))
  | took {k : SurfaceId} {b : BufferId} (commits : request = .commit k)
      (showed : c.shown k = none) (attached : c.toShow? k = some b)
      (shown : c'.shown = Function.update c.shown k (some b)) (buffers : c'.buffers = c.buffers)
      (nothing : back = [])
  | asked {r : PoolRequest} (asks : request.poolRequest? = some r) (shown : c'.shown = c.shown)
      (buffers : c'.buffers = (c.buffers.handle r).2)
      (given : back = releases (c.answered request))

variable {pool : BufferPool} {waits : SurfaceId → Dues} {notices : List TransportEvent}

theorem Notified.shown (notified : Notified c c' pool waits notices) :
    c'.shown = fun k => (waits k).shown := by
  funext k
  rw [Compositor.shown, notified.dues]

theorem shown_update (c : Compositor) (k : SurfaceId) (d : Dues) :
    (fun x => (Function.update c.dues k d x).shown) = Function.update c.shown k d.shown := by
  funext x
  by_cases here : x = k <;> simp [here, shown]

theorem Notified.released {host : Host} {request : Request}
    (notified : Notified c (c.handle host request).2 pool waits notices) :
    c.released host request = releases notices := by
  obtain ⟨_, rfl, effect⟩ := notified
  obtain ⟨events, log, rfl⟩ := effect.told
  rw [released, log, List.drop_left, releases_filter]

/-- The pool stays as it is, and no surface shows anything else. -/
theorem Notified.kept (notified : Notified c c' c.buffers waits [])
    (shown : c'.shown = c.shown) : Kept c c' where
  recounted := notified.buffers ▸ .refl _
  counts b := by rw [notified.buffers]
  shown := shown
  told := by
    obtain ⟨told, none, effect⟩ := notified
    obtain ⟨events, log, rfl⟩ := effect.told
    exact ⟨events, log, by rw [← releases_filter, none]; rfl⟩

theorem Aside.kept (aside : Aside c c') : Kept c c' := Notified.kept aside (Notified.shown aside)

theorem kept_pass (tidy : c.buffers.Tidy) (held : c.Held) (host : Host) (time : UInt32)
    (o : OutputId) : Kept c (c.pass host time o) := by
  have effect := effect_pass tidy held host time o
  have shown (surfaces : List SurfaceId) (waits : SurfaceId → Dues) (k : SurfaceId) :
      (surfaces.foldl handOver waits k).shown = (waits k).shown := by
    induction surfaces generalizing waits with
    | nil => rfl
    | cons x surfaces ih =>
      rw [List.foldl_cons, ih, handOver]
      by_cases here : k = x <;> simp [here]
  have silent (surfaces : List SurfaceId) (waits : SurfaceId → Dues) :
      releases (fired time waits surfaces) = [] := by
    induction surfaces generalizing waits with
    | nil => rfl
    | cons x surfaces ih => rw [fired, releases_append, releases_fireAll, ih]; rfl
  exact ⟨effect.buffers ▸ .refl _, fun b => by rw [effect.buffers], by
    funext k; rw [Compositor.shown, effect.dues, shown]; rfl, by
    obtain ⟨events, log, told⟩ := effect.told
    exact ⟨events, log, told ▸ silent _ _⟩⟩

theorem Kept.released {host : Host} {request : Request} (kept : Kept c (c.handle host request).2) :
    c.released host request = [] := by
  obtain ⟨events, log, none⟩ := kept.told
  rw [Compositor.released, log, List.drop_left, none]

theorem kept_render (tidy : c.buffers.Tidy) (held : c.Held) (host : Host) (time : UInt32) :
    Kept c (c.handle host (.render time)).2 := by
  rw [handle_render]
  generalize c.dueOutputs = due
  induction due generalizing c with
  | nil => exact .refl c
  | cons o due ih =>
    exact (kept_pass tidy held host time o).trans
      (ih (tidy_pass tidy held host time o) (held_pass held host time o))

/-- A surface that comes to its end gives up what it showed. -/
theorem deal_of_freeing {host : Host} {request : Request} (asks : request.poolRequest? = none)
    (freeing : MayFree c (c.handle host request).2) :
    Deal c (c.handle host request).2 (c.released host request) request := by
  rcases freeing with aside | ⟨k, freed⟩
  · exact .kept asks aside.kept aside.kept.released
  · have shown := freed.shown.trans (c.shown_update k {})
    cases showed : c.shown k with
    | none =>
      have kept : Kept c (c.handle host request).2 := by
        unfold Freed at freed
        rw [show (c.dues k).shown = none from showed] at freed
        refine Notified.kept freed (shown.trans ?_)
        rw [← showed, Function.update_eq_self]
      exact .kept asks kept kept.released
    | some b =>
      unfold Freed at freed
      rw [show (c.dues k).shown = some b from showed] at freed
      have none : (none : Option BufferId) ≠ some b := nofun
      exact .gaveUp asks showed none (.inl rfl) shown freed.buffers freed.released

theorem deal_commitSurface {k : SurfaceId} {s : Surface} (found : c.surfaces.get? k = some s)
    (host : Host) :
    Deal c (c.handle host (.commit k)).2 (c.released host (.commit k)) (.commit k) := by
  have committed : Notified c (c.handle host (.commit k)).2 _ _ _ :=
    (effect_commitSurface found host).notified
  rw [letGo_notices] at committed
  have showed : c.shown k = s.buffer := by rw [Compositor.shown, dues_found found]; rfl
  have attached : c.toShow? k = s.toShow := by rw [toShow?, found]; rfl
  have shown := committed.shown.trans (c.shown_update k _)
  by_cases same : s.toShow = s.buffer
  · rw [if_pos same] at committed
    have kept : Kept c (c.handle host (.commit k)).2 := by
      refine Notified.kept committed (shown.trans ?_)
      rw [same, ← showed, Function.update_eq_self]
    exact .kept rfl kept kept.released
  · rw [if_neg same] at committed
    cases before : s.buffer with
    | none =>
      rw [before] at committed same showed
      obtain ⟨b, new⟩ := Option.ne_none_iff_exists'.1 same
      rw [new] at shown attached
      exact .took rfl showed attached shown committed.buffers committed.released
    | some b =>
      rw [before] at committed same showed
      exact .gaveUp rfl showed same (.inr ⟨rfl, attached⟩) shown committed.buffers
        committed.released

/-- Which buffer changes hands by a request. -/
theorem deal_handle (tidy : c.buffers.Tidy) (held : c.Held) (linked : c.Linked) (host : Host)
    (request : Request) : Deal c (c.handle host request).2 (c.released host request) request := by
  by_cases plain : request.isPlain = true
  · have kept := (aside_handle linked host plain).kept
    exact .kept (by cases request <;> first | rfl | cases plain) kept kept.released
  cases asks : request.poolRequest? with
  | some r =>
    have asked := (effect_asked (c := c) host asks).notified
    exact .asked asks asked.shown asked.buffers (asked.released.trans (releases_filter _))
  | none =>
    cases request
    case frame k callback =>
      have kept : Kept c (c.handle host (.frame k callback)).2 := by
        obtain ⟨refused, made⟩ := notified_requestFrame (c := c) host k callback
        rw [handle, settle_snd]
        cases brought : c.brought? host (.frame k callback) with
        | none => exact (refused brought).kept
        | some h =>
          refine Notified.kept (made h brought) ((made h brought).shown.trans ?_)
          rw [shown_update, show (c.dues k).shown = c.shown k from rfl, Function.update_eq_self]
      exact .kept rfl kept kept.released
    case commit k =>
      cases found : c.surfaces.get? k with
      | none =>
        have kept : Kept c (c.handle host (.commit k)).2 := by
          simp only [handle, commitSurface, found]
          exact .refl c
        exact .kept rfl kept kept.released
      | some s => exact deal_commitSurface found host
    case release k => exact deal_of_freeing rfl (mayFree_releaseSurface k)
    case destroySurface k => exact deal_of_freeing rfl (mayFree_destroySurface k)
    case resourceDestroyed h =>
      rcases resourceDestroyed_cases (c := c) h with freeing | ⟨k, s, -, found, forgot⟩
      · exact deal_of_freeing rfl freeing
      · have kept : Kept c (c.handle host (.resourceDestroyed h)).2 := by
          refine Notified.kept forgot (forgot.shown.trans ?_)
          have same : (s.forgetCallback h).dues.shown = c.shown k := by
            rw [shown, dues_found found, Surface.forgetCallback]
            split <;> rfl
          rw [shown_update, same, Function.update_eq_self]
        exact .kept rfl kept kept.released
    case render time =>
      have kept := kept_render tidy held host time
      exact .kept rfl kept kept.released
    all_goals first | exact absurd rfl plain | cases asks

theorem Deal.tidy {back : List BufferId} {request : Request} (deal : Deal c c' back request)
    (tidy : c.buffers.Tidy) : c'.buffers.Tidy := by
  cases deal with
  | kept _ kept => exact kept.recounted.tidy tidy
  | gaveUp _ _ _ _ _ buffers | asked _ _ buffers => exact buffers ▸ BufferPool.tidy_handle tidy _
  | took _ _ _ _ buffers => exact buffers ▸ tidy

theorem Reachable.tidy (reached : c.Reachable) : c.buffers.Tidy := by
  induction reached with
  | start => exact BufferPool.empty_tidy
  | handle before host request ih =>
    exact (deal_handle ih before.held before.linked host request).tidy ih
  | collect _ ih => exact ih

theorem Reachable.deal (reached : c.Reachable) (host : Host) (request : Request) :
    Deal c (c.handle host request).2 (c.released host request) request :=
  deal_handle reached.tidy reached.held reached.linked host request

/-! ### A buffer that is shown -/

/-- A surface begins to show the buffer only when no surface shows it and no release of it is parked,
and the pool is asked to release it only when no surface shows it. -/
def Fair (c : Compositor) (b : BufferId) : Request → Prop
  | .commit k => c.toShow? k = some b → c.shown k ≠ some b →
      c.Unshown b ∧ ¬c.buffers.Parked .release b
  | .pool (.release x) => x = b → c.Unshown b
  | _ => True

/-- The states that requests lead to which are fair to the buffer. The host may collect what it was
told at any time. -/
inductive Lent (b : BufferId) : Compositor → Prop
  | start (config : Config) (contexts : Contexts) : Lent b { config, contexts }
  | handle {c : Compositor} (before : Lent b c) (host : Host) (request : Request)
      (fair : c.Fair b request) : Lent b (c.handle host request).2
  | collect {c : Compositor} (before : Lent b c) : Lent b c.collect.2

/-- At most one surface shows the buffer, and none while a release of it is parked. -/
structure Single (c : Compositor) (b : BufferId) : Prop where
  once : ∀ j k, c.shown j = some b → c.shown k = some b → j = k
  unparked : c.buffers.Parked .release b → c.Unshown b

theorem Lent.reachable (lent : Lent b c) : c.Reachable := by
  induction lent with
  | start config contexts => exact .start config contexts
  | handle _ host request _ ih => exact ih.handle host request
  | collect _ ih => exact ih.collect

/-- Once the only surface that shows the buffer shows something else, none shows it. -/
theorem Single.gone (single : c.Single b) {k : SurfaceId} (showed : c.shown k = some b)
    {new : Option BufferId} (other : new ≠ some b) (j : SurfaceId) :
    Function.update c.shown k new j ≠ some b := by
  by_cases here : j = k
  · rwa [here, Function.update_self]
  · rw [Function.update_of_ne here]
    exact fun also => here (single.once j k also showed)

/-- The first surface to show the buffer is the only one. -/
theorem once_of_first {k : SurfaceId} (first : c.Unshown b) (new : Option BufferId)
    (j x : SurfaceId) (shows : Function.update c.shown k new j = some b)
    (also : Function.update c.shown k new x = some b) : j = x := by
  have only (y : SurfaceId) (there : Function.update c.shown k new y = some b) : y = k := by
    by_contra elsewhere
    rw [Function.update_of_ne elsewhere] at there
    exact first y there
  rw [only j shows, only x also]

theorem shown_before {k j : SurfaceId} {new : Option BufferId} (other : new ≠ some b)
    (shows : Function.update c.shown k new j = some b) : c.shown j = some b := by
  by_cases here : j = k
  · rw [here, Function.update_self] at shows
    exact absurd shows other
  · rwa [Function.update_of_ne here] at shows

theorem Deal.single {back : List BufferId} {request : Request} (deal : Deal c c' back request)
    (tidy : c.buffers.Tidy) (fair : c.Fair b request) (single : c.Single b) : c'.Single b := by
  have parked (r : PoolRequest) := (BufferPool.turn_handle c.buffers r).parked_iff tidy .release b
  cases deal with
  | kept _ kept =>
    refine ⟨kept.shown ▸ single.once, fun there => (unshown_congr kept.shown).2 ?_⟩
    exact single.unparked ((kept.recounted.parked .release b).1 there)
  | @gaveUp k x new _ showed other attached shown buffers _ =>
    by_cases anew : new = some b
    · -- The buffer is shown anew, so nobody had it.
      obtain ⟨rfl, next⟩ := attached.resolve_left (by simp [anew])
      have lent : c.shown k ≠ some b := by rw [showed, ← anew]; exact Ne.symm other
      obtain ⟨free, unparked⟩ := fair (next.trans anew) lent
      refine ⟨shown ▸ once_of_first free new, fun there => absurd there ?_⟩
      rw [buffers, parked]
      rintro ⟨-, there | ⟨same, -⟩⟩
      · exact unparked there
      · cases same
        exact free k showed
    · refine ⟨fun j y shows also => single.once j y ?_ ?_, fun there j shows => ?_⟩
      · exact shown_before anew (shown ▸ shows)
      · exact shown_before anew (shown ▸ also)
      · rw [buffers, parked] at there
        obtain ⟨-, there | ⟨same, -⟩⟩ := there
        · exact single.unparked there j (shown_before anew (shown ▸ shows))
        · cases same
          exact single.gone showed other j (shown ▸ shows)
  | @took k x commits showed attached shown buffers _ =>
    subst commits
    by_cases anew : x = b
    · subst anew
      obtain ⟨free, unparked⟩ := fair attached (by simp [showed])
      exact ⟨shown ▸ once_of_first free (some x), fun there => absurd (buffers ▸ there) unparked⟩
    · have anew : some x ≠ some b := by simpa using anew
      refine ⟨fun j y shows also => single.once j y ?_ ?_, fun there j shows => ?_⟩
      · exact shown_before anew (shown ▸ shows)
      · exact shown_before anew (shown ▸ also)
      · exact single.unparked (buffers ▸ there) j (shown_before anew (shown ▸ shows))
  | @asked r asks shown buffers _ =>
    refine ⟨shown ▸ single.once, fun there => (unshown_congr shown).2 ?_⟩
    rw [buffers, parked] at there
    obtain ⟨-, there | ⟨rfl, -⟩⟩ := there
    · exact single.unparked there
    · cases request <;> cases asks
      exact fair rfl

theorem Lent.single (lent : Lent b c) : c.Single b := by
  induction lent with
  | start => exact ⟨fun j k shows => by simp [shown, dues] at shows, fun _ k => by simp [shown, dues]⟩
  | handle before host request fair ih =>
    exact (before.reachable.deal host request).single before.reachable.tidy fair ih
  | collect _ ih => exact ⟨ih.once, ih.unparked⟩

/-- A client that gets back a buffer finds it shown by no surface, as long as all requests were fair to
the buffer. A request gives a buffer back only after the last change of what surfaces show. -/
theorem Lent.unshown (lent : Lent b c) (host : Host) (request : Request)
    (fair : c.Fair b request) (back : b ∈ c.released host request) :
    (c.handle host request).2.Unshown b := by
  intro k
  have single := lent.single
  cases lent.reachable.deal host request with
  | kept _ _ nothing | took _ _ _ _ _ nothing => simp [nothing] at back
  | @gaveUp _ x new _ showed other _ shown _ given =>
    rw [given, mem_releases_returned] at back
    obtain ⟨rfl, -⟩ := back
    rw [shown]
    exact single.gone showed other k
  | asked asks shown buffers given =>
    rw [shown]
    cases request
    case renderComplete x =>
      -- The last render ended, and completed a release that was parked.
      rw [given, answered, mem_releases_returned] at back
      obtain ⟨rfl, ended⟩ := back
      obtain ⟨-, ⟨freed, -⟩ | ⟨-, parked, -⟩⟩ :=
        (BufferPool.clearBusy_completes_iff c.buffers b .released).1 ended
      · cases freed
      · exact single.unparked parked k
    all_goals simp [given, answered, releases] at back

/-- A surface that showed a buffer was committed with another one. -/
def replacedBuffer : Compositor :=
  ({ config := {}, contexts := .standard } : Compositor).run <| List.map (Prod.mk .willing)
    [.createSurface ⟨1⟩ 1, .pool (.register ⟨.shared, ⟨1, 1⟩, 4, .argb, none⟩),
      .pool (.register ⟨.shared, ⟨1, 1⟩, 4, .argb, none⟩), .attach ⟨1⟩ (some ⟨1⟩) ⟨0, 0⟩, .commit ⟨1⟩,
      .attach ⟨1⟩ (some ⟨2⟩) ⟨0, 0⟩]

theorem replacedBuffer_unshown : Lent ⟨1⟩ replacedBuffer ∧
    ⟨1⟩ ∈ replacedBuffer.released .willing (.commit ⟨1⟩) ∧
    (replacedBuffer.handle .willing (.commit ⟨1⟩)).2.Unshown ⟨1⟩ := by
  have created := (Lent.start (b := ⟨1⟩) {} .standard).handle .willing (.createSurface ⟨1⟩ 1) trivial
  have registered := (created.handle .willing (.pool (.register ⟨.shared, ⟨1, 1⟩, 4, .argb, none⟩))
    trivial).handle .willing (.pool (.register ⟨.shared, ⟨1, 1⟩, 4, .argb, none⟩)) trivial
  have attached := registered.handle .willing (.attach ⟨1⟩ (some ⟨1⟩) ⟨0, 0⟩) trivial
  have committed := attached.handle .willing (.commit ⟨1⟩) fun _ _ => by decide
  have lent : Lent ⟨1⟩ replacedBuffer :=
    committed.handle .willing (.attach ⟨1⟩ (some ⟨2⟩) ⟨0, 0⟩) trivial
  have back : ⟨1⟩ ∈ replacedBuffer.released .willing (.commit ⟨1⟩) := by decide
  exact ⟨lent, back, lent.unshown .willing (.commit ⟨1⟩) (fun shows => by cases shows) back⟩

/-- Two surfaces show one buffer, and the first is about to show none. -/
def sharedBuffer : Compositor :=
  ({ config := {}, contexts := .standard } : Compositor).run <| List.map (Prod.mk .willing)
    [.createSurface ⟨1⟩ 1, .createSurface ⟨1⟩ 2,
      .pool (.register ⟨.shared, ⟨1, 1⟩, 4, .argb, none⟩), .attach ⟨1⟩ (some ⟨1⟩) ⟨0, 0⟩, .commit ⟨1⟩,
      .attach ⟨2⟩ (some ⟨1⟩) ⟨0, 0⟩, .commit ⟨2⟩, .attach ⟨1⟩ none ⟨0, 0⟩]

/-- A surface shows a buffer again that it had given up while a render read it. -/
def shownAgain : Compositor :=
  ({ config := {}, contexts := .standard } : Compositor).run <| List.map (Prod.mk .willing)
    [.createSurface ⟨1⟩ 1, .pool (.register ⟨.shared, ⟨1, 1⟩, 4, .argb, none⟩),
      .attach ⟨1⟩ (some ⟨1⟩) ⟨0, 0⟩, .commit ⟨1⟩, .pool (.markBusy ⟨1⟩), .attach ⟨1⟩ none ⟨0, 0⟩,
      .commit ⟨1⟩, .attach ⟨1⟩ (some ⟨1⟩) ⟨0, 0⟩, .commit ⟨1⟩]

/-- Without fairness the client gets back a buffer that is shown. -/
theorem given_back_while_shown :
    (⟨1⟩ ∈ sharedBuffer.released .willing (.commit ⟨1⟩) ∧
      (sharedBuffer.handle .willing (.commit ⟨1⟩)).2.shown ⟨2⟩ = some ⟨1⟩) ∧
    ⟨1⟩ ∈ shownAgain.released .willing (.renderComplete ⟨1⟩) ∧
      (shownAgain.handle .willing (.renderComplete ⟨1⟩)).2.shown ⟨1⟩ = some ⟨1⟩ := by
  decide

end Compositor

end Compositing
