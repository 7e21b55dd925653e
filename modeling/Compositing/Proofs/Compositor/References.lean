import Compositing.Proofs.Compositor.Cores
import Compositing.Proofs.Compositor.Custody
import Compositing.Proofs.Compositor.Holders
import Compositing.Proofs.Compositor.Tracking

/-!
# Who holds a surface

A surface lives as long as somebody holds it: its protocol object, until that ends from either side,
and the host, once for every reference it took and has not given back. `Tallied` keeps the history of
that. As long as the host gives back no more than it took, and no other object has the protocol object
of the surface, the history alone tells how many hold a surface, and the surface goes with the last of
them: `Tallied.follows_references`.
-/

namespace Compositing

variable {k : SurfaceId} {history : List HoldEvent}

namespace Surface

/-- How a surface is held: by how many, and by which live protocol object. -/
def hold (s : Surface) : Nat × Option Handle := (s.refCount, s.resource)

theorem hold_of_core {s s' : Surface} (same : s'.core = s.core) : s'.hold = s.hold := by
  obtain ⟨refs, resource, -⟩ := core_eq same
  rw [hold, refs, resource, hold]

theorem commit_hold (s : Surface) (pool : BufferPool) : (s.commit pool).surface.hold = s.hold := by
  simp [hold, (Compositor.commit_surface s pool).2.2.1, resource, (s.commit_handles pool).1]

theorem drop?_hold (s : Surface) : s.drop?.map hold = oneFewer s.refCount s.resource := by
  unfold drop? release oneFewer
  by_cases last : s.refCount - 1 = 0 <;> simp [last, hold, resource]

theorem unlink?_hold (s : Surface) : s.unlink?.map hold = oneFewer s.refCount none :=
  drop?_hold s.detachResource.2

theorem map_hold_of_core {s s' : Option Surface} (same : s'.map core = s.map core) :
    s'.map hold = s.map hold := by
  cases s <;> cases s' <;> simp at same ⊢
  exact hold_of_core same

theorem map_hold {s : Option Surface} {f : Surface → Surface} (same : ∀ t, (f t).hold = t.hold) :
    (s.map f).map hold = s.map hold := by
  rw [Option.map_map]
  exact congrArg (s.map ·) (funext same)

theorem bind_hold {s : Option Surface} {f : Surface → Option Surface}
    {g : Nat × Option Handle → Option (Nat × Option Handle)}
    (same : ∀ t, s = some t → (f t).map hold = g t.hold) :
    (s.bind f).map hold = (s.map hold).bind g := by
  cases s with
  | none => rfl
  | some t => exact same t rfl

end Surface

namespace Compositor

variable {c c' c'' : Compositor}

/-! ### The index and the links of surfaces -/

/-- A protocol object that the index gives to a surface is the one that the surface is linked to. -/
def Traced (c : Compositor) : Prop :=
  ∀ h k, c.resources.get? h = some (.surface k) → h ∈ c.handlesOf (.surface k)

/-- The index gives surfaces nothing new, and a surface keeps the link to what it still gives it. -/
def Tracing (c c' : Compositor) : Prop :=
  ∀ h k, c'.resources.get? h = some (.surface k) → c.resources.get? h = some (.surface k) ∧
    (h ∈ c.handlesOf (.surface k) → h ∈ c'.handlesOf (.surface k))

theorem Traced.step (traced : c.Traced) (tracing : Tracing c c') : c'.Traced := by
  intro h k named
  obtain ⟨before, kept⟩ := tracing h k named
  exact kept (traced h k before)

theorem Tracing.trans (first : Tracing c c') (second : Tracing c' c'') : Tracing c c'' := by
  intro h k named
  obtain ⟨between, kept'⟩ := second h k named
  obtain ⟨before, kept⟩ := first h k between
  exact ⟨before, fun held => kept' (kept held)⟩

theorem Still.tracing (still : Still c c') : Tracing c c' := fun _ _ named =>
  ⟨still.resources ▸ named, fun held => (still.handles _).symm ▸ held⟩

/-- What is destroyed is out of the index, and surfaces lose no other links. -/
theorem Destroyed.tracing {gone : List Handle} (destroyed : Destroyed c gone c')
    (kept : ∀ k h, h ∈ c.handlesOf (.surface k) → h ∉ gone → h ∈ c'.handlesOf (.surface k)) :
    Tracing c c' := by
  intro h k named
  rw [destroyed.index] at named
  split at named
  next => cases named
  next there => exact ⟨named, fun held => kept k h held there⟩

theorem Dropped.tracing {owners : List Owner} (dropped : Dropped c owners c') : Tracing c c' := by
  refine dropped.destroyed.tracing fun k h held there => ?_
  rw [dropped.handles, if_neg fun listed => there (List.mem_flatMap.2 ⟨_, listed, held⟩)]
  exact held

theorem tracing_finishItem (c : Compositor) (time : UInt32) (item : PaintItem) :
    Tracing c (c.finishItem time item) := by
  cases found : c.surfaces.get? item.surface with
  | none =>
    rw [finishItem_of_absent time found]
    exact (Still.refl c).tracing
  | some s =>
    obtain ⟨fired, handles⟩ := destroyed_finishItem time found
    exact fired.tracing fun k h held _ => by rwa [handles, if_neg (by simp)]

theorem tracing_closed : Closed Tracing :=
  ⟨Still.tracing, Tracing.trans, fun _ dropped => dropped.tracing, tracing_finishItem⟩

/-- A protocol object that is made for something else than a surface. -/
theorem tracing_made {x : Handle} {o : Owner} (other : ∀ k, o ≠ .surface k)
    (index : ∀ y, c'.resources.get? y = if y = x then some o else c.resources.get? y)
    (handles : ∀ k, c'.handlesOf (.surface k) = c.handlesOf (.surface k)) : Tracing c c' := by
  intro h k named
  rw [index] at named
  split at named
  next => exact absurd (Option.some.inj named) (other k)
  next => exact ⟨named, fun held => handles k ▸ held⟩

theorem tracing_createRegion (host : Host) (client : ClientId) (id : UInt32) :
    Tracing c (c.createRegion host client id).2 := by
  cases made : host.createResource .region client id with
  | error =>
    simp only [createRegion, createResource, made]
    exact (still_tell fun _ => rfl).tracing
  | ok x =>
    have entered := entered_createRegion (c := c) made
    exact tracing_made (by simp) entered.index fun k => by rw [entered.handles, if_neg (by simp)]

theorem tracing_createView (host : Host) (k : SurfaceId) (role : Handle) :
    Tracing c (c.createView host k role).2 := by
  rcases createView_cases (c := c) host k role with ⟨e, refused⟩ | ⟨_, d, -, new, -, kept⟩
  · rw [refused]
    exact (Still.refl c).tracing
  · have entered : Tracing c d :=
      tracing_made (by simp) new.index fun k => by rw [new.handles, if_neg (by simp)]
    rcases kept with same | discarded
    · exact same ▸ entered
    · exact discarded ▸ entered.trans (tracing_closed.discardView c.nextIds.view)

theorem tracing_requestFrame (linked : c.Linked) (host : Host) (k : SurfaceId) (callback : UInt32) :
    Tracing c (c.requestFrame host k callback).2 := by
  cases found : c.surfaces.get? k with
  | none =>
    simp only [requestFrame, found]
    exact (Still.refl c).tracing
  | some s =>
    cases made : host.createResource .callback s.client callback with
    | error =>
      simp only [requestFrame, found, createResource, made]
      exact (still_tell fun _ => rfl).tracing
    | ok x =>
      obtain ⟨d, -, new, -, destroyed, handles⟩ := requestFrame_made linked found made
      have entered : Tracing c d :=
        tracing_made (by simp) new.index fun k => by rw [new.handles, if_neg (by simp)]
      exact entered.trans (destroyed.tracing fun k h held _ => by rwa [handles, if_neg (by simp)])

theorem handlesOf_kept (j : SurfaceId) {f : Surface → Surface} (same : ∀ s, (f s).link = s.link)
    {k : SurfaceId} : (c.modifySurface j f).handlesOf (.surface k) = c.handlesOf (.surface k) :=
  elim_of_rel (Table.rel_modify c.surfaces j k (R := fun s s' => s'.link = s.link) (fun _ => rfl)
    fun s _ => same s) fun s s' same => by rw [Surface.resource, same, Surface.resource]

/-- The index forgets a protocol object, and with it the link that it was. -/
theorem tracing_resourceDestroyed (traced : c.Traced) (x : Handle) :
    Tracing c (c.resourceDestroyed x) := by
  have forgets {d : Compositor} (resources : d.resources = c.resources.erase x)
      (kept : ∀ k h, h ∈ c.handlesOf (.surface k) → h ≠ x → h ∈ d.handlesOf (.surface k)) :
      Tracing c d := by
    intro h k named
    rw [resources, Table.get?_erase] at named
    split at named
    next => cases named
    next other => exact ⟨named, fun held => kept k h held other⟩
  unfold resourceDestroyed
  split
  next => exact (Still.refl c).tracing
  next o named =>
    have disowned (o : Owner) := handlesOf_disown (c := c) x o
    cases o with
    | surface k =>
      have single := handlesOf_eq_singleton (traced x k named) (by simp)
      obtain ⟨s, found⟩ : ∃ s, c.surfaces.get? k = some s := by
        cases found : c.surfaces.get? k with
        | none => simp [handlesOf, found] at single
        | some s => exact ⟨s, rfl⟩
      refine (forgets (d := (c.disown x).modifySurface k fun s => s.detachResource.2) rfl
        fun j h held other => ?_).trans (tracing_closed.surfaceResourceGone k)
      rw [handlesOf_detachResource (c := c.disown x) found, disowned, if_neg]
      · exact held
      · -- The surface had no other link than the one that is gone.
        rintro ⟨⟩
        rw [single] at held
        exact other (by simpa using held)
    | region r =>
      refine forgets rfl fun k h held _ => ?_
      rw [handlesOf_replaceRegion (c := c.disown x) (g := none)
        (by exact fun _ => Table.get?_erase ..) (by rfl) (by rfl), if_neg (by simp), disowned]
      exact held
    | callback j =>
      refine forgets rfl fun k h held _ => ?_
      rw [handlesOf_kept (c := c.disown x) j fun s => ?_, disowned]
      · exact held
      · unfold Surface.forgetCallback
        split <;> rfl
    | view v =>
      refine (forgets (d := (c.disown x).modifyView v fun w => { w with link := .detached }) rfl
        fun k h held _ => ?_).trans (tracing_closed.destroyView v)
      rw [handlesOf_cutView, if_neg (by simp), disowned]
      exact held

theorem traced_handle (linked : c.Linked) (traced : c.Traced) (host : Host) (request : Request) :
    (c.handle host request).2.Traced := by
  cases request with
  | createSurface client id =>
    rw [handle, settle_snd]
    cases made : host.createResource .surface client id with
    | error =>
      simp only [createSurface, createResource, made]
      exact traced.step (still_tell fun _ => rfl).tracing
    | ok x =>
      have entered := entered_createSurface linked made
      intro h k named
      rw [entered.index] at named
      rw [entered.handles]
      split at named
      next here =>
        rw [if_pos (Option.some.inj named).symm]
        exact List.mem_singleton.2 here
      next =>
        -- Nothing was linked to the new name before.
        have held := traced h k named
        rw [if_neg]
        · exact held
        · rintro ⟨⟩
          simp [handlesOf, linked.surface_fresh] at held
  | createRegion client id =>
    rw [handle, settle_snd]
    exact traced.step (tracing_createRegion host client id)
  | frame k callback =>
    rw [handle, settle_snd]
    exact traced.step (tracing_requestFrame linked host k callback)
  | createView k role =>
    rw [handle, settle_snd]
    exact traced.step (tracing_createView host k role)
  | resourceDestroyed x => exact traced.step (tracing_resourceDestroyed traced x)
  | _ =>
    exact traced.step
      (tracing_closed.handle host _ (by simp) (by simp) (by simp) (by simp) (by simp))

theorem Reachable.traced (reached : c.Reachable) : c.Traced := by
  induction reached with
  | start => exact fun h k named => by simp at named
  | handle before host request ih => exact traced_handle before.linked ih host request
  | collect _ ih => exact ih

/-! ### Who has a protocol object -/

/-- The protocol objects that some object holds. -/
def liveHandles (c : Compositor) : List Handle :=
  (c.surfaces.keys.flatMap fun k => c.handlesOf (.surface k) ++ c.handlesOf (.callback k)) ++
    (c.regions.keys.flatMap fun r => c.handlesOf (.region r)) ++
    c.views.keys.flatMap fun v => c.handlesOf (.view v)

/-- Only an object that is there holds something. -/
theorem mem_liveHandles {o : Owner} {h : Handle} (held : h ∈ c.handlesOf o) : h ∈ c.liveHandles := by
  simp only [liveHandles, List.mem_append, List.mem_flatMap]
  cases o with
  | surface k =>
    refine .inl (.inl ⟨k, (Table.mem_keys_iff ..).2 ?_, .inl held⟩)
    cases found : c.surfaces.get? k <;> simp [handlesOf, found] at held ⊢
  | callback k =>
    refine .inl (.inl ⟨k, (Table.mem_keys_iff ..).2 ?_, .inr held⟩)
    cases found : c.surfaces.get? k <;> simp [handlesOf, found] at held ⊢
  | region r =>
    refine .inl (.inr ⟨r, (Table.mem_keys_iff ..).2 ?_, held⟩)
    cases found : c.regions.get? r <;> simp [handlesOf, found] at held ⊢
  | view v =>
    refine .inr ⟨v, (Table.mem_keys_iff ..).2 ?_, held⟩
    cases found : c.views.get? v <;> simp [handlesOf, found] at held ⊢

theorem free_iff_not_mem (c : Compositor) (h : Handle) : c.Free h ↔ h ∉ c.liveHandles := by
  refine ⟨fun free member => ?_, fun absent o held => absent (mem_liveHandles held)⟩
  simp only [liveHandles, List.mem_append, List.mem_flatMap] at member
  obtain (⟨_, -, held | held⟩ | ⟨_, -, held⟩) | ⟨_, -, held⟩ := member <;> exact free _ held

instance (c : Compositor) (h : Handle) : Decidable (c.Free h) :=
  decidable_of_iff (h ∉ c.liveHandles) (c.free_iff_not_mem h).symm

/-! ### The history -/

def hold? (c : Compositor) (k : SurfaceId) : Option (Nat × Option Handle) :=
  (c.surfaces.get? k).map Surface.hold

/-- The protocol object that a request gives to an object. A role that is refused is given to none. -/
def given? (c : Compositor) (host : Host) : Request → Option Handle
  | .createView k role => if (c.createView host k role).1.isOk then some role else none
  | request => c.brought? host request

/-- What a request means for the holders of surfaces. A reference counts as taken if the host is told
so. -/
def holdEvents (c : Compositor) (host : Host) : Request → List HoldEvent
  | .createSurface client id =>
    match host.createResource .surface client id with
    | .ok handle => [.made c.nextIds.surface handle]
    | .error _ => []
  | .acquire k => if (c.acquireSurface k).1 then [.acquired k] else []
  | .release k => [.released k]
  | .destroySurface k => [.ended k]
  | .resourceDestroyed handle => [.reported handle]
  | _ => []

/-- Whether a request gives away what some object has. -/
def sharing (c : Compositor) (host : Host) (request : Request) : List HoldEvent :=
  match c.given? host request with
  | some h => if c.Free h then [] else [.shared h]
  | none => []

/-- The surfaces that left their table. -/
def lostSurfaces (c c' : Compositor) : List SurfaceId :=
  c.surfaces.keys.filter fun k => !c'.surfaces.contains k

/-- The states that requests lead to, with the history of the holders of surfaces. The host may
collect what it was told at any time. -/
inductive Tallied : Compositor → List HoldEvent → Prop
  | start (config : Config) (contexts : Contexts) : Tallied { config, contexts } []
  | handle {c : Compositor} {history : List HoldEvent} (before : Tallied c history) (host : Host)
      (request : Request) : Tallied (c.handle host request).2 (history ++
        c.holdEvents host request ++ (c.sharing host request ++
          (c.lostSurfaces (c.handle host request).2).map .freed))
  | collect {c : Compositor} {history : List HoldEvent} (before : Tallied c history) :
      Tallied c.collect.2 history

theorem Tallied.reachable (tallied : Tallied c history) : c.Reachable := by
  induction tallied with
  | start config contexts => exact .start config contexts
  | handle _ host request ih => exact ih.handle host request
  | collect _ ih => exact ih.collect

/-- Every reachable state has a history. -/
theorem Reachable.tallied (reached : c.Reachable) : ∃ history, Tallied c history := by
  induction reached with
  | start config contexts => exact ⟨[], .start config contexts⟩
  | handle _ host request ih =>
    obtain ⟨history, tallied⟩ := ih
    exact ⟨_, tallied.handle host request⟩
  | collect _ ih =>
    obtain ⟨history, tallied⟩ := ih
    exact ⟨history, tallied.collect⟩

theorem surfaceOf?_eq_some {h : Handle} (named : c.surfaceOf? h = some k) :
    c.resources.get? h = some (.surface k) := by
  unfold surfaceOf? at named
  split at named
  next there => rwa [Option.some.inj named] at there
  next => cases named

theorem hold?_eq_some {held : Nat × Option Handle} (there : c.hold? k = some held) :
    c.handlesOf (.surface k) = held.2.toList := by
  obtain ⟨s, found, rfl⟩ := Option.map_eq_some_iff.1 there
  simp [handlesOf, found, Surface.hold]

theorem hold?_of_mem {h : Handle} (held : h ∈ c.handlesOf (.surface k)) :
    ∃ n, c.hold? k = some (n, some h) := by
  cases found : c.surfaces.get? k with
  | none => simp [handlesOf, found] at held
  | some s =>
    have linked : s.resource = some h := by simpa [handlesOf, found] using held
    exact ⟨s.refCount, by simp [hold?, found, Surface.hold, linked]⟩

theorem hold?_turn (reached : c.Reachable) (host : Host) (request : Request) (k : SurfaceId) :
    (c.handle host request).2.hold? k =
      (c.turn host k (c.surfaces.get? k) request).map Surface.hold :=
  Surface.map_hold_of_core (core?_handle reached.tidy reached.held host request k)

/-- A request changes how a surface is held as its events say, unless the index lost the surface. -/
theorem hold?_handle (reached : c.Reachable) (host : Host) (request : Request)
    (indexed : ∀ h ∈ c.handlesOf (.surface k), c.resources.get? h = some (.surface k)) :
    (c.handle host request).2.hold? k =
      (c.holdEvents host request).foldl (HoldEvent.apply k) (c.hold? k) := by
  rw [hold?_turn reached]
  cases request
  case createSurface client id =>
    simp only [turn, holdEvents]
    cases host.createResource .surface client id with
    | error => rfl
    | ok h =>
      simp only [List.foldl_cons, List.foldl_nil, HoldEvent.apply, eq_comm (a := k)]
      split <;> rfl
  case acquire x =>
    simp only [turn, holdEvents, acquireSurface]
    by_cases here : k = x
    · subst here
      cases found : c.surfaces.get? k <;> simp [hold?, Table.contains, found, HoldEvent.apply,
        Surface.hold, Surface.acquire, Surface.resource]
    · by_cases there : c.surfaces.contains x = true <;>
        simp [hold?, HoldEvent.apply, here, Ne.symm here, there]
  case release x =>
    simp only [turn, holdEvents, List.foldl_cons, List.foldl_nil, HoldEvent.apply,
      eq_comm (a := x)]
    split
    · exact Surface.bind_hold fun s _ => s.drop?_hold
    · rfl
  case destroySurface x =>
    simp only [turn, holdEvents, List.foldl_cons, List.foldl_nil, HoldEvent.apply,
      eq_comm (a := x)]
    split
    · refine Surface.bind_hold fun s _ => ?_
      by_cases live : s.resource.isSome = true
      · simpa [Surface.hold, live] using s.unlink?_hold
      · simp [Surface.hold, live]
    · rfl
  case resourceDestroyed h =>
    simp only [turn, holdEvents, List.foldl_cons, List.foldl_nil, HoldEvent.apply]
    cases found : c.surfaces.get? k with
    | none => simp [hold?, found]
    | some s =>
      -- The index gives the surface the protocol object exactly if the surface is linked to it.
      have named : c.surfaceOf? h = some k ↔ s.resource = some h := by
        have held : h ∈ c.handlesOf (.surface k) ↔ s.resource = some h := by
          simp [handlesOf, found]
        rw [← held]
        exact ⟨fun named => reached.traced h k (surfaceOf?_eq_some named), fun held => by
          rw [surfaceOf?, indexed h held]⟩
      simp only [named, hold?, found, Option.map_some, Option.bind_some, Surface.hold]
      split
      · exact s.unlink?_hold
      · rfl
  case attach x _ _ | damage x _ | setOpaque x _ | setInput x _ =>
    simp only [turn, holdEvents, List.foldl_nil]
    split
    · exact Surface.map_hold fun _ => rfl
    · rfl
  case commit x =>
    simp only [turn, holdEvents, List.foldl_nil]
    split
    · exact Surface.map_hold fun s => s.commit_hold c.buffers
    · rfl
  all_goals rfl

/-! ### The protocol object of a surface -/

theorem made_iff {h : Handle} {host : Host} {request : Request} :
    .made k h ∈ c.holdEvents host request ↔ k = c.nextIds.surface ∧ ∃ client id,
      request = .createSurface client id ∧ host.createResource .surface client id = .ok h := by
  cases request
  case createSurface client id =>
    simp only [holdEvents]
    cases created : host.createResource .surface client id <;> simp [created, eq_comm (a := h)]
  case acquire =>
    simp only [holdEvents]
    split <;> simp
  all_goals simp [holdEvents]

/-- What a request brings without giving it to an object changes nothing. -/
theorem handle_of_refused {h : Handle} {host : Host} {request : Request}
    (brought : c.brought? host request = some h) (refused : c.given? host request ≠ some h) :
    (c.handle host request).2 = c := by
  cases request
  case createView k role =>
    rw [handle, settle_snd]
    rcases createView_cases (c := c) host k role with ⟨e, same⟩ | ⟨_, _, reply, -⟩
    · rw [same]
    · exact absurd brought (by simpa [brought?, given?, reply, Except.isOk, Except.toBool] using refused)
  all_goals exact absurd brought refused

/-- Nobody but the new surface has a protocol object that was free. -/
theorem sole_made (linked : c.Linked) {h : Handle} {host : Host} {request : Request}
    (made : .made k h ∈ c.holdEvents host request) (free : c.Free h) :
    (c.handle host request).2.Sole (.surface k) h := by
  obtain ⟨rfl, client, id, rfl, created⟩ := made_iff.1 made
  have entered := entered_createSurface linked created
  rw [handle, settle_snd]
  constructor
  case index => rw [entered.index, if_pos rfl]
  case once =>
    rw [entered.handles, if_pos rfl]
    simp
  case only =>
    -- All others hold what they held before.
    intro o member
    by_contra other
    rw [entered.handles, if_neg other] at member
    exact free o member

theorem holdEvents_cases (linked : c.Linked) (host : Host) (request : Request) :
    c.holdEvents host request = [] ∨ ∃ e, c.holdEvents host request = [e] ∧
      (∀ k, e.Fits k (c.hold? k)) ∧ ∀ k, e ≠ .freed k := by
  cases request
  case createSurface client id =>
    simp only [holdEvents]
    split
    next =>
      refine .inr ⟨_, rfl, ?_, by simp⟩
      rintro k rfl
      simp [hold?, linked.surface_fresh]
    next => exact .inl rfl
  case acquire x =>
    simp only [holdEvents]
    split
    next there =>
      refine .inr ⟨_, rfl, ?_, by simp⟩
      rintro k rfl
      simpa [hold?, acquireSurface, Table.contains] using there
    next => exact .inl rfl
  case release | destroySurface | resourceDestroyed =>
    exact .inr ⟨_, rfl, fun _ => trivial, by simp⟩
  all_goals exact .inl rfl

theorem request_of_holdEvents {host : Host} {request : Request} {e : HoldEvent}
    (one : c.holdEvents host request = [e]) :
    (∀ k, e = .released k → request = .release k) ∧
      (∀ k, e = .ended k → request = .destroySurface k) ∧
      ∀ h, e = .reported h → request = .resourceDestroyed h := by
  refine ⟨?_, ?_, ?_⟩
  all_goals
    rintro x rfl
    cases request <;> simp only [holdEvents] at one <;> grind

theorem silent_after (c c' : Compositor) (host : Host) (request : Request) :
    ∀ e ∈ c.sharing host request ++ (c.lostSurfaces c').map .freed, e.IsSilent := by
  intro e member
  rcases List.mem_append.1 member with shared | freed
  · unfold sharing at shared
    split at shared
    next h _ =>
      split at shared
      · cases shared
      · obtain rfl := List.mem_singleton.1 shared
        trivial
    next => cases shared
  · obtain ⟨x, -, rfl⟩ := List.mem_map.1 freed
    trivial

/-- The surface is linked to what the history tells, and nobody else has that. -/
def Told (c : Compositor) (k : SurfaceId) (history : List HoldEvent) : Prop :=
  ∀ h ∈ c.handlesOf (.surface k), liveObject k history = some h ∧ c.Sole (.surface k) h

theorem Told.handle (told : c.Told k history) (reached : c.Reachable) (host : Host)
    (request : Request)
    (unshared : Unshared k (history ++ c.holdEvents host request ++ c.sharing host request)) :
    (c.handle host request).2.Told k (history ++ c.holdEvents host request) := by
  intro h held
  obtain ⟨n, there⟩ := hold?_of_mem held
  rw [hold?_handle reached host request fun x member => (told x member).2.index] at there
  -- Who is linked afterwards was made by the request, or was linked before and is spared.
  have origin : .made k h ∈ c.holdEvents host request ∨ h ∈ c.handlesOf (.surface k) ∧
      ∀ e ∈ c.holdEvents host request, e.relink k (some h) = some h := by
    have before {m : Nat} (there : c.hold? k = some (m, some h)) : h ∈ c.handlesOf (.surface k) := by
      simp [hold?_eq_some there]
    rcases holdEvents_cases reached.linked host request with none | ⟨e, one, -, -⟩
    · rw [none] at there ⊢
      exact .inr ⟨before there, nofun⟩
    · rw [one] at there ⊢
      rcases HoldEvent.linked there with rfl | ⟨⟨m, there⟩, spared⟩
      · exact .inl (by simp)
      · exact .inr ⟨before there, by simpa using spared⟩
  have live : liveObject k (history ++ c.holdEvents host request) = some h := by
    rcases holdEvents_cases reached.linked host request with none | ⟨e, one, -, -⟩
    · rw [none] at origin ⊢
      rw [List.append_nil]
      exact (told h (origin.resolve_left (by simp)).1).1
    · rw [one] at origin ⊢
      rw [liveObject_concat]
      rcases origin with made | ⟨before, spared⟩
      · simp [← List.mem_singleton.1 made, HoldEvent.relink]
      · rw [(told h before).1]
        exact spared e (by simp)
  refine ⟨live, ?_⟩
  by_cases given : c.given? host request = some h
  · -- What the request gave away was free, for else it would be shared now.
    have free : c.Free h := by
      by_contra shared
      rw [sharing, given] at unshared
      simp only [if_neg shared] at unshared
      exact unshared.now live
    rcases origin with made | ⟨before, -⟩
    · exact sole_made reached.linked made free
    · exact absurd before (free _)
  · rcases origin with made | ⟨before, spared⟩
    · obtain ⟨-, client, id, rfl, created⟩ := made_iff.1 made
      exact absurd (by simp [given?, brought?, created, Except.toOption]) given
    · have sole := (told h before).2
      by_cases brought : c.brought? host request = some h
      · rwa [handle_of_refused brought given]
      · refine sole.step (careful_handle reached.linked host request brought ?_) held
        -- The surface would have lost what is reported.
        rintro rfl
        simpa [HoldEvent.relink] using spared (.reported h) (by simp [holdEvents])

theorem Tallied.told (tallied : Tallied c history) (unshared : Unshared k history) :
    c.Told k history := by
  induction tallied with
  | start => exact fun h held => by simp [handlesOf] at held
  | @handle c history before host request ih =>
    rw [← List.append_assoc] at unshared
    have told := (ih unshared.before.before.before).handle before.reachable host request unshared.before
    intro h held
    rw [liveObject_silent (silent_after c _ host request)]
    exact told h held
  | collect _ ih =>
    intro h held
    obtain ⟨live, sole⟩ := ih unshared h held
    exact ⟨live, sole.index, sole.once, sole.only⟩

/-! ### What the history tells -/

theorem accounted_handle (reached : c.Reachable) (told : c.Told k history)
    (accounted : Accounted k history (c.hold? k)) (host : Host) (request : Request)
    (balanced : Balanced k (history ++ c.holdEvents host request)) :
    Accounted k (history ++ c.holdEvents host request) ((c.handle host request).2.hold? k) := by
  rw [hold?_handle reached host request fun h held => (told h held).2.index]
  rcases holdEvents_cases reached.linked host request with none | ⟨e, one, fits, -⟩
  · simpa [none] using accounted
  · rw [one] at balanced ⊢
    exact accounted.event balanced (fits k)

theorem Tallied.accounted (tallied : Tallied c history) (balanced : Balanced k history)
    (unshared : Unshared k history) : Accounted k history (c.hold? k) := by
  induction tallied with
  | start => exact rfl
  | @handle c history before host request ih =>
    have past := unshared.before.before
    have accounted := accounted_handle before.reachable (before.told past)
      (ih balanced.before.before past) host request balanced.before
    exact accounted.silent (silent_after c _ host request)
  | collect _ ih => exact ih balanced unshared

theorem mem_lostSurfaces :
    k ∈ c.lostSurfaces c' ↔ c.hold? k ≠ none ∧ c'.hold? k = none := by
  simp [lostSurfaces, Table.mem_keys_iff, Table.contains, hold?, Option.isSome_iff_ne_none]

theorem count_lostSurfaces (c c' : Compositor) (k : SurfaceId) :
    ((c.lostSurfaces c').map HoldEvent.freed).count (.freed k) =
      if c.hold? k ≠ none ∧ c'.hold? k = none then 1 else 0 := by
  have single : (c.lostSurfaces c').Nodup := c.surfaces.nodup.filter _
  rw [List.count_map_of_injective _ _ (fun _ _ => HoldEvent.freed.inj)]
  split
  next lost => exact List.count_eq_one_of_mem single (mem_lostSurfaces.2 lost)
  next kept => exact List.count_eq_zero.2 fun lost => kept (mem_lostSurfaces.1 lost)

theorem nextSurface_handle (reached : c.Reachable) (host : Host) (request : Request) :
    c.nextIds.surface.number ≤ (c.handle host request).2.nextIds.surface.number :=
  (handle_keeps (I := fun d => c.nextIds.surface.number ≤ d.nextIds.surface.number)
    (fun _ _ _ le change => Nat.le_trans le change.later.nextSurface)
    (fun _ _ _ _ le change => Nat.le_trans le change.nextSurface) reached.linked reached.held
    (Nat.le_refl _) host request).2.2

/-- A surface is made under a name that was not drawn before. -/
theorem made_drawn {h : Handle} {host : Host} {request : Request} (reached : c.Reachable)
    (made : .made k h ∈ c.holdEvents host request) :
    k = c.nextIds.surface ∧ k.number < (c.handle host request).2.nextIds.surface.number := by
  obtain ⟨rfl, client, id, rfl, created⟩ := made_iff.1 made
  rw [handle, settle_snd]
  exact ⟨rfl, (entered_createSurface reached.linked created).drawn⟩

theorem Tallied.drawn (tallied : Tallied c history) (made : WasMade k history) :
    k.number < c.nextIds.surface.number := by
  induction tallied with
  | start => exact absurd made.choose_spec List.not_mem_nil
  | @handle c history before host request ih =>
    rw [wasMade_append, or_iff_left (not_wasMade_of_silent (silent_after c _ host request)),
      wasMade_append] at made
    rcases made with past | ⟨_, new⟩
    · exact Nat.lt_of_lt_of_le (ih past) (nextSurface_handle before.reachable host request)
    · exact (made_drawn before.reachable new).2
  | collect _ ih => exact ih made

/-- A surface that was not there is there after a request exactly if the request made it. -/
theorem made_iff_arrived (reached : c.Reachable) (host : Host) (request : Request)
    (absent : c.hold? k = none) :
    WasMade k (c.holdEvents host request) ↔ (c.handle host request).2.hold? k ≠ none := by
  have unlinked (h : Handle) (held : h ∈ c.handlesOf (.surface k)) :
      c.resources.get? h = some (.surface k) := by
    obtain ⟨n, there⟩ := hold?_of_mem held
    cases absent.symm.trans there
  rw [hold?_handle reached host request unlinked, absent]
  rcases holdEvents_cases reached.linked host request with none | ⟨e, one, -, -⟩
  · simp [none, WasMade]
  · rw [one]
    cases e <;> simp [HoldEvent.apply, WasMade, eq_comm (a := k)]

theorem Tallied.made (tallied : Tallied c history) (there : c.hold? k ≠ none) :
    WasMade k history := by
  induction tallied with
  | start => exact absurd rfl there
  | @handle c history before host request ih =>
    rw [wasMade_append, wasMade_append]
    cases held : c.hold? k with
    | none => exact .inl (.inr ((made_iff_arrived before.reachable host request held).2 there))
    | some => exact .inl (.inl (ih (by simp [held])))
  | collect _ ih => exact ih there

/-- A name that was drawn once stands for no other surface later. -/
theorem Tallied.stays_gone (tallied : Tallied c history) (made : WasMade k history)
    (gone : c.hold? k = none) (host : Host) (request : Request) :
    (c.handle host request).2.hold? k = none := by
  by_contra back
  obtain ⟨_, again⟩ := (made_iff_arrived tallied.reachable host request gone).2 back
  have drawn := tallied.drawn made
  rw [(made_drawn tallied.reachable again).1] at drawn
  exact Nat.lt_irrefl _ drawn

theorem count_sharing (c : Compositor) (host : Host) (request : Request) (k : SurfaceId) :
    (c.sharing host request).count (.freed k) = 0 := by
  unfold sharing
  split
  next => split <;> simp
  next => rfl

/-- A surface leaves its table once, when nobody holds it any more. -/
theorem Tallied.freed_once (tallied : Tallied c history) (balanced : Balanced k history)
    (unshared : Unshared k history) :
    history.count (.freed k) = if WasMade k history ∧ holders k history = 0 then 1 else 0 := by
  induction tallied with
  | start => rfl
  | collect _ ih => exact ih balanced unshared
  | @handle c history before host request ih =>
    have past := unshared.before.before
    have count := ih balanced.before.before past
    have absent := (before.accounted balanced.before.before past).none_iff
    have absent' := ((before.handle host request).accounted balanced unshared).none_iff
    have made : WasMade k (history ++ c.holdEvents host request ++ (c.sharing host request ++
        (c.lostSurfaces (c.handle host request).2).map .freed)) ↔
        WasMade k history ∨ WasMade k (c.holdEvents host request) := by
      rw [wasMade_append, or_iff_left (not_wasMade_of_silent (silent_after c _ host request)),
        wasMade_append]
    have unseen : (c.holdEvents host request).count (.freed k) = 0 := by
      rcases holdEvents_cases before.reachable.linked host request with none | ⟨e, one, -, other⟩
      · simp [none]
      · simp [one, other k]
    rw [List.count_append, List.count_append, List.count_append, count, unseen, count_sharing,
      count_lostSurfaces]
    simp only [absent, absent', made]
    by_cases there : c.hold? k = none
    · have arrived := made_iff_arrived before.reachable host request there
      by_cases made : WasMade k history
      · simp [there, made, before.stays_gone made there host request]
      · simp [there, made, arrived]
    · -- Its time to go is now, or still to come.
      simp [there, before.made there]

/-- In every state a surface that is there is held. As long as the host gives back no more references
to a surface than it took, and no other object has its live protocol object, its count is what the
history tells, and it is there exactly while that is positive. It goes once, by the very request that
leaves nobody to hold it, the end of its protocol object from either side or a reference given back,
and rendering changes nothing of this. -/
theorem Tallied.follows_references (tallied : Tallied c history) :
    (∀ k s, c.surfaces.get? k = some s → 1 ≤ s.refCount) ∧
    (∀ k, Balanced k history → Unshared k history →
      (∀ s, c.surfaces.get? k = some s →
        s.refCount = holders k history ∧ s.resource = liveObject k history) ∧
      ((∃ s, c.surfaces.get? k = some s) ↔ 0 < holders k history) ∧
      history.count (.freed k) = if WasMade k history ∧ holders k history = 0 then 1 else 0) ∧
    (∀ k host request, Balanced k (history ++ c.holdEvents host request) → Unshared k history →
      (k ∈ c.lostSurfaces (c.handle host request).2 ↔
        0 < holders k history ∧ holders k (history ++ c.holdEvents host request) = 0) ∧
      (k ∈ c.lostSurfaces (c.handle host request).2 →
        request = .release k ∨ request = .destroySurface k ∨
          ∃ h, request = .resourceDestroyed h ∧ liveObject k history = some h)) ∧
    ∀ host time k, (c.handle host (.render time)).2.hold? k = c.hold? k := by
  have reached := tallied.reachable
  refine ⟨reached.held, fun k balanced unshared => ?_, fun k host request balanced unshared => ?_,
    fun host time k => hold?_turn reached host (.render time) k⟩
  · have accounted := tallied.accounted balanced unshared
    refine ⟨fun s found => ?_, ?_, tallied.freed_once balanced unshared⟩
    · have held : c.hold? k = some (s.refCount, s.resource) := by simp [hold?, Surface.hold, found]
      rw [held] at accounted
      exact ⟨accounted.2.1.symm, accounted.2.2.symm⟩
    · rw [Nat.pos_iff_ne_zero, ne_eq, accounted.none_iff, hold?, Option.map_eq_none_iff, ← ne_eq,
        Option.ne_none_iff_exists']
  · have told := tallied.told unshared
    have accounted := tallied.accounted balanced.before unshared
    have accounted' := accounted_handle reached told accounted host request balanced
    refine ⟨?_, fun lost => ?_⟩
    · rw [mem_lostSurfaces, ← accounted'.none_iff, ne_eq, ← accounted.none_iff,
        Nat.pos_iff_ne_zero]
    · obtain ⟨there, gone⟩ := mem_lostSurfaces.1 lost
      obtain ⟨⟨n, object⟩, held⟩ := Option.ne_none_iff_exists'.1 there
      rw [hold?_handle reached host request fun h held => (told h held).2.index, held] at gone
      rw [held] at accounted
      rcases holdEvents_cases reached.linked host request with none | ⟨e, one, -, -⟩
      · simp [none] at gone
      · obtain ⟨released, ended, reported⟩ := request_of_holdEvents one
        rw [one] at gone
        rcases HoldEvent.last gone with rfl | rfl | ⟨h, rfl, linked⟩
        · exact .inl (released k rfl)
        · exact .inr (.inl (ended k rfl))
        · exact .inr (.inr ⟨h, reported h rfl, accounted.2.2.trans linked⟩)

/-- The host keeps a surface beyond its protocol object, which the client destroys, and gives it back
after a frame. Its view and a region have one protocol object. -/
def outlived : Compositor :=
  ({ config := {}, contexts := .standard } : Compositor).run <| List.map (Prod.mk .willing)
    [.createSurface ⟨1⟩ 1, .createRegion ⟨1⟩ 2, .createView ⟨1⟩ ⟨⟨1⟩, 2⟩, .acquire ⟨1⟩,
      .resourceDestroyed ⟨⟨1⟩, 1⟩, .render 0, .release ⟨1⟩]

theorem outlived_freed_once :
    let history : List HoldEvent :=
      [.made ⟨1⟩ ⟨⟨1⟩, 1⟩, .shared ⟨⟨1⟩, 2⟩, .acquired ⟨1⟩, .reported ⟨⟨1⟩, 1⟩, .released ⟨1⟩,
        .freed ⟨1⟩]
    Tallied outlived history ∧ Balanced ⟨1⟩ history ∧ Unshared ⟨1⟩ history ∧
      history.count (.freed ⟨1⟩) = 1 ∧ ¬∃ s, outlived.surfaces.get? ⟨1⟩ = some s := by
  intro history
  have made := (Tallied.start {} .standard).handle .willing (.createSurface ⟨1⟩ 1)
  have viewed := (made.handle .willing (.createRegion ⟨1⟩ 2)).handle .willing
    (.createView ⟨1⟩ ⟨⟨1⟩, 2⟩)
  have kept := (viewed.handle .willing (.acquire ⟨1⟩)).handle .willing
    (.resourceDestroyed ⟨⟨1⟩, 1⟩)
  have tallied : Tallied outlived history :=
    (kept.handle .willing (.render 0)).handle .willing (.release ⟨1⟩)
  have balanced : Balanced ⟨1⟩ history := by decide
  have unshared : Unshared ⟨1⟩ history := by decide
  obtain ⟨-, counts, -⟩ := tallied.follows_references
  obtain ⟨-, there, freed⟩ := counts ⟨1⟩ balanced unshared
  exact ⟨tallied, balanced, unshared, freed, fun found => absurd (there.1 found) (by decide)⟩

/-- The protocol object of a surface is passed for the role of its view. -/
def misnamed : Compositor :=
  ({ config := {}, contexts := .standard } : Compositor).run <| List.map (Prod.mk .willing)
    [.createSurface ⟨1⟩ 1, .createView ⟨1⟩ ⟨⟨1⟩, 1⟩, .resourceDestroyed ⟨⟨1⟩, 1⟩]

/-- The report is taken for one of the view, and the surface stays although nobody holds it. -/
theorem misnamed_never_freed :
    let h : Handle := ⟨⟨1⟩, 1⟩
    let history : List HoldEvent := [.made ⟨1⟩ h, .shared h, .reported h]
    Tallied misnamed history ∧ Balanced ⟨1⟩ history ∧ holders ⟨1⟩ history = 0 ∧
      (misnamed.surfaces.get? ⟨1⟩).map Surface.refCount = some 1 ∧
      history.count (.freed ⟨1⟩) = 0 := by
  intro h history
  have viewed := ((Tallied.start {} .standard).handle .willing (.createSurface ⟨1⟩ 1)).handle
    .willing (.createView ⟨1⟩ h)
  have tallied : Tallied misnamed history := viewed.handle .willing (.resourceDestroyed h)
  exact ⟨tallied, by decide, by decide, by decide, by decide⟩

end Compositor

end Compositing
