import Compositing.Proofs.Buffer.Reads
import Compositing.Proofs.Compositor.Requests
import Compositing.Proofs.Compositor.Unheard
import Mathlib.Logic.Function.Basic

/-!
# What clients wait for

The client of a surface waits to get back the buffer that the surface shows, and for the frame
callbacks it asked for. `Effect` says what an operation does to all this and what it tells clients;
most operations do nothing to it.
-/

namespace Compositing

/-- What the client of a surface waits for. -/
structure Dues where
  /-- The buffer that is shown. -/
  shown : Option BufferId := none
  /-- The frame callback that the next commit will take. -/
  waiting : Option Handle := none
  /-- The committed frame callbacks, oldest first. -/
  due : List Handle := []

def Surface.dues (s : Surface) : Dues := ⟨s.buffer, s.pendingCallback, s.callbacks⟩

/-- The event ends a wait. -/
def TransportEvent.isNotice : TransportEvent → Bool
  | frameDone _ _ | bufferRelease _ => true
  | created _ _ | destroyed _ | noMemory _ => false

/-- The owner of a buffer is told if it gets the buffer back. -/
def returned (b : BufferId) : PoolReply → List TransportEvent
  | .ended (some .released) => [.bufferRelease b]
  | _ => []

namespace Compositor

variable {c c' c'' : Compositor}

def dues (c : Compositor) (k : SurfaceId) : Dues := (c.surfaces.get? k).elim {} Surface.dues

theorem dues_found {k : SurfaceId} {s : Surface} (found : c.surfaces.get? k = some s) :
    c.dues k = s.dues := by
  simp [dues, found]

theorem dues_absent {k : SurfaceId} (absent : c.surfaces.get? k = none) : c.dues k = {} := by
  simp [dues, absent]

theorem dues_of_surfaces (surfaces : c'.surfaces = c.surfaces) : c'.dues = c.dues := by
  funext k
  rw [dues, surfaces, dues]

theorem dues_modifySurface {k : SurfaceId} {s : Surface} (found : c.surfaces.get? k = some s)
    (f : Surface → Surface) :
    (c.modifySurface k f).dues = Function.update c.dues k (f s).dues := by
  funext x
  by_cases here : x = k
  · simp [dues, Table.get?_modify, here, found]
  · simp [dues, Table.get?_modify, here]

/-! ### Effects -/

/-- What a change leaves of the pool and of all that clients wait for, and what it tells clients. -/
structure Effect (c c' : Compositor) (pool : BufferPool) (waits : SurfaceId → Dues)
    (told : List TransportEvent) : Prop where
  buffers : c'.buffers = pool
  dues : c'.dues = waits
  told : ∃ events, c'.log = c.log ++ events ∧ transportEvents events = told

variable {pool pool' : BufferPool} {waits waits' : SurfaceId → Dues}
  {told told' : List TransportEvent}

theorem Effect.trans (first : Effect c c' pool waits told)
    (second : Effect c' c'' pool' waits' told') :
    Effect c c'' pool' waits' (told ++ told') where
  buffers := second.buffers
  dues := second.dues
  told := by
    obtain ⟨events, log, rfl⟩ := first.told
    obtain ⟨events', log', rfl⟩ := second.told
    exact ⟨events ++ events', by simp [log, log'], by simp⟩

theorem Unheard.dues (unheard : Unheard c c') : c'.dues = c.dues := by
  funext k
  refine elim_of_rel (unheard.surfaces k) fun s s' same => ?_
  simp only [Surface.holdings, Prod.mk.injEq] at same
  simp [Surface.dues, same]

theorem Unheard.effect (unheard : Unheard c c') : Effect c c' c.buffers c.dues [] :=
  ⟨unheard.buffers, unheard.dues, unheard.told⟩

theorem Effect.unheard (effect : Effect c c' pool waits told) (unheard : Unheard c' c'') :
    Effect c c'' pool waits told := by
  have both := effect.trans unheard.effect
  rwa [effect.buffers, effect.dues, List.append_nil] at both

/-- Neither the pool nor the surfaces change. -/
theorem effect_of_tables {events : List Event} (buffers : c'.buffers = c.buffers)
    (surfaces : c'.surfaces = c.surfaces) (log : c'.log = c.log ++ events) :
    Effect c c' c.buffers c.dues (transportEvents events) :=
  ⟨buffers, dues_of_surfaces surfaces, events, log, rfl⟩

theorem Effect.refl (c : Compositor) : Effect c c c.buffers c.dues [] :=
  (Unheard.refl c).effect

/-- An effect, with the events that end a wait. -/
def Notified (c c' : Compositor) (pool : BufferPool) (waits : SurfaceId → Dues)
    (notices : List TransportEvent) : Prop :=
  ∃ told, told.filter TransportEvent.isNotice = notices ∧ Effect c c' pool waits told

/-- Nobody's wait ends or begins. -/
abbrev Aside (c c' : Compositor) : Prop := Notified c c' c.buffers c.dues []

theorem Effect.notified (effect : Effect c c' pool waits told) :
    Notified c c' pool waits (told.filter TransportEvent.isNotice) :=
  ⟨told, rfl, effect⟩

theorem Notified.trans (first : Notified c c' pool waits told)
    (second : Notified c' c'' pool' waits' told') : Notified c c'' pool' waits' (told ++ told') := by
  obtain ⟨told, rfl, effect⟩ := first
  obtain ⟨told', rfl, effect'⟩ := second
  exact ⟨told ++ told', List.filter_append .., effect.trans effect'⟩

theorem Notified.buffers (notified : Notified c c' pool waits told) : c'.buffers = pool := by
  obtain ⟨_, -, effect⟩ := notified
  exact effect.buffers

theorem Notified.dues (notified : Notified c c' pool waits told) : c'.dues = waits := by
  obtain ⟨_, -, effect⟩ := notified
  exact effect.dues

theorem Unheard.aside (unheard : Unheard c c') : Aside c c' := unheard.effect.notified

theorem Aside.refl (c : Compositor) : Aside c c := (Unheard.refl c).aside

theorem Aside.trans (first : Aside c c') (second : Aside c' c'') : Aside c c'' := by
  have both := Notified.trans first second
  rwa [first.buffers, first.dues] at both

/-- What is done after a change that matters to nobody. -/
theorem Notified.after (aside : Aside c c') (notified : Notified c' c'' pool waits told) :
    Notified c c'' pool waits told :=
  Notified.trans aside notified

theorem Notified.before (notified : Notified c c' pool waits told) (aside : Aside c' c'') :
    Notified c c'' pool waits told := by
  have both := Notified.trans notified aside
  rwa [notified.buffers, notified.dues, List.append_nil] at both

theorem aside_of_tables {events : List Event} (buffers : c'.buffers = c.buffers)
    (surfaces : c'.surfaces = c.surfaces) (log : c'.log = c.log ++ events)
    (quiet : (transportEvents events).filter TransportEvent.isNotice = []) : Aside c c' :=
  ⟨_, quiet, effect_of_tables buffers surfaces log⟩

theorem aside_of_log (buffers : c'.buffers = c.buffers) (surfaces : c'.surfaces = c.surfaces)
    (log : c'.log = c.log) : Aside c c' :=
  have nothing : c'.log = c.log ++ [] := by simp [log]
  aside_of_tables buffers surfaces nothing rfl

theorem aside_modifySurface (k : SurfaceId) {f : Surface → Surface}
    (same : ∀ s, c.surfaces.get? k = some s → (f s).dues = s.dues) :
    Aside c (c.modifySurface k f) := by
  refine ⟨[], rfl, rfl, ?_, [], by simp [modifySurface], rfl⟩
  funext x
  exact elim_of_rel (Table.rel_modify c.surfaces k x (f := f) (R := fun s s' => s'.dues = s.dues)
    (fun _ => rfl) same) fun _ _ => id

/-! ### Protocol objects -/

theorem aside_tell {events : List Event}
    (quiet : (transportEvents events).filter TransportEvent.isNotice = []) :
    Aside c (c.tell events) :=
  aside_of_tables rfl rfl rfl quiet

theorem aside_own (handle : Handle) (owner : Owner) : Aside c (c.own handle owner) :=
  aside_of_log rfl rfl rfl

theorem aside_disown (handle : Handle) : Aside c (c.disown handle) :=
  aside_of_log rfl rfl rfl

theorem aside_destroyResource (c : Compositor) (handle : Option Handle) :
    Aside c (c.destroyResource handle) := by
  cases handle with
  | none => exact .refl c
  | some h => exact (aside_disown h).trans (aside_tell rfl)

theorem aside_foldl {α : Type} {f : Compositor → α → Compositor} (step : ∀ c a, Aside c (f c a))
    (l : List α) (c : Compositor) : Aside c (l.foldl f c) :=
  foldl_related Aside.refl (fun _ _ _ => Aside.trans) step l c

theorem aside_createResource (host : Host) (kind : ResourceKind) (client : ClientId) (id : UInt32)
    (what : String) : Aside c (c.createResource host kind client id what).2 := by
  unfold createResource
  split <;> exact aside_tell rfl

/-- A new surface has nothing to wait for. -/
theorem aside_createSurface (linked : c.Linked) (host : Host) (client : ClientId) (id : UInt32) :
    Aside c (c.createSurface host client id).2 := by
  have made := aside_createResource (c := c) host .surface client id "surface"
  have fields := c.createResource_fields host .surface client id "surface"
  unfold createSurface
  generalize c.createResource host .surface client id "surface" = making at made fields ⊢
  obtain ⟨result, d⟩ := making
  obtain ⟨-, -, buffers, surfaces, -, -, -, -, nextIds⟩ := fields
  cases result with
  | error => exact made
  | ok handle =>
    refine made.trans ⟨[], rfl, rfl, ?_, [], by simp [own], rfl⟩
    have absent : d.surfaces.get? d.nextIds.surface = none := by
      rw [surfaces, nextIds]
      cases there : c.surfaces.get? c.nextIds.surface with
      | none => rfl
      | some s => exact absurd (linked.surface_named _ s there).2 (Nat.lt_irrefl _)
    funext x
    by_cases here : x = d.nextIds.surface
    · simp [Compositor.dues, own, Table.get?_insert, here, absent, Surface.ofHandle, Surface.dues,
        Surface.buffer]
    · simp [Compositor.dues, own, Table.get?_insert, here]

theorem aside_createRegion (host : Host) (client : ClientId) (id : UInt32) :
    Aside c (c.createRegion host client id).2 := by
  have made := aside_createResource (c := c) host .region client id "region"
  unfold createRegion
  generalize c.createResource host .region client id "region" = making at made ⊢
  obtain ⟨result, d⟩ := making
  cases result with
  | error => exact made
  | ok handle => exact made.trans (aside_of_log rfl rfl rfl)

theorem aside_destroyRegion (r : RegionId) : Aside c (c.destroyRegion r) := by
  unfold destroyRegion
  split
  · exact .refl c
  · have erased : Aside c { c with regions := c.regions.erase r } := aside_of_log rfl rfl rfl
    exact erased.trans (aside_destroyResource _ _)

/-! ### Views -/

theorem aside_discardView (v : ViewId) : Aside c (c.discardView v).2 := by
  cases found : c.views.get? v with
  | none => exact discardView_of_absent found ▸ .refl c
  | some view =>
    rw [discardView_eq found]
    have erased : Aside c { c with views := c.views.erase v } :=
      aside_of_log rfl rfl rfl
    have unlinked := erased.trans (aside_destroyResource _ view.role)
    have left := unlinked.trans (unheard_leaveOutput v view.surface view.output).aside
    have cleared := left.trans (unheard_modifySurface view.surface
      (f := fun s => { s with view := none }) fun _ _ => rfl).aside
    exact cleared.trans (unheard_refocus _).aside

theorem aside_destroyView (v : ViewId) : Aside c (c.destroyView v) := by
  have discarded := aside_discardView (c := c) v
  unfold destroyView
  split
  next eq =>
    rw [eq] at discarded
    exact discarded.trans (unheard_tellPolicy _).aside
  next eq =>
    rw [eq] at discarded
    exact discarded

theorem aside_createView (host : Host) (k : SurfaceId) (role : Handle) :
    Aside c (c.createView host k role).2 := by
  unfold createView
  split
  · exact .refl c
  · simp only
    split
    · exact .refl c
    · have marked : Aside c (c.modifySurface k fun s => { s with view := some c.nextIds.view }) :=
        Unheard.aside (unheard_modifySurface k fun _ _ => rfl)
      have viewed : Aside c { c.modifySurface k fun s => { s with view := some c.nextIds.view } with
          views := c.views.insert c.nextIds.view (View.ofRole c.nextIds.view k role)
          nextIds := { c.nextIds with view := c.nextIds.view.next } } :=
        marked.trans (aside_of_log rfl rfl rfl)
      have created := (viewed.trans (aside_own role (.view c.nextIds.view))).trans
        (unheard_tellPolicy (.viewCreated c.nextIds.view)).aside
      split
      · exact created
      · exact created.trans (aside_discardView _)

end Compositor

end Compositing
