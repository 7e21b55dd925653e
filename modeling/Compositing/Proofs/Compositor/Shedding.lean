import Compositing.Proofs.Compositor.Handles
import Compositing.Proofs.Compositor.Requests
import Mathlib.Data.List.Nodup

/-!
# How protocol objects come to an end

Requests that make no protocol object shed some, mostly none: what is gone from the index is gone
from the links, and the transport was told so once. An object is often out of its table before its
protocol objects are destroyed, so the links are compared only before and after.
-/

namespace Compositing.Compositor

variable {c c' c'' : Compositor}

/-! ### Protocol objects that are gone -/

/-- The index forgot a list of protocol objects. -/
structure Forgot (c : Compositor) (gone : List Handle) (c' : Compositor) : Prop where
  index : ∀ h, c'.resources.get? h = if h ∈ gone then none else c.resources.get? h
  names : c'.names = c.names

/-- The transport was told to destroy them, one after the other. -/
structure Destroyed (c : Compositor) (gone : List Handle) (c' : Compositor) : Prop extends
    Forgot c gone c' where
  told : ∃ told, c'.log = c.log ++ told ∧
    ∀ owner, lifeEvents owner told = gone.map LifeEvent.destroyed

/-- The links to them are gone, of which there was one for each. -/
structure Lost (c : Compositor) (gone : List Handle) (c' : Compositor) : Prop where
  nodup : gone.Nodup
  there : ∀ h ∈ gone, c.resources.get? h ≠ none
  handles : ∀ o, c'.handlesOf o = (c.handlesOf o).filter (· ∉ gone)

/-- All that happened to protocol objects is that some were destroyed. -/
def Sheds (c c' : Compositor) : Prop :=
  c.Indexed → ∃ gone, Destroyed c gone c' ∧ Lost c gone c'

/-- Some objects lost all their protocol objects, which were destroyed. -/
structure Dropped (c : Compositor) (owners : List Owner) (c' : Compositor) : Prop where
  destroyed : Destroyed c (owners.flatMap c.handlesOf) c'
  handles : ∀ o, c'.handlesOf o = if o ∈ owners then [] else c.handlesOf o

/-- What relates the states before and after all that may shed protocol objects. -/
structure Closed (R : Compositor → Compositor → Prop) : Prop where
  still : ∀ {c c' : Compositor}, Still c c' → R c c'
  trans : ∀ {c c' c'' : Compositor}, R c c' → R c' c'' → R c c''
  dropped : ∀ {c c' : Compositor} {owners : List Owner}, owners.Nodup → Dropped c owners c' → R c c'
  fired : ∀ (c : Compositor) (time : UInt32) (item : PaintItem), R c (c.finishItem time item)

theorem Indexed.lost (indexed : c.Indexed) {gone : List Handle} (forgot : Forgot c gone c')
    (lost : Lost c gone c') : c'.Indexed where
  index h o := by
    rw [forgot.index, lost.handles, List.mem_filter, ← indexed.index]
    by_cases here : h ∈ gone <;> simp [here]
  nodup o := lost.handles o ▸ (indexed.nodup o).filter _
  drawn o h held := by
    rw [lost.handles] at held
    exact (drawn_of_names forgot.names o).2 (indexed.drawn o h (List.mem_filter.1 held).1)

theorem Forgot.trans {gone gone' : List Handle} (first : Forgot c gone c')
    (second : Forgot c' gone' c'') : Forgot c (gone ++ gone') c'' where
  index h := by
    rw [second.index, first.index]
    by_cases here : h ∈ gone <;> by_cases later : h ∈ gone' <;> simp [here, later]
  names := second.names.trans first.names

theorem Destroyed.trans {gone gone' : List Handle} (first : Destroyed c gone c')
    (second : Destroyed c' gone' c'') : Destroyed c (gone ++ gone') c'' where
  toForgot := first.toForgot.trans second.toForgot
  told := by
    obtain ⟨told, log, life⟩ := first.told
    obtain ⟨told', log', life'⟩ := second.told
    exact ⟨told ++ told', by simp [log, log'], fun owner => by simp [life, life']⟩

theorem Still.destroyed (still : Still c c') : Destroyed c [] c' :=
  ⟨⟨by simp [still.resources], still.names⟩, still.told⟩

theorem Still.sheds (still : Still c c') : Sheds c c' := fun _ =>
  ⟨[], still.destroyed, by simp, by simp, fun o =>
    (still.handles o).trans (List.filter_eq_self.2 (by simp)).symm⟩

theorem Sheds.indexed (sheds : Sheds c c') (indexed : c.Indexed) : c'.Indexed := by
  obtain ⟨gone, destroyed, lost⟩ := sheds indexed
  exact indexed.lost destroyed.toForgot lost

theorem Sheds.trans (first : Sheds c c') (second : Sheds c' c'') : Sheds c c'' := by
  intro indexed
  have indexed' := first.indexed indexed
  obtain ⟨gone, destroyed, lost⟩ := first indexed
  obtain ⟨gone', destroyed', lost'⟩ := second indexed'
  refine ⟨gone ++ gone', destroyed.trans destroyed', ?_, ?_, ?_⟩
  · -- What is lost later was still there, so it was not lost before.
    refine List.nodup_append.2 ⟨lost.nodup, lost'.nodup, fun h here x later same => ?_⟩
    subst same
    exact lost'.there h later (by simp [destroyed.index, here])
  · intro h member
    rcases List.mem_append.1 member with here | later
    · exact lost.there h here
    · intro absent
      exact lost'.there h later (by simp [destroyed.index, absent])
  · intro o
    rw [lost'.handles, lost.handles, List.filter_filter]
    congr 1
    funext h
    simp [Bool.and_comm]

/-! ### One protocol object -/

/-- Only the tables of objects change. -/
theorem destroyed_nothing (resources : c'.resources = c.resources) (names : c'.names = c.names)
    (log : c'.log = c.log) : Destroyed c [] c' :=
  ⟨⟨by simp [resources], names⟩, [], by simp [log], fun _ => rfl⟩

theorem destroyed_destroyResource (h : Option Handle) :
    Destroyed c h.toList (c.destroyResource h) := by
  cases h with
  | none => exact destroyed_nothing rfl rfl rfl
  | some h =>
    refine ⟨⟨fun x => ?_, rfl⟩, _, rfl, fun owner => rfl⟩
    simp [destroyResource, tellTransport, tell, disown, Table.get?_erase]

theorem handlesOf_destroyResource (h : Option Handle) (o : Owner) :
    (c.destroyResource h).handlesOf o = c.handlesOf o := by
  cases h <;> cases o <;> rfl

theorem destroyed_cancelAll (callbacks : List Handle) (c : Compositor) :
    let cancelled := callbacks.foldl (fun c callback => c.destroyResource (some callback)) c
    Destroyed c callbacks cancelled ∧ ∀ o, cancelled.handlesOf o = c.handlesOf o := by
  induction callbacks generalizing c with
  | nil => exact ⟨destroyed_nothing rfl rfl rfl, fun _ => rfl⟩
  | cons callback callbacks ih =>
    obtain ⟨rest, handles⟩ := ih (c.destroyResource (some callback))
    exact ⟨(destroyed_destroyResource (some callback)).trans rest,
      fun o => (handles o).trans (handlesOf_destroyResource _ o)⟩

/-! ### Links that are gone -/

theorem filter_not_mem_middle {before gone after : List Handle}
    (nodup : (before ++ gone ++ after).Nodup) :
    (before ++ gone ++ after).filter (· ∉ gone) = before ++ after := by
  obtain ⟨front, -, last⟩ := List.nodup_append.1 nodup
  obtain ⟨-, -, first⟩ := List.nodup_append.1 front
  have kept : before.filter (· ∉ gone) = before := List.filter_eq_self.2 fun h member => by
    simpa using fun gone => first h member h gone rfl
  have kept' : after.filter (· ∉ gone) = after := List.filter_eq_self.2 fun h member => by
    simpa using fun gone => last h (by simp [gone]) h member rfl
  have lost : gone.filter (· ∉ gone) = [] := List.filter_eq_nil_iff.2 (by simp)
  rw [List.filter_append, List.filter_append, kept, kept', lost, List.append_nil]

/-- An object loses a part of what it holds. -/
theorem Indexed.lost_part (indexed : c.Indexed) {o : Owner} {before gone after : List Handle}
    (held : c.handlesOf o = before ++ gone ++ after)
    (handles : ∀ x, c'.handlesOf x = if x = o then before ++ after else c.handlesOf x) :
    Lost c gone c' := by
  have nodup := indexed.nodup o
  rw [held] at nodup
  have lost {h : Handle} (member : h ∈ gone) : h ∈ c.handlesOf o := by simp [held, member]
  constructor
  case nodup => exact nodup.sublist (by simp)
  case there =>
    intro h member
    simp [(indexed.index h o).2 (lost member)]
  case handles =>
    intro x
    rw [handles]
    split
    next here =>
      rw [here, held, filter_not_mem_middle nodup]
    next other =>
      -- What others hold is none of it.
      refine (List.filter_eq_self.2 fun h member => ?_).symm
      simpa using fun gone => other (indexed.unique (lost gone) member)

/-- Some objects lose all that they hold. -/
theorem Indexed.lost_all (indexed : c.Indexed) {owners : List Owner} (distinct : owners.Nodup)
    (handles : ∀ o, c'.handlesOf o = if o ∈ owners then [] else c.handlesOf o) :
    Lost c (owners.flatMap c.handlesOf) c' := by
  constructor
  case nodup =>
    refine List.nodup_flatMap.2 ⟨fun o _ => indexed.nodup o, distinct.imp ?_⟩
    intro o o' other h held held'
    exact other (indexed.unique held' held)
  case there =>
    intro h member
    obtain ⟨o, _, held⟩ := List.mem_flatMap.1 member
    simp [(indexed.index h o).2 held]
  case handles =>
    intro o
    rw [handles]
    split
    next lost =>
      refine (List.filter_eq_nil_iff.2 fun h held => ?_).symm
      simpa using ⟨o, lost, held⟩
    next kept =>
      refine (List.filter_eq_self.2 fun h held => ?_).symm
      simp only [List.mem_flatMap, not_exists, not_and, decide_eq_true_eq]
      intro o' lost held'
      exact kept (indexed.unique held' held ▸ lost)

/-! ### Views and regions -/

theorem handlesOf_absent {v : ViewId} (absent : c.views.get? v = none) (o : Owner) :
    c.handlesOf o = if o = .view v then [] else c.handlesOf o := by
  split
  next here => simp [here, handlesOf, absent]
  next => rfl

theorem destroyed_discardView (v : ViewId) :
    Destroyed c (c.handlesOf (.view v)) (c.discardView v).2 ∧
    ∀ o, (c.discardView v).2.handlesOf o = if o = .view v then [] else c.handlesOf o := by
  cases found : c.views.get? v with
  | none =>
    rw [discardView_of_absent found, handlesOf_absent found (.view v), if_pos rfl]
    exact ⟨destroyed_nothing rfl rfl rfl, handlesOf_absent found⟩
  | some w =>
    have role : c.handlesOf (.view v) = w.role.toList := by simp [handlesOf, found]
    have erased : Destroyed c [] { c with views := c.views.erase v } :=
      destroyed_nothing rfl rfl rfl
    have destroyed := erased.trans (destroyed_destroyResource w.role)
    rw [discardView_eq found, role]
    have left := unheard_leaveOutput
      (c := { c with views := c.views.erase v }.destroyResource w.role) v w.surface w.output
    have cleared := left.trans
      (unheard_modifySurface w.surface (f := fun s => { s with view := none }) fun _ _ => rfl)
    have unlinked :=
      (cleared.trans (unheard_refocus (if c.focused = some v then none else c.focused))).still
    refine ⟨by simpa using destroyed.trans unlinked.destroyed, fun o => ?_⟩
    rw [unlinked.handles, handlesOf_destroyResource]
    exact handlesOf_replaceView (w := none) (by exact fun _ => Table.get?_erase ..) (by rfl)
      (by rfl) o

theorem destroyed_destroyView (v : ViewId) :
    Destroyed c (c.handlesOf (.view v)) (c.destroyView v) ∧
    ∀ o, (c.destroyView v).handlesOf o = if o = .view v then [] else c.handlesOf o := by
  obtain ⟨destroyed, handles⟩ := destroyed_discardView (c := c) v
  unfold destroyView
  split
  next eq =>
    rw [eq] at destroyed handles
    have told := (unheard_tellPolicy (c := (c.discardView v).2) (.viewDestroyed v)).still
    rw [eq] at told
    exact ⟨by simpa using destroyed.trans told.destroyed,
      fun o => (told.handles o).trans (handles o)⟩
  next eq =>
    rw [eq] at destroyed handles
    exact ⟨destroyed, handles⟩

theorem dropped_discardView (v : ViewId) : Dropped c [.view v] (c.discardView v).2 where
  destroyed := by simpa using (destroyed_discardView v).1
  handles o := by simpa using (destroyed_discardView v).2 o

theorem dropped_destroyView (v : ViewId) : Dropped c [.view v] (c.destroyView v) where
  destroyed := by simpa using (destroyed_destroyView v).1
  handles o := by simpa using (destroyed_destroyView v).2 o

theorem dropped_destroyRegion {r : RegionId} {g : RegionObject} (found : c.regions.get? r = some g) :
    Dropped c [.region r] (c.destroyRegion r) := by
  have held : c.handlesOf (.region r) = g.link.handle?.toList := by simp [handlesOf, found]
  have erased : Destroyed c [] { c with regions := c.regions.erase r } :=
    destroyed_nothing rfl rfl rfl
  simp only [destroyRegion, found]
  constructor
  · simpa [held] using erased.trans (destroyed_destroyResource g.link.handle?)
  · intro o
    rw [handlesOf_destroyResource]
    simpa using handlesOf_replaceRegion (g := none) (by exact fun _ => Table.get?_erase ..) (by rfl)
      (by rfl) o

/-! ### Surfaces -/

theorem handlesOf_modifySurface {k : SurfaceId} {s : Surface} (found : c.surfaces.get? k = some s)
    (f : Surface → Surface) (o : Owner) : (c.modifySurface k f).handlesOf o =
      if o = .surface k then (f s).resource.toList
      else if o = .callback k then (f s).allCallbacks else c.handlesOf o := by
  have surfaces (x : SurfaceId) : (c.modifySurface k f).surfaces.get? x =
      if x = k then some (f s) else c.surfaces.get? x := by
    by_cases here : x = k <;> simp [Table.get?_modify, here, found]
  exact handlesOf_replaceSurface surfaces rfl rfl o

theorem handlesOf_found {k : SurfaceId} {s : Surface} (found : c.surfaces.get? k = some s) :
    c.handlesOf (.surface k) = s.resource.toList ∧ c.handlesOf (.callback k) = s.allCallbacks := by
  simp [handlesOf, found]

theorem still_letGo (b : Option BufferId) : Still c (c.letGo b) := by
  cases b with
  | none => exact .refl c
  | some b => exact still_releaseBuffer b

theorem destroyed_clearSurface (k : SurfaceId) (s : Surface) :
    Destroyed c s.allCallbacks (c.clearSurface k s) ∧
    ∀ o, (c.clearSurface k s).handlesOf o = c.handlesOf o := by
  obtain ⟨cancelled, same⟩ := destroyed_cancelAll s.allCallbacks c
  unfold clearSurface
  generalize s.allCallbacks.foldl (fun c callback => c.destroyResource (some callback)) c = d at *
  have rest : Still d { d.letGo s.buffer with
      outputs := (d.letGo s.buffer).outputs.map fun _ o => o.detach k } :=
    (still_letGo s.buffer).trans (still_of_tables rfl rfl rfl rfl rfl rfl)
  exact ⟨by simpa using cancelled.trans rest.destroyed, fun o => (rest.handles o).trans (same o)⟩

/-- The protocol object of the surface goes, then that of its view, and then its callbacks. -/
theorem dropped_freeSurface {k : SurfaceId} {s : Surface} (found : c.surfaces.get? k = some s) :
    Dropped c (.surface k :: (s.view.map .view).toList ++ [.callback k]) (c.freeSurface k) := by
  obtain ⟨link, callbacks⟩ := handlesOf_found found
  have erased : Destroyed c [] { c with surfaces := c.surfaces.erase k } :=
    destroyed_nothing rfl rfl rfl
  have unlinked := erased.trans (destroyed_destroyResource s.resource)
  have handles (o : Owner) : ({ c with surfaces := c.surfaces.erase k }.destroyResource
      s.resource).handlesOf o =
        if o = .surface k then [] else if o = .callback k then [] else c.handlesOf o := by
    rw [handlesOf_destroyResource]
    exact handlesOf_replaceSurface (s := none) (by exact fun _ => Table.get?_erase ..) (by rfl)
      (by rfl) o
  rw [freeSurface_eq found]
  generalize { c with surfaces := c.surfaces.erase k }.destroyResource s.resource = d at *
  cases s.view with
  | none =>
    obtain ⟨cleared, same⟩ := destroyed_clearSurface (c := d) k s
    refine ⟨by simpa [link, callbacks] using unlinked.trans cleared, fun o => ?_⟩
    rw [same, handles]
    grind
  | some v =>
    obtain ⟨viewless, without⟩ := destroyed_destroyView (c := d) v
    obtain ⟨cleared, same⟩ := destroyed_clearSurface (c := d.destroyView v) k s
    have role : d.handlesOf (.view v) = c.handlesOf (.view v) := by simp [handles]
    refine ⟨by simpa [link, role, callbacks] using (unlinked.trans viewless).trans cleared,
      fun o => ?_⟩
    rw [same, without, handles]
    grind

/-- Only the callbacks of a surface change. -/
theorem handlesOf_of_link {k : SurfaceId} {s : Surface} (found : c.surfaces.get? k = some s)
    {f : Surface → Surface} (link : (f s).link = s.link) (o : Owner) :
    (c.modifySurface k f).handlesOf o =
      if o = .callback k then (f s).allCallbacks else c.handlesOf o := by
  rw [handlesOf_modifySurface found]
  split
  next here => simp [here, handlesOf_found found, Surface.resource, link]
  next => rfl

/-- A surface whose link is cut holds its callbacks only. -/
theorem handlesOf_detachResource {k : SurfaceId} {s : Surface} (found : c.surfaces.get? k = some s)
    (o : Owner) : (c.modifySurface k fun s => s.detachResource.2).handlesOf o =
      if o = .surface k then [] else c.handlesOf o := by
  rw [handlesOf_modifySurface found]
  split
  next => rfl
  next =>
    split
    next here => exact here ▸ (handlesOf_found found).2.symm
    next => rfl

/-- The link of a surface is cut, and its protocol object destroyed. -/
theorem dropped_link {k : SurfaceId} {s : Surface} {h : Handle}
    (found : c.surfaces.get? k = some s) (live : s.resource = some h) : Dropped c [.surface k]
      ((c.modifySurface k fun s => s.detachResource.2).destroyResource (some h)) := by
  have held : c.handlesOf (.surface k) = [h] := by simp [handlesOf_found found, live]
  have cut : Destroyed c [] (c.modifySurface k fun s => s.detachResource.2) :=
    destroyed_nothing rfl rfl rfl
  constructor
  · simpa [held] using cut.trans (destroyed_destroyResource (some h))
  · intro o
    rw [handlesOf_destroyResource]
    simpa using handlesOf_detachResource found o

/-! ### Render passes -/

theorem destroyed_fireAll (callbacks : List Handle) (time : UInt32) (c : Compositor) :
    let fired := callbacks.foldl (fun c callback =>
      (c.tell ((Surface.fireCallback callback time).map .transport)).disown callback) c
    Destroyed c callbacks fired ∧ ∀ o, fired.handlesOf o = c.handlesOf o := by
  induction callbacks generalizing c with
  | nil => exact ⟨destroyed_nothing rfl rfl rfl, fun _ => rfl⟩
  | cons callback callbacks ih =>
    obtain ⟨rest, handles⟩ :=
      ih ((c.tell ((Surface.fireCallback callback time).map .transport)).disown callback)
    have first : Destroyed c [callback]
        ((c.tell ((Surface.fireCallback callback time).map .transport)).disown callback) := by
      refine ⟨⟨fun x => ?_, rfl⟩, _, rfl, fun owner => rfl⟩
      simp [tell, disown, Table.get?_erase]
    refine ⟨first.trans rest, fun o => (handles o).trans ?_⟩
    cases o <;> rfl

/-- The callbacks that were committed are fired, and the pending one stays. -/
theorem destroyed_finishItem (time : UInt32) {item : PaintItem} {s : Surface}
    (found : c.surfaces.get? item.surface = some s) :
    Destroyed c s.callbacks (c.finishItem time item) ∧
    ∀ o, (c.finishItem time item).handlesOf o =
      if o = .callback item.surface then s.pendingCallback.toList else c.handlesOf o := by
  have taken : Destroyed c [] (c.modifySurface item.surface fun _ =>
      s.takeDamage.2.takeCallbacks.2) := destroyed_nothing rfl rfl rfl
  obtain ⟨fired, same⟩ := destroyed_fireAll s.callbacks time
    (c.modifySurface item.surface fun _ => s.takeDamage.2.takeCallbacks.2)
  simp only [finishItem, found]
  exact ⟨taken.trans fired, fun o => (same o).trans (handlesOf_of_link found rfl o)⟩

theorem finishItem_of_absent (time : UInt32) {item : PaintItem}
    (absent : c.surfaces.get? item.surface = none) : c.finishItem time item = c := by
  simp only [finishItem, absent]

theorem sheds_finishItem (time : UInt32) (item : PaintItem) :
    Sheds c (c.finishItem time item) := by
  intro indexed
  cases found : c.surfaces.get? item.surface with
  | none =>
    rw [finishItem_of_absent time found]
    exact (Still.refl c).sheds indexed
  | some s =>
    have held : c.handlesOf (.callback item.surface) =
        [] ++ s.callbacks ++ s.pendingCallback.toList := (handlesOf_found found).2
    obtain ⟨fired, handles⟩ := destroyed_finishItem time found
    exact ⟨s.callbacks, fired, indexed.lost_part held handles⟩

theorem Dropped.sheds {owners : List Owner} (distinct : owners.Nodup)
    (dropped : Dropped c owners c') : Sheds c c' := fun indexed =>
  ⟨_, dropped.destroyed, indexed.lost_all distinct dropped.handles⟩

theorem sheds_closed : Closed Sheds :=
  ⟨Still.sheds, Sheds.trans, Dropped.sheds, fun _ time item => sheds_finishItem time item⟩

/-! ### Requests -/

namespace Closed

variable {R : Compositor → Compositor → Prop}

theorem refl (closed : Closed R) (c : Compositor) : R c c := closed.still (Still.refl c)

theorem unheard (closed : Closed R) (unheard : Unheard c c') : R c c' := closed.still unheard.still

theorem foldl (closed : Closed R) {α : Type} {f : Compositor → α → Compositor}
    (step : ∀ c a, R c (f c a)) (l : List α) (c : Compositor) : R c (l.foldl f c) :=
  foldl_related closed.refl (fun _ _ _ => closed.trans) step l c

theorem discardView (closed : Closed R) (v : ViewId) : R c (c.discardView v).2 :=
  closed.dropped (by simp) (dropped_discardView v)

theorem destroyView (closed : Closed R) (v : ViewId) : R c (c.destroyView v) :=
  closed.dropped (by simp) (dropped_destroyView v)

theorem destroyRegion (closed : Closed R) (r : RegionId) : R c (c.destroyRegion r) := by
  cases found : c.regions.get? r with
  | none =>
    have nothing : c.destroyRegion r = c := by simp [Compositor.destroyRegion, found]
    rw [nothing]
    exact closed.refl c
  | some g => exact closed.dropped (by simp) (dropped_destroyRegion found)

theorem freeSurface (closed : Closed R) (k : SurfaceId) : R c (c.freeSurface k) := by
  cases found : c.surfaces.get? k with
  | none =>
    have nothing : c.freeSurface k = c := by simp [Compositor.freeSurface, found]
    rw [nothing]
    exact closed.refl c
  | some s => exact closed.dropped (by cases s.view <;> simp) (dropped_freeSurface found)

theorem releaseSurface (closed : Closed R) (k : SurfaceId) : R c (c.releaseSurface k) := by
  unfold Compositor.releaseSurface
  cases found : c.surfaces.get? k with
  | none => exact closed.refl c
  | some s =>
    have released : Unheard c (c.modifySurface k fun _ => s.release.2) :=
      unheard_modifySurface k fun t there => by cases found.symm.trans there; rfl
    simp only [Option.map_some]
    split
    · exact closed.trans (closed.unheard released) (closed.freeSurface k)
    · exact closed.unheard released

theorem surfaceResourceGone (closed : Closed R) (k : SurfaceId) : R c (c.surfaceResourceGone k) := by
  unfold Compositor.surfaceResourceGone
  cases (c.surfaces.get? k).bind (·.view) with
  | none => exact closed.releaseSurface k
  | some v => exact closed.trans (closed.destroyView v) (closed.releaseSurface k)

theorem destroySurface (closed : Closed R) (k : SurfaceId) : R c (c.destroySurface k) := by
  unfold Compositor.destroySurface
  split
  next => exact closed.refl c
  next handle live =>
    obtain ⟨s, found, resource⟩ := Option.bind_eq_some_iff.1 live
    exact closed.trans (closed.dropped (by simp) (dropped_link found resource))
      (closed.surfaceResourceGone k)

theorem pass (closed : Closed R) (host : Host) (time : UInt32) (o : OutputId) :
    R c (c.pass host time o) := by
  unfold Compositor.pass renderOutput completePass
  have cleared := unheard_modifyOutput (c := c) o fun p => { p with pendingRender := false }
  generalize c.modifyOutput o (fun p => { p with pendingRender := false }) = d at *
  split
  next => exact closed.unheard cleared
  next p _ =>
    simp only
    have begun := still_foldl (fun c item => still_beginItem c item) (d.paintItems p) d
    rw [← beginItems_eq] at begun
    generalize d.beginItems (d.paintItems p) = reading at *
    obtain ⟨busy, d₁⟩ := reading
    have drawn := unheard_repaintOutput (c := d₁) host o (d.paintItems p)
    generalize d₁.repaintOutput host o (d.paintItems p) = drawing at *
    obtain ⟨well, d₂⟩ := drawing
    have completed := still_foldl still_renderComplete busy d₂
    have read := cleared.still.trans (begun.trans (drawn.still.trans completed))
    exact closed.trans (closed.trans (closed.still read)
      (closed.foldl (fun c item => closed.fired c time item) _ _))
      (closed.foldl (fun c (item : PaintItem) => closed.releaseSurface item.surface) _ _)

/-- Any request but those that bring a protocol object, or a report of one, from outside. -/
theorem handle (closed : Closed R) (host : Host) (request : Request)
    (surface : ∀ client id, request ≠ .createSurface client id)
    (region : ∀ client id, request ≠ .createRegion client id)
    (frame : ∀ k callback, request ≠ .frame k callback)
    (view : ∀ k role, request ≠ .createView k role)
    (report : ∀ handle, request ≠ .resourceDestroyed handle) :
    R c (c.handle host request).2 := by
  by_cases unheard : request.isUnheard = true
  · exact closed.unheard (unheard_handle host unheard)
  cases request
  case render time =>
    rw [handle_render]
    exact closed.foldl (fun c o => closed.pass host time o) _ _
  case createSurface client id => exact absurd rfl (surface client id)
  case createRegion client id => exact absurd rfl (region client id)
  case frame k callback => exact absurd rfl (frame k callback)
  case createView k role => exact absurd rfl (view k role)
  case resourceDestroyed handle => exact absurd rfl (report handle)
  all_goals try simp only [Compositor.handle, settle_snd]
  case commit k => exact closed.still (still_commitSurface host k)
  case release k => exact closed.releaseSurface k
  case destroySurface k => exact closed.destroySurface k
  case pool request => exact closed.still (still_buffers _)
  case destroyBuffer b => exact closed.still (still_destroyBuffer b)
  case renderComplete b => exact closed.still (still_renderComplete c b)
  case destroyRegion r => exact closed.destroyRegion r
  case destroyView v => exact closed.destroyView v
  all_goals exact absurd rfl unheard

end Closed

end Compositing.Compositor
