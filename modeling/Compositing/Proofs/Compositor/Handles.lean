import Compositing.Proofs.Compositor.Unheard

/-!
# Protocol objects and who holds them

An object holds its protocol objects by live links, and the index tells whose each of them is. Most
changes leave the links and the index alone, and tell the transport of no protocol object.
-/

namespace Compositing

/-! ### What happens to protocol objects -/

inductive LifeEvent where
  /-- A protocol object was made for an object. -/
  | made (handle : Handle) (owner : Owner)
  /-- The transport was told to destroy it. -/
  | destroyed (handle : Handle)
  /-- The transport reported that it is gone, and it was in the index. -/
  | reported (handle : Handle)
  deriving DecidableEq

/-- What a list of events means for protocol objects. Those made are for one object. -/
def lifeEvents (owner : Option Owner) (events : List Event) : List LifeEvent :=
  (transportEvents events).filterMap fun
    | .created _ h => owner.map (.made h)
    | .destroyed h => some (.destroyed h)
    | _ => none

@[simp] theorem lifeEvents_append (owner : Option Owner) (first second : List Event) :
    lifeEvents owner (first ++ second) = lifeEvents owner first ++ lifeEvents owner second := by
  simp [lifeEvents]

theorem lifeEvents_of_silent {events : List Event} (silent : transportEvents events = [])
    (owner : Option Owner) : lifeEvents owner events = [] := by
  simp [lifeEvents, silent]

/-- A commit hands the pending callback on, and loses none. -/
theorem Surface.commit_handles (s : Surface) (pool : BufferPool) :
    (s.commit pool).surface.link = s.link ∧
      (s.commit pool).surface.allCallbacks = s.allCallbacks := by
  have attached : (s.commitBuffer pool).1.link = s.link ∧
      (s.commitBuffer pool).1.allCallbacks = s.allCallbacks := by
    unfold Surface.commitBuffer
    split <;> exact ⟨rfl, rfl⟩
  refine ⟨attached.1, ?_⟩
  rw [← attached.2]
  simp [Surface.commit, Surface.commitRegions, Surface.allCallbacks]

namespace Compositor

variable {c c' c'' : Compositor}

/-! ### Links and the index -/

/-- The protocol objects that an object holds by live links. -/
def handlesOf (c : Compositor) : Owner → List Handle
  | .surface k => (c.surfaces.get? k).elim [] (·.resource.toList)
  | .region r => (c.regions.get? r).elim [] (·.link.handle?.toList)
  | .callback k => (c.surfaces.get? k).elim [] (·.allCallbacks)
  | .view v => (c.views.get? v).elim [] (·.role.toList)

/-- The name of an object was drawn already. -/
def Drawn (c : Compositor) : Owner → Prop
  | .surface k | .callback k => k.number < c.nextIds.surface.number
  | .region r => r.number < c.nextIds.region.number
  | .view v => v.number < c.nextIds.view.number

/-- The index has exactly the protocol objects that are held, and names who holds them. -/
structure Indexed (c : Compositor) : Prop where
  index : ∀ h o, c.resources.get? h = some o ↔ h ∈ c.handlesOf o
  nodup : ∀ o, (c.handlesOf o).Nodup
  drawn : ∀ o h, h ∈ c.handlesOf o → c.Drawn o

theorem start_indexed (config : Config) (contexts : Contexts) :
    ({ config, contexts } : Compositor).Indexed := by
  have none (o : Owner) : ({ config, contexts } : Compositor).handlesOf o = [] := by
    cases o <;> rfl
  constructor <;> simp [none]

/-- Nobody but its owner holds a protocol object. -/
theorem Indexed.unique (indexed : c.Indexed) {h : Handle} {o o' : Owner} (held : h ∈ c.handlesOf o)
    (held' : h ∈ c.handlesOf o') : o' = o :=
  Option.some_inj.1 (((indexed.index h o').2 held').symm.trans ((indexed.index h o).2 held))

theorem Indexed.handlesOf_eq_nil (indexed : c.Indexed) {o : Owner} (fresh : ¬c.Drawn o) :
    c.handlesOf o = [] :=
  List.eq_nil_iff_forall_not_mem.2 fun h held => fresh (indexed.drawn o h held)

/-! ### Replacing one object -/

theorem handlesOf_replaceSurface {k : SurfaceId} {s : Option Surface}
    (surfaces : ∀ x, c'.surfaces.get? x = if x = k then s else c.surfaces.get? x)
    (regions : c'.regions = c.regions) (views : c'.views = c.views) (o : Owner) :
    c'.handlesOf o = if o = .surface k then s.elim [] (·.resource.toList)
      else if o = .callback k then s.elim [] (·.allCallbacks) else c.handlesOf o := by
  cases o with
  | surface x | callback x => by_cases here : x = k <;> simp [handlesOf, surfaces, here]
  | region | view => simp [handlesOf, regions, views]

theorem handlesOf_replaceRegion {r : RegionId} {g : Option RegionObject}
    (regions : ∀ x, c'.regions.get? x = if x = r then g else c.regions.get? x)
    (surfaces : c'.surfaces = c.surfaces) (views : c'.views = c.views) (o : Owner) :
    c'.handlesOf o =
      if o = .region r then g.elim [] (·.link.handle?.toList) else c.handlesOf o := by
  cases o with
  | region x => by_cases here : x = r <;> simp [handlesOf, regions, here]
  | surface | callback | view => simp [handlesOf, surfaces, views]

theorem handlesOf_replaceView {v : ViewId} {w : Option View}
    (views : ∀ x, c'.views.get? x = if x = v then w else c.views.get? x)
    (surfaces : c'.surfaces = c.surfaces) (regions : c'.regions = c.regions) (o : Owner) :
    c'.handlesOf o = if o = .view v then w.elim [] (·.role.toList) else c.handlesOf o := by
  cases o with
  | view x => by_cases here : x = v <;> simp [handlesOf, views, here]
  | surface | callback | region => simp [handlesOf, surfaces, regions]

/-! ### Nothing happens -/

theorem drawn_of_names (names : c'.names = c.names) (o : Owner) : c'.Drawn o ↔ c.Drawn o := by
  simp only [Compositor.names, Prod.mk.injEq] at names
  obtain ⟨surface, region, view⟩ := names
  cases o <;> simp only [Drawn, surface, region, view]

/-- Nothing happened to any protocol object. -/
structure Still (c c' : Compositor) : Prop where
  resources : c'.resources = c.resources
  names : c'.names = c.names
  told : ∃ told, c'.log = c.log ++ told ∧ ∀ owner, lifeEvents owner told = []
  handles : ∀ o, c'.handlesOf o = c.handlesOf o

theorem Still.trans (first : Still c c') (second : Still c' c'') : Still c c'' where
  resources := second.resources.trans first.resources
  names := second.names.trans first.names
  told := by
    obtain ⟨told, log, silent⟩ := first.told
    obtain ⟨told', log', silent'⟩ := second.told
    exact ⟨told ++ told', by simp [log, log'], fun owner => by simp [silent, silent']⟩
  handles o := (second.handles o).trans (first.handles o)

/-- The tables of objects with protocol objects stay the same. -/
theorem still_of_tables (resources : c'.resources = c.resources) (names : c'.names = c.names)
    (log : c'.log = c.log) (surfaces : c'.surfaces = c.surfaces) (regions : c'.regions = c.regions)
    (views : c'.views = c.views) : Still c c' := by
  refine ⟨resources, names, ⟨[], by simp [log], fun _ => rfl⟩, fun o => ?_⟩
  cases o <;> simp [handlesOf, surfaces, regions, views]

theorem Still.refl (c : Compositor) : Still c c := still_of_tables rfl rfl rfl rfl rfl rfl

/-- What clients do not notice happens to none of their protocol objects. -/
theorem Unheard.still (unheard : Unheard c c') : Still c c' where
  resources := unheard.resources
  names := unheard.names
  told := by
    obtain ⟨told, log, silent⟩ := unheard.told
    exact ⟨told, log, lifeEvents_of_silent silent⟩
  handles o := by
    cases o with
    | surface k | callback k =>
      refine elim_of_rel (unheard.surfaces k) fun s s' same => ?_
      simp only [Surface.holdings, Prod.mk.injEq] at same
      simp [Surface.resource, Surface.allCallbacks, same]
    | region r => exact elim_of_rel (unheard.regions r) fun g g' same => by rw [same]
    | view v =>
      exact elim_of_rel (unheard.views v) fun w w' same => by rw [View.role, same, View.role]

theorem still_foldl {α : Type} {f : Compositor → α → Compositor} (step : ∀ c a, Still c (f c a))
    (l : List α) (c : Compositor) : Still c (l.foldl f c) :=
  foldl_related Still.refl (fun _ _ _ => Still.trans) step l c

/-! ### One object -/

theorem still_tell {events : List Event} (silent : ∀ owner, lifeEvents owner events = []) :
    Still c (c.tell events) :=
  ⟨rfl, rfl, ⟨events, rfl, silent⟩, fun _ => rfl⟩

theorem still_modifySurface (k : SurfaceId) {f : Surface → Surface}
    (same : ∀ s, c.surfaces.get? k = some s →
      (f s).link = s.link ∧ (f s).allCallbacks = s.allCallbacks) :
    Still c (c.modifySurface k f) := by
  have kept (x : SurfaceId) := Table.rel_modify c.surfaces k x (f := f)
    (R := fun s s' => s'.link = s.link ∧ s'.allCallbacks = s.allCallbacks)
    (fun _ => ⟨rfl, rfl⟩) same
  refine ⟨rfl, rfl, ⟨[], by simp [modifySurface], fun _ => rfl⟩, fun o => ?_⟩
  cases o with
  | surface x => exact elim_of_rel (kept x) fun s s' same => by simp [Surface.resource, same.1]
  | callback x => exact elim_of_rel (kept x) fun s s' same => same.2
  | region | view => rfl

/-! ### Buffers and render passes -/

theorem still_buffers (buffers : BufferPool) : Still c { c with buffers } :=
  still_of_tables rfl rfl rfl rfl rfl rfl

theorem still_releaseBuffer (b : BufferId) : Still c (c.releaseBuffer b) := by
  unfold releaseBuffer
  split
  · exact (still_buffers _).trans (still_tell fun _ => rfl)
  · exact still_buffers _
  · exact .refl c

theorem still_renderComplete (c : Compositor) (b : BufferId) : Still c (c.renderComplete b) := by
  unfold renderComplete
  split
  · exact (still_buffers _).trans (still_tell fun _ => rfl)
  · exact still_buffers _
  · exact .refl c

theorem still_destroyBuffer (b : BufferId) : Still c (c.destroyBuffer b).2 := by
  unfold destroyBuffer
  split
  · exact still_buffers _
  · exact .refl c

theorem still_beginItem (c : Compositor) (item : PaintItem) : Still c (c.beginItem item).2 := by
  unfold beginItem
  split
  · exact .refl c
  · have acquired : Still c (c.modifySurface item.surface Surface.acquire) :=
      (unheard_acquireSurface item.surface).still
    simp only
    split
    · exact acquired
    · split
      · exact acquired.trans (still_buffers _)
      · exact acquired

/-! ### Commits -/

theorem still_commitSurface (host : Host) (k : SurfaceId) :
    Still c (c.commitSurface host k).2 := by
  unfold commitSurface
  split
  · exact .refl c
  · next s found =>
    simp only
    refine .trans ?_ (unheard_scheduleSurface k).still
    have committed : Still c (c.modifySurface k fun _ => (s.commit c.buffers).surface) := by
      refine still_modifySurface k fun t there => ?_
      cases found.symm.trans there
      exact s.commit_handles c.buffers
    generalize c.modifySurface k (fun _ => (s.commit c.buffers).surface) = d at *
    have imported : Still c (if (s.commit c.buffers).outcome.attached then
        d.importContent host k (s.commit c.buffers).content else d) := by
      split
      · exact committed.trans (unheard_importContent host k _).still
      · exact committed
    split
    · exact imported.trans (still_releaseBuffer _)
    · exact imported

end Compositor

end Compositing
