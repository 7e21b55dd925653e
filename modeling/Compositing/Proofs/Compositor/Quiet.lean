import Compositing.Proofs.Compositor.Effects

/-!
# Requests that change nothing visible

Most requests touch pending state, texts, buffers or protocol objects only. They are quiet: at most an
output becomes due.
-/

namespace Compositing.Compositor

variable {c c' c'' : Compositor}

/-! ### Composing quiet changes -/

theorem Later.trans (first : Later c c') (second : Later c' c'') : Later c c'' where
  config := second.config.trans first.config
  buffers := first.buffers.trans second.buffers
  held there := second.held (first.held there)
  nextSurface := Nat.le_trans first.nextSurface second.nextSurface
  nextView := Nat.le_trans first.nextView second.nextView
  nextOutput := Nat.le_trans first.nextOutput second.nextOutput
  nextImage := Nat.le_trans first.nextImage second.nextImage

/-- The names that are drawn stay the same. -/
theorem later_of_nextIds (config : c'.config = c.config) (buffers : c.buffers.Later c'.buffers)
    (nextIds : c'.nextIds = c.nextIds) (held : c.Held → c'.Held) : Later c c' :=
  ⟨config, buffers, held, by simp [nextIds], by simp [nextIds], by simp [nextIds], by simp [nextIds]⟩

theorem Held.same (surfaces : c'.surfaces = c.surfaces) (held : c.Held) : c'.Held := by
  unfold Held
  rwa [surfaces]

theorem SameSurfaces.of_eq (surfaces : c'.surfaces = c.surfaces) : SameSurfaces c c' := by
  intro k
  rw [surfaces]
  exact rel_part _ _

theorem SameViews.of_eq (views : c'.views = c.views) : SameViews c c' := by
  intro v
  rw [views]
  exact rel_part _ _

/-- The tables stay the same. -/
theorem quiet_of_tables (config : c'.config = c.config) (buffers : c.buffers.Later c'.buffers)
    (surfaces : c'.surfaces = c.surfaces) (views : c'.views = c.views)
    (outputs : c'.outputs = c.outputs) (order : c'.outputOrder = c.outputOrder)
    (focused : c'.focused = c.focused) (nextIds : c'.nextIds = c.nextIds) : Quiet c c' where
  toLater := later_of_nextIds config buffers nextIds (Held.same surfaces)
  surfaces := .of_eq surfaces
  views := .of_eq views
  outputs o := by
    rw [outputs]
    exact rel_refl Output.Steady.refl _
  order := order
  focused v there := .inl (focused ▸ there)

theorem Quiet.refl (c : Compositor) : Quiet c c :=
  quiet_of_tables rfl (.refl _) rfl rfl rfl rfl rfl rfl

theorem SameSurfaces.trans (first : SameSurfaces c c') (second : SameSurfaces c' c'') :
    SameSurfaces c c'' :=
  fun k => rel_trans (first k) (second k) fun _ _ _ same same' => same'.trans same

theorem SameViews.trans (first : SameViews c c') (second : SameViews c' c'') : SameViews c c'' :=
  fun v => rel_trans (first v) (second v) fun _ _ _ same same' => same'.trans same

theorem focused_trans (views : SameViews c c')
    (first : ∀ v, c'.focused = some v → c.focused = some v ∨ ∃ view, c.views.get? v = some view)
    (second : ∀ v, c''.focused = some v → c'.focused = some v ∨ ∃ view, c'.views.get? v = some view)
    (v : ViewId) (there : c''.focused = some v) :
    c.focused = some v ∨ ∃ view, c.views.get? v = some view := by
  rcases second v there with before | ⟨w', found⟩
  · exact first v before
  · -- A view that exists after the first change existed before it.
    obtain ⟨w, found, _⟩ := found_of_rel (views v) found
    exact .inr ⟨w, found⟩

theorem Quiet.trans (first : Quiet c c') (second : Quiet c' c'') : Quiet c c'' where
  toLater := first.toLater.trans second.toLater
  surfaces := first.surfaces.trans second.surfaces
  views := first.views.trans second.views
  outputs o := rel_trans (first.outputs o) (second.outputs o) fun _ _ _ => Output.Steady.trans
  order := second.order.trans first.order
  focused := focused_trans first.views first.focused second.focused

theorem quiet_foldl_snd {α β : Type} {f : β × Compositor → α → β × Compositor}
    (step : ∀ s a, Quiet s.2 (f s a).2) (l : List α) (s : β × Compositor) :
    Quiet s.2 (l.foldl f s).2 :=
  foldl_related (R := fun s t => Quiet s.2 t.2) (fun s => .refl s.2) (fun _ _ _ => Quiet.trans)
    step l s

/-! ### One object -/

theorem quiet_modifySurface (id : SurfaceId) {f : Surface → Surface}
    (look : ∀ s, c.surfaces.get? id = some s → (f s).look = s.look)
    (held : ∀ s, c.surfaces.get? id = some s → 0 < s.refCount → 0 < (f s).refCount) :
    Quiet c (c.modifySurface id f) where
  toLater := by
    -- Only the surface that changes could lose its holders.
    apply later_of_nextIds (by simp) (by simp [BufferPool.Later.refl]) (by simp)
    intro all k s found
    simp only [modifySurface_fields, Table.get?_modify] at found
    split at found
    next here =>
      obtain ⟨t, there, rfl⟩ := Option.map_eq_some_iff.1 found
      exact held t (here ▸ there) (all k t there)
    next => exact all k s found
  surfaces k := by
    simp only [modifySurface_fields]
    exact Table.rel_modify _ _ _ (fun _ => rfl) look
  views := .of_eq (by simp)
  outputs o := by
    simp only [modifySurface_fields]
    exact rel_refl Output.Steady.refl _
  order := by simp
  focused v there := .inl (by simpa using there)

/-- Pending state of a surface. -/
theorem quiet_modifySurface_of_keeps (id : SurfaceId) {f : Surface → Surface}
    (look : ∀ s, (f s).look = s.look) (held : ∀ s, (f s).refCount = s.refCount) :
    Quiet c (c.modifySurface id f) :=
  quiet_modifySurface id (fun s _ => look s) fun s _ there => held s ▸ there

theorem quiet_modifyView (id : ViewId) {f : View → View}
    (look : ∀ w, c.views.get? id = some w → (f w).look = w.look) : Quiet c (c.modifyView id f) where
  toLater := later_of_nextIds (by simp) (by simp [BufferPool.Later.refl]) (by simp)
    (Held.same (by simp))
  surfaces := .of_eq (by simp)
  views v := by
    simp only [modifyView_fields]
    exact Table.rel_modify _ _ _ (fun _ => rfl) look
  outputs o := by
    simp only [modifyView_fields]
    exact rel_refl Output.Steady.refl _
  order := by simp
  focused v there := .inl (by simpa using there)

theorem quiet_modifyOutput (id : OutputId) {f : Output → Output}
    (steady : ∀ o : Output, o.Steady (f o)) : Quiet c (c.modifyOutput id f) where
  toLater := later_of_nextIds (by simp) (by simp [BufferPool.Later.refl]) (by simp)
    (Held.same (by simp))
  surfaces := .of_eq (by simp)
  views := .of_eq (by simp)
  outputs o := by
    simp only [modifyOutput_fields]
    exact Table.rel_modify _ _ _ Output.Steady.refl fun p _ => steady p
  order := by simp
  focused v there := .inl (by simpa using there)

theorem quiet_scheduleOutput (o : OutputId) : Quiet c (c.scheduleOutput o) :=
  quiet_modifyOutput o Output.steady_schedule

theorem quiet_scheduleView (v : ViewId) : Quiet c (c.scheduleView v) := by
  unfold scheduleView
  split
  · exact quiet_scheduleOutput _
  · exact .refl c

theorem quiet_scheduleSurface (k : SurfaceId) : Quiet c (c.scheduleSurface k) := by
  unfold scheduleSurface
  split
  · exact quiet_scheduleOutput _
  · exact .refl c

/-! ### Protocol objects and buffers -/

theorem quiet_tell (events : List Event) : Quiet c (c.tell events) := by
  apply quiet_of_tables <;> simp [BufferPool.Later.refl]

theorem quiet_tellPolicy (event : PolicyEvent) : Quiet c (c.tellPolicy event) := quiet_tell _

theorem quiet_own (handle : Handle) (owner : Owner) : Quiet c (c.own handle owner) := by
  apply quiet_of_tables <;> simp [BufferPool.Later.refl]

theorem quiet_disown (handle : Handle) : Quiet c (c.disown handle) := by
  apply quiet_of_tables <;> simp [BufferPool.Later.refl]

theorem quiet_destroyResource (handle : Option Handle) : Quiet c (c.destroyResource handle) := by
  apply quiet_of_tables <;> simp [BufferPool.Later.refl]

theorem quiet_createResource (host : Host) (kind : ResourceKind) (client : ClientId) (id : UInt32)
    (what : String) : Quiet c (c.createResource host kind client id what).2 := by
  unfold createResource
  split <;> exact quiet_tell _

theorem later_releaseBuffer (c : Compositor) (b : BufferId) :
    c.buffers.Later (c.releaseBuffer b).buffers := by
  unfold releaseBuffer
  split
  next eq => simpa using BufferPool.release_later eq
  next eq => exact BufferPool.release_later eq
  next => exact .refl _

/-- Lets go of a buffer, if there is one. -/
def letGo (c : Compositor) (buffer : Option BufferId) : Compositor :=
  match buffer with
  | some b => c.releaseBuffer b
  | none => c

theorem letGo_fields (c : Compositor) (buffer : Option BufferId) :
    (c.letGo buffer).config = c.config ∧ c.buffers.Later (c.letGo buffer).buffers ∧
    (c.letGo buffer).surfaces = c.surfaces ∧ (c.letGo buffer).views = c.views ∧
    (c.letGo buffer).outputs = c.outputs ∧ (c.letGo buffer).outputOrder = c.outputOrder ∧
    (c.letGo buffer).focused = c.focused ∧ (c.letGo buffer).nextIds = c.nextIds := by
  cases buffer <;> simp [letGo, later_releaseBuffer, BufferPool.Later.refl]

theorem quiet_letGo (buffer : Option BufferId) : Quiet c (c.letGo buffer) := by
  obtain ⟨h1, h2, h3, h4, h5, h6, h7, h8⟩ := c.letGo_fields buffer
  exact quiet_of_tables h1 h2 h3 h4 h5 h6 h7 h8

theorem quiet_renderComplete (c : Compositor) (b : BufferId) : Quiet c (c.renderComplete b) := by
  have later : c.buffers.Later (c.renderComplete b).buffers := by
    unfold renderComplete
    split
    next eq => simpa using BufferPool.clearBusy_later eq
    next eq => exact BufferPool.clearBusy_later eq
    next => exact .refl _
  apply quiet_of_tables <;> simp [later]

theorem quiet_destroyBuffer (b : BufferId) : Quiet c (c.destroyBuffer b).2 := by
  unfold destroyBuffer
  split
  next eq => exact quiet_of_tables rfl (BufferPool.destroy_later eq) rfl rfl rfl rfl rfl rfl
  next => exact .refl c

theorem quiet_pool (request : PoolRequest) :
    Quiet c { c with buffers := (c.buffers.handle request).2 } :=
  quiet_of_tables rfl (BufferPool.handle_later request) rfl rfl rfl rfl rfl rfl

/-! ### Requests about surfaces and regions -/

theorem quiet_requestFrame (host : Host) (k : SurfaceId) (callback : UInt32) :
    Quiet c (c.requestFrame host k callback).2 := by
  unfold requestFrame
  split
  next => exact .refl c
  next s found =>
    have made := quiet_createResource (c := c) host .callback s.client callback "frame callback"
    have same : (c.createResource host .callback s.client callback "frame callback").2.surfaces =
      c.surfaces := by simp
    split
    next eq => simpa [eq] using made
    next handle c₁ eq =>
      simp only [eq] at made same
      have owned := made.trans (quiet_own handle (.callback k))
      refine (owned.trans ?_).trans (quiet_destroyResource _)
      -- The new state was computed from the surface as it was before the callback was made.
      apply quiet_modifySurface <;> intro t there <;>
        cases (show c.surfaces.get? k = some t by simpa [same] using there).symm.trans found
      · rfl
      · exact id

theorem quiet_acquireSurface (k : SurfaceId) : Quiet c (c.acquireSurface k).2 :=
  quiet_modifySurface k (fun _ _ => rfl) fun _ _ _ => Nat.succ_pos _

theorem quiet_modifyRegion (id : RegionId) (f : Region → Region) : Quiet c (c.modifyRegion id f) :=
  quiet_of_tables rfl (.refl _) rfl rfl rfl rfl rfl rfl

theorem quiet_createRegion (host : Host) (client : ClientId) (id : UInt32) :
    Quiet c (c.createRegion host client id).2 := by
  have made := quiet_createResource (c := c) host .region client id "region"
  unfold createRegion
  split
  next eq => simpa [eq] using made
  next handle c₁ eq =>
    simp only [eq] at made
    refine (made.trans (quiet_own handle (.region c₁.nextIds.region))).trans ?_
    -- Regions are no part of what is seen, but a name is drawn.
    constructor
    case toLater =>
      exact ⟨rfl, .refl _, Held.same rfl, Nat.le_refl _, Nat.le_refl _, Nat.le_refl _, Nat.le_refl _⟩
    case surfaces => exact .of_eq rfl
    case views => exact .of_eq rfl
    case outputs => exact fun o => rel_refl Output.Steady.refl _
    case order => rfl
    case focused => exact fun v there => .inl there

theorem quiet_destroyRegion (id : RegionId) : Quiet c (c.destroyRegion id) := by
  unfold destroyRegion
  split
  · exact .refl c
  · have erased : Quiet c { c with regions := c.regions.erase id } :=
      quiet_of_tables rfl (.refl _) rfl rfl rfl rfl rfl rfl
    exact erased.trans (quiet_destroyResource _)

/-! ### Requests about views -/

theorem quiet_setViewState (v : ViewId) (bits : UInt32) (on : Bool) :
    Quiet c (c.setViewState v bits on) := by
  unfold setViewState
  split
  next => exact .refl c
  next w found =>
    have modified : Quiet c (c.modifyView v fun _ => (w.switchState bits on).2) :=
      quiet_modifyView v fun x there => by cases there.symm.trans found; rfl
    simp only
    split
    · exact modified.trans (quiet_scheduleView v)
    · exact modified

theorem quiet_refocus {target : Option ViewId}
    (there : ∀ v, target = some v → ∃ w, c.views.get? v = some w) :
    Quiet c { c with focused := target } where
  toLater := later_of_nextIds rfl (.refl _) rfl id
  surfaces := .of_eq rfl
  views := .of_eq rfl
  outputs _ := rel_refl Output.Steady.refl _
  order := rfl
  focused v new := .inr (there v new)

theorem quiet_focusView (target : Option ViewId) : Quiet c (c.focusView target) := by
  -- Whether views lose or gain the bit, the four cases differ only in how many are switched.
  have switched (d : Compositor) (v : ViewId) (on : Bool) :
      Quiet d ((d.setViewState v activatedBit on).tellPolicy (.focusChanged v on)) :=
    (quiet_setViewState _ _ _).trans (quiet_tellPolicy _)
  have refocused {d : Compositor} (before : Quiet c d) :
      Quiet c { d with focused := target.filter c.views.contains } := by
    refine before.trans (quiet_refocus ?_)
    intro v new
    obtain ⟨w, found⟩ := (c.views.contains_iff v).1 (Option.filter_eq_some_iff.1 new).2
    obtain ⟨w', found', _⟩ := found_of_rel_left (before.views v) found
    exact ⟨w', found'⟩
  unfold focusView
  simp only
  split
  next => exact .refl c
  next =>
    apply refocused
    split <;> split
    · exact (switched c _ false).trans (switched _ _ true)
    · exact switched c _ true
    · exact switched c _ false
    · exact .refl c

theorem quiet_setViewParent (v : ViewId) (parent : Option ViewId) :
    Quiet c (c.setViewParent v parent).2 := by
  unfold setViewParent
  split
  · exact .refl c
  · split
    · exact quiet_modifyView v fun _ _ => rfl
    · exact .refl c

theorem quiet_setViewText (host : Host) (v : ViewId) (what text : String) {set : View → View}
    (look : ∀ w, (set w).look = w.look) : Quiet c (c.setViewText host v what text set).2 := by
  rcases c.setViewText_eq host v what text set with given | same
  · rw [given]
    exact quiet_modifyView v fun w _ => look w
  · rw [same]
    exact .refl c

theorem quiet_requestState (host : Host) (v : ViewId) (bits : UInt32) (on : Bool) :
    Quiet c (c.requestState host v bits on) := by
  unfold requestState
  split
  · simp only
    split
    · exact quiet_tellPolicy _
    · exact (quiet_tellPolicy _).trans (quiet_setViewState v bits on)
  · exact .refl c

/-! ### Requests about outputs -/

theorem quiet_setOutputSleep (o : OutputId) (sleeping : Bool) :
    Quiet c (c.setOutputSleep o sleeping) := by
  apply quiet_modifyOutput o
  intro p
  simp only
  -- Waking up makes the output due; falling asleep changes nothing that is seen.
  split
  · exact ⟨rfl, fun rest => rest⟩
  · exact ⟨rfl, by simp [Output.schedule]⟩

theorem quiet_shareDisplay (host : Host) (display : UInt64) :
    Quiet c (c.shareDisplay host display).2 := by
  unfold shareDisplay
  refine quiet_foldl_snd ?_ c.outputs.values (0, c)
  intro s p
  obtain ⟨accepted, d⟩ := s
  simp only
  split
  · exact .refl d
  · exact quiet_tell _

end Compositing.Compositor
