import Compositing.Proofs.Buffer.Reads
import Compositing.Proofs.Compositor.Links
import Compositing.Proofs.Compositor.Passes
import Mathlib.Data.List.Nodup

/-!
# A pass gives back what it takes

While a pass draws, it holds the surfaces it draws and reads the buffers they show. `holding` is the
compositor in that moment, as a function of the compositor before. Every step of a pass commutes with
it, or adds to it, or takes from it, so what is left of a pass is the drawing and what it hands over to
the surfaces.
-/

namespace Compositing

namespace Surface

/-- A surface that some more holders keep. -/
def withHolders (s : Surface) (n : Nat) : Surface := { s with refCount := s.refCount + n }

/-- A surface whose frame was handled: its damage and its committed callbacks are taken. -/
def handedOver (s : Surface) : Surface :=
  { s with committed := { s.committed with damage := Region.empty }, callbacks := [] }

theorem handedOver_eq_self_iff {s : Surface} :
    s.handedOver = s ↔ s.committed.damage = Region.empty ∧ s.callbacks = [] := by
  constructor
  · intro same
    rw [← same]
    exact ⟨rfl, rfl⟩
  · rintro ⟨damage, callbacks⟩
    rw [handedOver, ← damage, ← callbacks]

end Surface

namespace Compositor

variable {c : Compositor} {held : List SurfaceId} {reads : List BufferId}

/-- The compositor while somebody also holds surfaces and reads buffers, each as often as it is
listed. -/
def holding (c : Compositor) (held : List SurfaceId) (reads : List BufferId) : Compositor :=
  { c with
    surfaces := c.surfaces.map fun k s => s.withHolders (held.count k)
    buffers := c.buffers.reading reads }

theorem holding_nil (c : Compositor) : c.holding [] [] = c := by
  have surfaces : (c.surfaces.map fun k s => s.withHolders (([] : List SurfaceId).count k)) =
      c.surfaces := Table.map_self fun _ _ _ => rfl
  rw [holding, surfaces, BufferPool.reading_nil]

theorem holding_congr {held' : List SurfaceId}
    (same : ∀ k s, c.surfaces.get? k = some s → held'.count k = held.count k) :
    c.holding held' reads = c.holding held reads := by
  have surfaces : (c.surfaces.map fun k s => s.withHolders (held'.count k)) =
      c.surfaces.map fun k s => s.withHolders (held.count k) :=
    Table.map_congr fun k s found => by rw [same k s found]
  rw [holding, surfaces, holding]

theorem get?_holding {k : SurfaceId} {s : Surface} (found : c.surfaces.get? k = some s) :
    (c.holding held reads).surfaces.get? k = some (s.withHolders (held.count k)) := by
  simp [holding, Table.get?_map, found]

theorem get?_holding_of_absent {k : SurfaceId} (absent : c.surfaces.get? k = none) :
    (c.holding held reads).surfaces.get? k = none := by
  simp [holding, Table.get?_map, absent]

/-- A surface is changed while it is held. -/
theorem modifySurface_holding (held' : List SurfaceId) {k : SurfaceId} {f g : Surface → Surface}
    (here : ∀ s, f (s.withHolders (held.count k)) = (g s).withHolders (held'.count k))
    (others : ∀ x, x ≠ k → held'.count x = held.count x) :
    (c.holding held reads).modifySurface k f = (c.modifySurface k g).holding held' reads := by
  have surfaces : (c.holding held reads).surfaces.modify k f =
      (c.surfaces.modify k g).map fun k s => s.withHolders (held'.count k) := by
    simp only [holding, Table.modify, Table.map_map]
    apply Table.map_congr
    intro x s _
    by_cases same : x = k
    · subst same
      simp [here]
    · simp [same, others x same]
  exact congrArg (fun surfaces => { c.holding held reads with surfaces }) surfaces

theorem modifySurface_self {k : SurfaceId} {f : Surface → Surface}
    (same : ∀ s, c.surfaces.get? k = some s → f s = s) : c.modifySurface k f = c := by
  have surfaces : c.surfaces.modify k f = c.surfaces := Table.map_self fun x s found => by
    split
    next here => exact same s (here ▸ found)
    next => rfl
  rw [modifySurface, surfaces]

/-! ### Taking -/

/-- The buffer that is read for a surface: the one it shows, if that is registered. -/
def bufferRead? (c : Compositor) (k : SurfaceId) : Option BufferId :=
  ((c.surfaces.get? k).bind (·.buffer)).filter c.buffers.contains

def buffersRead (c : Compositor) (surfaces : List SurfaceId) : List BufferId :=
  surfaces.flatMap fun k => (c.bufferRead? k).toList

theorem registered_of_mem_buffersRead {surfaces : List SurfaceId} {b : BufferId}
    (read : b ∈ c.buffersRead surfaces) : ∃ record, c.buffers.get? b = some record := by
  obtain ⟨k, -, read⟩ := List.mem_flatMap.1 read
  obtain ⟨-, known⟩ := Option.filter_eq_some_iff.1 (Option.mem_toList.1 read)
  exact (c.buffers.buffers.contains_iff b).1 known

theorem acquire_holding (c : Compositor) (held : List SurfaceId) (reads : List BufferId)
    (k : SurfaceId) : (c.holding held reads).modifySurface k Surface.acquire =
      c.holding (held ++ [k]) reads := by
  rw [modifySurface_holding (held ++ [k]) (g := fun s => s), modifySurface_self fun _ _ => rfl]
  · intro s
    simp [Surface.acquire, Surface.withHolders, Nat.add_assoc]
  · intro x other
    simp [Ne.symm other]

theorem beginItem_holding (c : Compositor) (held : List SurfaceId) (reads : List BufferId)
    (item : PaintItem) : (c.holding held reads).beginItem item = (c.bufferRead? item.surface,
      c.holding (held ++ [item.surface]) (reads ++ (c.bufferRead? item.surface).toList)) := by
  unfold beginItem bufferRead?
  cases found : c.surfaces.get? item.surface with
  | none =>
    -- A surface that is not there is not held either.
    have same : c.holding (held ++ [item.surface]) reads = c.holding held reads := by
      apply holding_congr
      intro k s there
      have other : item.surface ≠ k := by
        rintro rfl
        simp [found] at there
      simp [other]
    simp [get?_holding_of_absent found, same]
  | some s =>
    have shows : (s.withHolders (held.count item.surface)).buffer = s.buffer := rfl
    have pool : (c.holding (held ++ [item.surface]) reads).buffers = c.buffers.reading reads := rfl
    simp only [get?_holding found, acquire_holding, shows, pool, Option.bind_some]
    cases s.buffer with
    | none => simp
    | some b =>
      cases there : c.buffers.get? b with
      | none =>
        have unknown : c.buffers.contains b = false := by
          simp [BufferPool.contains, Table.contains, show c.buffers.buffers.get? b = none from there]
        simp only [BufferPool.markBusy_reading_of_absent there]
        simp [Option.filter, unknown]
      | some record =>
        have known : c.buffers.contains b = true :=
          (c.buffers.buffers.contains_iff b).2 ⟨record, there⟩
        simp only [BufferPool.markBusy_reading there]
        simp [Option.filter, known, holding]

theorem beginItems_eq_holding (c : Compositor) (items : List PaintItem) :
    c.beginItems items = (c.buffersRead (items.map (·.surface)),
      c.holding (items.map (·.surface)) (c.buffersRead (items.map (·.surface)))) := by
  have begun (items : List PaintItem) (held : List SurfaceId) (reads : List BufferId) :
      items.foldl (fun done item =>
        (done.1 ++ (done.2.beginItem item).1.toList, (done.2.beginItem item).2))
          (reads, c.holding held reads) =
      (reads ++ c.buffersRead (items.map (·.surface)), c.holding (held ++ items.map (·.surface))
        (reads ++ c.buffersRead (items.map (·.surface)))) := by
    induction items generalizing held reads with
    | nil => simp [buffersRead]
    | cons item items ih =>
      simp only [List.foldl_cons, beginItem_holding]
      rw [ih]
      simp [buffersRead]
  have all := begun items [] []
  rwa [holding_nil, List.nil_append, List.nil_append] at all

/-! ### Drawing and giving back -/

theorem repaintOutput_holding (host : Host) (o : OutputId) (items : List PaintItem) :
    (c.holding held reads).repaintOutput host o items =
      ((c.repaintOutput host o items).1, (c.repaintOutput host o items).2.holding held reads) := by
  unfold repaintOutput
  rw [show (c.holding held reads).outputs = c.outputs from rfl]
  cases c.outputs.get? o with
  | none => rfl
  | some p =>
    simp only
    cases p.renderer with
    | none => rfl
    | some r => rfl

/-- No release and no destruction completes when a pass ends. -/
theorem renderComplete_holding (tidy : c.buffers.Tidy) (busy : List BufferId)
    (registered : ∀ b ∈ busy, ∃ record, c.buffers.get? b = some record) :
    busy.foldl renderComplete (c.holding held busy) = c.holding held [] := by
  induction busy with
  | nil => rfl
  | cons b busy ih =>
    obtain ⟨record, there⟩ := registered b List.mem_cons_self
    have completed : (c.holding held (b :: busy)).renderComplete b = c.holding held busy := by
      have cleared : (c.holding held (b :: busy)).buffers.clearBusy b =
          .ok (none, c.buffers.reading busy) := BufferPool.clearBusy_reading tidy there busy
      rw [renderComplete, cleared]
      rfl
    rw [List.foldl_cons, completed]
    exact ih fun x member => registered x (List.mem_cons_of_mem b member)

theorem fireAll_holding (callbacks : List Handle) (time : UInt32) :
    callbacks.foldl (fun c callback =>
      (c.tell ((Surface.fireCallback callback time).map .transport)).disown callback)
        (c.holding held reads) =
    (callbacks.foldl (fun c callback =>
      (c.tell ((Surface.fireCallback callback time).map .transport)).disown callback) c).holding
        held reads := by
  induction callbacks generalizing c with
  | nil => rfl
  | cons callback callbacks ih =>
    rw [List.foldl_cons, List.foldl_cons]
    exact ih (c := (c.tell ((Surface.fireCallback callback time).map .transport)).disown callback)

theorem finishItem_holding (time : UInt32) (item : PaintItem) :
    (c.holding held reads).finishItem time item = (c.finishItem time item).holding held reads := by
  unfold finishItem
  cases found : c.surfaces.get? item.surface with
  | none => simp [get?_holding_of_absent found]
  | some s =>
    rw [get?_holding found]
    have taken : (c.holding held reads).modifySurface item.surface
        (fun _ => (s.withHolders (held.count item.surface)).handedOver) =
        (c.modifySurface item.surface fun _ => s.handedOver).holding held reads :=
      modifySurface_holding _ (fun _ => rfl) fun _ _ => rfl
    change s.callbacks.foldl _ ((c.holding held reads).modifySurface item.surface
      fun _ => (s.withHolders (held.count item.surface)).handedOver) = _
    rw [taken]
    exact fireAll_holding s.callbacks time

theorem finishItems_holding (time : UInt32) (items : List PaintItem) :
    items.foldl (fun c item => c.finishItem time item) (c.holding held reads) =
      (items.foldl (fun c item => c.finishItem time item) c).holding held reads := by
  induction items generalizing c with
  | nil => rfl
  | cons item items ih => rw [List.foldl_cons, List.foldl_cons, finishItem_holding, ih]

/-- No surface goes when a pass ends, as each has a holder besides it. -/
theorem releaseItems_holding (holders : c.Held) (items : List PaintItem) :
    items.foldl (fun c item => c.releaseSurface item.surface)
      (c.holding (items.map (·.surface)) []) = c := by
  induction items with
  | nil => exact c.holding_nil
  | cons item items ih =>
    have released : (c.holding ((item :: items).map (·.surface)) []).releaseSurface item.surface =
        c.holding (items.map (·.surface)) [] := by
      unfold releaseSurface
      cases found : c.surfaces.get? item.surface with
      | none =>
        rw [get?_holding_of_absent found]
        apply holding_congr
        intro k s there
        have other : item.surface ≠ k := by
          rintro rfl
          simp [found] at there
        simp [other]
      | some s =>
        have last : (s.withHolders ((items.map (·.surface)).count item.surface + 1)).release =
            (false, s.withHolders ((items.map (·.surface)).count item.surface)) := by
          have kept := holders item.surface s found
          simp only [Surface.release, Surface.withHolders, ← Nat.add_assoc, Nat.add_sub_cancel,
            Prod.mk.injEq, and_true, beq_eq_false_iff_ne]
          omega
        rw [get?_holding found, List.map_cons, List.count_cons_self, Option.map_some, last]
        refine (modifySurface_holding _ (g := fun _ => s) (fun _ => rfl) fun x other => ?_).trans ?_
        · simp [Ne.symm other]
        · rw [modifySurface_self fun t there => Option.some.inj (found.symm.trans there)]
    rw [List.foldl_cons, released, ih]

/-! ### What a pass hands over -/

/-- The committed frame callbacks of a surface, oldest first. -/
def dueCallbacks (c : Compositor) (k : SurfaceId) : List Handle :=
  (c.surfaces.get? k).elim [] (·.callbacks)

/-- The compositor after the frames of some surfaces were handled. -/
def finished (c : Compositor) (time : UInt32) (surfaces : List SurfaceId) : Compositor :=
  { c with
    surfaces := c.surfaces.map fun k s => if k ∈ surfaces then s.handedOver else s
    resources := (surfaces.flatMap c.dueCallbacks).foldl Table.erase c.resources
    log := c.log ++
      ((surfaces.flatMap c.dueCallbacks).flatMap (Surface.fireCallback · time)).map .transport }

theorem finished_of_absent {surfaces : List SurfaceId}
    (absent : ∀ k ∈ surfaces, c.surfaces.get? k = none) (time : UInt32) :
    c.finished time surfaces = c := by
  have same : (c.surfaces.map fun k s => if k ∈ surfaces then s.handedOver else s) = c.surfaces :=
    Table.map_self fun k s found => if_neg fun member => by simp [absent k member] at found
  have none : surfaces.flatMap c.dueCallbacks = [] := List.flatMap_eq_nil_iff.2 fun k member => by
    simp [dueCallbacks, absent k member]
  rw [finished, same, none]
  simp

theorem fireAll_eq (callbacks : List Handle) (time : UInt32) (c : Compositor) :
    callbacks.foldl (fun c callback =>
      (c.tell ((Surface.fireCallback callback time).map .transport)).disown callback) c =
    { c with
      resources := callbacks.foldl Table.erase c.resources
      log := c.log ++ (callbacks.flatMap (Surface.fireCallback · time)).map .transport } := by
  induction callbacks generalizing c with
  | nil => simp
  | cons callback callbacks ih =>
    rw [List.foldl_cons, ih]
    simp [tell, disown]

theorem finishItem_eq (c : Compositor) (time : UInt32) (item : PaintItem) :
    c.finishItem time item = c.finished time [item.surface] := by
  unfold finishItem
  cases found : c.surfaces.get? item.surface with
  | none => exact (finished_of_absent (by simpa using found) time).symm
  | some s =>
    have surfaces : (c.surfaces.map fun k s => if k ∈ [item.surface] then s.handedOver else s) =
        c.surfaces.modify item.surface fun _ => s.handedOver := Table.map_congr fun k t there => by
      by_cases here : k = item.surface
      · cases found.symm.trans (here ▸ there)
        simp [here]
      · simp [here]
    change s.callbacks.foldl _ (c.modifySurface item.surface fun _ => s.handedOver) = _
    rw [fireAll_eq, finished, surfaces]
    simp [dueCallbacks, found, modifySurface]

theorem finished_cons {time : UInt32} {k : SurfaceId} {rest : List SurfaceId} (once : k ∉ rest) :
    (c.finished time [k]).finished time rest = c.finished time (k :: rest) := by
  have surfaces : (c.finished time [k]).surfaces.map
      (fun x s => if x ∈ rest then s.handedOver else s) =
      c.surfaces.map fun x s => if x ∈ k :: rest then s.handedOver else s := by
    simp only [finished, Table.map_map]
    apply Table.map_congr
    intro x s _
    by_cases here : x = k
    · simp [here, once]
    · simp [here]
  have callbacks : rest.flatMap (c.finished time [k]).dueCallbacks =
      rest.flatMap c.dueCallbacks := by
    apply List.flatMap_congr
    intro x member
    -- The surfaces that follow have their callbacks still.
    have other : x ≠ k := ne_of_mem_of_not_mem member once
    cases found : c.surfaces.get? x <;> simp [dueCallbacks, finished, Table.get?_map, found, other]
  rw [finished, surfaces, callbacks]
  simp [finished, List.foldl_append]

theorem finishItems_eq (time : UInt32) {items : List PaintItem}
    (once : (items.map (·.surface)).Nodup) (c : Compositor) :
    items.foldl (fun c item => c.finishItem time item) c =
      c.finished time (items.map (·.surface)) := by
  induction items generalizing c with
  | nil => exact (finished_of_absent (by simp) time).symm
  | cons item items ih =>
    obtain ⟨first, rest⟩ := List.nodup_cons.1 once
    rw [List.foldl_cons, ih rest, finishItem_eq, finished_cons first, List.map_cons]

theorem held_finishItems (holders : c.Held) (time : UInt32) (items : List PaintItem) :
    (items.foldl (fun c item => c.finishItem time item) c).Held := by
  induction items generalizing c with
  | nil => exact holders
  | cons item items ih =>
    refine ih fun k s there => ?_
    change (c.finishItem time item).surfaces.get? k = some s at there
    rw [finishItem_eq] at there
    obtain ⟨t, found, rfl⟩ := Option.map_eq_some_iff.1 ((Table.get?_map ..).symm.trans there)
    split <;> exact holders k t found

/-! ### The pass -/

/-- All that is left of a pass is the drawing, and what it hands over to the surfaces. -/
theorem renderOutput_eq (tidy : c.buffers.Tidy) (holders : c.Held) (host : Host) (time : UInt32)
    {o : OutputId} {p : Output} {r : Renderer} (found : c.outputs.get? o = some p)
    (renderer : p.renderer = some r) :
    c.renderOutput host o time = ((c.repaintOutput host o (c.paintItems p)).1,
      (c.paintItems p).foldl (fun c item => c.finishItem time item)
        (c.repaintOutput host o (c.paintItems p)).2) := by
  have there : (c.outputs.get? o).filter (·.renderer.isSome) = some p := by
    simp [found, Option.filter, renderer]
  simp only [renderOutput, completePass, there, beginItems_eq_holding, repaintOutput_holding]
  -- Drawing touches neither surfaces nor buffers, so what was taken can be given back after it.
  generalize c.paintItems p = items
  have same : (c.repaintOutput host o items).2.buffers = c.buffers ∧
      (c.repaintOutput host o items).2.surfaces = c.surfaces := by
    simp [repaintOutput_found host items found renderer]
  generalize c.repaintOutput host o items = drawing at same ⊢
  obtain ⟨well, d⟩ := drawing
  obtain ⟨buffers, surfaces⟩ := same
  have registered (b) (read : b ∈ c.buffersRead (items.map (·.surface))) :
      ∃ record, d.buffers.get? b = some record := buffers ▸ registered_of_mem_buffersRead read
  have holders : d.Held := fun k s there => holders k s (surfaces ▸ there)
  rw [renderComplete_holding (buffers ▸ tidy) _ registered, finishItems_holding,
    releaseItems_holding (held_finishItems holders time items)]

/-- A pass on an output that is due, if that has a renderer. -/
theorem pass_eq (tidy : c.buffers.Tidy) (holders : c.Held) (host : Host) (time : UInt32)
    {o : OutputId} {p : Output} {r : Renderer} (found : c.outputs.get? o = some p)
    (renderer : p.renderer = some r) :
    c.pass host time o = (c.paintItems p).foldl (fun c item => c.finishItem time item)
      ((c.modifyOutput o fun p => { p with pendingRender := false }).repaintOutput host o
        (c.paintItems p)).2 := by
  have found' : (c.modifyOutput o fun p => { p with pendingRender := false }).outputs.get? o =
      some { p with pendingRender := false } := by
    simp [Table.get?_modify, found]
  have items : (c.modifyOutput o fun p => { p with pendingRender := false }).paintItems
      { p with pendingRender := false } = c.paintItems p :=
    paintItems_same (by simp) (by simp) rfl rfl
  have rendered := renderOutput_eq (c := c.modifyOutput o fun p => { p with pendingRender := false })
    tidy holders host time found' renderer
  rw [items] at rendered
  rw [pass, rendered]

/-! ### What a pass draws -/

/-- The surfaces that a pass on an output draws. -/
def drawn (c : Compositor) (o : OutputId) : List SurfaceId :=
  ((c.outputs.get? o).filter (·.renderer.isSome)).elim [] fun p => (c.paintItems p).map (·.surface)

theorem drawn_found {o : OutputId} {p : Output} {r : Renderer} (found : c.outputs.get? o = some p)
    (renderer : p.renderer = some r) : c.drawn o = (c.paintItems p).map (·.surface) := by
  simp [drawn, found, Option.filter, renderer]

theorem drawn_of_bare {o : OutputId} (bare : ∀ p, c.outputs.get? o = some p → p.renderer = none) :
    c.drawn o = [] := by
  cases found : c.outputs.get? o with
  | none => simp [drawn, found]
  | some p => simp [drawn, found, Option.filter, bare p found]

/-- What is drawn for a view is the surface that has it. -/
theorem Linked.view_of_paintItem? (linked : c.Linked) {p : Output} {v : ViewId} {item : PaintItem}
    (drawn : c.paintItem? p v = some item) : ∃ view s, c.views.get? v = some view ∧
      view.surface = item.surface ∧ c.surfaces.get? item.surface = some s ∧ s.view = some v := by
  rw [paintItem?_eq] at drawn
  obtain ⟨view, found, drawn⟩ := Option.bind_eq_some_iff.1 drawn
  obtain ⟨s, there, drawn⟩ := Option.bind_eq_some_iff.1 drawn
  obtain ⟨t, there', shows⟩ := linked.surface_exists v view found
  cases there.symm.trans there'
  have named := (linked.surface_named _ s there).1
  split at drawn
  next =>
    cases drawn
    exact ⟨view, s, found, named.symm, named.symm ▸ there, shows⟩
  next => simp at drawn

/-- No surface is drawn twice in a pass. -/
theorem Linked.paintItems_nodup (linked : c.Linked) {o : OutputId} {p : Output}
    (found : c.outputs.get? o = some p) : ((c.paintItems p).map (·.surface)).Nodup := by
  have paint : p.paintOrder.Nodup :=
    (linked.paint_perm o p found).nodup_iff.2 (linked.creation_nodup o p found)
  rw [paintItems, List.map_filterMap]
  refine paint.filterMap fun v v' k member member' => ?_
  obtain ⟨item, drawn, rfl⟩ := Option.map_eq_some_iff.1 (Option.mem_def.1 member)
  obtain ⟨item', drawn', same⟩ := Option.map_eq_some_iff.1 (Option.mem_def.1 member')
  obtain ⟨-, s, -, -, there, shows⟩ := linked.view_of_paintItem? drawn
  obtain ⟨-, s', -, -, there', shows'⟩ := linked.view_of_paintItem? drawn'
  rw [same, there] at there'
  cases there'
  exact Option.some.inj (shows.symm.trans shows')

end Compositor

end Compositing
