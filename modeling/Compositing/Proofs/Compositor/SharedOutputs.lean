import Compositing.Proofs.Compositor.Shares

/-!
# Outputs that two clients share

An output shows views of both clients, keeps images for surfaces of both and is due if either of them
makes it so. Each import, and each view that goes, changes on it what belongs to one of them.
-/

namespace Compositing

/-! ### Renderers and outputs -/

namespace Renderer.Half

variable {S : Set SurfaceId} {r r' : Renderer} {next next' : ImageId} {k : SurfaceId}

theorem detach (half : Half S r r') (orderly : r.Orderly next) (orderly' : r'.Orderly next')
    (k : SurfaceId) : Half S (r.detach k) (r'.detach k) := by
  refine ⟨by rw [bare_detach, bare_detach, half.1], fun x off => ?_⟩
  rw [kept?_detach orderly, kept?_detach orderly', half.2 x off]

theorem detach_in (half : Half S r r') (orderly' : r'.Orderly next') (member : k ∈ S) :
    Half S r (r'.detach k) := by
  refine ⟨by rw [bare_detach, half.1], fun x off => ?_⟩
  rw [kept?_detach orderly', if_neg (fun same : x = k => off (same ▸ member)), half.2 x off]

theorem attach (half : Half S r r') (orderly : r.Orderly next) (orderly' : r'.Orderly next')
    (device : DeviceAnswers) (k : SurfaceId) {content content' : Option Buffer}
    (same : content'.map Buffer.calm = content.map Buffer.calm) :
    Half S (r.attach device next k content).renderer (r'.attach device next' k content').renderer := by
  rw [← r'.attach_calm device next' k content', same, attach_calm]
  refine ⟨by rw [bare_attach, bare_attach, half.1], fun x off => ?_⟩
  by_cases here : x = k
  · subst here
    exact kept?_attach orderly orderly' half.1 device x content
  · rw [kept?_attach_other orderly device content here,
      kept?_attach_other orderly' device content here, half.2 x off]

theorem attach_in (half : Half S r r') (orderly' : r'.Orderly next') (member : k ∈ S)
    (device : DeviceAnswers) (content : Option Buffer) :
    Half S r (r'.attach device next' k content).renderer := by
  refine ⟨by rw [bare_attach, half.1], fun x off => ?_⟩
  have other : x ≠ k := fun same => off (same ▸ member)
  rw [kept?_attach_other orderly' device content other, half.2 x off]

end Renderer.Half

namespace Output.Half

variable {A B : Share} {views : Table ViewId View} {p q : Output}

theorem id (half : Half B views p q) : q.id = p.id := by
  have same := congrArg Output.id half.rest
  exact same

/-- The lists of views stay as they are. -/
theorem of_renderer (half : Half B views p q) {p' q' : Output} {due due' : Bool}
    {renderer renderer' : Option Renderer}
    (left : p' = { p with pendingRender := due, renderer })
    (right : q' = { q with pendingRender := due', renderer := renderer' })
    (same : Option.Rel (Renderer.Half B.surfaces) renderer renderer') : Half B views p' q' := by
  subst left right
  exact ⟨congrArg (fun p : Output => { p with pendingRender := due, renderer }) half.rest,
    half.paint, half.creation, same⟩

theorem contains_erase (x v : ViewId) :
    (views.erase v).contains x = (decide (x ≠ v) && views.contains x) := by
  rw [Table.contains, Table.get?_erase]
  split
  next same => simp [same]
  next other => simp [other, Table.contains]

theorem schedule (half : Half B views p q) : Half B views p.schedule q.schedule :=
  half.of_renderer rfl rfl half.renderer

/-- That an output is due is not missed where the other client is alone. -/
theorem schedule_right (half : Half B views p q) : Half B views p q.schedule :=
  half.of_renderer rfl rfl half.renderer

theorem detach (half : Half B views p q) {next next' : ImageId}
    (orderly : ∀ r, p.renderer = some r → r.Orderly next)
    (orderly' : ∀ r, q.renderer = some r → r.Orderly next') (k : SurfaceId) :
    Half B views (p.detach k) (q.detach k) := by
  refine half.of_renderer rfl rfl (rel_map_both half.renderer fun r r' there there' same => ?_)
  exact same.detach (orderly r there) (orderly' r' there') k

/-- Nor is an image of the other share. -/
theorem detach_right (half : Half B views p q) {next : ImageId}
    (orderly : ∀ r, q.renderer = some r → r.Orderly next) {k : SurfaceId} (member : k ∈ B.surfaces) :
    Half B views p (q.detach k) := by
  refine half.of_renderer rfl rfl ?_
  rw [← Option.map_id_apply (x := p.renderer)]
  exact rel_map_both half.renderer fun r r' _ there same =>
    same.detach_in (orderly r' there) member

/-- One more view is not there any more. -/
theorem filter_erase {orders orders' : List ViewId} {v : ViewId}
    (before : orders' = orders.filter views.contains) :
    orders'.filter (· ≠ v) = orders.filter (views.erase v).contains ∧
    (orders.filter (· ≠ v)).filter (views.erase v).contains =
      orders.filter (views.erase v).contains := by
  subst before
  rw [List.filter_filter, List.filter_filter]
  refine ⟨List.filter_congr fun x _ => (contains_erase x v).symm, List.filter_congr fun x _ => ?_⟩
  rw [contains_erase]
  cases decide (x ≠ v) <;> simp

/-- The focus is lost with the view. -/
theorem focus_erase {focused focused' : Option ViewId} {v : ViewId}
    (before : focused' = focused.filter views.contains) :
    (if focused' = some v then none else focused') = focused.filter (views.erase v).contains ∧
    (if focused = some v then none else focused).filter (views.erase v).contains =
      focused.filter (views.erase v).contains := by
  subst before
  cases focused with
  | none => simp
  | some x =>
    by_cases same : x = v
    · cases there : views.contains v <;> simp [same, there, Option.filter_some, contains_erase]
    · cases there : views.contains x <;> simp [same, there, Option.filter_some, contains_erase]

theorem removeView (half : Half B views p q) (v : ViewId) :
    Half B (views.erase v) (p.removeView v) (q.removeView v) where
  rest := congrArg (fun x : Output => { x with
    paintOrder := (p.removeView v).paintOrder
    creationOrder := (p.removeView v).creationOrder }) half.rest
  paint := (filter_erase half.paint).1.trans (filter_erase half.paint).2.symm
  creation := (filter_erase half.creation).1.trans (filter_erase half.creation).2.symm
  renderer := half.renderer

/-- A view that is not there any more is not missed. -/
theorem removeView_right (half : Half B views p q) (v : ViewId) :
    Half B (views.erase v) p (q.removeView v) :=
  ⟨half.rest, (filter_erase half.paint).1, (filter_erase half.creation).1, half.renderer⟩

/-- A view that was on another output is not missed. -/
theorem erase (half : Half B views p q) {v : ViewId}
    (absent : v ∉ q.paintOrder ∧ v ∉ q.creationOrder) : Half B (views.erase v) p q := by
  have kept {orders : List ViewId} (absent : v ∉ orders) : orders = orders.filter (· ≠ v) :=
    (List.filter_eq_self.2 fun x member => by
      simpa using fun same : x = v => absent (same ▸ member)).symm
  exact ⟨half.rest, (kept absent.1).trans (filter_erase half.paint).1,
    (kept absent.2).trans (filter_erase half.creation).1, half.renderer⟩

end Output.Half

namespace Compositor

variable {A B : Share} {a b d : Compositor} {past past' : List TransportEvent}

section

variable (merged : Merged A B a b d)
include merged

/-- The outputs change on both sides, in a way that the other share does not notice. -/
theorem Merged.mapOutputs {f g : OutputId → Output → Output}
    (left : ∀ o p q, a.outputs.get? o = some p → d.outputs.get? o = some q →
      Output.Half B d.views p q → Output.Half B d.views (f o p) (g o q))
    (right : ∀ o p q, d.outputs.get? o = some q → Output.Half A d.views p q →
      Output.Half A d.views p (g o q))
    (due : ∀ o p q r, a.outputs.get? o = some p → d.outputs.get? o = some r →
      r.pendingRender = (p.pendingRender || q) → (g o r).pendingRender = ((f o p).pendingRender || q)) :
    Merged A B { a with outputs := a.outputs.map f } b { d with outputs := d.outputs.map g } := by
  refine ⟨merged.apart, { merged.left with outputs := fun o => ?_ },
    { merged.right with outputs := fun o => ?_ }, fun o p q r first second third => ?_,
    merged.deferred⟩
  · rw [Table.get?_map, Table.get?_map]
    exact rel_map_both (merged.left.outputs o) (left o)
  · rw [Table.get?_map, ← Option.map_id_apply (x := b.outputs.get? o)]
    exact rel_map_both (merged.right.outputs o) fun p q _ found half => right o p q found half
  · rw [Table.get?_map] at first third
    obtain ⟨p', before, rfl⟩ := Option.map_eq_some_iff.1 first
    obtain ⟨r', before', rfl⟩ := Option.map_eq_some_iff.1 third
    exact due o p' _ r' before before' (merged.due o p' q r' before second before')

theorem Merged.scheduleOutput (o : OutputId) :
    Merged A B (a.scheduleOutput o) b (d.scheduleOutput o) := by
  refine merged.mapOutputs (fun x p q _ _ half => ?_) (fun x p q _ half => ?_)
    fun x p due r _ _ before => ?_
  · split
    · exact half.schedule
    · exact half
  · split
    · exact half.schedule_right
    · exact half
  · split
    · rfl
    · exact before

/-- Images of a surface go on all outputs. -/
theorem Merged.detachImages (orderly : a.Orderly) (orderly' : d.Orderly) {k : SurfaceId}
    (own : k ∈ A.surfaces) :
    Merged A B { a with outputs := a.outputs.map fun _ p => p.detach k } b
      { d with outputs := d.outputs.map fun _ p => p.detach k } := by
  refine merged.mapOutputs (fun x p q found found' half => ?_) (fun x p q found' half => ?_)
    fun x p due r _ _ before => before
  · exact half.detach (fun r => orderly x p r found) (fun r => orderly' x q r found') k
  · exact half.detach_right (fun r => orderly' x q r found') own

theorem Merged.outputOfSurface? (linked : a.Linked) {k : SurfaceId} (own : k ∈ A.surfaces) :
    d.outputOfSurface? k = a.outputOfSurface? k := by
  unfold Compositor.outputOfSurface?
  rw [merged.surface own]
  cases found : a.surfaces.get? k with
  | none => rfl
  | some s =>
    cases shown : s.view with
    | none => simp only [Option.bind_some, shown, Option.bind_none]
    | some v =>
      -- The view of a surface is in the same share.
      obtain ⟨w, there, rfl⟩ := linked.view_exists k s v found shown
      have there' := (merged.left.views v w (merged.apart.surfaces.notMem_of_mem_left own)).2 there
      simp only [Option.bind_some, shown, outputOf?, there, there']

theorem Merged.importContent (linked : a.Linked) (orderly : a.Orderly) (orderly' : d.Orderly)
    {k : SurfaceId} (own : k ∈ A.surfaces) (host : Host) {content content' : Option Buffer}
    (same : content'.map Buffer.calm = content.map Buffer.calm) :
    Merged A B (a.importContent host k content) b (d.importContent host k content') := by
  have shown := merged.outputOfSurface? linked own
  unfold Compositor.importContent
  rw [shown]
  cases a.outputOfSurface? k with
  | none => exact merged
  | some o =>
    simp only [Option.bind_some]
    have rel := merged.left.outputs o
    cases found : a.outputs.get? o with
    | none =>
      rw [found] at rel
      rw [none_of_rel rel]
      exact merged
    | some p =>
      obtain ⟨q, found', half⟩ := found_of_rel_left rel found
      obtain rfl := (linked.output_named o p found).1
      rw [found']
      simp only [half.id]
      have renderers := half.renderer
      cases renderer : p.renderer with
      | none =>
        rw [renderer] at renderers
        simp only [none_of_rel renderers]
        exact merged
      | some r =>
        obtain ⟨r', renderer', kept⟩ := found_of_rel_left renderers renderer
        simp only [renderer']
        -- The images get other names on both sides, but both are imported or none is.
        let done := r.attach host.device a.nextIds.image k content
        let done' := r'.attach host.device d.nextIds.image k content'
        have imported := merged.mapOutputs
          (f := fun x o => if x = p.id then { o with renderer := some done.renderer } else o)
          (g := fun x o => if x = p.id then { o with renderer := some done'.renderer } else o)
          (fun x p' q' there there' half' => ?_) (fun x p' q' there' half' => ?_)
          fun x p' due q' _ _ before => ?_
        · refine Merged.tell ?_ _ _
          exact ⟨imported.apart,
            { imported.left with
              nextIds := congrArg (fun ids : NextIds => { ids with image := done.nextImage })
                merged.left.nextIds },
            { imported.right with nextIds := merged.right.nextIds }, imported.due,
            imported.deferred⟩
        · split
          next here =>
            cases found.symm.trans (here ▸ there)
            cases found'.symm.trans (here ▸ there')
            refine half'.of_renderer rfl rfl (.some ?_)
            exact kept.attach (orderly _ p r found renderer) (orderly' _ q r' found' renderer') _ k same
          next => exact half'
        · split
          next here =>
            cases found'.symm.trans (here ▸ there')
            obtain ⟨r₀, before, kept'⟩ := found_of_rel half'.renderer renderer'
            have same : p' = { p' with renderer := some r₀ } := by rw [← before]
            refine half'.of_renderer same rfl (.some ?_)
            exact kept'.attach_in (orderly' _ q r' found' renderer') own _ _
          next => exact half'
        · split <;> exact before

end

/-! ### Views -/

/-- The compositor without a view in its tables. -/
def unlist (c : Compositor) (v : ViewId) (w : View) : Compositor :=
  { c with
    views := c.views.erase v
    outputs := c.outputs.modifyAt w.output fun p => ((p.removeView v).detach w.surface).schedule
    focused := if c.focused = some v then none else c.focused }

theorem destroyView_eq {c : Compositor} {v : ViewId} {w : View} (found : c.views.get? v = some w) :
    c.destroyView v = (((c.unlist v w).destroyResource w.role).modifySurface w.surface
      fun s => { s with view := none }).tellPolicy (.viewDestroyed v) := by
  simp only [destroyView, discardView_eq found]
  cases w.role <;> cases shown : w.output <;> simp only [unlist, shown] <;> rfl

section

variable (merged : Merged A B a b d) {v : ViewId} {w : View}
include merged

theorem Merged.view (found : a.views.get? v = some w) (own : w.surface ∈ A.surfaces) :
    d.views.get? v = some w :=
  (merged.left.views v w (merged.apart.surfaces.notMem_of_mem_left own)).2 found

theorem Merged.unlist (linked : d.Linked) (orderly : a.Orderly) (orderly' : d.Orderly)
    (found : a.views.get? v = some w) (own : w.surface ∈ A.surfaces) :
    Merged A B (a.unlist v w) b (d.unlist v w) := by
  have found' := merged.view found own
  -- Another output than that of the view does not list it.
  have absent {o : OutputId} {q : Output} (there : d.outputs.get? o = some q)
      (hidden : w.output ≠ some o) : v ∉ q.paintOrder ∧ v ∉ q.creationOrder := by
    have unlisted : v ∉ q.creationOrder := fun listed => by
      obtain ⟨w', same, shown⟩ := (linked.mem_creation o q there v).1 listed
      exact hidden (Option.some.inj (found'.symm.trans same) ▸ shown)
    exact ⟨fun listed => unlisted ((linked.paint_perm o q there).mem_iff.1 listed), unlisted⟩
  refine ⟨merged.apart,
    { merged.left with
      views := fun x w' off => ?_, outputs := fun o => ?_, focused := ?_, roles := ?_ },
    { merged.right with views := fun x w' off => ?_, outputs := fun o => ?_, focused := ?_ },
    fun o p q r first second third => ?_, merged.deferred⟩
  · simp only [Compositor.unlist, Table.get?_erase, Option.ite_none_left_eq_some]
    exact and_congr Iff.rfl (merged.left.views x w' off)
  · simp only [Compositor.unlist, Table.get?_modifyAt]
    split
    · refine rel_map_both (merged.left.outputs o) fun p q first second half => ?_
      have unlisted := half.removeView v
      exact (unlisted.detach (fun r => orderly o p r first) (fun r => orderly' o q r second) _).schedule
    next hidden =>
      rw [← Option.map_id_apply (x := a.outputs.get? o),
        ← Option.map_id_apply (x := d.outputs.get? o)]
      exact rel_map_both (merged.left.outputs o) fun p q _ second half =>
        half.erase (absent second hidden)
  · exact ((Output.Half.focus_erase merged.left.focused).1).trans
      (Output.Half.focus_erase merged.left.focused).2.symm
  · intro x w' there off
    simp only [Compositor.unlist, Table.get?_erase, Option.ite_none_left_eq_some] at there
    exact merged.left.roles x w' there.2 off
  · simp only [Compositor.unlist, Table.get?_erase, Option.ite_none_left_eq_some]
    refine ⟨fun there => (merged.right.views x w' off).1 there.2, fun there => ?_⟩
    have there' := (merged.right.views x w' off).2 there
    refine ⟨?_, there'⟩
    -- The view that goes is of the other share.
    rintro rfl
    exact off (Option.some.inj (found'.symm.trans there') ▸ own)
  · simp only [Compositor.unlist, Table.get?_modifyAt]
    split
    · rw [← Option.map_id_apply (x := b.outputs.get? o)]
      refine rel_map_both (merged.right.outputs o) fun p q _ second half => ?_
      have unlisted := half.removeView_right v
      exact (unlisted.detach_right (fun r => orderly' o q r second) own).schedule_right
    next hidden =>
      rw [← Option.map_id_apply (x := b.outputs.get? o),
        ← Option.map_id_apply (x := d.outputs.get? o)]
      exact rel_map_both (merged.right.outputs o) fun p q _ second half =>
        half.erase (absent second hidden)
  · exact (Output.Half.focus_erase merged.right.focused).1
  · simp only [Compositor.unlist, Table.get?_modifyAt] at first third
    split at first
    next shown =>
      rw [if_pos shown] at third
      obtain ⟨p', -, rfl⟩ := Option.map_eq_some_iff.1 first
      obtain ⟨r', -, rfl⟩ := Option.map_eq_some_iff.1 third
      rfl
    next hidden =>
      rw [if_neg hidden] at third
      exact merged.due o p q r first second third

end

end Compositor

end Compositing
