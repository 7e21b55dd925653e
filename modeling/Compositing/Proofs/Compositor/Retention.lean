import Compositing.Proofs.Compositor.Custody
import Compositing.Proofs.Compositor.Scenes

/-!
# Where pictures come from

An output holds a copy of what was in a buffer when it was imported. So for every surface a request
does one of two things: all outputs that show the surface keep their picture of it, or the buffer that
the surface shows now is imported anew. Only a commit of an attached buffer and a view that moves do
the latter, `Reachable.stays_or_imports`.
-/

namespace Compositing

/-- A surface is drawn on the output as before. -/
structure Output.Alike (p p' : Output) (k : SurfaceId) : Prop where
  picture : p'.picture? k = p.picture? k
  memory : p'.display?.isSome = p.display?.isSome

namespace Output

variable {p p' p'' : Output} {k : SurfaceId}

theorem Alike.trans (first : p.Alike p' k) (second : p'.Alike p'' k) : p.Alike p'' k :=
  ⟨second.picture.trans first.picture, second.memory.trans first.memory⟩

theorem alike_of_renderer (same : p'.renderer = p.renderer) : p.Alike p' k :=
  ⟨by rw [picture?, same, picture?], by rw [display?, same, display?]⟩

/-- Another surface loses its picture. -/
theorem alike_detach {next : ImageId} (sound : p.Sound next) {x : SurfaceId} (other : k ≠ x) :
    p.Alike (p.detach x) k :=
  ⟨by rw [picture?_detach sound, if_neg other], by rw [display?_detach]⟩

/-- Another surface gets another picture. -/
theorem Replaced.alike {x : SurfaceId} {content : Option Buffer}
    (replaced : p.Replaced p' x content) (other : k ≠ x) : p.Alike p' k :=
  ⟨replaced.others k other, by rw [replaced.display]⟩

theorem isSome_of_map {β γ : Type} {x y : Option β} {f : β → γ} (same : x.map f = y.map f) :
    x.isSome = y.isSome := by
  rw [← Option.isSome_map, same, Option.isSome_map]

end Output

namespace Compositor

variable {c c' c'' : Compositor} {k : SurfaceId}

/-- The picture that an import of the buffer which a surface shows would make now. -/
def recorded? (c : Compositor) (k : SurfaceId) : Option Image :=
  ((c.shown k).bind c.buffers.get?).bind Buffer.picture?

/-- Outputs that show the surface showed it before, in its size, and draw it as before. -/
def Stays (c c' : Compositor) (k : SurfaceId) : Prop :=
  ∀ o s' v w' p', Shows c' o k s' v w' → c'.outputs.get? o = some p' →
    ∃ s w p, Shows c o k s v w ∧ s'.size = s.size ∧ c.outputs.get? o = some p ∧ p.Alike p' k

/-- Outputs that show the surface and render in memory draw this of it. -/
def Draws (c : Compositor) (k : SurfaceId) (image : Option Image) : Prop :=
  ∀ o p, c.outputOfSurface? k = some o → c.outputs.get? o = some p →
    p.picture? k = p.display?.bind fun _ => image

theorem Stays.refl (c : Compositor) (k : SurfaceId) : Stays c c k :=
  fun _ s _ w p shows found => ⟨s, w, p, shows, rfl, found, rfl, rfl⟩

theorem Stays.trans (first : Stays c c' k) (second : Stays c' c'' k) : Stays c c'' k := by
  intro o s'' v w'' p'' shows'' found''
  obtain ⟨s', w', p', shows', size', found', alike'⟩ := second o s'' v w'' p'' shows'' found''
  obtain ⟨s, w, p, shows, size, found, alike⟩ := first o s' v w' p' shows' found'
  exact ⟨s, w, p, shows, size'.trans size, found, alike.trans alike'⟩

theorem Draws.stays {image : Option Image} (draws : c.Draws k image) (stays : Stays c c' k) :
    c'.Draws k image := by
  intro o p' shown' found'
  obtain ⟨s', v, w', shows'⟩ := shown_iff.1 shown'
  obtain ⟨s, w, p, shows, -, found, alike⟩ := stays o s' v w' p' shows' found'
  have drawn := draws o p (shown_iff.2 ⟨s, v, w, shows⟩) found
  have memory := alike.memory
  rw [alike.picture, drawn]
  cases before : p.display? <;> cases after : p'.display? <;> simp_all

/-- A surface without a view is shown nowhere. -/
theorem stays_of_bare (bare : ∀ s', c'.surfaces.get? k = some s' → s'.view = none) :
    Stays c c' k := by
  intro o s' v w' p' shows _
  have role := shows.role
  rw [bare s' shows.found] at role
  cases role

/-! ### What a change keeps -/

/-- The surface has the view it had and its size, the view is on the output it was on, and the output
draws the surface as before. -/
theorem stays_of_rel
    (surface : Option.Rel (fun s s' => s'.view = s.view ∧ s'.size = s.size)
      (c.surfaces.get? k) (c'.surfaces.get? k))
    (view : ∀ s v w' o, c.surfaces.get? k = some s → s.view = some v → c'.views.get? v = some w' →
      w'.output = some o → ∃ w, c.views.get? v = some w ∧ w.output = some o)
    (output : ∀ o p', c.outputOfSurface? k = some o → c'.outputs.get? o = some p' →
      ∃ p, c.outputs.get? o = some p ∧ p.Alike p' k) : Stays c c' k := by
  intro o s' v w' p' shows found'
  obtain ⟨s, found, role, size⟩ := found_of_rel surface shows.found
  have role := role.symm.trans shows.role
  obtain ⟨w, there, shown⟩ := view s v w' o found role shows.there shows.output
  have before : Shows c o k s v w := ⟨found, role, there, shown⟩
  obtain ⟨p, drawn, alike⟩ := output o p' (shown_iff.2 ⟨s, v, w, before⟩) found'
  exact ⟨s, w, p, before, size, drawn, alike⟩

theorem surface_of_look (surface : Option.Rel (fun s s' => s'.look = s.look)
    (c.surfaces.get? k) (c'.surfaces.get? k)) :
    Option.Rel (fun s s' => s'.view = s.view ∧ s'.size = s.size)
      (c.surfaces.get? k) (c'.surfaces.get? k) :=
  rel_mono surface fun _ _ _ same => ⟨(looks_eq same).1, (looks_eq same).2.1⟩

/-- A view that looks as before is shown where it was. -/
theorem output_of_look {w w' : View} {o : OutputId} (same : w'.look = w.look)
    (shown : w'.output = some o) : w.output = some o :=
  (View.look_eq_iff.1 same).2.2.1 ▸ shown

theorem SameViews.shown_before (views : SameViews c c') {v : ViewId} {w' : View} {o : OutputId}
    (there : c'.views.get? v = some w') (shown : w'.output = some o) :
    ∃ w, c.views.get? v = some w ∧ w.output = some o := by
  obtain ⟨w, before, same⟩ := found_of_rel (views.output v) there
  exact ⟨w, before, same ▸ shown⟩

/-- Neither surfaces nor views change as far as a frame depends on them. -/
theorem stays_of_looks (surfaces : SameSurfaces c c') (views : SameViews c c')
    (outputs : ∀ o, Option.Rel (fun p p' => p.Alike p' k) (c.outputs.get? o) (c'.outputs.get? o)) :
    Stays c c' k :=
  stays_of_rel (surface_of_look (surfaces k))
    (fun _ _ _ _ _ _ there shown => views.shown_before there shown)
    fun o _ _ => found_of_rel (outputs o)

theorem Quiet.stays (change : Quiet c c') (k : SurfaceId) : Stays c c' k :=
  stays_of_looks change.surfaces change.views fun o =>
    rel_mono (change.outputs o) fun _ _ _ steady => Output.alike_of_renderer steady.renderer

theorem SurfaceAdded.stays (change : SurfaceAdded c c') (k : SurfaceId) : Stays c c' k := by
  by_cases new : k = c.nextIds.surface
  · subst new
    obtain ⟨s, found, look⟩ := change.new
    refine stays_of_bare fun s' found' => ?_
    cases found.symm.trans found'
    exact congrArg (·.2.1) look
  · refine stays_of_rel (surface_of_look (change.surfaces k new)) ?_ ?_
    · exact fun _ _ _ _ _ _ there shown => change.views.shown_before there shown
    · exact fun o p' _ found => ⟨p', change.outputs ▸ found, rfl, rfl⟩

theorem ViewAdded.stays {x : SurfaceId} {t : Surface} (change : ViewAdded c c' x t) (k : SurfaceId) :
    Stays c c' k := by
  by_cases here : k = x
  · -- The new view is shown nowhere yet.
    subst here
    intro o s' v w' p' shows _
    obtain ⟨s, found, look⟩ := found_of_rel (change.surfaces k) shows.found
    rw [if_pos rfl] at look
    obtain ⟨role, -, -⟩ := looks_eq look
    obtain ⟨view, there, fresh⟩ := change.new
    cases (role.symm.trans shows.role)
    cases there.symm.trans shows.there
    have output : w'.output = none := congrArg (·.2.2.1) fresh
    cases output.symm.trans shows.output
  · have surface := rel_mono (change.surfaces k) (S := fun s s' => s'.look = s.look)
      fun s s' _ same => by rwa [if_neg here] at same
    refine stays_of_rel (surface_of_look surface) ?_ ?_
    · intro s v w' o _ _ there shown
      by_cases new : v = c.nextIds.view
      · obtain ⟨view, there', fresh⟩ := change.new
        cases (new ▸ there).symm.trans there'
        have output : w'.output = none := congrArg (·.2.2.1) fresh
        cases output.symm.trans shown
      · obtain ⟨w, before, same⟩ := found_of_rel (change.views v new) there
        exact ⟨w, before, output_of_look same shown⟩
    · exact fun o p' _ found => ⟨p', change.outputs ▸ found, rfl, rfl⟩

section

variable (pictured : c.Pictured)
include pictured

/-- Views that do not leave take no picture with them. -/
theorem alike_of_leaves {v : ViewId} {view : View} {o : OutputId} {p p' : Output}
    (found : c.outputs.get? o = some p) (other : k ≠ view.surface)
    (after : if view.output = some o then p' = ((p.removeView v).detach view.surface).schedule
      else p' = p) : p.Alike p' k := by
  split at after
  · subst after
    have sound : (p.removeView v).Sound c.nextIds.image := (pictured.depicts o p found).sound
    obtain ⟨picture, memory⟩ := Output.alike_detach sound other
    exact ⟨picture, memory⟩
  · exact Output.alike_of_renderer (after ▸ rfl)

theorem ViewGone.stays {v : ViewId} {view : View} (change : ViewGone c c' v view) (k : SurfaceId) :
    Stays c c' k := by
  by_cases here : k = view.surface
  · refine stays_of_bare fun s' found' => ?_
    obtain ⟨s, found, look⟩ := found_of_rel (change.surfaces k) found'
    rw [if_pos here] at look
    exact (looks_eq look).1
  · have surface := rel_mono (change.surfaces k) (S := fun s s' => s'.look = s.look)
      fun s s' _ same => by rwa [if_neg here] at same
    refine stays_of_rel (surface_of_look surface) ?_ ?_
    · intro s w x' o _ _ there shown
      have kept : w ≠ v := fun same => by simp [same, change.gone] at there
      obtain ⟨x, before, same⟩ := found_of_rel (change.views w kept) there
      exact ⟨x, before, output_of_look same shown⟩
    · intro o p' _ found'
      obtain ⟨p, found, after⟩ := found_of_rel (change.outputs o) found'
      exact ⟨p, found, alike_of_leaves pictured found here after⟩

theorem SurfaceGone.stays {x : SurfaceId} {t : Surface} (change : SurfaceGone c c' x t)
    (k : SurfaceId) : Stays c c' k := by
  by_cases here : k = x
  · exact stays_of_bare fun s' found' => by simp [here, change.gone] at found'
  · refine stays_of_rel (surface_of_look (change.surfaces k here)) ?_ ?_
    · exact fun _ _ _ _ _ _ there shown => change.views.shown_before there shown
    · intro o p' _ found'
      obtain ⟨p, found, rfl⟩ := found_of_rel (change.outputs o) found'
      exact ⟨p, found, Output.alike_detach (pictured.depicts o p found).sound here⟩

end

theorem OutputAdded.stays (linked : c.Linked) {q : Output} (change : OutputAdded c c' q)
    (k : SurfaceId) : Stays c c' k := by
  refine stays_of_rel (surface_of_look (change.surfaces k)) ?_ ?_
  · exact fun _ _ _ _ _ _ there shown => change.views.shown_before there shown
  · intro o p' shown found'
    -- Nothing was shown on the new output.
    obtain ⟨s, v, w, shows⟩ := shown_iff.1 shown
    obtain ⟨p, found⟩ := linked.output_exists v w o shows.there shows.output
    have old : o ≠ c.nextIds.output := fun new => by simp [new, linked.output_fresh] at found
    rw [change.outputs, if_neg old] at found'
    exact ⟨p', found', rfl, rfl⟩

theorem OutputGone.stays {o : OutputId} (change : OutputGone c c' o) (k : SurfaceId) :
    Stays c c' k := by
  refine stays_of_rel (surface_of_look (change.surfaces k)) ?_ ?_
  · intro s v w' x _ _ there shown
    obtain ⟨w, before, same⟩ := found_of_rel (change.views v) there
    refine ⟨w, before, ?_⟩
    split at same
    · have output : w'.output = none := (View.look_eq_iff.1 same).2.2.1
      cases output.symm.trans shown
    · exact output_of_look same shown
  · intro x p' _ found'
    rw [change.outputs] at found'
    split at found'
    · cases found'
    · exact ⟨p', found', rfl, rfl⟩

theorem Placed.stays {v : ViewId} {view view' : View} (change : Placed c c' v view view')
    (k : SurfaceId) : Stays c c' k := by
  refine stays_of_rel (surface_of_look (change.surfaces k)) ?_ ?_
  · intro s w x' o _ _ there shown
    obtain ⟨x, before, same⟩ := found_of_rel (change.views w) there
    refine ⟨x, before, ?_⟩
    split at same
    next here =>
      cases (here ▸ before).symm.trans change.found
      rw [← change.output, ← (View.look_eq_iff.1 same).2.2.1, shown]
    next => exact output_of_look same shown
  · intro o p' _ found'
    obtain ⟨p, found, after⟩ := found_of_rel (change.outputs o) found'
    refine ⟨p, found, ?_⟩
    split at after <;> exact Output.alike_of_renderer (after ▸ rfl)

theorem Rearranged.stays {o : OutputId} (change : Rearranged c c' o) (k : SurfaceId) :
    Stays c c' k := by
  refine stays_of_looks change.surfaces change.views fun x =>
    rel_mono (change.outputs x) fun p p' _ after => ?_
  split at after
  · exact ⟨after.2.1 k, Output.isSome_of_map after.2.2.2⟩
  · exact Output.alike_of_renderer (after ▸ rfl)

theorem Rendered.stays {o : OutputId} (change : Rendered c c' o) (k : SurfaceId) : Stays c c' k := by
  refine stays_of_looks change.surfaces change.views fun x =>
    rel_mono (change.outputs x) fun p p' _ after => ?_
  split at after
  · obtain ⟨-, -, -, -, -, pictures, -, size⟩ := after
    exact ⟨pictures k, Output.isSome_of_map size⟩
  · exact Output.alike_of_renderer after.renderer

theorem Minor.stays (linked : c.Linked) (pictured : c.Pictured) (change : Minor c c')
    (k : SurfaceId) : Stays c c' k := by
  cases change with
  | quiet change => exact change.stays k
  | surfaceAdded change => exact change.stays k
  | viewAdded _ _ change => exact change.stays k
  | viewGone _ _ change => exact change.stays pictured k
  | surfaceGone _ _ change => exact change.stays pictured k
  | outputAdded _ change => exact change.stays linked k
  | outputGone _ change => exact change.stays k
  | placed _ _ _ change => exact change.stays k
  | rearranged _ change => exact change.stays k

theorem Minors.stays (linked : c.Linked) (pictured : c.Pictured) (minors : Minors c c')
    (k : SurfaceId) : Stays c c' k := by
  have along : c'.Linked ∧ c'.Pictured ∧ Stays c c' k := by
    -- Links and pictures are carried along, as each change needs them.
    induction minors with
    | refl => exact ⟨linked, pictured, .refl c k⟩
    | tail _ change ih =>
      obtain ⟨linked, pictured, stays⟩ := ih
      exact ⟨linked.change (.minor change), pictured.change linked (.minor change),
        stays.trans (change.stays linked pictured k)⟩
  exact along.2.2

/-! ### Imports -/

theorem shown_eq (c : Compositor) (k : SurfaceId) :
    c.shown k = (c.surfaces.get? k).bind (·.buffer) := by
  cases found : c.surfaces.get? k with
  | none => simp [shown, dues_absent found]
  | some s => simp [shown, dues_found found, Surface.dues]

section

variable (linked : c.Linked) (pictured : c.Pictured) {v : ViewId} {view : View}
  {target : Option OutputId} (change : Moved c c' v view target)

include linked pictured change

theorem Moved.stays (other : k ≠ view.surface) : Stays c c' k := by
  refine stays_of_rel (surface_of_look (change.surfaces k)) ?_ ?_
  · intro s w x' o found role there shown
    -- The view that moved is of the other surface.
    have elsewhere : w ≠ v := fun same => by
      obtain ⟨x, before, surface⟩ := linked.view_exists k s w found role
      cases (same ▸ before).symm.trans change.found
      exact other surface.symm
    obtain ⟨x, before, same⟩ := found_of_rel (change.views w) there
    rw [if_neg elsewhere] at same
    exact ⟨x, before, output_of_look same shown⟩
  · intro o p' _ found'
    obtain ⟨p, found, after⟩ := found_of_rel (change.outputs o) found'
    refine ⟨p, found, ?_⟩
    split at after
    next left => exact alike_of_leaves pictured found other (by rwa [if_pos left])
    next =>
      split at after
      · rcases after.renderer with ⟨same, -⟩ | replaced
        · exact Output.alike_of_renderer same
        · exact (replaced (pictured.depicts o p found).sound).2.alike other
      · exact Output.alike_of_renderer (after ▸ rfl)

/-- The output that the view joined draws what is in the buffer of its surface. -/
theorem Moved.draws : c'.Draws view.surface (c.recorded? view.surface) := by
  intro o p' shown' found'
  obtain ⟨s', w, x', shows⟩ := shown_iff.1 shown'
  obtain ⟨s, there, role⟩ := linked.surface_exists v view change.found
  -- The surface is shown by the view that moved, and so on the output that it joined.
  obtain ⟨s₁, there', same⟩ := found_of_rel_left (change.surfaces view.surface) there
  cases there'.symm.trans shows.found
  cases ((looks_eq same).1.trans role).symm.trans shows.role
  obtain ⟨x, before, moved⟩ := found_of_rel (change.views v) shows.there
  rw [if_pos rfl] at moved
  have joined : target = some o := (View.look_eq_iff.1 moved).2.2.1.symm.trans shows.output
  have elsewhere : view.output ≠ some o := joined ▸ change.away
  obtain ⟨p, found, after⟩ := found_of_rel (change.outputs o) found'
  rw [if_neg elsewhere, if_pos joined] at after
  have depicts := pictured.depicts o p found
  rw [recorded?, shown_eq]
  rcases after.renderer with ⟨same, bare | empty⟩ | replaced
  · simp [Output.picture?, Output.display?, same, bare]
  · have kept : p'.picture? view.surface = p.picture? view.surface := by
      rw [Output.picture?, same, Output.picture?]
    rw [kept, depicts.not_pictured linked change.found elsewhere, empty]
    cases p'.display? <;> rfl
  · obtain ⟨-, replaced⟩ := replaced depicts.sound
    rw [replaced.replaced, replaced.display]

end

section

variable {x : SurfaceId} {s s' : Surface} {content : Option Buffer}
  (change : Committed c c' x s s' content)

include change

/-- The content is that of the buffer that the surface shows now. -/
theorem Committed.content_eq : content = (c'.shown x).bind c.buffers.get? := by
  obtain ⟨t', there, look⟩ := found_of_rel_left (change.surfaces x) change.found
  rw [if_pos rfl] at look
  rw [change.attached, shown_eq, there, Option.bind_some, (looks_eq look).2.2]

variable (pictured : c.Pictured)
include pictured

theorem Committed.stays (other : k ≠ x) : Stays c c' k := by
  have surface := rel_mono (change.surfaces k) (S := fun t t' => t'.look = t.look)
    fun t t' _ same => by rwa [if_neg other] at same
  refine stays_of_rel (surface_of_look surface) ?_ ?_
  · exact fun _ _ _ _ _ _ there shown => change.views.shown_before there shown
  · intro o p' _ found'
    obtain ⟨p, found, after⟩ := found_of_rel (change.outputs o) found'
    refine ⟨p, found, ?_⟩
    split at after
    · exact (after.2 (pictured.depicts o p found).sound).2.alike other
    · exact Output.alike_of_renderer (after ▸ rfl)

/-- The output that shows the surface draws the content. -/
theorem Committed.draws : c'.Draws x (content.bind Buffer.picture?) := by
  intro o p' shown' found'
  obtain ⟨t', v, w', shows⟩ := shown_iff.1 shown'
  obtain ⟨t, found, look⟩ := found_of_rel (change.surfaces x) shows.found
  cases found.symm.trans change.found
  rw [if_pos rfl] at look
  obtain ⟨w, there, output⟩ := found_of_rel (change.views.output v) shows.there
  have role : s.view = some v := change.view.symm.trans ((looks_eq look).1.symm.trans shows.role)
  have shown : c.outputOfSurface? x = some o :=
    shown_iff.2 ⟨s, v, w, found, role, there, output.symm.trans shows.output⟩
  obtain ⟨p, there, after⟩ := found_of_rel (change.outputs o) found'
  rw [if_pos shown] at after
  obtain ⟨-, replaced⟩ := after.2 (pictured.depicts o p there).sound
  rw [replaced.replaced, replaced.display]

end

/-! ### Requests -/

/-- Letting go of one buffer leaves the records of the others. -/
theorem get?_letGo (pool : BufferPool) {b : Option BufferId} {x : BufferId} (other : b ≠ some x) :
    (pool.letGo b).1.get? x = pool.get? x := by
  cases b with
  | none => rfl
  | some b =>
    exact (BufferPool.turn_handle pool (.release b)).get?_other rfl fun same => other (same ▸ rfl)

/-- A commit lets go of another buffer than the one shown from then on. -/
theorem recorded?_commit (host : Host) (k : SurfaceId) :
    (c.handle host (.commit k)).2.recorded? k =
      (((c.handle host (.commit k)).2.shown k).bind c.buffers.get?).bind Buffer.picture? := by
  cases found : c.surfaces.get? k with
  | none => simp only [handle, commitSurface, found, recorded?]
  | some s =>
    -- The buffer let go of is the one shown before, and only if another is shown now.
    have effect := effect_commitSurface found host
    have shown : (c.handle host (.commit k)).2.shown k = s.toShow := by
      simp [Compositor.shown, show (c.handle host (.commit k)).2.dues = _ from effect.dues]
    rw [recorded?, shown, show (c.handle host (.commit k)).2.buffers = _ from effect.buffers]
    cases after : s.toShow with
    | none => rfl
    | some b =>
      rw [Option.bind_some, Option.bind_some, get?_letGo]
      grind

/-- Without an attach a commit leaves what is shown as it was. -/
theorem recorded?_commit_same (host : Host) {k : SurfaceId}
    (idle : ∀ s, c.surfaces.get? k = some s → s.pending.newlyAttached = false) :
    (c.handle host (.commit k)).2.recorded? k = c.recorded? k := by
  cases found : c.surfaces.get? k with
  | none => simp only [handle, commitSurface, found]
  | some s =>
    have effect := effect_commitSurface found host
    have same : s.toShow = s.buffer := by simp [Surface.toShow, idle s found]
    have shown : (c.handle host (.commit k)).2.shown k = c.shown k := by
      simp [Compositor.shown, show (c.handle host (.commit k)).2.dues = _ from effect.dues, same,
        dues_found found, Surface.dues]
    rw [recorded?, shown, show (c.handle host (.commit k)).2.buffers = _ from effect.buffers, same,
      if_pos rfl]
    rfl

theorem recorded?_of_unheard (unheard : Unheard c c') (k : SurfaceId) :
    c'.recorded? k = c.recorded? k := by
  rw [recorded?, shown, unheard.dues, unheard.buffers, recorded?, shown]

/-- The passes of a request to render. -/
theorem stays_passes (held : c.Held) (host : Host) (time : UInt32) (due : List OutputId)
    (k : SurfaceId) : Stays c (due.foldl (fun c id => c.pass host time id) c) k := by
  induction due generalizing c with
  | nil => exact .refl c k
  | cons id due ih =>
    have rendered := c.pass_rendered held host time id
    exact (rendered.stays k).trans (ih (rendered.held held))

/-- A request leaves all pictures of a surface as they were, or they are imported anew. -/
theorem Reachable.stays_or_imports (reached : c.Reachable) (host : Host) (request : Request)
    (k : SurfaceId) :
    (Stays c (c.handle host request).2 k ∧
      (request = .commit k → (c.handle host request).2.recorded? k = c.recorded? k)) ∨
    (c.handle host request).2.Draws k ((c.handle host request).2.recorded? k) := by
  have linked := reached.linked
  have pictured := reached.pictured
  by_cases commits : ∃ x, request = .commit x
  · -- A commit imports what was attached for it, and nothing else.
    obtain ⟨x, rfl⟩ := commits
    rcases commitSurface_cases linked host x with ⟨minors, idle⟩ | ⟨s, s', content, committed⟩
    · refine .inl ⟨minors.stays linked pictured k, fun same => ?_⟩
      cases same
      exact recorded?_commit_same host idle
    · by_cases here : k = x
      · subst here
        rw [recorded?_commit]
        exact .inr (committed.content_eq ▸ committed.draws pictured)
      · exact .inl ⟨committed.stays pictured here, fun same => absurd (by cases same; rfl) here⟩
  by_cases moves : ∃ v target, request = .setViewOutput v target
  · -- A view that moves takes no picture along: the output that it joins imports its own.
    obtain ⟨v, target, rfl⟩ := moves
    have recorded (x) : (c.handle host (.setViewOutput v target)).2.recorded? x = c.recorded? x :=
      recorded?_of_unheard (unheard_setViewOutput host v target) x
    rw [recorded]
    rcases c.setViewOutput_cases host v target with same | ⟨d, view, moved, quiet⟩
    · have same : (c.handle host (.setViewOutput v target)).2 = c := same
      rw [same]
      exact .inl ⟨.refl c k, nofun⟩
    · by_cases here : k = view.surface
      · subst here
        exact .inr ((moved.draws linked pictured).stays (quiet.stays _))
      · exact .inl ⟨(moved.stays linked pictured here).trans (quiet.stays k), nofun⟩
  by_cases renders : ∃ time, request = .render time
  · obtain ⟨time, rfl⟩ := renders
    refine .inl ⟨?_, nofun⟩
    rw [handle_render]
    exact stays_passes reached.held host time _ k
  · have minors := minors_handle linked host request (fun x same => commits ⟨x, same⟩)
      (fun v target same => moves ⟨v, target, same⟩) fun time same => renders ⟨time, same⟩
    exact .inl ⟨minors.stays linked pictured k, fun same => absurd ⟨k, same⟩ commits⟩

end Compositor

end Compositing
