import Compositing.Proofs.Compositor.Effects

/-!
# How the objects of the compositor are linked

Surfaces name their views, views their surfaces and outputs, outputs the views they show, and the
compositor the focused view. `Linked` says that these names agree with each other. It holds at the
beginning, and every kind of change keeps it.
-/

namespace Compositing

/-- What a surface tells of the other objects. -/
def Surface.links (s : Surface) : SurfaceId × Option ViewId := (s.id, s.view)

def View.links (v : View) : ViewId × SurfaceId × Option OutputId := (v.id, v.surface, v.output)

namespace Compositor

/-- The names that the objects keep of each other agree. -/
structure Linked (c : Compositor) : Prop where
  order_nodup : c.outputOrder.Nodup
  mem_order : ∀ o, o ∈ c.outputOrder ↔ ∃ output, c.outputs.get? o = some output
  creation_nodup : ∀ o output, c.outputs.get? o = some output → output.creationOrder.Nodup
  paint_perm : ∀ o output, c.outputs.get? o = some output →
    output.paintOrder.Perm output.creationOrder
  mem_creation : ∀ o output, c.outputs.get? o = some output → ∀ v, v ∈ output.creationOrder ↔
    ∃ view, c.views.get? v = some view ∧ view.output = some o
  output_exists : ∀ v view o, c.views.get? v = some view → view.output = some o →
    ∃ output, c.outputs.get? o = some output
  surface_exists : ∀ v view, c.views.get? v = some view →
    ∃ s, c.surfaces.get? view.surface = some s ∧ s.view = some v
  view_exists : ∀ k s v, c.surfaces.get? k = some s → s.view = some v →
    ∃ view, c.views.get? v = some view ∧ view.surface = k
  focus_exists : ∀ v, c.focused = some v → ∃ view, c.views.get? v = some view
  surface_named : ∀ k s, c.surfaces.get? k = some s →
    s.id = k ∧ k.number < c.nextIds.surface.number
  view_named : ∀ v view, c.views.get? v = some view → view.id = v ∧ v.number < c.nextIds.view.number
  output_named : ∀ o output, c.outputs.get? o = some output →
    output.id = o ∧ o.number < c.nextIds.output.number

/-- Nothing that links the objects changed, but the order in which an output stacks its views, and
perhaps the focus. -/
structure SameLinks (c c' : Compositor) : Prop where
  surfaces : ∀ k, Option.Rel (fun s s' => s'.links = s.links) (c.surfaces.get? k) (c'.surfaces.get? k)
  views : ∀ v, Option.Rel (fun w w' => w'.links = w.links) (c.views.get? v) (c'.views.get? v)
  outputs : ∀ o, Option.Rel (fun p p' => p'.id = p.id ∧ p'.creationOrder = p.creationOrder ∧
    p'.paintOrder.Perm p.paintOrder) (c.outputs.get? o) (c'.outputs.get? o)
  order : c'.outputOrder = c.outputOrder
  focused : ∀ v, c'.focused = some v → c.focused = some v ∨ ∃ view, c.views.get? v = some view
  nextSurface : c.nextIds.surface.number ≤ c'.nextIds.surface.number
  nextView : c.nextIds.view.number ≤ c'.nextIds.view.number
  nextOutput : c.nextIds.output.number ≤ c'.nextIds.output.number

/-- At the beginning there are no objects. -/
theorem start_linked (config : Config) (contexts : Contexts) :
    ({ config, contexts } : Compositor).Linked := by
  constructor <;> simp

/-! ### Links that are there before and after -/

theorem surfaceLinks_of_look {s s' : Surface} (same : s'.look = s.look) : s'.links = s.links :=
  congrArg (fun l => (l.1, l.2.1)) same

theorem viewLinks_of_look {w w' : View} (same : w'.look = w.look) : w'.links = w.links :=
  congrArg (fun l => (l.1, l.2.1, l.2.2.1)) same

theorem filter_ne_of_not_mem {l : List ViewId} {v : ViewId} (absent : v ∉ l) :
    l.filter (· ≠ v) = l :=
  List.filter_eq_self.2 fun w member => by
    have other : w ≠ v := fun same => absent (same ▸ member)
    simpa using other

variable {c c' : Compositor}

theorem Linked.same (linked : c.Linked) (same : SameLinks c c') : c'.Linked := by
  -- Each table is read in both directions: what is there now was there, and what was there still is.
  have surface {k s} (found : c'.surfaces.get? k = some s) := found_of_rel (same.surfaces k) found
  have surface' {k s} (found : c.surfaces.get? k = some s) :=
    found_of_rel_left (same.surfaces k) found
  have view {v w} (found : c'.views.get? v = some w) := found_of_rel (same.views v) found
  have view' {v w} (found : c.views.get? v = some w) := found_of_rel_left (same.views v) found
  have output {o p} (found : c'.outputs.get? o = some p) := found_of_rel (same.outputs o) found
  have output' {o p} (found : c.outputs.get? o = some p) := found_of_rel_left (same.outputs o) found
  obtain ⟨-, -, -, order, focused, nextSurface, nextView, nextOutput⟩ := same
  obtain ⟨order_nodup, mem_order, creation_nodup, paint_perm, mem_creation, output_exists,
    surface_exists, view_exists, focus_exists, surface_named, view_named, output_named⟩ := linked
  simp only [Surface.links, View.links, Prod.mk.injEq] at *
  constructor
  -- The order of stacking may have changed, so this is the one part that is not the same.
  case paint_perm =>
    intro o p found
    obtain ⟨q, there, _, creation, paint⟩ := output found
    exact creation ▸ paint.trans (paint_perm o q there)
  case creation_nodup =>
    intro o p found
    obtain ⟨q, there, _, creation, _⟩ := output found
    exact creation ▸ creation_nodup o q there
  case surface_named =>
    intro k s found
    obtain ⟨t, there, named, _⟩ := surface found
    obtain ⟨before, less⟩ := surface_named k t there
    exact ⟨named ▸ before, Nat.lt_of_lt_of_le less nextSurface⟩
  case view_named =>
    intro v w found
    obtain ⟨x, there, named, _⟩ := view found
    obtain ⟨before, less⟩ := view_named v x there
    exact ⟨named ▸ before, Nat.lt_of_lt_of_le less nextView⟩
  case output_named =>
    intro o p found
    obtain ⟨q, there, named, _⟩ := output found
    obtain ⟨before, less⟩ := output_named o q there
    exact ⟨named ▸ before, Nat.lt_of_lt_of_le less nextOutput⟩
  all_goals grind

/-! ### Changes that keep the links -/

theorem Quiet.sameLinks (change : Quiet c c') : SameLinks c c' where
  surfaces k := rel_mono (change.surfaces k) fun _ _ _ => surfaceLinks_of_look
  views v := rel_mono (change.views v) fun _ _ _ => viewLinks_of_look
  outputs o := by
    apply rel_mono (change.outputs o)
    intro p p' _ steady
    obtain ⟨named, -, creation, paint, -⟩ := Output.look_eq_iff.1 steady.look
    exact ⟨named, creation, paint ▸ .refl _⟩
  order := change.order
  focused := change.focused
  nextSurface := change.nextSurface
  nextView := change.nextView
  nextOutput := change.nextOutput

theorem Committed.sameLinks {k : SurfaceId} {s s' : Surface} {content : Option Buffer}
    (change : Committed c c' k s s' content) : SameLinks c c' where
  surfaces x := by
    apply rel_mono (change.surfaces x)
    intro t t' found after
    split at after
    next here =>
      subst here
      cases found.symm.trans change.found
      rw [surfaceLinks_of_look after, Surface.links, change.named, change.view, Surface.links]
    next => exact surfaceLinks_of_look after
  views v := rel_mono (change.views v) fun _ _ _ => viewLinks_of_look
  outputs o := by
    apply rel_mono (change.outputs o)
    intro p p' _ after
    split at after
    · exact ⟨after.1.named, after.1.creation, after.1.paint⟩
    · exact after ▸ ⟨rfl, rfl, .refl _⟩
  order := change.order
  focused v there := .inl (change.focused ▸ there)
  nextSurface := change.nextSurface
  nextView := change.nextView
  nextOutput := change.nextOutput

theorem Placed.sameLinks {v : ViewId} {view view' : View} (change : Placed c c' v view view') :
    SameLinks c c' where
  surfaces k := rel_mono (change.surfaces k) fun _ _ _ => surfaceLinks_of_look
  views w := by
    apply rel_mono (change.views w)
    intro x x' found after
    split at after
    next here =>
      subst here
      cases found.symm.trans change.found
      rw [viewLinks_of_look after, View.links, change.named, change.surface, change.output,
        View.links]
    next => exact viewLinks_of_look after
  outputs o := by
    apply rel_mono (change.outputs o)
    intro p p' _ after
    split at after <;> exact after ▸ ⟨rfl, rfl, .refl _⟩
  order := change.order
  focused v there := .inl (change.focused ▸ there)
  nextSurface := change.nextSurface
  nextView := change.nextView
  nextOutput := change.nextOutput

theorem Rearranged.sameLinks {o : OutputId} (change : Rearranged c c' o) : SameLinks c c' where
  surfaces k := rel_mono (change.surfaces k) fun _ _ _ => surfaceLinks_of_look
  views v := rel_mono (change.views v) fun _ _ _ => viewLinks_of_look
  outputs x := by
    apply rel_mono (change.outputs x)
    intro p p' _ after
    split at after
    · exact ⟨after.1.named, after.1.creation, after.1.paint⟩
    · exact after ▸ ⟨rfl, rfl, .refl _⟩
  order := change.order
  focused v there := .inl (change.focused ▸ there)
  nextSurface := change.nextSurface
  nextView := change.nextView
  nextOutput := change.nextOutput

theorem Rendered.sameLinks {o : OutputId} (change : Rendered c c' o) : SameLinks c c' where
  surfaces k := rel_mono (change.surfaces k) fun _ _ _ => surfaceLinks_of_look
  views v := rel_mono (change.views v) fun _ _ _ => viewLinks_of_look
  outputs x := by
    apply rel_mono (change.outputs x)
    intro p p' _ after
    split at after
    · obtain ⟨named, -, creation, paint, -⟩ := after
      exact ⟨named, creation, paint ▸ .refl _⟩
    · obtain ⟨named, -, creation, paint, -⟩ := Output.look_eq_iff.1 after.look
      exact ⟨named, creation, paint ▸ .refl _⟩
  order := change.order
  focused := change.focused
  nextSurface := change.nextSurface
  nextView := change.nextView
  nextOutput := change.nextOutput

/-! ### Changes to the links -/

section

variable (linked : c.Linked)
include linked

theorem Linked.surface_fresh : c.surfaces.get? c.nextIds.surface = none := by
  cases found : c.surfaces.get? c.nextIds.surface with
  | none => rfl
  | some s => exact absurd (linked.surface_named _ s found).2 (Nat.lt_irrefl _)

theorem Linked.view_fresh : c.views.get? c.nextIds.view = none := by
  cases found : c.views.get? c.nextIds.view with
  | none => rfl
  | some w => exact absurd (linked.view_named _ w found).2 (Nat.lt_irrefl _)

theorem Linked.output_fresh : c.outputs.get? c.nextIds.output = none := by
  cases found : c.outputs.get? c.nextIds.output with
  | none => rfl
  | some o => exact absurd (linked.output_named _ o found).2 (Nat.lt_irrefl _)

theorem Linked.surfaceAdded (change : SurfaceAdded c c') : c'.Linked := by
  have fresh := linked.surface_fresh
  obtain ⟨s, there, look⟩ := change.new
  have links : s.links = (c.nextIds.surface, none) := by simp_all [Surface.look, Surface.links]
  have surfaces {k} (other : k ≠ c.nextIds.surface) :=
    rel_mono (change.surfaces k other) fun _ _ _ => surfaceLinks_of_look
  have views (v) := rel_mono (change.views v) fun _ _ _ => viewLinks_of_look
  -- A surface found afterwards is the new one or an old one.
  have surface {k s'} (found : c'.surfaces.get? k = some s') : (k = c.nextIds.surface ∧ s' = s) ∨
      ∃ t, c.surfaces.get? k = some t ∧ s'.links = t.links := by
    by_cases new : k = c.nextIds.surface
    · exact .inl ⟨new, by simp_all⟩
    · exact .inr (found_of_rel (surfaces new) found)
  have surface' {k t} (found : c.surfaces.get? k = some t) :=
    found_of_rel_left (surfaces fun new => by simp [new, fresh] at found) found
  have view {v w'} (found : c'.views.get? v = some w') := found_of_rel (views v) found
  have view' {v w} (found : c.views.get? v = some w) := found_of_rel_left (views v) found
  obtain ⟨⟨-, -, -, nextSurface, nextView, nextOutput, -⟩, less, -, -, -, outputs, order, focused⟩ :=
    change
  clear surfaces views
  obtain ⟨order_nodup, mem_order, creation_nodup, paint_perm, mem_creation, output_exists,
    surface_exists, view_exists, focus_exists, surface_named, view_named, output_named⟩ := linked
  simp only [Surface.links, View.links, Prod.mk.injEq] at *
  constructor
  all_goals grind

theorem Linked.viewAdded {k : SurfaceId} {s : Surface} (change : ViewAdded c c' k s) :
    c'.Linked := by
  have fresh := linked.view_fresh
  obtain ⟨w, there, look⟩ := change.new
  have links : w.links = (c.nextIds.view, k, none) := by simp_all [View.look, View.links]
  -- The surface of the view is the only one whose links change.
  have surfaces (x) := rel_mono (change.surfaces x) (S := fun t t' =>
      t'.id = t.id ∧ t'.view = if x = k then some c.nextIds.view else t.view) fun t t' _ same => by
    split at same <;> simp_all [Surface.look]
  have views {v} (other : v ≠ c.nextIds.view) :=
    rel_mono (change.views v other) fun _ _ _ => viewLinks_of_look
  have surface {x t'} (found : c'.surfaces.get? x = some t') := found_of_rel (surfaces x) found
  have surface' {x t} (found : c.surfaces.get? x = some t) := found_of_rel_left (surfaces x) found
  -- A view found afterwards is the new one or an old one.
  have view {v w'} (found : c'.views.get? v = some w') : (v = c.nextIds.view ∧ w' = w) ∨
      ∃ x, c.views.get? v = some x ∧ w'.links = x.links := by
    by_cases new : v = c.nextIds.view
    · exact .inl ⟨new, by simp_all⟩
    · exact .inr (found_of_rel (views new) found)
  have view' {v x} (found : c.views.get? v = some x) :=
    found_of_rel_left (views fun new => by simp [new, fresh] at found) found
  obtain ⟨⟨-, -, -, nextSurface, nextView, nextOutput, -⟩, there, bare, less, -, -, -, outputs, order,
    focused⟩ := change
  clear surfaces views
  obtain ⟨order_nodup, mem_order, creation_nodup, paint_perm, mem_creation, output_exists,
    surface_exists, view_exists, focus_exists, surface_named, view_named, output_named⟩ := linked
  simp only [View.links, Prod.mk.injEq] at *
  constructor
  all_goals grind

/-- Only the output that shows a view has it in its orders. -/
theorem Linked.not_listed {v : ViewId} {view : View} {o : OutputId} {p : Output}
    (there : c.views.get? v = some view) (found : c.outputs.get? o = some p)
    (elsewhere : view.output ≠ some o) : v ∉ p.creationOrder ∧ v ∉ p.paintOrder := by
  rw [(linked.paint_perm o p found).mem_iff, and_self, linked.mem_creation o p found]
  rintro ⟨view', again, shown⟩
  cases there.symm.trans again
  exact elsewhere shown

/-- An output that did not show the view loses nothing either when the view goes. -/
theorem ViewGone.orders {v : ViewId} {gone : View} (change : ViewGone c c' v gone) (o : OutputId) :
    Option.Rel (fun p p' => p'.id = p.id ∧ p'.creationOrder = p.creationOrder.filter (· ≠ v) ∧
      p'.paintOrder = p.paintOrder.filter (· ≠ v)) (c.outputs.get? o) (c'.outputs.get? o) := by
  apply rel_mono (change.outputs o)
  intro p p' found after
  split at after
  next =>
    subst after
    exact ⟨rfl, rfl, rfl⟩
  next elsewhere =>
    obtain ⟨absent, absent'⟩ := linked.not_listed change.found found elsewhere
    rw [filter_ne_of_not_mem absent, filter_ne_of_not_mem absent', after]
    exact ⟨rfl, rfl, rfl⟩

/-- The output that the view joins has it on top, and no other output has it. -/
theorem Moved.orders {v : ViewId} {gone : View} {target : Option OutputId}
    (change : Moved c c' v gone target) (o : OutputId) :
    Option.Rel (fun p p' => p'.id = p.id ∧
      p'.creationOrder = (if target = some o then p.creationOrder ++ [v]
        else p.creationOrder.filter (· ≠ v)) ∧
      p'.paintOrder = (if target = some o then p.paintOrder ++ [v]
        else p.paintOrder.filter (· ≠ v))) (c.outputs.get? o) (c'.outputs.get? o) := by
  apply rel_mono (change.outputs o)
  intro p p' found after
  split at after
  next left =>
    have other : target ≠ some o := fun same => change.away (left.trans same.symm)
    subst after
    simp only [other, if_false]
    exact ⟨rfl, rfl, rfl⟩
  next elsewhere =>
    obtain ⟨absent, absent'⟩ := linked.not_listed change.found found elsewhere
    split at after
    next joined =>
      simp only [joined, if_true, after.named, after.creation, after.paint, Output.addView, absent,
        if_false, and_self]
    next other =>
      subst after
      simp only [other, if_false, filter_ne_of_not_mem absent, filter_ne_of_not_mem absent', and_self]

theorem Linked.viewGone {v : ViewId} {gone : View} (change : ViewGone c c' v gone) : c'.Linked := by
  have surfaces (k) := rel_mono (change.surfaces k) (S := fun s s' =>
      s'.id = s.id ∧ s'.view = if k = gone.surface then none else s.view) fun s s' _ same => by
    split at same <;> simp_all [Surface.look]
  have views {w} (other : w ≠ v) :=
    rel_mono (change.views w other) fun _ _ _ => viewLinks_of_look
  have surface {k s'} (found : c'.surfaces.get? k = some s') := found_of_rel (surfaces k) found
  have surface' {k s} (found : c.surfaces.get? k = some s) := found_of_rel_left (surfaces k) found
  -- No view found afterwards is the one that went.
  have view {w x'} (found : c'.views.get? w = some x') : w ≠ v ∧
      ∃ x, c.views.get? w = some x ∧ x'.links = x.links := by
    have other : w ≠ v := fun same => by simp [same, change.gone] at found
    exact ⟨other, found_of_rel (views other) found⟩
  have view' {w x} (found : c.views.get? w = some x) (other : w ≠ v) :=
    found_of_rel_left (views other) found
  have outputs := change.orders linked
  have output {o p'} (found : c'.outputs.get? o = some p') := found_of_rel (outputs o) found
  have output' {o p} (found : c.outputs.get? o = some p) := found_of_rel_left (outputs o) found
  obtain ⟨⟨-, -, -, nextSurface, nextView, nextOutput, -⟩, there, -, -, -, -, order, focused⟩ :=
    change
  clear surfaces views outputs
  obtain ⟨order_nodup, mem_order, creation_nodup, paint_perm, mem_creation, output_exists,
    surface_exists, view_exists, focus_exists, surface_named, view_named, output_named⟩ := linked
  simp only [View.links, Prod.mk.injEq] at *
  constructor
  case creation_nodup =>
    intro o p found
    obtain ⟨q, there, _, creation, _⟩ := output found
    rw [creation]
    exact (creation_nodup o q there).filter _
  case paint_perm =>
    intro o p found
    obtain ⟨q, there, _, creation, paint⟩ := output found
    rw [creation, paint]
    exact (paint_perm o q there).filter _
  case mem_creation =>
    intro o p found w
    obtain ⟨q, there, _, creation, _⟩ := output found
    rw [creation, List.mem_filter, mem_creation o q there]
    grind
  -- The surface of the view names none any more, and no other surface named it.
  case view_exists =>
    intro k s w found role
    obtain ⟨t, old, named, bare⟩ := surface found
    have elsewhere : k ≠ gone.surface := fun same => by simp [bare, same] at role
    obtain ⟨x, old', shown⟩ := view_exists k t w old (by simpa [bare, elsewhere] using role)
    have other : w ≠ v := fun same => elsewhere (by simp_all)
    obtain ⟨x', new, _, same, _⟩ := view' old' other
    exact ⟨x', new, same.trans shown⟩
  -- The focus is lost with the view.
  case focus_exists =>
    intro w there
    rw [focused] at there
    split at there
    next => simp at there
    next unfocused =>
      obtain ⟨x, old⟩ := focus_exists w there
      obtain ⟨x', new, _⟩ := view' old fun same => unfocused (same ▸ there)
      exact ⟨x', new⟩
  all_goals grind

/-- The surface has no view, so nothing refers to it. -/
theorem Linked.surfaceGone {k : SurfaceId} {s : Surface} (change : SurfaceGone c c' k s) :
    c'.Linked := by
  have surfaces {x} (other : x ≠ k) :=
    rel_mono (change.surfaces x other) fun _ _ _ => surfaceLinks_of_look
  have views (v) := rel_mono (change.views v) fun _ _ _ => viewLinks_of_look
  have surface {x t'} (found : c'.surfaces.get? x = some t') : x ≠ k ∧
      ∃ t, c.surfaces.get? x = some t ∧ t'.links = t.links := by
    have other : x ≠ k := fun same => by simp [same, change.gone] at found
    exact ⟨other, found_of_rel (surfaces other) found⟩
  have surface' {x t} (found : c.surfaces.get? x = some t) (other : x ≠ k) :=
    found_of_rel_left (surfaces other) found
  have view {v w'} (found : c'.views.get? v = some w') := found_of_rel (views v) found
  have view' {v w} (found : c.views.get? v = some w) := found_of_rel_left (views v) found
  have outputs (o) := rel_mono (change.outputs o) (S := fun p p' => p'.id = p.id ∧
    p'.creationOrder = p.creationOrder ∧ p'.paintOrder = p.paintOrder) fun p p' _ after =>
      after ▸ ⟨rfl, rfl, rfl⟩
  have output {o p'} (found : c'.outputs.get? o = some p') := found_of_rel (outputs o) found
  have output' {o p} (found : c.outputs.get? o = some p) := found_of_rel_left (outputs o) found
  obtain ⟨⟨-, -, -, nextSurface, nextView, nextOutput, -⟩, there, bare, -, -, -, -, order, focused⟩ :=
    change
  clear surfaces views outputs
  obtain ⟨order_nodup, mem_order, creation_nodup, paint_perm, mem_creation, output_exists,
    surface_exists, view_exists, focus_exists, surface_named, view_named, output_named⟩ := linked
  simp only [Surface.links, View.links, Prod.mk.injEq] at *
  constructor
  -- A view of the surface would be named by it.
  case surface_exists =>
    intro v w' found
    obtain ⟨w, old, _, same, _⟩ := view found
    obtain ⟨t, old', role⟩ := surface_exists v w old
    have other : w.surface ≠ k := fun here => by simp_all
    obtain ⟨t', new, _, kept⟩ := surface' old' other
    exact ⟨t', same ▸ new, kept.trans role⟩
  all_goals grind

theorem Linked.moved {v : ViewId} {gone : View} {target : Option OutputId}
    (change : Moved c c' v gone target) : c'.Linked := by
  have away := change.away
  have surfaces (k) := rel_mono (change.surfaces k) fun _ _ _ => surfaceLinks_of_look
  have views (w) := rel_mono (change.views w) (S := fun x x' => x'.id = x.id ∧
      x'.surface = x.surface ∧ x'.output = if w = v then target else x.output) fun x x' _ same => by
    split at same <;> simp_all [View.look]
  have outputs := change.orders linked
  have absent {o p} (found : c.outputs.get? o = some p) (elsewhere : gone.output ≠ some o) :=
    (linked.not_listed change.found found elsewhere).1
  have surface {k s'} (found : c'.surfaces.get? k = some s') := found_of_rel (surfaces k) found
  have surface' {k s} (found : c.surfaces.get? k = some s) := found_of_rel_left (surfaces k) found
  have view {w x'} (found : c'.views.get? w = some x') := found_of_rel (views w) found
  have view' {w x} (found : c.views.get? w = some x) := found_of_rel_left (views w) found
  have output {o p'} (found : c'.outputs.get? o = some p') := found_of_rel (outputs o) found
  have output' {o p} (found : c.outputs.get? o = some p) := found_of_rel_left (outputs o) found
  obtain ⟨⟨-, -, -, nextSurface, nextView, nextOutput, -⟩, found, -, there, -, -, -, order, focused⟩ :=
    change
  clear surfaces views outputs
  obtain ⟨order_nodup, mem_order, creation_nodup, paint_perm, mem_creation, output_exists,
    surface_exists, view_exists, focus_exists, surface_named, view_named, output_named⟩ := linked
  simp only [Surface.links, Prod.mk.injEq] at *
  constructor
  case creation_nodup =>
    intro o p found'
    obtain ⟨q, old, _, creation, _⟩ := output found'
    rw [creation]
    split
    next joined =>
      -- The output that is joined did not have the view.
      have fresh := absent old fun same => away (same.trans joined.symm)
      have others (w) (member : w ∈ q.creationOrder) : w ≠ v := ne_of_mem_of_not_mem member fresh
      simpa [List.nodup_append, creation_nodup o q old] using others
    next => exact (creation_nodup o q old).filter _
  case paint_perm =>
    intro o p found'
    obtain ⟨q, old, _, creation, paint⟩ := output found'
    rw [creation, paint]
    split
    next => exact (paint_perm o q old).append_right _
    next => exact (paint_perm o q old).filter _
  case mem_creation =>
    intro o p found' w
    obtain ⟨q, old, _, creation, _⟩ := output found'
    rw [creation]
    split
    next joined => grind [mem_creation o q old w]
    next => grind [mem_creation o q old w]
  all_goals grind

theorem Linked.outputAdded {p : Output} (change : OutputAdded c c' p) : c'.Linked := by
  have fresh := linked.output_fresh
  have absent : c.nextIds.output ∉ c.outputOrder := by simp [linked.mem_order, fresh]
  have surfaces (k) := rel_mono (change.surfaces k) fun _ _ _ => surfaceLinks_of_look
  have views (v) := rel_mono (change.views v) fun _ _ _ => viewLinks_of_look
  have surface {k s'} (found : c'.surfaces.get? k = some s') := found_of_rel (surfaces k) found
  have surface' {k s} (found : c.surfaces.get? k = some s) := found_of_rel_left (surfaces k) found
  have view {v w'} (found : c'.views.get? v = some w') := found_of_rel (views v) found
  have view' {v w} (found : c.views.get? v = some w) := found_of_rel_left (views v) found
  obtain ⟨⟨-, -, -, nextSurface, nextView, nextOutput, -⟩, less, named, creation, paint, -, -, -, -, -,
    -, outputs, order, focused⟩ := change
  clear surfaces views
  obtain ⟨order_nodup, mem_order, creation_nodup, paint_perm, mem_creation, output_exists,
    surface_exists, view_exists, focus_exists, surface_named, view_named, output_named⟩ := linked
  simp only [Surface.links, View.links, Prod.mk.injEq] at *
  constructor
  -- The new name was not among the outputs yet.
  case order_nodup =>
    rw [order]
    simpa [List.nodup_append, order_nodup] using fun o member => ne_of_mem_of_not_mem member absent
  all_goals grind

theorem Linked.outputGone {o : OutputId} (change : OutputGone c c' o) : c'.Linked := by
  have surfaces (k) := rel_mono (change.surfaces k) fun _ _ _ => surfaceLinks_of_look
  have views (v) := rel_mono (change.views v) (S := fun w w' => w'.id = w.id ∧
      w'.surface = w.surface ∧ w'.output = if w.output = some o then none else w.output)
    fun w w' _ same => by split at same <;> simp_all [View.look]
  have surface {k s'} (found : c'.surfaces.get? k = some s') := found_of_rel (surfaces k) found
  have surface' {k s} (found : c.surfaces.get? k = some s) := found_of_rel_left (surfaces k) found
  have view {v w'} (found : c'.views.get? v = some w') := found_of_rel (views v) found
  have view' {v w} (found : c.views.get? v = some w) := found_of_rel_left (views v) found
  obtain ⟨⟨-, -, -, nextSurface, nextView, nextOutput, -⟩, -, -, outputs, order, focused⟩ := change
  clear surfaces views
  obtain ⟨order_nodup, mem_order, creation_nodup, paint_perm, mem_creation, output_exists,
    surface_exists, view_exists, focus_exists, surface_named, view_named, output_named⟩ := linked
  simp only [Surface.links, Prod.mk.injEq] at *
  constructor
  case order_nodup => exact order ▸ order_nodup.filter _
  all_goals grind

/-- Every change keeps the links. -/
theorem Linked.change (change : Change c c') : c'.Linked := by
  cases change with
  | moved v view target change => exact linked.moved change
  | committed k s s' content change => exact linked.same change.sameLinks
  | minor change => cases change with
    | quiet change => exact linked.same change.sameLinks
    | surfaceAdded change => exact linked.surfaceAdded change
    | viewAdded k s change => exact linked.viewAdded change
    | viewGone v view change => exact linked.viewGone change
    | surfaceGone k s change => exact linked.surfaceGone change
    | outputAdded p change => exact linked.outputAdded change
    | outputGone o change => exact linked.outputGone change
    | placed v view view' change => exact linked.same change.sameLinks
    | rearranged o change => exact linked.same change.sameLinks

theorem Linked.rendered {o : OutputId} (change : Rendered c c' o) : c'.Linked :=
  linked.same change.sameLinks

end

end Compositor

end Compositing
