import Compositing.Proofs.Buffer.Sizes
import Compositing.Proofs.Compositor.Fields
import Compositing.Proofs.Rendering.Pictures

/-!
# What requests do

Every request is a sequence of a few kinds of changes: an object comes or goes, a view moves to another
output, an output draws something else, or nothing happens that could be seen. A change is told by what
is found in the tables afterwards, as far as other objects or a frame depend on it. All that holds at
all times is proved once for each kind.
-/

namespace Compositing

/-! ### What other objects and frames depend on -/

def Surface.look (s : Surface) : SurfaceId × Option ViewId × Size × Option BufferId :=
  (s.id, s.view, s.size, s.buffer)

theorem Surface.look_eq_iff {s s' : Surface} : s'.look = s.look ↔
    s'.id = s.id ∧ s'.view = s.view ∧ s'.size = s.size ∧ s'.buffer = s.buffer := by
  simp [look]

def View.look (v : View) : ViewId × SurfaceId × Option OutputId × Point × UInt32 :=
  (v.id, v.surface, v.output, v.geometry.origin, v.mask)

theorem View.look_eq_iff {v v' : View} : v'.look = v.look ↔ v'.id = v.id ∧ v'.surface = v.surface ∧
    v'.output = v.output ∧ v'.geometry.origin = v.geometry.origin ∧ v'.mask = v.mask := by
  simp [look]

namespace Output

def look (o : Output) :
    OutputId × String × List ViewId × List ViewId × UInt32 × Option Renderer :=
  (o.id, o.name, o.creationOrder, o.paintOrder, o.mask, o.renderer)

theorem look_eq_iff {o o' : Output} : o'.look = o.look ↔ o'.id = o.id ∧ o'.name = o.name ∧
    o'.creationOrder = o.creationOrder ∧ o'.paintOrder = o.paintOrder ∧ o'.mask = o.mask ∧
    o'.renderer = o.renderer := by
  simp [look]

/-- The picture of a surface. -/
def picture? (o : Output) (k : SurfaceId) : Option Image := o.renderer.bind (·.picture? k)

/-- The size of the frames rendered in memory, and whether the screen gets none of them for now. -/
def display? (o : Output) : Option (Size × Bool) := o.renderer.bind (·.display?)

/-- The images of the renderer, if there is one, are in order. -/
def Sound (o : Output) (next : ImageId) : Prop := ∀ r, o.renderer = some r → r.Sound next

theorem Sound.mono {o : Output} {next later : ImageId} (sound : o.Sound next)
    (le : next.number ≤ later.number) : o.Sound later :=
  fun r there => (sound r there).mono le

theorem sound_detach {o : Output} {next : ImageId} (sound : o.Sound next) (k : SurfaceId) :
    (o.detach k).Sound next := by
  intro r there
  obtain ⟨r, before, rfl⟩ := Option.map_eq_some_iff.1 there
  exact Renderer.sound_detach (sound r before) k

theorem picture?_detach {o : Output} {next : ImageId} (sound : o.Sound next) (k x : SurfaceId) :
    (o.detach k).picture? x = if x = k then none else o.picture? x := by
  cases renderer : o.renderer with
  | none => simp [picture?, detach, renderer]
  | some r => simp [picture?, detach, renderer, Renderer.picture?_detach (sound r renderer)]

theorem display?_detach (o : Output) (k : SurfaceId) : (o.detach k).display? = o.display? := by
  cases renderer : o.renderer with
  | none => simp [display?, detach, renderer]
  | some r =>
    simp only [display?, detach, renderer, Option.map_some, Option.bind_some, Renderer.display?,
      Renderer.software?_detach, Renderer.degraded_detach]
    cases r.software? <;> rfl

/-- The output became due, at most. -/
structure Steady (o o' : Output) : Prop where
  look : o'.look = o.look
  pending : o'.pendingRender = false → o.pendingRender = false

theorem Steady.renderer {o o' : Output} (steady : o.Steady o') : o'.renderer = o.renderer :=
  (look_eq_iff.1 steady.look).2.2.2.2.2

theorem Steady.refl (o : Output) : o.Steady o := ⟨rfl, fun rest => rest⟩

theorem Steady.trans {o o' o'' : Output} (first : o.Steady o') (second : o'.Steady o'') :
    o.Steady o'' :=
  ⟨second.look.trans first.look, fun rest => first.pending (second.pending rest)⟩

theorem steady_schedule (o : Output) : o.Steady o.schedule := ⟨rfl, by simp [schedule]⟩

/-- The picture of one surface is that of the content now, if there is one. -/
structure Replaced (o o' : Output) (k : SurfaceId) (content : Option Buffer) : Prop where
  display : o'.display? = o.display?
  others : ∀ x, x ≠ k → o'.picture? x = o.picture? x
  replaced : o'.picture? k = o.display?.bind fun _ => content.bind Buffer.picture?

theorem Replaced.size {o o' : Output} {k : SurfaceId} {content : Option Buffer}
    (replaced : o.Replaced o' k content) {image : Image} (shown : o'.picture? k = some image) :
    ∃ b, content = some b ∧ image.size = b.size := by
  rw [replaced.replaced] at shown
  obtain ⟨_, -, shown⟩ := Option.bind_eq_some_iff.1 shown
  obtain ⟨b, there, picture⟩ := Option.bind_eq_some_iff.1 shown
  exact ⟨b, there, Buffer.picture?_size picture⟩

/-- An import by the renderer is an import by the output. -/
theorem replaced_attach {o o' : Output} {r : Renderer} {next : ImageId} {device : DeviceAnswers}
    {k : SurfaceId} {content : Option Buffer} (renderer : o.renderer = some r)
    (renderer' : o'.renderer = some (r.attach device next k content).renderer)
    (sound : o.Sound next) :
    o'.Sound (r.attach device next k content).nextImage ∧ o.Replaced o' k content := by
  have sound := sound r renderer
  have replaced := Renderer.attach_replaced sound device k content
  refine ⟨?_, ?_, ?_, ?_⟩
  · intro r' there
    cases there.symm.trans renderer'
    exact Renderer.attach_sound sound device k content
  · simpa [display?, renderer, renderer'] using replaced.display
  · intro x other
    simpa [picture?, renderer, renderer'] using replaced.others x other
  · simpa [picture?, display?, renderer, renderer'] using replaced.replaced

end Output

namespace Compositor

/-- Somebody holds every surface. -/
def Held (c : Compositor) : Prop := ∀ k s, c.surfaces.get? k = some s → 0 < s.refCount

/-- What every change keeps: the configuration, the sizes of buffers, that surfaces are held, and that
names are not drawn twice. -/
structure Later (c c' : Compositor) : Prop where
  config : c'.config = c.config
  buffers : c.buffers.Later c'.buffers
  held : c.Held → c'.Held
  nextSurface : c.nextIds.surface.number ≤ c'.nextIds.surface.number
  nextView : c.nextIds.view.number ≤ c'.nextIds.view.number
  nextOutput : c.nextIds.output.number ≤ c'.nextIds.output.number
  nextImage : c.nextIds.image.number ≤ c'.nextIds.image.number

def SameSurfaces (c c' : Compositor) : Prop :=
  ∀ k, Option.Rel (fun s s' => s'.look = s.look) (c.surfaces.get? k) (c'.surfaces.get? k)

def SameViews (c c' : Compositor) : Prop :=
  ∀ v, Option.Rel (fun w w' => w'.look = w.look) (c.views.get? v) (c'.views.get? v)

/-! ### The kinds of changes -/

/-- Nothing that could be seen. Outputs may become due, and the focus may go to another view. -/
structure Quiet (c c' : Compositor) : Prop extends Later c c' where
  surfaces : SameSurfaces c c'
  views : SameViews c c'
  outputs : ∀ o, Option.Rel Output.Steady (c.outputs.get? o) (c'.outputs.get? o)
  order : c'.outputOrder = c.outputOrder
  focused : ∀ v, c'.focused = some v → c.focused = some v ∨ ∃ view, c.views.get? v = some view

/-- A new surface. -/
structure SurfaceAdded (c c' : Compositor) : Prop extends Later c c' where
  fresh : c.nextIds.surface.number < c'.nextIds.surface.number
  new : ∃ s, c'.surfaces.get? c.nextIds.surface = some s ∧
    s.look = (c.nextIds.surface, none, Size.zero, none)
  surfaces : ∀ k, k ≠ c.nextIds.surface →
    Option.Rel (fun s s' => s'.look = s.look) (c.surfaces.get? k) (c'.surfaces.get? k)
  views : SameViews c c'
  outputs : c'.outputs = c.outputs
  order : c'.outputOrder = c.outputOrder
  focused : c'.focused = c.focused

/-- A new view of a surface that had none. -/
structure ViewAdded (c c' : Compositor) (k : SurfaceId) (s : Surface) : Prop extends Later c c' where
  found : c.surfaces.get? k = some s
  bare : s.view = none
  fresh : c.nextIds.view.number < c'.nextIds.view.number
  surfaces : ∀ x, Option.Rel (fun t t' =>
    t'.look = if x = k then { t with view := some c.nextIds.view }.look else t.look)
    (c.surfaces.get? x) (c'.surfaces.get? x)
  new : ∃ view, c'.views.get? c.nextIds.view = some view ∧
    view.look = (c.nextIds.view, k, none, ⟨0, 0⟩, 1)
  views : ∀ v, v ≠ c.nextIds.view →
    Option.Rel (fun w w' => w'.look = w.look) (c.views.get? v) (c'.views.get? v)
  outputs : c'.outputs = c.outputs
  order : c'.outputOrder = c.outputOrder
  focused : c'.focused = c.focused

/-- A view is gone, with its place on its output, its surface's mark and the focus. -/
structure ViewGone (c c' : Compositor) (v : ViewId) (view : View) : Prop extends Later c c' where
  found : c.views.get? v = some view
  surfaces : ∀ k, Option.Rel (fun s s' =>
    s'.look = if k = view.surface then { s with view := none }.look else s.look)
    (c.surfaces.get? k) (c'.surfaces.get? k)
  gone : c'.views.get? v = none
  views : ∀ w, w ≠ v →
    Option.Rel (fun w w' => w'.look = w.look) (c.views.get? w) (c'.views.get? w)
  outputs : ∀ o, Option.Rel (fun p p' =>
    if view.output = some o then p' = ((p.removeView v).detach view.surface).schedule
    else p' = p) (c.outputs.get? o) (c'.outputs.get? o)
  order : c'.outputOrder = c.outputOrder
  focused : c'.focused = if c.focused = some v then none else c.focused

/-- A surface without a view is gone, with its pictures. -/
structure SurfaceGone (c c' : Compositor) (k : SurfaceId) (s : Surface) : Prop extends
    Later c c' where
  found : c.surfaces.get? k = some s
  bare : s.view = none
  gone : c'.surfaces.get? k = none
  surfaces : ∀ x, x ≠ k →
    Option.Rel (fun s s' => s'.look = s.look) (c.surfaces.get? x) (c'.surfaces.get? x)
  views : SameViews c c'
  outputs : ∀ o, Option.Rel (fun p p' => p' = p.detach k) (c.outputs.get? o) (c'.outputs.get? o)
  order : c'.outputOrder = c.outputOrder
  focused : c'.focused = c.focused

/-- The output shows one view more, on top, with the picture that it imported. -/
structure Joined (c c' : Compositor) (v : ViewId) (view : View) (p p' : Output) : Prop where
  named : p'.id = p.id
  creation : p'.creationOrder = (p.addView v).creationOrder
  paint : p'.paintOrder = (p.addView v).paintOrder
  pending : p'.pendingRender = true
  renderer :
    let content := ((c.surfaces.get? view.surface).bind (·.buffer)).bind c.buffers.get?
    p'.renderer = p.renderer ∧ (p.renderer = none ∨ content = none) ∨
      (p.Sound c.nextIds.image → p'.Sound c'.nextIds.image ∧ p.Replaced p' view.surface content)

/-- An import keeps the size of the frames, and whether the screen takes them. -/
theorem Joined.display {c c' : Compositor} {v : ViewId} {view : View} {p p' : Output}
    (joined : Joined c c' v view p p') (sound : p.Sound c.nextIds.image) : p'.display? = p.display? := by
  rcases joined.renderer with ⟨same, -⟩ | replaced
  · rw [Output.display?, same, Output.display?]
  · exact (replaced sound).2.display

/-- A view left the output that showed it, and joined another. -/
structure Moved (c c' : Compositor) (v : ViewId) (view : View) (target : Option OutputId) : Prop
    extends Later c c' where
  found : c.views.get? v = some view
  away : view.output ≠ target
  there : ∀ o, target = some o → ∃ p, c.outputs.get? o = some p
  surfaces : SameSurfaces c c'
  views : ∀ w, Option.Rel (fun x x' =>
    x'.look = if w = v then { x with output := target }.look else x.look)
    (c.views.get? w) (c'.views.get? w)
  outputs : ∀ o, Option.Rel (fun p p' =>
    if view.output = some o then p' = ((p.removeView v).detach view.surface).schedule
    else if target = some o then Joined c c' v view p p' else p' = p)
    (c.outputs.get? o) (c'.outputs.get? o)
  order : c'.outputOrder = c.outputOrder
  focused : c'.focused = c.focused

/-- A new output, which is due and shows nothing. -/
structure OutputAdded (c c' : Compositor) (p : Output) : Prop extends Later c c' where
  fresh : c.nextIds.output.number < c'.nextIds.output.number
  named : p.id = c.nextIds.output
  creation : p.creationOrder = []
  paint : p.paintOrder = []
  pending : p.pendingRender = true
  sound : p.Sound c'.nextIds.image
  pictures : ∀ k, p.picture? k = none
  display : ∀ d, p.display? = some d → d.2 = false
  surfaces : SameSurfaces c c'
  views : SameViews c c'
  outputs : ∀ o, c'.outputs.get? o = if o = c.nextIds.output then some p else c.outputs.get? o
  order : c'.outputOrder = c.outputOrder ++ [c.nextIds.output]
  focused : c'.focused = c.focused

/-- An output is gone, and its views are shown nowhere. -/
structure OutputGone (c c' : Compositor) (o : OutputId) : Prop extends Later c c' where
  surfaces : SameSurfaces c c'
  views : ∀ v, Option.Rel (fun view view' =>
    view'.look = if view.output = some o then { view with output := none }.look else view.look)
    (c.views.get? v) (c'.views.get? v)
  outputs : ∀ x, c'.outputs.get? x = if x = o then none else c.outputs.get? x
  order : c'.outputOrder = c.outputOrder.filter (· ≠ o)
  focused : c'.focused = c.focused

/-- The output has the same views and became due, whatever they look like now. -/
structure Redrawn (p p' : Output) : Prop where
  named : p'.id = p.id
  creation : p'.creationOrder = p.creationOrder
  paint : p'.paintOrder.Perm p.paintOrder
  pending : p'.pendingRender = true

/-- A surface shows the content of another buffer, or none. -/
structure Committed (c c' : Compositor) (k : SurfaceId) (s s' : Surface) (content : Option Buffer) :
    Prop extends Later c c' where
  found : c.surfaces.get? k = some s
  named : s'.id = s.id
  view : s'.view = s.view
  size : s'.size = content.elim Size.zero (·.size)
  attached : content = s'.buffer.bind c.buffers.get?
  surfaces : ∀ x, Option.Rel (fun t t' => t'.look = if x = k then s'.look else t.look)
    (c.surfaces.get? x) (c'.surfaces.get? x)
  views : SameViews c c'
  outputs : ∀ o, Option.Rel (fun p p' =>
    if c.outputOfSurface? k = some o then Redrawn p p' ∧
      (p.Sound c.nextIds.image → p'.Sound c'.nextIds.image ∧ p.Replaced p' k content)
    else p' = p) (c.outputs.get? o) (c'.outputs.get? o)
  order : c'.outputOrder = c.outputOrder
  focused : c'.focused = c.focused

/-- A view is shown elsewhere on its output, or seen by other outputs. -/
structure Placed (c c' : Compositor) (v : ViewId) (view view' : View) : Prop extends
    Later c c' where
  found : c.views.get? v = some view
  named : view'.id = view.id
  surface : view'.surface = view.surface
  output : view'.output = view.output
  surfaces : SameSurfaces c c'
  views : ∀ w, Option.Rel (fun x x' => x'.look = if w = v then view'.look else x.look)
    (c.views.get? w) (c'.views.get? w)
  outputs : ∀ o, Option.Rel (fun p p' => if view.output = some o then p' = p.schedule else p' = p)
    (c.outputs.get? o) (c'.outputs.get? o)
  order : c'.outputOrder = c.outputOrder
  focused : c'.focused = c.focused

/-- An output shows its views in another order, in frames of another size, or other ones of them. -/
structure Rearranged (c c' : Compositor) (o : OutputId) : Prop extends Later c c' where
  surfaces : SameSurfaces c c'
  views : SameViews c c'
  outputs : ∀ x, Option.Rel (fun p p' =>
    if x = o then Redrawn p p' ∧ (∀ k, p'.picture? k = p.picture? k) ∧
      (∀ next, p.Sound next → p'.Sound next) ∧
      p'.display?.map Prod.snd = p.display?.map Prod.snd
    else p' = p) (c.outputs.get? x) (c'.outputs.get? x)
  order : c'.outputOrder = c.outputOrder
  focused : c'.focused = c.focused

/-- An output was rendered. -/
structure Rendered (c c' : Compositor) (o : OutputId) : Prop extends Later c c' where
  surfaces : SameSurfaces c c'
  views : SameViews c c'
  outputs : ∀ x, Option.Rel (fun p p' =>
    if x = o then p'.id = p.id ∧ p'.name = p.name ∧ p'.creationOrder = p.creationOrder ∧
      p'.paintOrder = p.paintOrder ∧ p'.mask = p.mask ∧ (∀ k, p'.picture? k = p.picture? k) ∧
      (∀ next, p.Sound next → p'.Sound next) ∧
      p'.display?.map Prod.fst = p.display?.map Prod.fst
    else p.Steady p') (c.outputs.get? x) (c'.outputs.get? x)
  order : c'.outputOrder = c.outputOrder
  focused : ∀ v, c'.focused = some v → c.focused = some v ∨ ∃ view, c.views.get? v = some view

/-- A change that imports no picture: those that stay are as they were. -/
inductive Minor (c c' : Compositor) : Prop
  | quiet (change : Quiet c c')
  | surfaceAdded (change : SurfaceAdded c c')
  | viewAdded (k : SurfaceId) (s : Surface) (change : ViewAdded c c' k s)
  | viewGone (v : ViewId) (view : View) (change : ViewGone c c' v view)
  | surfaceGone (k : SurfaceId) (s : Surface) (change : SurfaceGone c c' k s)
  | outputAdded (p : Output) (change : OutputAdded c c' p)
  | outputGone (o : OutputId) (change : OutputGone c c' o)
  | placed (v : ViewId) (view view' : View) (change : Placed c c' v view view')
  | rearranged (o : OutputId) (change : Rearranged c c' o)

/-- A change of one of these kinds, other than a render pass. -/
inductive Change (c c' : Compositor) : Prop
  | minor (change : Minor c c')
  | moved (v : ViewId) (view : View) (target : Option OutputId) (change : Moved c c' v view target)
  | committed (k : SurfaceId) (s s' : Surface) (content : Option Buffer)
    (change : Committed c c' k s s' content)

end Compositor

end Compositing
