import Compositing.Proofs.Compositor.Scenes
import Compositing.Proofs.Rendering.Layers
import Mathlib.Data.List.Basic

/-!
# The frame of an output

What a render pass on an output would present now, as a function of the state, and what it is made of:
the layers of the views that the output shows, over the background. A pass presents just this frame.
-/

namespace Compositing.Compositor

variable {c c' : Compositor} {p p' : Output}

/-- The frame of an output that renders in memory. -/
def frame? (c : Compositor) (p : Output) : Option Framebuffer :=
  (p.display?.map Prod.fst).map fun size =>
    (Framebuffer.filled size c.config.render.clearColour.pack).drawPictures p.picture?
      (c.paintItems p)

theorem paintItem?_eq_some {v : ViewId} {item : PaintItem} (linked : c.Linked)
    (drawn : c.paintItem? p v = some item) :
    ∃ s, c.surfaces.get? item.surface = some s ∧ s.isMapped = true ∧
      item.placement.size = s.size := by
  rw [paintItem?_eq] at drawn
  obtain ⟨view, -, drawn⟩ := Option.bind_eq_some_iff.1 drawn
  obtain ⟨s, there, drawn⟩ := Option.bind_eq_some_iff.1 drawn
  split at drawn
  next shown =>
    cases drawn
    exact ⟨s, (linked.surface_named _ s there).1.symm ▸ there, shown.2, rfl⟩
  next => simp at drawn

/-- What a screen is told that is handed a frame. -/
def flipEvent (screen : Screen) (frame : Frame) : ScreenEvent :=
  match screen.answer with
  | .ok _ => .flipped screen.name frame
  | .error _ => .flipFailed screen.name

theorem screenEvents_flip (screen : Screen) (frame : Frame) :
    screenEvents (RenderContext.flip screen frame).2 = [flipEvent screen frame] := by
  unfold RenderContext.flip flipEvent
  cases screen.answer <;> rfl

theorem display?_eq_some {size : Size} {degraded : Bool} : p.display? = some (size, degraded) ↔
    ∃ r fb images, p.renderer = some r ∧ r.software? = some (fb, images) ∧ fb.size = size ∧
      r.handle.degraded = degraded := by
  unfold Output.display? Renderer.display?
  constructor
  · intro shown
    obtain ⟨r, renderer, shown⟩ := Option.bind_eq_some_iff.1 shown
    obtain ⟨⟨fb, images⟩, there, same⟩ := Option.map_eq_some_iff.1 shown
    cases same
    exact ⟨r, fb, images, renderer, there, rfl, rfl⟩
  · rintro ⟨r, fb, images, renderer, there, rfl, rfl⟩
    simp [renderer, there]

/-- A pass on an output that renders in memory hands its frame to the screen, unless the screen refused
a frame before. -/
theorem pass_frame (held : c.Held) (pictured : c.Pictured) (host : Host) (time : UInt32)
    {id : OutputId} (found : c.outputs.get? id = some p) {size : Size} {degraded : Bool}
    (display : p.display? = some (size, degraded)) :
    ∃ drawn told, c.frame? p = some drawn ∧ drawn.size = size ∧
      (c.pass host time id).log = c.log ++ told ∧
      screenEvents told = (if degraded then []
        else [flipEvent ⟨p.name, host.screen id⟩ (.pixels size drawn.pixels)]) ∧
      ∃ q, (c.pass host time id).outputs.get? id = some q ∧
        q.display? = some (size, degraded || !(host.screen id).toBool) := by
  obtain ⟨r, fb, images, renderer, there, rfl, rfl⟩ := display?_eq_some.1 display
  obtain ⟨painted, d, config, ⟨q, found', renderer'⟩, told, log, seen⟩ :=
    pass_found held host time found renderer
  obtain ⟨-, software, degraded', events⟩ := Renderer.repaint_software d.contexts host.device
    ⟨p.name, host.screen id⟩ d.config.render.clearColour (c.paintItems p)
    ((pictured.depicts id p found).sound r renderer) there
  have picture : p.picture? = r.picture? := by
    funext k
    simp [Output.picture?, renderer]
  -- The pass begins on a later state, but draws with the colour and the items of this one.
  have frame : c.frame? p = some
      ((fb.fill d.config.render.clearColour.pack).drawPictures r.picture? (c.paintItems p)) := by
    rw [frame?, display, config, picture]
    rfl
  refine ⟨_, told, frame, Framebuffer.size_drawPictures _ _, log, ?_, q, found', ?_⟩
  · rw [seen, repaint, events]
    split
    next => rfl
    next =>
      rw [Framebuffer.size_drawPictures, screenEvents_flip]
      rfl
  · refine display?_eq_some.2 ⟨_, _, images, renderer', software, ?_, degraded'⟩
    exact Framebuffer.size_drawPictures _ _

/-! ### Frames that stay the same -/

theorem frame?_same (config : c'.config = c.config)
    (display : p'.display?.map Prod.fst = p.display?.map Prod.fst)
    (pictures : ∀ k, p'.picture? k = p.picture? k) (items : c'.paintItems p' = c.paintItems p) :
    c'.frame? p' = c.frame? p := by
  have pictures : p'.picture? = p.picture? := funext pictures
  rw [frame?, config, display, pictures, items, frame?]

/-- A view is drawn as before if it is seen at the same place and its surface kept its size. -/
theorem paintItem?_same {v : ViewId} (mask : p'.mask = p.mask)
    (views : Option.Rel (fun w w' => w'.surface = w.surface ∧
      w'.geometry.origin = w.geometry.origin ∧ w'.mask = w.mask) (c.views.get? v) (c'.views.get? v))
    (surfaces : ∀ w, c.views.get? v = some w →
      Option.Rel (fun s s' => s'.id = s.id ∧ s'.size = s.size)
        (c.surfaces.get? w.surface) (c'.surfaces.get? w.surface)) :
    c'.paintItem? p' v = c.paintItem? p v := by
  rw [paintItem?_eq, paintItem?_eq]
  refine bind_of_rel (rel_mono views fun w w' found same => And.intro found same) ?_
  -- The surface is the one the view names, before and after.
  rintro w w' ⟨found, surface, origin, seen⟩
  rw [surface]
  apply bind_of_rel (surfaces w found)
  rintro s s' ⟨id, size⟩
  rw [id, size, origin, seen, mask, Surface.isMapped, size, Surface.isMapped]

theorem paintItems_kept (paint : p'.paintOrder = p.paintOrder)
    (same : ∀ v, v ∈ p.paintOrder → c'.paintItem? p' v = c.paintItem? p v) :
    c'.paintItems p' = c.paintItems p := by
  rw [paintItems, paintItems, paint]
  exact List.filterMap_congr same

theorem SameViews.drawn (views : SameViews c c') (v : ViewId) :
    Option.Rel (fun w w' => w'.surface = w.surface ∧ w'.geometry.origin = w.geometry.origin ∧
      w'.mask = w.mask) (c.views.get? v) (c'.views.get? v) :=
  rel_mono (views v) fun w w' _ same => by
    obtain ⟨-, surface, -, origin, mask⟩ := View.look_eq_iff.1 same
    exact ⟨surface, origin, mask⟩

theorem SameSurfaces.drawn (surfaces : SameSurfaces c c') (k : SurfaceId) :
    Option.Rel (fun s s' => s'.id = s.id ∧ s'.size = s.size)
      (c.surfaces.get? k) (c'.surfaces.get? k) :=
  rel_mono (surfaces k) fun s s' _ same => by
    obtain ⟨id, -, size, -⟩ := Surface.look_eq_iff.1 same
    exact ⟨id, size⟩

theorem paintItems_of_looks (surfaces : SameSurfaces c c') (views : SameViews c c')
    (paint : p'.paintOrder = p.paintOrder) (mask : p'.mask = p.mask) :
    c'.paintItems p' = c.paintItems p := by
  apply paintItems_kept paint
  intro v _
  exact paintItem?_same mask (views.drawn v) fun w _ => surfaces.drawn w.surface

theorem Steady.frame? (surfaces : SameSurfaces c c') (views : SameViews c c')
    (config : c'.config = c.config) (steady : p.Steady p') : c'.frame? p' = c.frame? p := by
  obtain ⟨-, -, -, paint, mask, renderer⟩ := Output.look_eq_iff.1 steady.look
  refine frame?_same config ?_ (fun k => ?_) (paintItems_of_looks surfaces views paint mask)
  · rw [Output.display?, renderer, Output.display?]
  · rw [Output.picture?, renderer, Output.picture?]

/-- A pass leaves the frames of all outputs as they are. -/
theorem Rendered.frame? {o x : OutputId} (rendered : Rendered c c' o)
    (found : c.outputs.get? x = some p) (found' : c'.outputs.get? x = some p') :
    c'.frame? p' = c.frame? p := by
  obtain ⟨q, there, after⟩ := found_of_rel_left (rendered.outputs x) found
  cases found'.symm.trans there
  split at after
  next =>
    obtain ⟨-, -, -, paint, mask, pictures, -, display⟩ := after
    exact frame?_same rendered.config display pictures
      (paintItems_of_looks rendered.surfaces rendered.views paint mask)
  next => exact Steady.frame? rendered.surfaces rendered.views rendered.config after

end Compositing.Compositor
