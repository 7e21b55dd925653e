import Compositing.Compositor.Outputs
import Compositing.Compositor.Surfaces

/-!
# Render passes and hit testing

A render pass draws the visible views of an output from bottom to top, each at its origin and in the
size of its surface. A view is found under a point by the same rectangles, from the top.
-/

namespace Compositing.Compositor

def paintedArea (view : View) (surface : Surface) : Placement := ⟨view.geometry.origin, surface.size⟩

/-- The surface of a view that has something to show. -/
def mappedSurface? (c : Compositor) (view : View) : Option Surface :=
  (c.surfaces.get? view.surface).filter (·.isMapped)

/-- What an output draws for a view, if the view can be seen on it. -/
def paintItem? (c : Compositor) (output : Output) (id : ViewId) : Option PaintItem := do
  let view ← c.views.get? id
  guard (view.visibleOn output.mask)
  let surface ← c.mappedSurface? view
  -- The size is that of the surface. The size in the geometry does not stretch it.
  return ⟨surface.id, paintedArea view surface⟩

/-- What an output draws, from bottom to top. -/
def paintItems (c : Compositor) (output : Output) : List PaintItem :=
  output.paintOrder.filterMap (c.paintItem? output)

def takesInput (c : Compositor) (output : Output) (x y : Int32) (id : ViewId) : Bool :=
  match (c.views.get? id).filter (·.visibleOn output.mask) with
  | none => false
  | some view =>
    match c.mappedSurface? view with
    | none => false
    | some surface =>
      let area := paintedArea view surface
      let localX := x.toInt - area.origin.x.toInt
      let localY := y.toInt - area.origin.y.toInt
      -- A difference that is no coordinate is outside the input region.
      area.contains x y && localX < 2147483648 && localY < 2147483648 &&
        surface.committed.inputRegion.contains (Int32.ofInt localX) (Int32.ofInt localY)

def viewAt? (c : Compositor) (output : OutputId) (x y : Int32) : Option ViewId :=
  (c.outputs.get? output).bind fun o => o.paintOrder.reverse.find? (c.takesInput o x y)

/-! ### Render passes -/

/-- A pass begins to read what a surface shows. Gives the buffer, if the surface has one. -/
def beginItem (c : Compositor) (item : PaintItem) : Option BufferId × Compositor :=
  match c.surfaces.get? item.surface with
  | none => (none, c)
  | some s =>
    let c := c.modifySurface item.surface Surface.acquire
    match s.buffer with
    | none => (none, c)
    | some buffer =>
      match c.buffers.markBusy buffer with
      | .ok (_, buffers) => (some buffer, { c with buffers })
      | .error _ => (none, c)

/-- A pass begins to read what all its items show. Gives the buffers. -/
def beginItems (c : Compositor) (items : List PaintItem) : List BufferId × Compositor :=
  items.foldl
    (fun (busy, c) item =>
      let (buffer, c) := c.beginItem item
      (busy ++ buffer.toList, c))
    ([], c)

/-- The frame of a surface was handled: its damage is taken, its callbacks are fired. -/
def finishItem (c : Compositor) (time : UInt32) (item : PaintItem) : Compositor :=
  match c.surfaces.get? item.surface with
  | none => c
  | some s =>
    let (callbacks, s) := s.takeDamage.2.takeCallbacks
    callbacks.foldl
      (fun c callback =>
        (c.tell ((Surface.fireCallback callback time).map .transport)).disown callback)
      (c.modifySurface item.surface fun _ => s)

/-- Draws the items on an output. Gives whether the pass went well. -/
def repaintOutput (c : Compositor) (host : Host) (id : OutputId) (items : List PaintItem) :
    Bool × Compositor :=
  match c.outputs.get? id with
  | none => (true, c)
  | some output =>
    match output.renderer with
    | none => (true, c)
    | some renderer =>
      let screen : Screen := ⟨output.name, host.screen id⟩
      let pass :=
        renderer.repaint c.contexts host.device screen c.config.render.clearColour items
      let c := c.modifyOutput id fun o => { o with renderer := some pass.renderer }
      (pass.result.toBool, { c with contexts := pass.contexts }.tell pass.events)

/-- The rest of a pass that has begun to read what its items show: it draws, and gives back what it took.
Gives whether it went well. -/
def completePass (c : Compositor) (host : Host) (id : OutputId) (time : UInt32)
    (items : List PaintItem) (busy : List BufferId) : Bool × Compositor :=
  let (well, c) := c.repaintOutput host id items
  -- What follows is done after a failed pass too, and after one whose frame was not shown.
  let c := busy.foldl renderComplete c
  let c := items.foldl (fun c item => c.finishItem time item) c
  -- The pass held the surfaces; one that was given up meanwhile is freed here.
  (well, items.foldl (fun c item => c.releaseSurface item.surface) c)

/-- Runs a render pass on an output. Gives whether it went well. -/
def renderOutput (c : Compositor) (host : Host) (id : OutputId) (time : UInt32) :
    Bool × Compositor :=
  match (c.outputs.get? id).filter (·.renderer.isSome) with
  | none => (false, c)
  | some output =>
    let items := c.paintItems output
    let (busy, c) := c.beginItems items
    c.completePass host id time items busy

def isDue (o : Output) : Bool := o.pendingRender && !o.sleeping

/-- The outputs that are due, in the order they were added. -/
def dueOutputs (c : Compositor) : List OutputId :=
  c.outputOrder.filter fun id => (c.outputs.get? id).any isDue

/-- Runs a render pass on every output that is due. Gives how many went well. -/
def renderOutputs (c : Compositor) (host : Host) (time : UInt32) : Nat × Compositor :=
  c.dueOutputs.foldl
    (fun (count, c) id =>
      -- The flag falls before the pass, so what is scheduled in between stays due.
      let c := c.modifyOutput id fun o => { o with pendingRender := false }
      let (well, c) := c.renderOutput host id time
      (count + well.toNat, c))
    (0, c)

end Compositing.Compositor
