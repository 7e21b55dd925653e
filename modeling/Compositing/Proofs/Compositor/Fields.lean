import Compositing.Compositor.Request
import Compositing.Proofs.Lookups

/-!
# What an operation leaves alone

The parts of the compositor that the operations on protocol objects, on client buffers and on single
objects do not change, and what the longer operations do to each table. Later proofs read the tables
through these statements and do not open the operations again.
-/

namespace Compositing

namespace Compositor

variable (c : Compositor)

/-! ### Protocol objects and buffers -/

@[simp] theorem tell_fields (events : List Event) :
    (c.tell events).config = c.config ∧ (c.tell events).contexts = c.contexts ∧
    (c.tell events).buffers = c.buffers ∧ (c.tell events).surfaces = c.surfaces ∧
    (c.tell events).views = c.views ∧ (c.tell events).outputs = c.outputs ∧
    (c.tell events).outputOrder = c.outputOrder ∧ (c.tell events).focused = c.focused ∧
    (c.tell events).nextIds = c.nextIds ∧ (c.tell events).log = c.log ++ events := by simp [tell]

@[simp] theorem tellTransport_fields (event : TransportEvent) :
    (c.tellTransport event).config = c.config ∧ (c.tellTransport event).contexts = c.contexts ∧
    (c.tellTransport event).buffers = c.buffers ∧ (c.tellTransport event).surfaces = c.surfaces ∧
    (c.tellTransport event).views = c.views ∧ (c.tellTransport event).outputs = c.outputs ∧
    (c.tellTransport event).outputOrder = c.outputOrder ∧
    (c.tellTransport event).focused = c.focused ∧
    (c.tellTransport event).nextIds = c.nextIds := by simp [tellTransport]

@[simp] theorem tellPolicy_fields (event : PolicyEvent) :
    (c.tellPolicy event).config = c.config ∧ (c.tellPolicy event).contexts = c.contexts ∧
    (c.tellPolicy event).buffers = c.buffers ∧ (c.tellPolicy event).surfaces = c.surfaces ∧
    (c.tellPolicy event).views = c.views ∧ (c.tellPolicy event).outputs = c.outputs ∧
    (c.tellPolicy event).outputOrder = c.outputOrder ∧ (c.tellPolicy event).focused = c.focused ∧
    (c.tellPolicy event).nextIds = c.nextIds := by simp [tellPolicy]

@[simp] theorem own_fields (handle : Handle) (owner : Owner) :
    (c.own handle owner).config = c.config ∧ (c.own handle owner).contexts = c.contexts ∧
    (c.own handle owner).buffers = c.buffers ∧ (c.own handle owner).surfaces = c.surfaces ∧
    (c.own handle owner).views = c.views ∧ (c.own handle owner).outputs = c.outputs ∧
    (c.own handle owner).outputOrder = c.outputOrder ∧ (c.own handle owner).focused = c.focused ∧
    (c.own handle owner).nextIds = c.nextIds := by simp [own]

@[simp] theorem disown_fields (handle : Handle) :
    (c.disown handle).config = c.config ∧ (c.disown handle).contexts = c.contexts ∧
    (c.disown handle).buffers = c.buffers ∧ (c.disown handle).surfaces = c.surfaces ∧
    (c.disown handle).views = c.views ∧ (c.disown handle).outputs = c.outputs ∧
    (c.disown handle).outputOrder = c.outputOrder ∧ (c.disown handle).focused = c.focused ∧
    (c.disown handle).nextIds = c.nextIds := by simp [disown]

@[simp] theorem destroyResource_fields (handle : Option Handle) :
    (c.destroyResource handle).config = c.config ∧
    (c.destroyResource handle).contexts = c.contexts ∧
    (c.destroyResource handle).buffers = c.buffers ∧
    (c.destroyResource handle).surfaces = c.surfaces ∧ (c.destroyResource handle).views = c.views ∧
    (c.destroyResource handle).outputs = c.outputs ∧
    (c.destroyResource handle).outputOrder = c.outputOrder ∧
    (c.destroyResource handle).focused = c.focused ∧
    (c.destroyResource handle).nextIds = c.nextIds := by
  cases handle <;> simp [destroyResource]

@[simp] theorem createResource_fields (host : Host) (kind : ResourceKind) (client : ClientId)
    (id : UInt32) (what : String) :
    (c.createResource host kind client id what).2.config = c.config ∧
    (c.createResource host kind client id what).2.contexts = c.contexts ∧
    (c.createResource host kind client id what).2.buffers = c.buffers ∧
    (c.createResource host kind client id what).2.surfaces = c.surfaces ∧
    (c.createResource host kind client id what).2.views = c.views ∧
    (c.createResource host kind client id what).2.outputs = c.outputs ∧
    (c.createResource host kind client id what).2.outputOrder = c.outputOrder ∧
    (c.createResource host kind client id what).2.focused = c.focused ∧
    (c.createResource host kind client id what).2.nextIds = c.nextIds := by
  unfold createResource
  split <;> simp

@[simp] theorem modifySurface_fields (id : SurfaceId) (f : Surface → Surface) :
    (c.modifySurface id f).config = c.config ∧ (c.modifySurface id f).contexts = c.contexts ∧
    (c.modifySurface id f).buffers = c.buffers ∧ (c.modifySurface id f).views = c.views ∧
    (c.modifySurface id f).outputs = c.outputs ∧
    (c.modifySurface id f).outputOrder = c.outputOrder ∧
    (c.modifySurface id f).focused = c.focused ∧ (c.modifySurface id f).nextIds = c.nextIds ∧
    (c.modifySurface id f).surfaces = c.surfaces.modify id f := by
  simp [modifySurface]

@[simp] theorem modifyView_fields (id : ViewId) (f : View → View) :
    (c.modifyView id f).config = c.config ∧ (c.modifyView id f).contexts = c.contexts ∧
    (c.modifyView id f).buffers = c.buffers ∧ (c.modifyView id f).surfaces = c.surfaces ∧
    (c.modifyView id f).outputs = c.outputs ∧ (c.modifyView id f).outputOrder = c.outputOrder ∧
    (c.modifyView id f).focused = c.focused ∧ (c.modifyView id f).nextIds = c.nextIds ∧
    (c.modifyView id f).views = c.views.modify id f := by
  simp [modifyView]

@[simp] theorem modifyOutput_fields (id : OutputId) (f : Output → Output) :
    (c.modifyOutput id f).config = c.config ∧ (c.modifyOutput id f).contexts = c.contexts ∧
    (c.modifyOutput id f).buffers = c.buffers ∧ (c.modifyOutput id f).surfaces = c.surfaces ∧
    (c.modifyOutput id f).views = c.views ∧ (c.modifyOutput id f).outputOrder = c.outputOrder ∧
    (c.modifyOutput id f).focused = c.focused ∧ (c.modifyOutput id f).nextIds = c.nextIds ∧
    (c.modifyOutput id f).outputs = c.outputs.modify id f := by
  simp [modifyOutput]

@[simp] theorem releaseBuffer_fields (buffer : BufferId) :
    (c.releaseBuffer buffer).config = c.config ∧ (c.releaseBuffer buffer).contexts = c.contexts ∧
    (c.releaseBuffer buffer).surfaces = c.surfaces ∧ (c.releaseBuffer buffer).views = c.views ∧
    (c.releaseBuffer buffer).outputs = c.outputs ∧
    (c.releaseBuffer buffer).outputOrder = c.outputOrder ∧
    (c.releaseBuffer buffer).focused = c.focused ∧ (c.releaseBuffer buffer).nextIds = c.nextIds := by
  unfold releaseBuffer
  split <;> simp

@[simp] theorem renderComplete_fields (buffer : BufferId) :
    (c.renderComplete buffer).config = c.config ∧ (c.renderComplete buffer).contexts = c.contexts ∧
    (c.renderComplete buffer).surfaces = c.surfaces ∧ (c.renderComplete buffer).views = c.views ∧
    (c.renderComplete buffer).outputs = c.outputs ∧
    (c.renderComplete buffer).outputOrder = c.outputOrder ∧
    (c.renderComplete buffer).focused = c.focused ∧
    (c.renderComplete buffer).nextIds = c.nextIds := by
  unfold renderComplete
  split <;> simp

/-! ### Texts of views -/

/-- A view gets a text, or nothing changes. -/
theorem setViewText_eq (host : Host) (v : ViewId) (what text : String) (set : View → View) :
    (c.setViewText host v what text set).2 = c.modifyView v set ∨
      (c.setViewText host v what text set).2 = c := by
  unfold setViewText
  split
  · split
    · exact .inr rfl
    · exact .inl rfl
  · exact .inr rfl

/-! ### Replies -/

theorem settle_snd {α : Type} (reply : α → Reply) (result : Except CompositorError α × Compositor) :
    (settle reply result).2 = result.2 := by
  unfold settle
  split <;> rfl

end Compositor

end Compositing
