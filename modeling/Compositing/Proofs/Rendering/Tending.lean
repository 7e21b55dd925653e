import Compositing.Proofs.Rendering.Pictures
import Mathlib.Logic.Relation

/-!
# What is done with a renderer between its passes

Between render passes an output drops and imports images, and changes the size of its frames. It goes on
with the same context: `id_tended`. The names of its new images are drawn meanwhile: `named_tended`.
-/

namespace Compositing.Renderer

/-- One step of work with a renderer and the name for the next image. Names are drawn for the images of
all outputs, so the next one may have moved on. -/
inductive Touched : Renderer × ImageId → Renderer × ImageId → Prop
  | detach (r : Renderer) (next : ImageId) (k : SurfaceId) : Touched (r, next) (r.detach k, next)
  | attach (r : Renderer) (next : ImageId) (device : DeviceAnswers) (k : SurfaceId)
    (content : Option Buffer) : Touched (r, next)
      ((r.attach device next k content).renderer, (r.attach device next k content).nextImage)
  | resize (r : Renderer) (next : ImageId) (device : DeviceAnswers) (size : Size) :
    Touched (r, next) ((r.resize device size).1, next)
  | later (r : Renderer) {next next' : ImageId} (le : next.number ≤ next'.number) :
    Touched (r, next) (r, next')

/-- Steps one after the other. -/
abbrev Tended : Renderer × ImageId → Renderer × ImageId → Prop := Relation.ReflTransGen Touched

/-! ### The context of a renderer -/

theorem id_onCanvas (ctx : RenderContext) (device : DeviceAnswers) (call : DeviceCall)
    (work : Canvas → Except RenderError Canvas) :
    (ctx.onCanvas device call work).context.id = ctx.id := by
  rcases ctx.onCanvas_context device call work with same | ⟨canvas, done, -, -, after⟩
  · rw [same]
  · rw [after]
    unfold RenderContext.withCanvas
    split <;> rfl

theorem id_destroyImage (ctx : RenderContext) (image : ImageId) :
    (ctx.destroyImage image).2.id = ctx.id := by
  unfold RenderContext.destroyImage
  split <;> rfl

theorem id_createImage (ctx : RenderContext) (device : DeviceAnswers) (image : ImageId) (b : Buffer) :
    (ctx.createImage device image b).context.id = ctx.id := by
  have kept := id_onCanvas ctx device (.importBuffer b.id) fun canvas => canvas.createImage image b
  unfold RenderContext.createImage
  simp only
  split <;> exact kept

theorem id_detach (r : Renderer) (k : SurfaceId) : (r.detach k).handle.id = r.handle.id := by
  unfold detach
  split
  · exact id_destroyImage _ _
  · rfl

theorem id_attach (r : Renderer) (device : DeviceAnswers) (next : ImageId) (k : SurfaceId)
    (content : Option Buffer) :
    (r.attach device next k content).renderer.handle.id = r.handle.id := by
  unfold attach
  cases content with
  | none => exact r.id_detach k
  | some b =>
    have kept := (id_createImage (r.detach k).handle.context device next b).trans (r.id_detach k)
    simp only
    split <;> exact kept

theorem id_tended {r r' : Renderer} {next next' : ImageId} (tended : Tended (r, next) (r', next')) :
    r'.handle.id = r.handle.id := by
  have run (s s' : Renderer × ImageId) (tended : Tended s s') : s'.1.handle.id = s.1.handle.id := by
    induction tended with
    | refl => rfl
    | tail _ touched ih =>
      refine Eq.trans ?_ ih
      cases touched with
      | detach r _ k => exact r.id_detach k
      | attach r next device k content => exact r.id_attach device next k content
      | resize r _ device size => exact id_onCanvas r.handle.context device _ _
      | later => rfl
  exact run _ _ tended

/-! ### The names of images -/

theorem named_attach (r : Renderer) (device : DeviceAnswers) (next : ImageId) (k : SurfaceId)
    (content : Option Buffer) {x : SurfaceId} {i : ImageId}
    (there : (r.attach device next k content).renderer.images.get? x = some i) :
    r.images.get? x = some i ∨
      (x = k ∧ i = next ∧ (r.attach device next k content).nextImage = next.next) := by
  have old (left : (r.detach k).images.get? x = some i) : r.images.get? x = some i := by
    rw [images_detach, Option.ite_none_left_eq_some] at left
    exact left.2
  unfold attach at there ⊢
  cases content with
  | none => exact .inl (old there)
  | some b =>
    simp only at there ⊢
    split at there
    · simp only [Table.get?_insert] at there
      split at there
      next here => exact .inr ⟨here, (Option.some.inj there).symm, rfl⟩
      next => exact .inl (old there)
    · exact .inl (old there)

/-- The names of images that a step brings are drawn in it. -/
theorem named_touched {s s' : Renderer × ImageId} (touched : Touched s s') :
    s.2.number ≤ s'.2.number ∧ ∀ k i, s'.1.images.get? k = some i →
      s.1.images.get? k = some i ∨ s.2.number ≤ i.number ∧ i.number < s'.2.number := by
  cases touched with
  | detach r next k =>
    refine ⟨Nat.le_refl _, fun x i there => .inl ?_⟩
    rw [images_detach, Option.ite_none_left_eq_some] at there
    exact there.2
  | attach r next device k content =>
    refine ⟨r.nextImage_attach device k content, fun x i there => ?_⟩
    obtain old | ⟨-, rfl, drawn⟩ := r.named_attach device next k content there
    · exact .inl old
    · exact .inr ⟨Nat.le_refl _, drawn ▸ Nat.lt_succ_self _⟩
  | resize => exact ⟨Nat.le_refl _, fun _ _ => .inl⟩
  | later r le => exact ⟨le, fun _ _ => .inl⟩

theorem named_tended {r r' : Renderer} {next next' : ImageId} (tended : Tended (r, next) (r', next'))
    {k : SurfaceId} {i : ImageId} (there : r'.images.get? k = some i) :
    r.images.get? k = some i ∨ next.number ≤ i.number ∧ i.number < next'.number := by
  have run (s s' : Renderer × ImageId) (tended : Tended s s') : s.2.number ≤ s'.2.number ∧
      ∀ k i, s'.1.images.get? k = some i →
        s.1.images.get? k = some i ∨ s.2.number ≤ i.number ∧ i.number < s'.2.number := by
    induction tended with
    | refl => exact ⟨Nat.le_refl _, fun _ _ => .inl⟩
    | tail _ touched ih =>
      obtain ⟨le, named⟩ := named_touched touched
      refine ⟨Nat.le_trans ih.1 le, fun x j there => ?_⟩
      rcases named x j there with between | new
      · exact (ih.2 x j between).imp_right fun new => ⟨new.1, Nat.lt_of_lt_of_le new.2 le⟩
      · exact .inr ⟨Nat.le_trans ih.1 new.1, new.2⟩
  exact (run _ _ tended).2 k i there

end Compositing.Renderer
