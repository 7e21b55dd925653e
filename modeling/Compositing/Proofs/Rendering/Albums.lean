import Compositing.Proofs.Rendering.Tending

/-!
# What a renderer keeps, whatever its images are called

Names of images are drawn from one counter for all outputs, so they tell in which order things happened.
`Renumbered` compares renderers without regard to these names. A renderer is known, but for the names, by
what is left of it without images and by what it keeps for each surface: `renumbered_of_kept`. Importing
and dropping images changes what is kept for one surface only, and in a way that does not depend on names:
`kept?_attach`, `kept?_detach`.
-/

namespace Compositing

/-- The buffer as if the compositor had not let go of it while it was busy. -/
def Buffer.calm (b : Buffer) : Buffer := { b with releasePending := false }

/-! ### Contexts without their images -/

def Canvas.bare : Canvas → Canvas
  | live fb _ => live fb Table.empty
  | terminated size => terminated size

namespace RenderContext

/-- The context without its images. -/
def bare (ctx : RenderContext) : RenderContext :=
  match ctx.engine with
  | .memory canvas => { ctx with engine := .memory canvas.bare }
  | .device canvas _ => { ctx with engine := .device canvas.bare 0 }
  | .native => ctx

/-- How many images the device of the host has been told of. -/
def count? (ctx : RenderContext) : Option Nat :=
  match ctx.engine with
  | .device _ images => some images
  | _ => none

/-- The context as if it rendered in memory alone. -/
def withoutDevice (ctx : RenderContext) : RenderContext :=
  match ctx.engine with
  | .device canvas _ => { ctx with engine := .memory canvas }
  | _ => ctx

/-- Whether the device of the host, if there is one, goes along with an import. -/
def agrees (ctx : RenderContext) (device : DeviceAnswers) (b : Buffer) : Bool :=
  match ctx.engine with
  | .device .. => (device.call ctx.id ctx.backend (.importBuffer b.id)).toBool
  | _ => true

/-- Whether the context imports a buffer. -/
def takes (ctx : RenderContext) (device : DeviceAnswers) (b : Buffer) : Bool :=
  (ctx.createImage device ⟨0⟩ b).result.toBool

variable (ctx : RenderContext) (device : DeviceAnswers)

theorem createImage_calm (id : ImageId) (b : Buffer) :
    ctx.createImage device id b.calm = ctx.createImage device id b := by
  have same (canvas : Canvas) : canvas.createImage id b.calm = canvas.createImage id b := by
    cases canvas <;> rfl
  simp only [createImage, same]
  rfl

/-- An import goes well or not whatever the images are called. -/
theorem result_createImage (id : ImageId) (b : Buffer) :
    (ctx.createImage device id b).result.toBool = ctx.bare.takes device b := by
  obtain ⟨name, backend, engine⟩ := ctx
  cases engine with
  | native => rfl
  | memory canvas =>
    cases canvas with
    | terminated size => rfl
    | live fb images =>
      cases picture : Canvas.imageOf b <;>
        simp [takes, bare, Canvas.bare, createImage, onCanvas, Canvas.createImage, picture,
          Except.map, Except.toBool, withCanvas]
  | device canvas count =>
    cases answer : device.call name backend (.importBuffer b.id) with
    | error e =>
      simp [takes, bare, createImage, onCanvas, ask, answer, Except.bind, Except.toBool]
    | ok _ =>
      cases canvas with
      | terminated size =>
        simp [takes, bare, Canvas.bare, createImage, onCanvas, ask, answer, Except.bind,
          Canvas.createImage, Except.toBool]
      | live fb images =>
        cases picture : Canvas.imageOf b <;>
          simp [takes, bare, Canvas.bare, createImage, onCanvas, ask, answer, Except.bind,
            Canvas.createImage, picture, Except.map, Except.toBool, withCanvas]

theorem bare_withCanvas {canvas done : Canvas} (there : ctx.canvas? = some canvas)
    (same : done.bare = canvas.bare) : (ctx.withCanvas done).bare = ctx.bare := by
  obtain ⟨_, _, engine⟩ := ctx
  cases engine <;> cases there <;> simp [bare, withCanvas, same]

theorem bare_destroyImage (id : ImageId) : (ctx.destroyImage id).2.bare = ctx.bare := by
  obtain ⟨_, _, engine⟩ := ctx
  cases engine with
  | native => rfl
  | memory canvas | device canvas count => cases canvas <;> rfl

theorem bare_createImage (id : ImageId) (b : Buffer) :
    (ctx.createImage device id b).context.bare = ctx.bare := by
  have worked : (ctx.onCanvas device (.importBuffer b.id) fun canvas =>
      canvas.createImage id b).context.bare = ctx.bare := by
    rcases ctx.onCanvas_context device (.importBuffer b.id) fun canvas => canvas.createImage id b with
      same | ⟨canvas, done, there, made, after⟩
    · rw [same]
    · rw [after]
      refine ctx.bare_withCanvas there ?_
      cases canvas with
      | terminated size => cases made
      | live fb images =>
        simp only [Canvas.createImage] at made
        cases picture : Canvas.imageOf b with
        | error e => rw [picture] at made; cases made
        | ok image => rw [picture] at made; cases made; rfl
  -- Counting the image changes only what the bare context does not have.
  simp only [createImage]
  split
  next device => rw [← worked]; simp only [bare, device]
  next => exact worked

theorem withoutDevice_destroyImage (id : ImageId) :
    (ctx.destroyImage id).2.withoutDevice = (ctx.withoutDevice.destroyImage id).2 := by
  obtain ⟨_, _, engine⟩ := ctx
  cases engine <;> rfl

theorem count?_destroyImage (id : ImageId) : (ctx.destroyImage id).2.count? =
    ctx.count?.map fun n => if ctx.canvas?.any (·.images.contains id) then n - 1 else n := by
  obtain ⟨_, _, engine⟩ := ctx
  cases engine with
  | native | memory canvas => rfl
  | device canvas count => cases canvas <;> rfl

theorem count?_createImage (id : ImageId) (b : Buffer) :
    (ctx.createImage device id b).context.count? =
      ctx.count?.map fun n =>
        if (ctx.createImage device id b).result.toBool then n + 1 else n := by
  obtain ⟨name, backend, engine⟩ := ctx
  cases engine with
  | native => rfl
  | memory canvas =>
    cases done : canvas.createImage id b <;>
      simp [count?, createImage, onCanvas, done, withCanvas]
  | device canvas count =>
    cases answer : device.call name backend (.importBuffer b.id) with
    | error e => simp [count?, createImage, onCanvas, ask, answer, Except.bind, Except.toBool]
    | ok _ =>
      cases done : canvas.createImage id b <;>
        simp [count?, createImage, onCanvas, ask, answer, Except.bind, done, withCanvas,
          Except.toBool]

/-- If its device goes along, a context imports an image as it would without the device. -/
theorem withoutDevice_createImage (id : ImageId) (b : Buffer) :
    ((ctx.createImage device id b).context.withoutDevice =
        if ctx.agrees device b then (ctx.withoutDevice.createImage device id b).context
        else ctx.withoutDevice) ∧
    (ctx.createImage device id b).result.toBool =
      (ctx.agrees device b && (ctx.withoutDevice.createImage device id b).result.toBool) := by
  obtain ⟨name, backend, engine⟩ := ctx
  cases engine with
  | native => exact ⟨rfl, rfl⟩
  | memory canvas =>
    cases done : canvas.createImage id b <;>
      simp [withoutDevice, agrees, createImage, onCanvas, done, withCanvas, Except.toBool]
  | device canvas count =>
    cases answer : device.call name backend (.importBuffer b.id) with
    | error e =>
      simp [withoutDevice, agrees, createImage, onCanvas, ask, answer, Except.bind, Except.toBool]
    | ok _ =>
      cases done : canvas.createImage id b <;>
        simp [withoutDevice, agrees, createImage, onCanvas, ask, answer, Except.bind, done,
          withCanvas, Except.toBool]

end RenderContext

namespace Renderer

/-- The renderer without its images. -/
def bare (r : Renderer) : Renderer :=
  { handle := { r.handle with context := r.handle.context.bare } }

/-- The renderer as if it rendered in memory alone. -/
def withoutDevice (r : Renderer) : Renderer := r.withContext r.handle.context.withoutDevice

/-- What is kept for a surface: nothing, a picture, or something that only the host can see. -/
def kept? (r : Renderer) (k : SurfaceId) : Option (Option Image) :=
  (r.images.get? k).map fun _ => r.withoutDevice.picture? k

/-- The images of a renderer are in order, whatever its engine is. -/
structure Orderly (r : Renderer) (next : ImageId) : Prop where
  sound : r.withoutDevice.Sound next
  counted : ∀ n, r.handle.context.count? = some n → n = r.images.size

variable {r : Renderer} {next : ImageId}

theorem attach_some (r : Renderer) (device : DeviceAnswers) (next : ImageId) (k : SurfaceId)
    (b : Buffer) :
    r.attach device next k (some b) =
      let step := (r.detach k).handle.context.createImage device next b
      let done := (r.detach k).withContext step.context
      if step.result.toBool then
        ⟨{ done with images := done.images.insert k next }, next.next, step.events⟩
      else ⟨done, next, step.events⟩ := by
  simp only [attach]
  cases ((r.detach k).handle.context.createImage device next b).result <;> rfl

theorem withoutDevice_detach (r : Renderer) (k : SurfaceId) :
    (r.detach k).withoutDevice = r.withoutDevice.detach k := by
  have images : r.withoutDevice.images = r.images := rfl
  unfold detach
  rw [images]
  cases r.images.get? k with
  | none => rfl
  | some old =>
    simp only [withoutDevice, withContext, RenderContext.withoutDevice_destroyImage]

/-- Without its device a renderer keeps the same, if it imports only what the device goes along with. -/
theorem withoutDevice_attach (r : Renderer) (device : DeviceAnswers) (next : ImageId)
    (k : SurfaceId) (content : Option Buffer) :
    let done := r.attach device next k content
    let alone := r.withoutDevice.attach device next k
      (content.filter ((r.detach k).handle.context.agrees device))
    done.renderer.withoutDevice = alone.renderer ∧ done.nextImage = alone.nextImage := by
  intro done alone
  cases content with
  | none => exact ⟨r.withoutDevice_detach k, rfl⟩
  | some b =>
    have bare := r.withoutDevice_detach k
    obtain ⟨context, result⟩ :=
      (r.detach k).handle.context.withoutDevice_createImage device next b
    have handle : (r.withoutDevice.detach k).handle.context =
        (r.detach k).handle.context.withoutDevice := by rw [← bare]; rfl
    cases agreed : (r.detach k).handle.context.agrees device b with
    | false =>
      have refused : alone = ⟨r.withoutDevice.detach k, next, []⟩ := by
        simp only [alone, Option.filter_some, agreed, attach, Bool.false_eq_true, if_false]
      simp only [agreed, Bool.false_and, Bool.false_eq_true, if_false] at context result
      rw [refused, ← bare]
      simp only [done, attach_some, result, Bool.false_eq_true, if_false]
      exact ⟨congrArg (withContext (r.detach k)) context, trivial⟩
    | true =>
      simp only [agreed, Bool.true_and, if_true, ← handle] at context result
      simp only [done, alone, Option.filter_some, agreed, if_true, attach_some, result]
      have same : ((r.detach k).withContext ((r.detach k).handle.context.createImage device next
          b).context).withoutDevice = (r.withoutDevice.detach k).withContext
            ((r.withoutDevice.detach k).handle.context.createImage device next b).context := by
        rw [← context, ← bare]
        rfl
      split
      · refine ⟨?_, rfl⟩
        rw [← same]
        rfl
      · exact ⟨same, rfl⟩

/-! ### Images -/

theorem bare_detach (r : Renderer) (k : SurfaceId) : (r.detach k).bare = r.bare := by
  unfold detach
  split
  · simp only [bare, withContext, RenderContext.bare_destroyImage]
  · rfl

theorem bare_attach (r : Renderer) (device : DeviceAnswers) (next : ImageId) (k : SurfaceId)
    (content : Option Buffer) : (r.attach device next k content).renderer.bare = r.bare := by
  cases content with
  | none => exact r.bare_detach k
  | some b =>
    rw [attach_some, ← r.bare_detach k]
    simp only
    split <;> simp only [bare, withContext, RenderContext.bare_createImage]

theorem images_attach (r : Renderer) (device : DeviceAnswers) (next : ImageId) (k x : SurfaceId)
    (content : Option Buffer) :
    (r.attach device next k content).renderer.images.get? x =
      if x = k then (content.filter (r.bare.handle.context.takes device)).map fun _ => next
      else r.images.get? x := by
  cases content with
  | none => exact r.images_detach k x
  | some b =>
    have takes : ((r.detach k).handle.context.createImage device next b).result.toBool =
        r.bare.handle.context.takes device b := by
      rw [RenderContext.result_createImage, ← r.bare_detach k]
      rfl
    rw [attach_some, Option.filter_some]
    simp only [takes]
    cases r.bare.handle.context.takes device b with
    | true =>
      simp only [if_true, withContext, Table.get?_insert, images_detach, Option.map_some]
      split <;> rfl
    | false => exact r.images_detach k x

/-! ### Renderers in order -/

theorem Orderly.mono (orderly : r.Orderly next) {later : ImageId} (le : next.number ≤ later.number) :
    r.Orderly later :=
  ⟨orderly.sound.mono le, orderly.counted⟩

/-- The host's device has the images that the renderer has. -/
theorem Orderly.contains (orderly : r.Orderly next) {k : SurfaceId} {i : ImageId}
    (found : r.images.get? k = some i) {n : Nat} (counts : r.handle.context.count? = some n) :
    r.handle.context.canvas?.any (·.images.contains i) = true := by
  have sound := orderly.sound
  obtain ⟨⟨⟨id, backend, engine⟩, degraded⟩, images⟩ := r
  cases engine with
  | memory canvas => cases counts
  | native => cases counts
  | device canvas count =>
    cases canvas with
    | terminated size => cases sound.live rfl
    | live fb images =>
      obtain ⟨image, there⟩ := sound.imported (fb, images) k i rfl found
      exact (Table.contains_iff images i).2 ⟨image, there⟩

theorem orderly_detach (orderly : r.Orderly next) (k : SurfaceId) : (r.detach k).Orderly next := by
  refine ⟨r.withoutDevice_detach k ▸ sound_detach orderly.sound k, fun n there => ?_⟩
  cases found : r.images.get? k with
  | none =>
    simp only [detach, found] at there ⊢
    exact orderly.counted n there
  | some old =>
    simp only [detach, found, withContext, RenderContext.count?_destroyImage] at there ⊢
    obtain ⟨m, before, rfl⟩ := Option.map_eq_some_iff.1 there
    rw [orderly.contains found before, Table.size_erase found, orderly.counted m before]
    rfl

theorem orderly_attach (orderly : r.Orderly next) (device : DeviceAnswers) (k : SurfaceId)
    (content : Option Buffer) :
    (r.attach device next k content).renderer.Orderly
      (r.attach device next k content).nextImage := by
  have sound := attach_sound orderly.sound device k
    (content.filter ((r.detach k).handle.context.agrees device))
  obtain ⟨renderer, nextImage⟩ := r.withoutDevice_attach device next k content
  rw [← renderer, ← nextImage] at sound
  refine ⟨sound, fun n there => ?_⟩
  have bare := orderly_detach orderly k
  cases content with
  | none => exact bare.counted n there
  | some b =>
    have absent : (r.detach k).images.get? k = none := by rw [images_detach, if_pos rfl]
    have counts := (r.detach k).handle.context.count?_createImage device next b
    rw [attach_some] at there ⊢
    cases taken : ((r.detach k).handle.context.createImage device next b).result.toBool with
    | true =>
      simp only [taken, if_true] at there counts ⊢
      obtain ⟨m, before, rfl⟩ := Option.map_eq_some_iff.1 (counts.symm.trans there)
      simp only [withContext, Table.size_insert absent, bare.counted m before]
    | false =>
      simp only [taken, Bool.false_eq_true, if_false] at there counts ⊢
      obtain ⟨m, before, rfl⟩ := Option.map_eq_some_iff.1 (counts.symm.trans there)
      exact bare.counted m before

/-- Another context with the same images serves as well. -/
theorem Orderly.same (orderly : r.Orderly next) {r' : Renderer} (images : r'.images = r.images)
    (memory : r'.withoutDevice.handle.context.inMemory = r.withoutDevice.handle.context.inMemory)
    (same : r'.withoutDevice.software?.map Prod.snd = r.withoutDevice.software?.map Prod.snd)
    (counts : r'.handle.context.count? = r.handle.context.count?) : r'.Orderly next where
  sound := orderly.sound.same images memory same
  counted n there := images ▸ orderly.counted n (counts ▸ there)

theorem orderly_resize (orderly : r.Orderly next) (device : DeviceAnswers) (size : Size) :
    (r.resize device size).1.Orderly next := by
  have images (canvas done : Canvas) (short : Bool)
      (resized : Canvas.granted size (short && canvas.takesMemory size) (canvas.resize size) =
        .ok done) :
      (∃ fb fb' images, canvas = .live fb images ∧ done = .live fb' images) := by
    cases canvas with
    | terminated old =>
      rw [Canvas.resize_terminated] at resized
      cases resized
    | live fb images =>
      rw [Canvas.resize_eq] at resized
      split at resized
      · cases resized
        exact ⟨_, _, _, rfl, rfl⟩
      · split at resized <;> cases resized
        exact ⟨_, _, _, rfl, rfl⟩
  rcases r.handle.context.onCanvas_context device (.resize size) fun canvas => Canvas.granted size
      (device.short r.handle.context.id size && canvas.takesMemory size) (canvas.resize size) with
    same | ⟨canvas, done, there, resized, after⟩
  · refine orderly.same rfl ?_ ?_ ?_ <;>
      simp only [resize, RenderContext.resize, same, withContext, withoutDevice, software?]
  · obtain ⟨fb, fb', images, rfl, rfl⟩ := images canvas done _ resized
    obtain ⟨⟨⟨id, backend, engine⟩, degraded⟩, names⟩ := r
    refine orderly.same rfl ?_ ?_ ?_ <;>
      simp only [resize, RenderContext.resize, after, withContext, withoutDevice, software?] <;>
      cases engine <;> cases there <;> rfl

/-- Render passes touch no images. -/
theorem Orderly.of_blank (orderly : r.Orderly next) {r' : Renderer} (images : r'.images = r.images)
    (same : r'.handle.context.blank = r.handle.context.blank) : r'.Orderly next := by
  have memory (ctx : RenderContext) :
      ctx.withoutDevice.inMemory = ctx.blank.withoutDevice.inMemory := by
    obtain ⟨id, backend, engine⟩ := ctx
    cases engine with
    | native => rfl
    | memory canvas | device canvas count => cases canvas <;> rfl
  have software (ctx : RenderContext) : ctx.withoutDevice.software?.map Prod.snd =
      ctx.blank.withoutDevice.software?.map Prod.snd := by
    obtain ⟨id, backend, engine⟩ := ctx
    cases engine with
    | native => rfl
    | memory canvas | device canvas count => cases canvas <;> rfl
  have counts (ctx : RenderContext) : ctx.count? = ctx.blank.count? := by
    obtain ⟨id, backend, engine⟩ := ctx
    cases engine <;> rfl
  refine orderly.same images ?_ ?_ ?_
  · exact ((memory _).trans (congrArg _ (congrArg _ same))).trans (memory _).symm
  · exact ((software _).trans (by rw [same])).trans (software _).symm
  · exact ((counts _).trans (by rw [same])).trans (counts _).symm

theorem orderly_tended {r r' : Renderer} {next next' : ImageId}
    (tended : Tended (r, next) (r', next')) (orderly : r.Orderly next) : r'.Orderly next' := by
  have run (s s' : Renderer × ImageId) (tended : Tended s s') (orderly : s.1.Orderly s.2) :
      s'.1.Orderly s'.2 := by
    induction tended with
    | refl => exact orderly
    | tail _ touched ih =>
      cases touched with
      | detach r next k => exact orderly_detach ih k
      | attach r next device k content => exact orderly_attach ih device k content
      | resize r next device size => exact orderly_resize ih device size
      | later r le => exact ih.mono le
  exact run _ _ tended orderly

/-- A renderer whose context was only just set up. -/
theorem orderly_construct {b : Backend} {device : DeviceAnswers} {id : ContextId} {size : Size}
    {ctx : RenderContext} {told : List Event} (made : b.construct device id size = (.ok ctx, told))
    (next : ImageId) : ({ handle := { context := ctx } } : Renderer).Orderly next := by
  have new : Unused ctx.withoutDevice ∧ ∀ n, ctx.count? = some n → n = 0 := by
    obtain ⟨name, construction⟩ := b
    have made := congrArg Prod.fst made
    cases construction with
    | memory =>
      obtain ⟨fb, rfl⟩ := engine_ofSize made
      refine ⟨⟨fun _ => rfl, fun s there => Option.some.inj there ▸ rfl⟩, fun n there => ?_⟩
      cases there
    | missing reason => cases made
    | device =>
      simp only [Backend.construct, Except.bind] at made
      split at made
      · cases made
      · obtain ⟨fb, rfl⟩ := engine_ofSize made
        refine ⟨⟨fun _ => rfl, fun s there => Option.some.inj there ▸ rfl⟩, fun n there => ?_⟩
        cases there
        rfl
    | native =>
      simp only [Backend.construct, Except.map] at made
      split at made
      · cases made
      · cases made
        refine ⟨⟨fun there => ?_, fun s there => ?_⟩, fun n there => ?_⟩ <;> cases there
  exact ⟨new.1.sound (h := { context := ctx.withoutDevice }) next, new.2⟩

theorem orderly_probe {device : DeviceAnswers} {id : ContextId} {size : Size} {backends : List Backend}
    {ctx : RenderContext} (found : (Contexts.probe device id size backends).1 = some ctx)
    (next : ImageId) : ({ handle := { context := ctx } } : Renderer).Orderly next := by
  induction backends with
  | nil => cases found
  | cons b rest ih =>
    simp only [Contexts.probe] at found
    split at found
    next made =>
      cases found
      exact orderly_construct made next
    next => exact ih found

/-! ### What is kept -/

theorem kept?_detach (orderly : r.Orderly next) (k x : SurfaceId) :
    (r.detach k).kept? x = if x = k then none else r.kept? x := by
  rw [kept?, kept?, images_detach, withoutDevice_detach, picture?_detach orderly.sound]
  split <;> rfl

theorem kept?_attach_other (orderly : r.Orderly next) (device : DeviceAnswers) {k x : SurfaceId}
    (content : Option Buffer) (other : x ≠ k) :
    (r.attach device next k content).renderer.kept? x = r.kept? x := by
  have replaced := attach_replaced orderly.sound device k
    (content.filter ((r.detach k).handle.context.agrees device))
  rw [kept?, kept?, images_attach, if_neg other, (r.withoutDevice_attach device next k content).1,
    replaced.others x other]

/-- What is kept of new content depends neither on what is kept of other surfaces nor on names. -/
theorem kept?_attach (orderly : r.Orderly next) {r' : Renderer} {next' : ImageId}
    (orderly' : r'.Orderly next') (bare : r'.bare = r.bare) (device : DeviceAnswers) (k : SurfaceId)
    (content : Option Buffer) :
    (r'.attach device next' k content).renderer.kept? k =
      (r.attach device next k content).renderer.kept? k := by
  have agrees (r : Renderer) :
      (r.detach k).handle.context.agrees device = r.bare.handle.context.agrees device := by
    rw [← r.bare_detach k]
    obtain ⟨⟨⟨id, backend, engine⟩, degraded⟩, names⟩ := r.detach k
    cases engine <;> rfl
  have display (r : Renderer) : r.withoutDevice.display? = r.bare.withoutDevice.display? := by
    obtain ⟨⟨⟨id, backend, engine⟩, degraded⟩, names⟩ := r
    cases engine with
    | native => rfl
    | memory canvas | device canvas count => cases canvas <;> rfl
  have kept {r : Renderer} {next : ImageId} (orderly : r.Orderly next) :
      (r.attach device next k content).renderer.kept? k =
        (content.filter (r.bare.handle.context.takes device)).map fun _ =>
          r.bare.withoutDevice.display?.bind fun _ =>
            (content.filter (r.bare.handle.context.agrees device)).bind Buffer.picture? := by
    have replaced := attach_replaced orderly.sound device k
      (content.filter ((r.detach k).handle.context.agrees device))
    rw [kept?, images_attach, if_pos rfl, (r.withoutDevice_attach device next k content).1,
      replaced.replaced, Option.map_map, agrees, display]
    rfl
  rw [kept orderly, kept orderly', bare]

theorem attach_calm (r : Renderer) (device : DeviceAnswers) (next : ImageId) (k : SurfaceId)
    (content : Option Buffer) :
    r.attach device next k (content.map Buffer.calm) = r.attach device next k content := by
  cases content with
  | none => rfl
  | some b => rw [Option.map_some, attach_some, attach_some, RenderContext.createImage_calm]

/-! ### Renderers that differ in names only -/

/-- The image of a name. -/
def imageCalled? (r : Renderer) (i : ImageId) : Option Image :=
  r.handle.context.canvas?.bind (·.images.get? i)

/-- The renderers are the same, but that the images of one have other names. -/
structure Renumbered (rename : ImageId → ImageId) (r r' : Renderer) : Prop where
  bare : r'.bare = r.bare
  count : r'.handle.context.count? = r.handle.context.count?
  names : ∀ k, r'.images.get? k = (r.images.get? k).map rename
  images : ∀ i image, r'.imageCalled? i = some image ↔
    ∃ j, rename j = i ∧ r.imageCalled? j = some image

theorem imageCalled?_eq (r : Renderer) (i : ImageId) :
    r.imageCalled? i = r.withoutDevice.software?.bind (·.2.get? i) := by
  obtain ⟨⟨⟨id, backend, engine⟩, degraded⟩, names⟩ := r
  cases engine with
  | native => rfl
  | memory canvas | device canvas count => cases canvas <;> rfl

theorem picture?_withoutDevice {k : SurfaceId} {i : ImageId} (found : r.images.get? k = some i) :
    r.withoutDevice.picture? k = r.imageCalled? i := by
  have named : r.withoutDevice.images.get? k = some i := found
  rw [imageCalled?_eq, picture?, named]
  rfl

theorem isSome_kept? (r : Renderer) (k : SurfaceId) :
    (r.kept? k).isSome = (r.images.get? k).isSome := Option.isSome_map

variable {r' : Renderer} {next' : ImageId}

/-- Each image has the name that the surface it is kept for gives it. -/
theorem renumbered_of_kept (orderly : r.Orderly next) (orderly' : r'.Orderly next')
    (bare : r'.bare = r.bare) (kept : ∀ k, r'.kept? k = r.kept? k) {rename : ImageId → ImageId}
    (renamed : ∀ k i, r.images.get? k = some i → r'.images.get? k = some (rename i)) :
    Renumbered rename r r' := by
  have domain (k : SurfaceId) : (r'.images.get? k).isSome = (r.images.get? k).isSome := by
    rw [← isSome_kept?, ← isSome_kept?, kept]
  have names (k : SurfaceId) : r'.images.get? k = (r.images.get? k).map rename := by
    cases found : r.images.get? k with
    | some i => rw [renamed k i found, Option.map_some]
    | none =>
      rw [Option.map_none, ← Option.not_isSome_iff_eq_none, domain, found]
      exact Bool.false_ne_true
  -- What is kept of one surface has the one name here and the other one there.
  have same (k : SurfaceId) (i : ImageId) (found : r.images.get? k = some i) :
      r'.imageCalled? (rename i) = r.imageCalled? i := by
    have eq := kept k
    rw [kept?, kept?, found, renamed k i found, Option.map_some, Option.map_some,
      picture?_withoutDevice found, picture?_withoutDevice (renamed k i found)] at eq
    exact Option.some.inj eq
  have owned {r : Renderer} {next : ImageId} (orderly : r.Orderly next) {i : ImageId} {image : Image}
      (there : r.imageCalled? i = some image) : ∃ k, r.images.get? k = some i := by
    rw [imageCalled?_eq] at there
    obtain ⟨s, software, found⟩ := Option.bind_eq_some_iff.1 there
    exact orderly.sound.owned s i image software found
  refine ⟨bare, ?_, names, fun i image => ⟨fun there => ?_, ?_⟩⟩
  · -- Engines of one kind both count their images or both do not.
    have counts (r : Renderer) : r.handle.context.count?.isSome =
        r.bare.handle.context.count?.isSome := by
      obtain ⟨⟨⟨id, backend, engine⟩, degraded⟩, names⟩ := r
      cases engine <;> rfl
    have both : r'.handle.context.count?.isSome = r.handle.context.count?.isSome := by
      rw [counts r', counts r, bare]
    cases there : r.handle.context.count? with
    | none => rwa [there, Option.isSome_none, ← Bool.not_eq_true, Option.not_isSome_iff_eq_none] at both
    | some n =>
      rw [there] at both
      obtain ⟨m, there'⟩ := Option.isSome_iff_exists.1 both
      rw [there', orderly'.counted m there', orderly.counted n there, Table.size_congr domain]
  · obtain ⟨k, found⟩ := owned orderly' there
    obtain ⟨j, before, rfl⟩ := Option.map_eq_some_iff.1 ((names k).symm.trans found)
    exact ⟨j, rfl, (same k j before).symm.trans there⟩
  · rintro ⟨j, rfl, there⟩
    obtain ⟨k, found⟩ := owned orderly there
    exact (same k j found).trans there

end Renderer

end Compositing
