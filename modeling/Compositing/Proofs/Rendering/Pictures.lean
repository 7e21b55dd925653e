import Compositing.Proofs.Rendering.Software

/-!
# The pictures of a renderer

A renderer that renders in memory keeps a picture for some of the surfaces. `Sound` says that its table
of images is in order: every entry has its image, no two surfaces share one, and there are no others.
Replacing the picture
of a surface then leaves the other pictures alone, and neither a new size nor a render pass touches any.
-/

namespace Compositing

/-! ### What every operation of a context keeps -/

namespace RenderContext

/-- The context renders in memory without a device. -/
def inMemory (ctx : RenderContext) : Bool :=
  match ctx.engine with
  | .memory _ => true
  | _ => false

variable (ctx : RenderContext) (device : DeviceAnswers)

theorem inMemory_withCanvas (canvas : Canvas) :
    (ctx.withCanvas canvas).inMemory = ctx.inMemory := by
  obtain ⟨_, _, engine⟩ := ctx
  cases engine <;> rfl

theorem inMemory_onCanvas (call : DeviceCall) (work : Canvas → Except RenderError Canvas) :
    (ctx.onCanvas device call work).context.inMemory = ctx.inMemory := by
  unfold onCanvas
  split
  · split <;> simp [inMemory_withCanvas]
  · simp only
    split <;> simp [inMemory_withCanvas]
  · rfl

theorem inMemory_destroyImage (id : ImageId) :
    (ctx.destroyImage id).2.inMemory = ctx.inMemory := by
  obtain ⟨_, _, engine⟩ := ctx
  cases engine <;> rfl

theorem inMemory_createImage (id : ImageId) (b : Buffer) :
    (ctx.createImage device id b).context.inMemory = ctx.inMemory := by
  have kept := ctx.inMemory_onCanvas device (.importBuffer b.id) fun canvas => canvas.createImage id b
  simp only [createImage]
  -- The case that counts images is one of a device.
  split
  next eq => rw [← kept]; simp [inMemory, eq]
  next => exact kept

theorem inMemory_clear (colour : Colour) : (ctx.clear colour).inMemory = ctx.inMemory := by
  unfold clear
  split <;> simp [inMemory_withCanvas]

/-- What a render pass leaves alone in a context. -/
structure Keeps (ctx ctx' : RenderContext) : Prop where
  inMemory : ctx'.inMemory = ctx.inMemory
  software : ctx'.software?.map (fun s => (s.1.size, s.2)) =
    ctx.software?.map fun s => (s.1.size, s.2)

/-- The context with nothing drawn. -/
def blank (ctx : RenderContext) : RenderContext := ctx.clear .black

theorem blank_clear (colour : Colour) : (ctx.clear colour).blank = ctx.blank := by
  obtain ⟨_, _, engine⟩ := ctx
  cases engine with
  | native => rfl
  | memory canvas => cases canvas <;> rfl
  | device canvas images => cases canvas <;> rfl

/-- Work on the canvas either changes nothing, or puts another canvas in its place. -/
theorem onCanvas_context (call : DeviceCall) (work : Canvas → Except RenderError Canvas) :
    (ctx.onCanvas device call work).context = ctx ∨ ∃ canvas done, ctx.canvas? = some canvas ∧
      work canvas = .ok done ∧ (ctx.onCanvas device call work).context = ctx.withCanvas done := by
  obtain ⟨id, backend, engine⟩ := ctx
  cases engine with
  | native => exact .inl rfl
  | memory canvas =>
    cases done : work canvas with
    | ok next => exact .inr ⟨canvas, next, rfl, done, by simp [onCanvas, done]⟩
    | error e => exact .inl (by simp [onCanvas, done])
  | device canvas images =>
    cases answer : device.call id backend call with
    | error e => exact .inl (by simp [onCanvas, ask, answer, Except.bind])
    | ok _ =>
      cases done : work canvas with
      | ok next => exact .inr ⟨canvas, next, rfl, done, by
          simp [onCanvas, ask, answer, Except.bind, done]⟩
      | error e => exact .inl (by simp [onCanvas, ask, answer, Except.bind, done])

theorem blank_withCanvas {canvas done : Canvas} (there : ctx.canvas? = some canvas)
    (same : done.clear .black = canvas.clear .black) : (ctx.withCanvas done).blank = ctx.blank := by
  obtain ⟨_, _, engine⟩ := ctx
  cases engine <;> cases there <;> simp [blank, clear, canvas?, withCanvas, same]

/-- Drawing touches nothing but the pixels of the framebuffer. -/
theorem blank_draw (id : ImageId) (p : Placement) :
    (ctx.draw device id p).context.blank = ctx.blank := by
  rcases ctx.onCanvas_context device (.draw id p) fun canvas => canvas.draw id p with
    same | ⟨canvas, done, there, drawn, after⟩
  · rw [draw, same]
  · rw [draw, after]
    refine ctx.blank_withCanvas there ?_
    cases canvas with
    | terminated => cases drawn
    | live fb images =>
      simp only [Canvas.draw] at drawn
      split at drawn <;> cases drawn
      rfl

theorem bind_context : (ctx.bind device).context = ctx := by
  unfold bind
  split
  next => rfl
  next =>
    rcases ctx.onCanvas_context device .bind fun canvas => canvas.checkLive.map fun _ => canvas with
      same | ⟨canvas, done, there, live, after⟩
    · exact same
    · -- The canvas that is put in place is the one that is there.
      obtain rfl : canvas = done := by
        cases canvas <;> cases live
        rfl
      obtain ⟨_, _, engine⟩ := ctx
      cases engine <;> cases there <;> exact after

theorem Keeps.of_blank {ctx ctx' : RenderContext} (same : ctx'.blank = ctx.blank) :
    Keeps ctx ctx' where
  inMemory := by
    rw [← ctx'.inMemory_clear .black, ← ctx.inMemory_clear .black]
    exact congrArg _ same
  software := by
    have sizes (ctx : RenderContext) : ctx.software?.map (fun s => (s.1.size, s.2)) =
        ctx.blank.software?.map fun s => (s.1.size, s.2) := by
      rw [blank, software?_clear, Option.map_map]
      rfl
    rw [sizes, same, ← sizes]

end RenderContext

/-! ### Pictures -/

/-- A framebuffer after the pictures of the items were drawn on it. -/
def Framebuffer.drawPictures (fb : Framebuffer) (picture? : SurfaceId → Option Image)
    (items : List PaintItem) : Framebuffer :=
  items.foldl
    (fun fb item =>
      match picture? item.surface with
      | some image => fb.draw image item.placement
      | none => fb)
    fb

namespace Renderer

def software? (r : Renderer) : Option (Framebuffer × Table ImageId Image) :=
  r.handle.context.software?

/-- The picture of a surface. -/
def picture? (r : Renderer) (k : SurfaceId) : Option Image :=
  r.software?.bind fun s => (r.images.get? k).bind s.2.get?

/-- The size of the frames rendered in memory, and whether screens get none of them for now. -/
def display? (r : Renderer) : Option (Size × Bool) :=
  r.software?.map fun s => (s.1.size, r.handle.degraded)

/-- The images of a renderer are in order, and the next image has a new name. -/
structure Sound (r : Renderer) (next : ImageId) : Prop where
  live : r.handle.context.inMemory = true → r.software?.isSome = true
  imported : ∀ s k i, r.software? = some s → r.images.get? k = some i →
    ∃ image, s.2.get? i = some image
  owned : ∀ s i image, r.software? = some s → s.2.get? i = some image →
    ∃ k, r.images.get? k = some i
  apart : ∀ k k' i, r.images.get? k = some i → r.images.get? k' = some i → k = k'
  named : ∀ k i, r.images.get? k = some i → i.number < next.number

/-- The picture of one surface is that of the content now, if there is one. -/
structure Replaced (r r' : Renderer) (k : SurfaceId) (content : Option Buffer) : Prop where
  display : r'.display? = r.display?
  others : ∀ x, x ≠ k → r'.picture? x = r.picture? x
  replaced : r'.picture? k = r.display?.bind fun _ => content.bind Buffer.picture?

variable {r : Renderer} {next : ImageId}

theorem Sound.mono (sound : r.Sound next) {later : ImageId} (le : next.number ≤ later.number) :
    r.Sound later :=
  { sound with named := fun k i found => Nat.lt_of_lt_of_le (sound.named k i found) le }

/-- Another context with the same images serves as well. -/
theorem Sound.same (sound : r.Sound next) {r' : Renderer} (images : r'.images = r.images)
    (memory : r'.handle.context.inMemory = r.handle.context.inMemory)
    (same : r'.software?.map Prod.snd = r.software?.map Prod.snd) : r'.Sound next where
  live memory' := by
    have some := sound.live (memory.symm.trans memory')
    rw [← Option.isSome_map (f := Prod.snd)] at some ⊢
    rwa [same]
  imported s k i there found := by
    have before : r.software?.map Prod.snd = some s.2 := by rw [← same, there, Option.map_some]
    obtain ⟨t, before, eq⟩ := Option.map_eq_some_iff.1 before
    exact eq ▸ sound.imported t k i before (images ▸ found)
  owned s i image there found := by
    have before : r.software?.map Prod.snd = some s.2 := by rw [← same, there, Option.map_some]
    obtain ⟨t, before, eq⟩ := Option.map_eq_some_iff.1 before
    exact images ▸ sound.owned t i image before (eq ▸ found)
  apart := images ▸ sound.apart
  named := images ▸ sound.named

theorem picture?_same {r' : Renderer} (images : r'.images = r.images)
    (same : r'.software?.map Prod.snd = r.software?.map Prod.snd) (k : SurfaceId) :
    r'.picture? k = r.picture? k := by
  -- The framebuffer plays no part in a picture.
  have split (s : Option (Framebuffer × Table ImageId Image)) :
      (s.bind fun s => (r.images.get? k).bind s.2.get?) =
        (s.map Prod.snd).bind fun images => (r.images.get? k).bind images.get? := by
    cases s <;> rfl
  rw [picture?, picture?, images, split, same, split]

theorem picture?_withContext {ctx : RenderContext} (same : ctx.software? = r.software?)
    (k : SurfaceId) : (r.withContext ctx).picture? k = r.picture? k :=
  picture?_same (show (r.withContext ctx).images = r.images from rfl)
    (congrArg (Option.map Prod.snd) same) k

theorem Replaced.trans {r' r'' : Renderer} {k : SurfaceId} {content content' : Option Buffer}
    (first : Replaced r r' k content) (second : Replaced r' r'' k content') :
    Replaced r r'' k content' where
  display := second.display.trans first.display
  others x other := (second.others x other).trans (first.others x other)
  replaced := by rw [second.replaced, first.display]

/-! ### Dropping and importing pictures -/

theorem software?_detach (k : SurfaceId) :
    (r.detach k).software? = r.software?.map fun s =>
      (s.1, (r.images.get? k).elim s.2 fun old => s.2.erase old) := by
  unfold detach
  split
  next old eq =>
    simp only [software?, withContext, RenderContext.software?_destroyImage, eq, Option.elim]
  next eq => simp [eq]

theorem images_detach (k x : SurfaceId) :
    (r.detach k).images.get? x = if x = k then none else r.images.get? x := by
  unfold detach
  split
  · simp [Table.get?_erase]
  next eq =>
    split
    next same => rw [same, eq]
    · rfl

theorem degraded_detach (k : SurfaceId) :
    (r.detach k).handle.degraded = r.handle.degraded := by
  unfold detach
  split <;> rfl

theorem inMemory_detach (k : SurfaceId) :
    (r.detach k).handle.context.inMemory = r.handle.context.inMemory := by
  unfold detach
  split
  · simp [withContext, RenderContext.inMemory_destroyImage]
  · rfl

theorem sound_detach (sound : r.Sound next) (k : SurfaceId) : (r.detach k).Sound next := by
  constructor
  case live =>
    rw [inMemory_detach, software?_detach, Option.isSome_map]
    exact sound.live
  case imported =>
    intro s x i after found
    rw [software?_detach] at after
    obtain ⟨t, before, rfl⟩ := Option.map_eq_some_iff.1 after
    rw [images_detach] at found
    split at found
    next => simp at found
    next other =>
      obtain ⟨image, imported⟩ := sound.imported t x i before found
      refine ⟨image, ?_⟩
      cases old : r.images.get? k with
      | none => simpa using imported
      | some j =>
        -- The erased image was not this one, as no two surfaces share an image.
        have kept : i ≠ j := fun same => other (sound.apart x k i found (same ▸ old))
        simpa [Table.get?_erase, kept] using imported
  case owned =>
    intro s i image after found
    rw [software?_detach] at after
    obtain ⟨t, before, rfl⟩ := Option.map_eq_some_iff.1 after
    cases old : r.images.get? k with
    | none =>
      obtain ⟨x, owner⟩ := sound.owned t i image before (by simpa [old] using found)
      have other : x ≠ k := fun same => by simp [same, old] at owner
      exact ⟨x, by rw [images_detach, if_neg other, owner]⟩
    | some j =>
      -- The image that went was the one of this surface.
      simp only [old, Option.elim, Table.get?_erase, Option.ite_none_left_eq_some] at found
      obtain ⟨x, owner⟩ := sound.owned t i image before found.2
      have other : x ≠ k := fun same =>
        found.1 (Option.some.inj (owner.symm.trans (same ▸ old)))
      exact ⟨x, by rw [images_detach, if_neg other, owner]⟩
  case apart =>
    intro x x' i found found'
    rw [images_detach] at found found'
    grind [sound.apart x x' i]
  case named =>
    intro x i found
    rw [images_detach] at found
    have := sound.named x i
    grind

theorem picture?_detach (sound : r.Sound next) (k x : SurfaceId) :
    (r.detach k).picture? x = if x = k then none else r.picture? x := by
  unfold picture?
  rw [software?_detach, images_detach]
  cases there : r.software? with
  | none => simp
  | some s =>
    split
    next => simp
    next other =>
      cases found : r.images.get? x with
      | none => simp
      | some i =>
        cases old : r.images.get? k with
        | none => simp
        | some j =>
          -- Again, the erased image belonged to the other surface.
          have kept : i ≠ j := fun same => other (sound.apart x k i found (same ▸ old))
          simp [Table.get?_erase, kept]

theorem detach_replaced (sound : r.Sound next) (k : SurfaceId) :
    Replaced r (r.detach k) k none where
  display := by
    unfold display?
    rw [software?_detach, degraded_detach]
    cases r.software? <;> rfl
  others x other := by rw [picture?_detach sound, if_neg other]
  replaced := by simp [picture?_detach sound]

/-- A new image for a surface without one. -/
theorem Sound.addImage (sound : r.Sound next) {ctx : RenderContext} {k : SurfaceId} {b : Buffer}
    (bare : r.images.get? k = none) (memory : ctx.inMemory = r.handle.context.inMemory)
    (software : Option.Rel
      (fun s s' => ∃ image, b.picture? = some image ∧ s' = (s.1, s.2.insert next image))
      r.software? ctx.software?) :
    ({ r.withContext ctx with images := r.images.insert k next } : Renderer).Sound next.next := by
  -- An entry of the new table is the new one, or an old one with an older name.
  have new {x i} (found : (r.images.insert k next).get? x = some i) :
      (x = k ∧ i = next) ∨ (x ≠ k ∧ r.images.get? x = some i ∧ i.number < next.number) := by
    rw [Table.get?_insert] at found
    have := sound.named x i
    grind
  constructor
  case live =>
    intro memory'
    obtain ⟨s, before⟩ := Option.isSome_iff_exists.1 (sound.live (memory.symm.trans memory'))
    obtain ⟨s', after, -⟩ := found_of_rel_left software before
    exact Option.isSome_iff_exists.2 ⟨s', after⟩
  case imported =>
    intro s' x i after found
    obtain ⟨s, before, image, -, rfl⟩ := found_of_rel software after
    rcases new found with ⟨-, rfl⟩ | ⟨-, old, less⟩
    · exact ⟨image, by simp [Table.get?_insert]⟩
    · have other : i ≠ next := fun same => by simp [same] at less
      simpa [Table.get?_insert, other] using sound.imported s x i before old
  case owned =>
    intro s' i image after found
    obtain ⟨s, before, image', -, rfl⟩ := found_of_rel software after
    simp only [Table.get?_insert] at found ⊢
    split at found
    next here => exact ⟨k, by rw [if_pos rfl, here]⟩
    next =>
      obtain ⟨x, owner⟩ := sound.owned s i image before found
      have other : x ≠ k := fun same => by simp [same, bare] at owner
      exact ⟨x, by rw [if_neg other, owner]⟩
  case apart =>
    intro x x' i found found'
    have := sound.apart x x' i
    have := new found
    have := new found'
    grind
  case named =>
    intro x i found
    have := new found
    simp only [ImageId.next]
    grind

theorem addImage_replaced {ctx : RenderContext} {k : SurfaceId} {b : Buffer}
    (sound : r.Sound next)
    (software : Option.Rel
      (fun s s' => ∃ image, b.picture? = some image ∧ s' = (s.1, s.2.insert next image))
      r.software? ctx.software?) :
    Replaced r { r.withContext ctx with images := r.images.insert k next } k (some b) where
  display := map_of_rel software fun s s' ⟨_, _, eq⟩ => by rw [eq]; rfl
  others x other := by
    simp only [picture?, software?, withContext, Table.get?_insert, if_neg other]
    apply bind_of_rel software
    rintro s _ ⟨image, -, rfl⟩
    cases found : r.images.get? x with
    | none => rfl
    | some i =>
      have kept : i ≠ next := fun same => by simpa [same] using sound.named x i found
      simp [Table.get?_insert, kept]
  replaced := by
    simp only [picture?, display?, software?, withContext, Table.get?_insert, if_true,
      Option.bind_some, Option.bind_map]
    apply bind_of_rel software
    rintro s _ ⟨image, picture, rfl⟩
    simp [Table.get?_insert, picture]

/-- The name for the next image does not go back. -/
theorem nextImage_attach (device : DeviceAnswers) (k : SurfaceId) (content : Option Buffer) :
    next.number ≤ (r.attach device next k content).nextImage.number := by
  unfold attach
  cases content with
  | none => exact Nat.le_refl _
  | some b =>
    simp only
    split
    · exact Nat.le_succ _
    · exact Nat.le_refl _

theorem attach_sound (sound : r.Sound next) (device : DeviceAnswers) (k : SurfaceId)
    (content : Option Buffer) :
    (r.attach device next k content).renderer.Sound (r.attach device next k content).nextImage := by
  -- The picture goes in any case; what follows starts from a renderer without it.
  have bare := sound_detach sound k
  unfold attach
  cases content with
  | none => exact bare
  | some b =>
    have memory := (r.detach k).handle.context.inMemory_createImage device next b
    simp only
    split
    next done =>
      exact bare.addImage (by simp [images_detach]) memory
        (RenderContext.software?_createImage_ok done)
    next e failed =>
      exact bare.same rfl memory
        (congrArg (Option.map Prod.snd) (RenderContext.software?_createImage_error failed).1)

theorem attach_replaced (sound : r.Sound next) (device : DeviceAnswers) (k : SurfaceId)
    (content : Option Buffer) :
    Replaced r (r.attach device next k content).renderer k content := by
  have bare := sound_detach sound k
  have dropped := detach_replaced sound k
  unfold attach
  cases content with
  | none => exact dropped
  | some b =>
    simp only
    split
    next done =>
      exact dropped.trans (addImage_replaced bare (RenderContext.software?_createImage_ok done))
    -- A refused import leaves the surface without a picture, as dropping did.
    next e failed =>
      obtain ⟨same, unread⟩ := RenderContext.software?_createImage_error failed
      refine dropped.trans ⟨?_, fun x _ => picture?_withContext same x, ?_⟩
      · unfold display? software? withContext
        rw [same]
      · rw [picture?_withContext same, picture?_detach sound, if_pos rfl, display?, software?,
          Option.bind_map]
        exact unread.symm

/-! ### A new size -/

theorem resize_sound (sound : r.Sound next) (device : DeviceAnswers) (size : Size) :
    (r.resize device size).1.Sound next :=
  sound.same rfl (r.handle.context.inMemory_onCanvas device _ _)
    (RenderContext.software?_resize device size)

theorem picture?_resize (device : DeviceAnswers) (size : Size) (k : SurfaceId) :
    (r.resize device size).1.picture? k = r.picture? k :=
  picture?_same (show (r.resize device size).1.images = r.images from rfl)
    (RenderContext.software?_resize device size) k

theorem degraded_resize (device : DeviceAnswers) (size : Size) :
    (r.resize device size).1.display?.map Prod.snd = r.display?.map Prod.snd := by
  have same : (r.resize device size).1.software?.map Prod.snd = r.software?.map Prod.snd :=
    RenderContext.software?_resize device size
  have degraded (s : Option (Framebuffer × Table ImageId Image)) :
      (s.map fun s => (s.1.size, r.handle.degraded)).map Prod.snd =
        (s.map Prod.snd).map fun _ => r.handle.degraded := by
    cases s <;> rfl
  exact (degraded _).trans ((congrArg _ same).trans (degraded _).symm)

/-! ### New renderers -/

theorem engine_ofSize {size : Size} {short : Bool} {make : Canvas → RenderContext}
    {ctx : RenderContext} (made : (Canvas.granted size short (Canvas.ofSize size)).map make = .ok ctx) :
    ∃ fb, ctx = make (.live fb Table.empty) := by
  rw [Canvas.setUp_eq] at made
  split at made
  · simp [Except.map] at made
  · exact ⟨_, (Except.ok.inj made).symm⟩

/-- A context that was not used yet. -/
structure Unused (ctx : RenderContext) : Prop where
  live : ctx.inMemory = true → ctx.software?.isSome = true
  bare : ∀ s, ctx.software? = some s → s.2 = Table.empty

theorem construct_unused {b : Backend} {device : DeviceAnswers} {id : ContextId} {size : Size}
    {ctx : RenderContext} {told : List Event}
    (made : b.construct device id size = (.ok ctx, told)) : Unused ctx := by
  obtain ⟨name, construction⟩ := b
  have made := congrArg Prod.fst made
  cases construction with
  | memory =>
    -- A new canvas is never a terminated one.
    obtain ⟨fb, rfl⟩ := engine_ofSize made
    exact ⟨fun _ => rfl, fun s there => Option.some.inj there ▸ rfl⟩
  | missing reason => simp [Backend.construct] at made
  | device =>
    simp only [Backend.construct, Except.bind] at made
    split at made
    · simp at made
    · obtain ⟨fb, rfl⟩ := engine_ofSize made
      exact ⟨nofun, nofun⟩
  | native =>
    simp only [Backend.construct, Except.map] at made
    split at made
    · simp at made
    · cases made
      exact ⟨nofun, nofun⟩

theorem probe_unused {device : DeviceAnswers} {id : ContextId} {size : Size}
    {backends : List Backend} {ctx : RenderContext}
    (found : (Contexts.probe device id size backends).1 = some ctx) : Unused ctx := by
  induction backends with
  | nil => simp [Contexts.probe] at found
  | cons b rest ih =>
    simp only [Contexts.probe] at found
    split at found
    next made =>
      cases found
      exact construct_unused made
    next => exact ih found

/-- A renderer for a new context has no pictures. -/
theorem Unused.sound {h : RenderHandle} (unused : Unused h.context) (next : ImageId) :
    ({ handle := h } : Renderer).Sound next where
  live := unused.live
  imported _ _ _ _ found := by simp at found
  owned s i image there found := by simp [unused.bare s there] at found
  apart _ _ _ found := by simp at found
  named _ _ found := by simp at found

/-! ### Render passes -/

/-- One item drawn after others, as long as the context refused none. -/
def drawItem (r : Renderer) (device : DeviceAnswers) (done : RenderContext.Step)
    (item : PaintItem) : RenderContext.Step :=
  match done.result, r.image? item.surface with
  | .ok _, some image =>
    let step := done.context.draw device image item.placement
    { step with events := done.events ++ step.events }
  | _, _ => done

theorem blank_drawItems (device : DeviceAnswers) (items : List PaintItem) :
    (r.drawItems device items).context.blank = r.handle.context.blank := by
  -- The induction is on the items, for any context that earlier items left.
  have run (done : RenderContext.Step) :
      (items.foldl (r.drawItem device) done).context.blank = done.context.blank := by
    induction items generalizing done with
    | nil => rfl
    | cons item items ih =>
      refine (ih _).trans ?_
      unfold drawItem
      split
      · exact done.context.blank_draw device _ _
      · rfl
  exact run ⟨.ok (), r.handle.context, []⟩

/-- Where every image is there, all items that have one are drawn. -/
theorem drawItems_software {fb : Framebuffer} {images : Table ImageId Image} (device : DeviceAnswers)
    (items : List PaintItem) (there : r.software? = some (fb, images))
    (imported : ∀ k i, r.images.get? k = some i → ∃ image, images.get? i = some image) :
    ∃ drawn, r.drawItems device items = ⟨.ok (), drawn, []⟩ ∧
      drawn.software? = some (fb.drawPictures r.picture? items, images) := by
  -- The context and the framebuffer are those after the items drawn so far.
  have run (ctx : RenderContext) (fb : Framebuffer) (memory : ctx.software? = some (fb, images)) :
      ∃ drawn, items.foldl (r.drawItem device) ⟨.ok (), ctx, []⟩ = ⟨.ok (), drawn, []⟩ ∧
        drawn.software? = some (fb.drawPictures r.picture? items, images) := by
    induction items generalizing ctx fb with
    | nil => exact ⟨ctx, rfl, memory⟩
    | cons item items ih =>
      cases found : r.images.get? item.surface with
      | none =>
        have bare : r.picture? item.surface = none := by simp [picture?, found]
        simpa [Framebuffer.drawPictures, drawItem, image?, found, bare] using ih ctx fb memory
      | some i =>
        obtain ⟨image, named⟩ := imported _ _ found
        have picture : r.picture? item.surface = some image := by
          simp [picture?, there, found, named]
        obtain ⟨drawn, step, after⟩ :=
          RenderContext.draw_software memory device named item.placement
        simpa [Framebuffer.drawPictures, drawItem, image?, found, picture, step] using ih drawn _ after
  exact run _ _ there

end Renderer

namespace Contexts

variable (cs : Contexts) (device : DeviceAnswers) (h : RenderHandle)

theorem bind_handle : (cs.bind device h).handle = h := by
  unfold bind
  split
  · rfl
  · simp only
    split <;> rw [RenderContext.bind_context]

/-- Only which context is current changes. -/
theorem bind_contexts :
    (cs.bind device h).contexts = { cs with bound := (cs.bind device h).contexts.bound } := by
  unfold bind
  split
  · rfl
  · simp only
    split <;> rfl

theorem present_context (screen : Screen) : (present h device screen).2.1.context = h.context := by
  unfold present
  split
  · rfl
  · simp only
    split <;> exact RenderContext.swap_context ..

theorem swap_handle_context (screen : Screen) :
    (cs.swap device h screen).handle.context = h.context := by
  unfold swap
  simp only
  split
  · rw [bind_handle]
  · rw [present_context, bind_handle]

theorem swap_contexts (screen : Screen) : (cs.swap device h screen).contexts =
    { cs with bound := (cs.swap device h screen).contexts.bound } := by
  have bound := cs.bind_contexts device h
  unfold swap
  simp only
  split <;> exact bound

variable {h} {fb : Framebuffer} {images : Table ImageId Image}

theorem bind_software (there : h.context.software? = some (fb, images)) :
    (cs.bind device h).result = .ok () ∧ (cs.bind device h).handle = h ∧
      (cs.bind device h).events = [] := by
  obtain ⟨done, same, quiet⟩ := RenderContext.bind_software there device
  unfold bind
  split
  · exact ⟨rfl, rfl, rfl⟩
  · simp [done, same, quiet]

/-- A degraded context presents nothing; another one hands its pixels to the screen, and is degraded
if the screen does not take them. -/
theorem present_software (there : h.context.software? = some (fb, images)) (screen : Screen) :
    present h device screen =
      (.ok (), { h with degraded := h.degraded || !screen.answer.toBool },
        if h.degraded then [] else (RenderContext.flip screen (.pixels fb.size fb.pixels)).2) := by
  obtain ⟨context, degraded⟩ := h
  cases degraded with
  | true => simp [present]
  | false =>
    simp only [present, RenderContext.swap_software there device screen, RenderContext.flip]
    cases screen.answer <;> simp [Except.toBool]

theorem swap_software (there : h.context.software? = some (fb, images)) (screen : Screen) :
    (cs.swap device h screen).result = .ok () ∧
    (cs.swap device h screen).handle =
      { h with degraded := h.degraded || !screen.answer.toBool } ∧
    (cs.swap device h screen).events =
      if h.degraded then [] else (RenderContext.flip screen (.pixels fb.size fb.pixels)).2 := by
  obtain ⟨done, same, quiet⟩ := cs.bind_software device there
  simp [swap, done, same, quiet, present_software device there screen]

end Contexts

namespace Renderer

variable {r : Renderer} {next : ImageId}

theorem images_repaint (contexts : Contexts) (device : DeviceAnswers) (screen : Screen)
    (background : Colour) (items : List PaintItem) :
    (r.repaint contexts device screen background items).renderer.images = r.images := by
  unfold repaint
  simp only
  split
  · rfl
  · split <;> rfl

/-- A repaint touches nothing of the context but the pixels of the framebuffer. -/
theorem blank_repaint (contexts : Contexts) (device : DeviceAnswers) (screen : Screen)
    (background : Colour) (items : List PaintItem) :
    (r.repaint contexts device screen background items).renderer.handle.context.blank =
      r.handle.context.blank := by
  have bound := contexts.bind_handle device r.handle
  unfold repaint
  generalize contexts.bind device r.handle = current at bound
  have drawn := blank_drawItems (r := ({ r with handle := current.handle }).withContext
    (current.handle.context.clear background)) device items
  have same : current.handle.context.blank = r.handle.context.blank := by rw [bound]
  have cleared := (drawn.trans (RenderContext.blank_clear _ background)).trans same
  simp only
  split
  · exact same
  · split
    · exact cleared
    · exact (congrArg _ (Contexts.swap_handle_context ..)).trans cleared

theorem contexts_repaint (contexts : Contexts) (device : DeviceAnswers) (screen : Screen)
    (background : Colour) (items : List PaintItem) :
    (r.repaint contexts device screen background items).contexts =
      { contexts with
        bound := (r.repaint contexts device screen background items).contexts.bound } := by
  have bound := contexts.bind_contexts device r.handle
  unfold repaint
  generalize contexts.bind device r.handle = current at bound
  simp only
  split
  · exact bound
  · split
    · exact bound
    · exact (Contexts.swap_contexts ..).trans (by rw [bound])

section

variable (contexts : Contexts) (device : DeviceAnswers) (screen : Screen) (background : Colour)
  (items : List PaintItem)

theorem software?_repaint :
    (r.repaint contexts device screen background items).renderer.software?.map
      (fun s => (s.1.size, s.2)) = r.software?.map fun s => (s.1.size, s.2) :=
  (RenderContext.Keeps.of_blank (r.blank_repaint contexts device screen background items)).software

theorem images_of_software {s t : Option (Framebuffer × Table ImageId Image)}
    (same : s.map (fun s => (s.1.size, s.2)) = t.map fun s => (s.1.size, s.2)) :
    s.map Prod.snd = t.map Prod.snd := by
  simpa [Function.comp_def] using congrArg (Option.map Prod.snd) same

theorem repaint_sound (sound : r.Sound next) :
    (r.repaint contexts device screen background items).renderer.Sound next :=
  sound.same (r.images_repaint contexts device screen background items)
    (RenderContext.Keeps.of_blank (r.blank_repaint contexts device screen background items)).inMemory
    (images_of_software (software?_repaint contexts device screen background items))

theorem picture?_repaint (k : SurfaceId) :
    (r.repaint contexts device screen background items).renderer.picture? k = r.picture? k :=
  picture?_same (r.images_repaint contexts device screen background items)
    (images_of_software (software?_repaint contexts device screen background items)) k

theorem size_repaint :
    (r.repaint contexts device screen background items).renderer.display?.map Prod.fst =
      r.display?.map Prod.fst := by
  have size := congrArg (Option.map Prod.fst)
    (software?_repaint contexts device screen background items (r := r))
  simpa [display?, Function.comp_def] using size

/-- The frame of a render pass: the background with the pictures of the items drawn over it. A renderer
that is not degraded hands it to the screen, and is degraded if the screen does not take it. Nothing
else can go wrong. -/
theorem repaint_software (sound : r.Sound next) {fb : Framebuffer} {images : Table ImageId Image}
    (there : r.software? = some (fb, images)) :
    let drawn := (fb.fill background.pack).drawPictures r.picture? items
    let pass := r.repaint contexts device screen background items
    pass.result = .ok () ∧ pass.renderer.software? = some (drawn, images) ∧
    pass.renderer.handle.degraded = (r.handle.degraded || !screen.answer.toBool) ∧
    pass.events = if r.handle.degraded then []
      else (RenderContext.flip screen (.pixels drawn.size drawn.pixels)).2 := by
  obtain ⟨bound, current, quiet⟩ := contexts.bind_software device (h := r.handle) there
  have cleared : (r.withContext (r.handle.context.clear background)).software? =
      some (fb.fill background.pack, images) := by
    rw [software?, withContext, RenderContext.software?_clear, show r.handle.context.software? = _
      from there, Option.map_some]
  obtain ⟨drawn, eq, after⟩ := drawItems_software device items cleared
    fun k i found => sound.imported _ k i there found
  -- Clearing keeps the pictures, so those drawn are the ones the renderer has.
  have same : (r.withContext (r.handle.context.clear background)).picture? = r.picture? := by
    funext k
    apply picture?_same
    · rfl
    · rw [cleared, there, Option.map_some, Option.map_some]
  rw [same] at after
  obtain ⟨shown, handle, events⟩ := Contexts.swap_software
    (contexts.bind device r.handle).contexts device (h := { r.handle with context := drawn }) after
    screen
  simp only [repaint, bound, current, eq, withContext] at *
  exact ⟨shown, by rw [software?, handle]; exact after, by rw [handle], by simp [events, quiet]⟩

end

end Renderer

end Compositing
