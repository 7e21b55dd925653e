import Compositing.Proofs.Lookups
import Compositing.Rendering.Renderer

/-!
# Rendering in memory

What the operations of a context do to its framebuffer and its images when it renders in memory, and
what they do to the pictures that a renderer keeps for surfaces. Other contexts have no framebuffer,
and no operation gives them one.
-/

namespace Compositing

/-- Devices that go along with every call, and memory for every framebuffer. -/
def DeviceAnswers.willing : DeviceAnswers where
  call _ _ _ := .ok ()
  short _ _ := false

theorem Canvas.imageOf_size {b : Buffer} {image : Image} (picture : imageOf b = .ok image) :
    image.size = b.size := by
  unfold imageOf at picture
  split at picture
  · split at picture
    · simp at picture
    · cases picture
      rfl
  · simp at picture

/-- The picture of a buffer as it is now, if it can be read. -/
def Buffer.picture? (b : Buffer) : Option Image := (Canvas.imageOf b).toOption

theorem Buffer.picture?_size {b : Buffer} {image : Image} (picture : b.picture? = some image) :
    image.size = b.size := by
  unfold picture? Except.toOption at picture
  split at picture
  next eq =>
    cases picture
    exact Canvas.imageOf_size eq
  next => cases picture

/-! ### Memory for framebuffers -/

namespace Canvas

/-- The host gives no memory for a framebuffer. -/
def Lacking (size : Size) (short : Bool) : Prop :=
  (short = true ∧ 0 < size.pixelCount) ∨ Framebuffer.maxBytes < size.pixelCount * 4

instance (size : Size) (short : Bool) : Decidable (Lacking size short) :=
  inferInstanceAs (Decidable (_ ∨ _))

/-- A new framebuffer is blank, unless it takes memory that is not given. -/
theorem granted_allocate {size : Size} {short : Bool} {images : Table ImageId Image} :
    (granted size short
      (match Framebuffer.allocate? size with
      | some fresh => .ok (live fresh images)
      | none => .error (.outOfMemory "framebuffer")) : Except RenderError Canvas) =
      if Lacking size short then .error (.outOfMemory "framebuffer")
      else .ok (live (Framebuffer.filled size 0) images) := by
  simp only [granted, Framebuffer.allocate?, Lacking]
  by_cases given : short = true ∧ 0 < size.pixelCount
  · simp [given]
  · by_cases fits : size.pixelCount * 4 ≤ Framebuffer.maxBytes
    · simp [given, fits, Nat.not_lt.2 fits]
    · simp [given, fits, Nat.not_le.1 fits]

theorem setUp_eq {size : Size} {short : Bool} : granted size short (ofSize size) =
    if Lacking size short then .error (.outOfMemory "framebuffer")
    else .ok (live (Framebuffer.filled size 0) Table.empty) := granted_allocate

/-- A change of size keeps the images, and the size that a canvas has keeps the pixels too. -/
theorem resize_eq {fb : Framebuffer} {images : Table ImageId Image} {size : Size} {short : Bool} :
    granted size (short && (live fb images).takesMemory size) ((live fb images).resize size) =
      if size = fb.size then .ok (live fb images)
      else if Lacking size short then .error (.outOfMemory "framebuffer")
      else .ok (live (Framebuffer.filled size 0) images) := by
  by_cases same : size = fb.size
  · simp [granted, takesMemory, resize, same]
  · have other : (live fb images).takesMemory size = true := by simp [takesMemory, same]
    rw [other, Bool.and_true, if_neg same, resize, if_neg same]
    exact granted_allocate

/-- A terminated canvas changes its size no more, however much memory there is. -/
theorem resize_terminated (old size : Size) (short : Bool) :
    granted size (short && (terminated old).takesMemory size) ((terminated old).resize size) =
      .error .terminated := by
  simp [granted, takesMemory, resize]

end Canvas

/-! ### Contexts -/

namespace RenderContext

/-- The framebuffer and the images of a context that renders in memory and was not terminated. -/
def software? (ctx : RenderContext) : Option (Framebuffer × Table ImageId Image) :=
  match ctx.engine with
  | .memory (.live fb images) => some (fb, images)
  | _ => none

variable {ctx : RenderContext} {fb : Framebuffer} {images : Table ImageId Image}

theorem software?_eq_some :
    ctx.software? = some (fb, images) ↔ ctx.engine = .memory (.live fb images) := by
  unfold software?
  split
  next eq => simp [eq]
  next other => simpa using other fb images

theorem software?_withCanvas (there : ctx.software? = some (fb, images)) (fb' : Framebuffer)
    (images' : Table ImageId Image) :
    (ctx.withCanvas (.live fb' images')).software? = some (fb', images') := by
  rw [software?_eq_some] at there ⊢
  simp [withCanvas, there]

/-- Work on the canvas of a context that renders in memory is not seen by any device. -/
theorem onCanvas_software (there : ctx.software? = some (fb, images)) (device : DeviceAnswers)
    (call : DeviceCall) (work : Canvas → Except RenderError Canvas) :
    ctx.onCanvas device call work =
      match work (.live fb images) with
      | .ok done => ⟨.ok (), ctx.withCanvas done, []⟩
      | .error e => ⟨.error e, ctx, []⟩ := by
  rw [software?_eq_some] at there
  cases result : work (.live fb images) <;> simp [onCanvas, there, result]

theorem software?_onCanvas_none (absent : ctx.software? = none) {device : DeviceAnswers}
    {call : DeviceCall} {work : Canvas → Except RenderError Canvas}
    (refuses : ∀ size, ∃ e, work (.terminated size) = .error e) :
    (ctx.onCanvas device call work).context.software? = none := by
  obtain ⟨id, backend, engine⟩ := ctx
  cases engine with
  | native => rfl
  -- A device's canvas is no software canvas, whatever became of it.
  | device canvas count =>
    simp only [onCanvas]
    split <;> simp [software?, withCanvas]
  | memory canvas =>
    cases canvas with
    | live fb images => simp [software?] at absent
    -- The only work that could bring a canvas back is work on a terminated one.
    | terminated size =>
      obtain ⟨e, refused⟩ := refuses size
      simp [onCanvas, refused, software?]

theorem software?_destroyImage (id : ImageId) :
    (ctx.destroyImage id).2.software? = ctx.software?.map fun s => (s.1, s.2.erase id) := by
  obtain ⟨_, _, engine⟩ := ctx
  cases engine with
  | native => rfl
  | device canvas count => simp [destroyImage, software?]
  | memory canvas => cases canvas <;> rfl

theorem software?_createImage_none (absent : ctx.software? = none) (device : DeviceAnswers)
    (id : ImageId) (b : Buffer) : (ctx.createImage device id b).context.software? = none := by
  have kept : (ctx.onCanvas device (.importBuffer b.id) fun canvas =>
      canvas.createImage id b).context.software? = none :=
    software?_onCanvas_none absent fun size => ⟨_, rfl⟩
  -- Counting images touches only contexts of devices.
  simp only [createImage]
  split
  · rfl
  · exact kept

/-- An import adds the picture of the buffer under the new name, if it goes well, and nothing if not. -/
theorem createImage_software (there : ctx.software? = some (fb, images)) (device : DeviceAnswers)
    (id : ImageId) (b : Buffer) :
    (∃ image, b.picture? = some image ∧ (ctx.createImage device id b).result = .ok () ∧
      (ctx.createImage device id b).context.software? = some (fb, images.insert id image)) ∨
    (b.picture? = none ∧ (∃ e, (ctx.createImage device id b).result = .error e) ∧
      (ctx.createImage device id b).context.software? = some (fb, images)) := by
  have memory := software?_eq_some.1 there
  simp only [createImage, onCanvas_software there, Canvas.createImage, Buffer.picture?]
  cases picture : Canvas.imageOf b with
  | error e => right; exact ⟨rfl, ⟨e, by simp [Except.map]⟩, by simp [Except.map, there]⟩
  | ok image =>
    left
    refine ⟨image, rfl, by simp [Except.map, withCanvas, memory], ?_⟩
    simpa [Except.map, withCanvas, memory] using software?_eq_some.2 rfl

theorem software?_createImage_error {device : DeviceAnswers} {id : ImageId} {b : Buffer}
    {e : RenderError} (failed : (ctx.createImage device id b).result = .error e) :
    (ctx.createImage device id b).context.software? = ctx.software? ∧
      (ctx.software?.bind fun _ => b.picture?) = none := by
  cases there : ctx.software? with
  | none => exact ⟨software?_createImage_none there device id b, rfl⟩
  | some s =>
    rcases createImage_software there device id b with ⟨image, _, done, _⟩ | ⟨unread, _, kept⟩
    · simp [failed] at done
    · exact ⟨kept, unread⟩

theorem software?_createImage_ok {device : DeviceAnswers} {id : ImageId} {b : Buffer}
    (done : (ctx.createImage device id b).result = .ok ()) :
    Option.Rel (fun s s' => ∃ image, b.picture? = some image ∧ s' = (s.1, s.2.insert id image))
      ctx.software? (ctx.createImage device id b).context.software? := by
  cases there : ctx.software? with
  | none =>
    rw [software?_createImage_none there]
    exact .none
  | some s =>
    rcases createImage_software there device id b with
      ⟨image, picture, _, after⟩ | ⟨_, ⟨e, failed⟩, _⟩
    · rw [after]
      exact .some ⟨image, picture, rfl⟩
    · simp [failed] at done

/-- A change of size keeps the images. -/
theorem software?_resize (device : DeviceAnswers) (size : Size) :
    (ctx.resize device size).context.software?.map Prod.snd = ctx.software?.map Prod.snd := by
  cases there : ctx.software? with
  | none =>
    rw [resize, software?_onCanvas_none there fun _ => ⟨_, Canvas.resize_terminated ..⟩]
  | some s =>
    obtain ⟨fb, images⟩ := s
    simp only [resize, onCanvas_software there, Canvas.resize_eq]
    -- The old size keeps the canvas, a new one starts a blank framebuffer with the same images.
    by_cases same : size = fb.size
    · simp [same, software?_withCanvas there]
    · by_cases lacking : Canvas.Lacking size (device.short ctx.id size)
      · simp [same, lacking, there]
      · simp [same, lacking, software?_withCanvas there]

theorem software?_clear (colour : Colour) :
    (ctx.clear colour).software? = ctx.software?.map fun s => (s.1.fill colour.pack, s.2) := by
  obtain ⟨_, _, engine⟩ := ctx
  cases engine with
  | native => rfl
  | device canvas count => rfl
  | memory canvas => cases canvas <;> rfl

/-- Drawing an image that is there. -/
theorem draw_software (there : ctx.software? = some (fb, images)) (device : DeviceAnswers)
    {id : ImageId} {image : Image} (found : images.get? id = some image) (p : Placement) :
    ∃ drawn, ctx.draw device id p = ⟨.ok (), drawn, []⟩ ∧
      drawn.software? = some (fb.draw image p, images) :=
  ⟨ctx.withCanvas (.live (fb.draw image p) images),
    by simp [draw, onCanvas_software there, Canvas.draw, found], software?_withCanvas there _ _⟩

theorem bind_software (there : ctx.software? = some (fb, images)) (device : DeviceAnswers) :
    (ctx.bind device).result = .ok () ∧ (ctx.bind device).context = ctx ∧
      (ctx.bind device).events = [] := by
  have memory := software?_eq_some.1 there
  have same : ctx.withCanvas (.live fb images) = ctx := by
    obtain ⟨_, _, _⟩ := ctx
    simp_all [withCanvas]
  simp [bind, memory, onCanvas_software there, Canvas.checkLive, Except.map, same]

theorem swap_software (there : ctx.software? = some (fb, images)) (device : DeviceAnswers)
    (screen : Screen) :
    ctx.swap device screen =
      ⟨(flip screen (.pixels fb.size fb.pixels)).1, ctx,
        (flip screen (.pixels fb.size fb.pixels)).2⟩ := by
  have memory := software?_eq_some.1 there
  simp [swap, memory, flipCanvas, Canvas.checkLive, Canvas.size, Canvas.pixels]

theorem swap_context (device : DeviceAnswers) (screen : Screen) :
    (ctx.swap device screen).context = ctx := by
  obtain ⟨_, _, engine⟩ := ctx
  cases engine with
  | memory canvas => rfl
  | native => simp only [swap]; split <;> rfl
  | device canvas count => simp only [swap]; split <;> rfl

end RenderContext

end Compositing
