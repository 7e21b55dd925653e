import Compositing.Proofs.Histories
import Compositing.Proofs.Rendering.Software
import Compositing.Rendering.Studio

/-!
# What canvases keep

A canvas that refuses a request stays as it is. What is left to know is what the others do to it:
`Canvas.Step` tells this for one canvas, `Studio.Step` for all that are in use, and everything else is
read off these two. Main statements: `Canvas.refused_iff`, which requests are refused and why,
`Studio.image?_run_iff`, that an image shows its buffer as it was when the image was made, and
`Studio.lifecycle_run`.
-/

namespace Compositing

/-! ### Pictures of buffers -/

/-- The image shows the buffer as it is. -/
structure Buffer.Pictured (b : Buffer) (image : Image) : Prop where
  memory : b.memory = .shared
  format : b.format ≠ .nv12
  size : image.size = b.size
  pixels : b.contents = some image.pixels
  orientation : image.yInverted = b.yInverted
  opacity : image.hasAlpha = b.format.hasAlpha

/-- The buffer cannot be read. -/
def Buffer.Unmapped (b : Buffer) : Prop := b.memory = .device ∨ b.contents = none

namespace Canvas

theorem imageOf_eq_ok_iff {b : Buffer} {image : Image} : imageOf b = .ok image ↔ b.Pictured image := by
  unfold imageOf
  split
  next pixels memory mapped =>
    split
    next planar =>
      refine ⟨fun made => ?_, fun pictured => absurd planar pictured.format⟩
      cases made
    next format =>
      constructor
      · rintro ⟨⟩
        exact ⟨memory, format, rfl, mapped, rfl, rfl⟩
      · obtain ⟨size, pixels', yInverted, hasAlpha, fits⟩ := image
        rintro ⟨-, -, rfl, shown, rfl, rfl⟩
        obtain rfl := Option.some.inj (mapped.symm.trans shown)
        rfl
  next other =>
    refine ⟨fun made => ?_, fun pictured => (other _ pictured.memory pictured.pixels).elim⟩
    cases made

theorem pictured_unique {b : Buffer} {image image' : Image} (pictured : b.Pictured image)
    (pictured' : b.Pictured image') : image = image' :=
  Except.ok.inj ((imageOf_eq_ok_iff.2 pictured).symm.trans (imageOf_eq_ok_iff.2 pictured'))

theorem imageOf_eq_error_iff {b : Buffer} {e : RenderError} : imageOf b = .error e ↔
    (b.Unmapped ∧ e = .unsupported backendName "import of unmapped buffers") ∨
      (¬b.Unmapped ∧ b.format = .nv12 ∧ e = .unsupported backendName "import of NV12 buffers") := by
  unfold imageOf
  split
  next pixels memory mapped =>
    have readable : ¬b.Unmapped := by simp [Buffer.Unmapped, memory, mapped]
    split
    next planar => simp [readable, planar, eq_comm]
    next format => simp [readable, format]
  next other =>
    have unmapped : b.Unmapped := by
      cases memory : b.memory with
      | device => exact .inl memory
      | shared =>
        cases mapped : b.contents with
        | none => exact .inr mapped
        | some pixels => exact (other pixels memory mapped).elim
    simp [unmapped, eq_comm]

end Canvas

/-! ### What is refused -/

/-- The request needs a canvas that was not terminated. -/
def CanvasRequest.needsLive (pool : BufferPool) : CanvasRequest → Bool
  | createImage buffer => (pool.get? buffer).isSome
  | draw .. | resize .. | bind | swap .. => true
  | destroyImage .. | clear .. | terminate => false

namespace Canvas

/-- Why a canvas refuses a request. -/
inductive Refuses (pool : BufferPool) : Canvas → CanvasRequest → RenderError → Prop
  | unmapped {fb : Framebuffer} {images : Table ImageId Image} {buffer : BufferId} {b : Buffer}
    (there : pool.get? buffer = some b) (unmapped : b.Unmapped) :
    Refuses pool (.live fb images) (.createImage buffer)
      (.unsupported backendName "import of unmapped buffers")
  | planar {fb : Framebuffer} {images : Table ImageId Image} {buffer : BufferId} {b : Buffer}
    (there : pool.get? buffer = some b) (mapped : ¬b.Unmapped) (planar : b.format = .nv12) :
    Refuses pool (.live fb images) (.createImage buffer)
      (.unsupported backendName "import of NV12 buffers")
  | unknownImage {fb : Framebuffer} {images : Table ImageId Image} {image : ImageId} {p : Placement}
    (absent : images.get? image = none) :
    Refuses pool (.live fb images) (.draw image p) (.imageNotFound image)
  | noMemory {fb : Framebuffer} {images : Table ImageId Image} {size : Size} {short : Bool}
    (other : size ≠ fb.size) (lacking : Lacking size short) :
    Refuses pool (.live fb images) (.resize size short) (.outOfMemory "framebuffer")
  | notFlipped {fb : Framebuffer} {images : Table ImageId Image} {screen : Screen} {reason : String}
    (answer : screen.answer = .error reason) :
    Refuses pool (.live fb images) (.swap screen) (.pageFlip reason)
  | ended {size : Size} {request : CanvasRequest} (needs : request.needsLive pool = true) :
    Refuses pool (.terminated size) request .terminated

variable {c : Canvas} {pool : BufferPool} {next : ImageId} {request : CanvasRequest} {e : RenderError}

theorem Refuses.needsLive (refuses : Refuses pool c request e) : request.needsLive pool = true := by
  cases refuses with
  | unmapped there | planar there => simp [CanvasRequest.needsLive, there]
  | ended needs => exact needs
  | _ => rfl

theorem settle_refused_iff {reply : StudioReply} {result : Except RenderError Canvas}
    (granted : reply ≠ .refused e) : (c.settle reply result).1 = .refused e ↔ result = .error e := by
  cases result with
  | ok after => simpa [settle] using granted
  | error e' => simp [settle]

theorem createImage_eq_error_iff {fb : Framebuffer} {images : Table ImageId Image} {b : Buffer} :
    (live fb images).createImage next b = .error e ↔ imageOf b = .error e := by
  unfold createImage
  cases imageOf b <;> simp [Except.map]

theorem draw_eq_error_iff {fb : Framebuffer} {images : Table ImageId Image} {image : ImageId}
    {p : Placement} : (live fb images).draw image p = .error e ↔
      images.get? image = none ∧ e = .imageNotFound image := by
  cases found : images.get? image <;> simp [draw, found, eq_comm]

theorem flipCanvas_eq_error_iff {fb : Framebuffer} {images : Table ImageId Image} {screen : Screen} :
    ((RenderContext.flipCanvas (live fb images) screen).1.map fun _ => live fb images) = .error e ↔
      ∃ reason, screen.answer = .error reason ∧ e = .pageFlip reason := by
  simp only [RenderContext.flipCanvas, checkLive, RenderContext.flip]
  cases screen.answer <;> simp [Except.map, eq_comm]

theorem refused_terminated_iff {size : Size} :
    ((terminated size).handle pool next request).1 = .refused e ↔
      request.needsLive pool = true ∧ e = .terminated := by
  cases request with
  | createImage buffer =>
    cases there : pool.get? buffer <;>
      simp [handle, CanvasRequest.needsLive, there, settle, createImage, eq_comm]
  | draw | bind | swap =>
    simp [handle, CanvasRequest.needsLive, settle, draw, RenderContext.flipCanvas, checkLive, Except.map,
      eq_comm]
  | resize size' short =>
    simp [handle, CanvasRequest.needsLive, settle, granted, takesMemory, resize, eq_comm]
  | destroyImage | clear | terminate => simp [handle, CanvasRequest.needsLive]

/-- A canvas refuses what it has a reason to refuse, and nothing else. -/
theorem refused_iff : (c.handle pool next request).1 = .refused e ↔ Refuses pool c request e := by
  have quiet {reply : StudioReply} {after : Canvas} (taken : c.handle pool next request = (reply, after))
      (granted : ∀ e, reply ≠ .refused e) (never : ∀ e, ¬Refuses pool c request e) :
      (c.handle pool next request).1 = .refused e ↔ Refuses pool c request e := by
    rw [taken]
    exact ⟨fun refused => (granted e refused).elim, fun refuses => (never e refuses).elim⟩
  cases c with
  | live fb images =>
    cases request with
    | createImage buffer =>
      cases there : pool.get? buffer with
      | none =>
        refine quiet (by rw [handle, there]) (by simp) ?_
        rintro e (⟨there', -⟩ | ⟨there', -, -⟩) <;> simp [there] at there'
      | some b =>
        simp only [handle, there]
        rw [settle_refused_iff (by simp), createImage_eq_error_iff, imageOf_eq_error_iff]
        constructor
        · rintro (⟨unmapped, rfl⟩ | ⟨mapped, planar, rfl⟩)
          · exact .unmapped there unmapped
          · exact .planar there mapped planar
        · rintro (⟨there', unmapped⟩ | ⟨there', mapped, planar⟩) <;>
            obtain rfl := Option.some.inj (there.symm.trans there')
          · exact .inl ⟨unmapped, rfl⟩
          · exact .inr ⟨mapped, planar, rfl⟩
    | draw image p =>
      rw [handle, settle_refused_iff (by simp), draw_eq_error_iff]
      refine ⟨fun ⟨absent, eq⟩ => eq ▸ .unknownImage absent, fun refuses => ?_⟩
      cases refuses with
      | unknownImage absent => exact ⟨absent, rfl⟩
    | resize size short =>
      rw [handle, settle_refused_iff (by simp), resize_eq]
      constructor
      · intro refused
        split at refused
        · cases refused
        next other =>
          split at refused
          next lacking =>
            cases refused
            exact .noMemory other lacking
          · cases refused
      · intro refuses
        cases refuses with
        | noMemory other lacking => rw [if_neg other, if_pos lacking]
    | swap screen =>
      rw [handle, settle_refused_iff (by simp), flipCanvas_eq_error_iff]
      refine ⟨fun ⟨reason, answer, eq⟩ => eq ▸ .notFlipped answer, fun refuses => ?_⟩
      cases refuses with
      | notFlipped answer => exact ⟨_, answer, rfl⟩
    | destroyImage | clear | bind | terminate =>
      exact quiet rfl (by simp) fun e refuses => by cases refuses
  -- What a terminated canvas refuses does not depend on why a live one would.
  | terminated size =>
    rw [refused_terminated_iff]
    refine ⟨fun ⟨needs, eq⟩ => eq ▸ .ended needs, fun refuses => ?_⟩
    cases refuses with
    | ended needs => exact ⟨needs, rfl⟩

/-! ### One request to a canvas -/

/-- All that a request can do to a canvas. -/
inductive Step (pool : BufferPool) (next : ImageId) : Canvas → CanvasRequest → StudioReply → Canvas → Prop
  | refused {c : Canvas} {request : CanvasRequest} {e : RenderError} (refuses : Refuses pool c request e) :
    Step pool next c request (.refused e) c
  | unknown {c : Canvas} {buffer : BufferId} (absent : pool.get? buffer = none) :
    Step pool next c (.createImage buffer) .unknown c
  | imported {fb : Framebuffer} {images : Table ImageId Image} {buffer : BufferId} {b : Buffer}
    {image : Image} (there : pool.get? buffer = some b) (pictured : b.Pictured image) :
    Step pool next (live fb images) (.createImage buffer) (.imported next)
      (live fb (images.insert next image))
  | dropped {c : Canvas} {image : ImageId} :
    Step pool next c (.destroyImage image) (.dropped (c.images.contains image)) (c.destroyImage image).2
  | cleared {c : Canvas} {colour : Colour} : Step pool next c (.clear colour) .done (c.clear colour)
  | drawn {fb : Framebuffer} {images : Table ImageId Image} {id : ImageId} {p : Placement} {image : Image}
    (known : images.get? id = some image) :
    Step pool next (live fb images) (.draw id p) .done (live (fb.draw image p) images)
  | kept {fb : Framebuffer} {images : Table ImageId Image} {short : Bool} :
    Step pool next (live fb images) (.resize fb.size short) .done (live fb images)
  | resized {fb : Framebuffer} {images : Table ImageId Image} {size : Size} {short : Bool}
    (other : size ≠ fb.size) (granted : ¬Lacking size short) :
    Step pool next (live fb images) (.resize size short) .done (live (Framebuffer.filled size 0) images)
  | bound {fb : Framebuffer} {images : Table ImageId Image} :
    Step pool next (live fb images) .bind .done (live fb images)
  | swapped {fb : Framebuffer} {images : Table ImageId Image} {screen : Screen}
    (taken : screen.answer = .ok ()) :
    Step pool next (live fb images) (.swap screen) .done (live fb images)
  | ended {c : Canvas} : Step pool next c .terminate .done c.terminate

theorem step_handle (c : Canvas) (pool : BufferPool) (next : ImageId) (request : CanvasRequest) :
    Step pool next c request (c.handle pool next request).1 (c.handle pool next request).2 := by
  -- What is refused leaves the canvas as it was.
  have settled {reply : StudioReply} {result : Except RenderError Canvas}
      (handled : c.handle pool next request = c.settle reply result)
      (works : ∀ after, result = .ok after → Step pool next c request reply after) :
      Step pool next c request (c.handle pool next request).1 (c.handle pool next request).2 := by
    cases result with
    | error e =>
      have refused : (c.handle pool next request).1 = .refused e := by rw [handled]; rfl
      rw [handled]
      exact .refused (refused_iff.1 refused)
    | ok after =>
      rw [handled]
      exact works after rfl
  cases request with
  | createImage buffer =>
    cases there : pool.get? buffer with
    | none =>
      simp only [handle, there]
      exact .unknown there
    | some b =>
      refine settled (by rw [handle, there]) fun after made => ?_
      cases c with
      | terminated size => cases made
      | live fb images =>
        unfold createImage at made
        cases picture : imageOf b with
        | error e => simp [picture, Except.map] at made
        | ok image =>
          obtain rfl : live fb (images.insert next image) = after := by
            simpa [picture, Except.map] using made
          exact .imported there (imageOf_eq_ok_iff.1 picture)
  | destroyImage image =>
    have found : (c.destroyImage image).1 = c.images.contains image := by
      cases c <;> rfl
    simp only [handle, found]
    exact .dropped
  | clear colour => exact .cleared
  | draw image p =>
    refine settled rfl fun after drawn => ?_
    cases c with
    | terminated size => cases drawn
    | live fb images =>
      cases known : images.get? image with
      | none => simp [draw, known] at drawn
      | some picture =>
        obtain rfl : live (fb.draw picture p) images = after := by simpa [draw, known] using drawn
        exact .drawn known
  | resize size short =>
    refine settled rfl fun after resized => ?_
    cases c with
    | terminated size' => simp [granted, takesMemory, resize] at resized
    | live fb images =>
      rw [resize_eq] at resized
      split at resized
      next same =>
        cases resized
        exact same ▸ .kept
      next other =>
        split at resized
        · cases resized
        next given =>
          cases resized
          exact .resized other given
  | bind =>
    refine settled rfl fun after bound => ?_
    cases c with
    | terminated size => cases bound
    | live fb images =>
      cases bound
      exact .bound
  | swap screen =>
    refine settled rfl fun after swapped => ?_
    cases c with
    | terminated size => cases swapped
    | live fb images =>
      simp only [RenderContext.flipCanvas, checkLive, RenderContext.flip] at swapped
      cases taken : screen.answer with
      | error reason => simp [taken, Except.map] at swapped
      | ok _ =>
        obtain rfl : live fb images = after := by simpa [taken, Except.map] using swapped
        exact .swapped taken
  | terminate => exact .ended

variable {c' : Canvas} {reply : StudioReply}

/-- A canvas that refuses a request stays as it is. -/
theorem Step.unchanged (step : Step pool next c request (.refused e) c') : c' = c := by
  cases step
  rfl

theorem Step.imported_eq {i : ImageId} (step : Step pool next c request (.imported i) c') : i = next := by
  cases step
  rfl

/-- The canvas was terminated. -/
def Over (c : Canvas) : Prop := ∃ size, c = terminated size

theorem Step.over_iff (step : Step pool next c request reply c') :
    c'.Over ↔ c.Over ∨ request = .terminate := by
  cases step with
  | dropped | cleared => cases c <;> simp [Over, destroyImage, clear]
  | ended => simp [Over, terminate]
  | refused refuses =>
    refine (or_iff_left ?_).symm
    rintro rfl
    cases refuses.needsLive
  | _ => simp [Over]

/-- The request makes an image of a buffer under the name. -/
def Imports (pool : BufferPool) (request : CanvasRequest) (reply : StudioReply) (i : ImageId)
    (image : Image) : Prop :=
  ∃ buffer b, request = .createImage buffer ∧ reply = .imported i ∧ pool.get? buffer = some b ∧
    b.Pictured image

/-- An image appears when it is imported, and goes when it is destroyed or the canvas terminated. -/
theorem Step.image_iff (step : Step pool next c request reply c') (fresh : c.images.get? next = none)
    {i : ImageId} {image : Image} : c'.images.get? i = some image ↔
      Imports pool request reply i image ∨
        (c.images.get? i = some image ∧ request ≠ .destroyImage i ∧ request ≠ .terminate) := by
  have idle (other : ∀ j, reply ≠ .imported j) : ¬Imports pool request reply i image := by
    rintro ⟨-, -, -, imported, -⟩
    exact other i imported
  cases step with
  | refused refuses =>
    have needs := refuses.needsLive
    rw [or_iff_right (idle (by simp))]
    refine (and_iff_left ⟨?_, ?_⟩).symm <;> (rintro rfl; cases needs)
  | @imported fb images buffer b new there pictured =>
    simp only [Canvas.images, Table.get?_insert] at fresh ⊢
    split
    next here =>
      -- The name is new, so all that is found under it is the picture that was just made.
      subst here
      rw [fresh]
      constructor
      · rintro ⟨⟩
        exact .inl ⟨buffer, b, rfl, rfl, there, pictured⟩
      · rintro (⟨buffer', b', ⟨⟩, -, there', pictured'⟩ | ⟨absent, -⟩)
        · obtain rfl := Option.some.inj (there.symm.trans there')
          exact congrArg some (pictured_unique pictured pictured')
        · cases absent
    next other =>
      have elsewhere : ¬Imports pool (.createImage buffer) (.imported next) i image := by
        rintro ⟨-, -, -, ⟨⟩, -⟩
        exact other rfl
      simp [elsewhere]
  | @dropped _ j =>
    rw [or_iff_right (idle (by simp))]
    cases c with
    | terminated size => simp [destroyImage, Canvas.images]
    | live fb images =>
      simp only [destroyImage, Canvas.images, Table.get?_erase]
      by_cases here : i = j
      · simp [here]
      · simp [here, Ne.symm here]
  | cleared =>
    rw [or_iff_right (idle (by simp))]
    cases c <;> simp [clear, Canvas.images]
  | ended =>
    rw [or_iff_right (idle (by simp))]
    simp [terminate, Canvas.images]
  | _ =>
    rw [or_iff_right (idle (by simp))]
    simp [Canvas.images]

end Canvas

/-! ### One request to a studio -/

namespace Studio

/-- Why a request is refused. -/
inductive Refuses (studio : Studio) : StudioRequest → RenderError → Prop
  | noMemory {size : Size} {short : Bool} (lacking : Canvas.Lacking size short) :
    Refuses studio (.setUp size short) (.outOfMemory "framebuffer")
  | asked {id : ContextId} {c : Canvas} {request : CanvasRequest} {e : RenderError}
    (there : studio.canvases.get? id = some c) (refuses : c.Refuses studio.pool request e) :
    Refuses studio (.ask id request) e

variable (studio : Studio)

theorem handle_setUp (size : Size) (short : Bool) : studio.handle (.setUp size short) =
    if Canvas.Lacking size short then (.refused (.outOfMemory "framebuffer"), studio)
    else (.opened studio.nextCanvas,
      { studio with
        canvases := studio.canvases.insert studio.nextCanvas
          (.live (Framebuffer.filled size 0) Table.empty)
        nextCanvas := studio.nextCanvas.next }) := by
  by_cases lacking : Canvas.Lacking size short <;> simp [handle, Canvas.setUp_eq, lacking]

variable {studio} {id : ContextId} {c : Canvas} {request : CanvasRequest} {r : StudioRequest}

theorem handle_ask (there : studio.canvases.get? id = some c) : studio.handle (.ask id request) =
    ((c.handle studio.pool studio.nextImage request).1,
      { studio with
        canvases := studio.canvases.insert id (c.handle studio.pool studio.nextImage request).2
        nextImage :=
          if (c.handle studio.pool studio.nextImage request).1.imported?.isSome then studio.nextImage.next
          else studio.nextImage }) := by
  simp only [handle, there]

theorem handle_ask_unknown (absent : studio.canvases.get? id = none) :
    studio.handle (.ask id request) = (.unknown, studio) := by
  simp only [handle, absent]

theorem refused_iff {e : RenderError} : (studio.handle r).1 = .refused e ↔ studio.Refuses r e := by
  cases r with
  | setUp size short =>
    rw [handle_setUp]
    constructor
    · intro refused
      split at refused
      next lacking =>
        cases refused
        exact .noMemory lacking
      next => cases refused
    · rintro ⟨lacking⟩
      rw [if_pos lacking]
  | ask id request =>
    cases there : studio.canvases.get? id with
    | none =>
      rw [handle_ask_unknown there]
      refine ⟨by simp, fun refuses => ?_⟩
      cases refuses with
      | asked there' => simp [there] at there'
    | some c =>
      rw [handle_ask there, Canvas.refused_iff]
      refine ⟨.asked there, fun refuses => ?_⟩
      cases refuses with
      | asked there' refuses =>
        obtain rfl := Option.some.inj (there.symm.trans there')
        exact refuses
  | buffers request =>
    constructor
    · intro refused
      cases refused
    · intro refuses
      cases refuses

/-- All that a request can do to a studio. -/
inductive Step (studio : Studio) : StudioRequest → StudioReply → Studio → Prop
  | lacking {size : Size} {short : Bool} (lacking : Canvas.Lacking size short) :
    Step studio (.setUp size short) (.refused (.outOfMemory "framebuffer")) studio
  | opened {size : Size} {short : Bool} (granted : ¬Canvas.Lacking size short) :
    Step studio (.setUp size short) (.opened studio.nextCanvas)
      { studio with
        canvases := studio.canvases.insert studio.nextCanvas
          (.live (Framebuffer.filled size 0) Table.empty)
        nextCanvas := studio.nextCanvas.next }
  | unknown {id : ContextId} {request : CanvasRequest} (absent : studio.canvases.get? id = none) :
    Step studio (.ask id request) .unknown studio
  | asked {id : ContextId} {c c' : Canvas} {request : CanvasRequest} {reply : StudioReply}
    (there : studio.canvases.get? id = some c)
    (step : Canvas.Step studio.pool studio.nextImage c request reply c') :
    Step studio (.ask id request) reply
      { studio with
        canvases := studio.canvases.insert id c'
        nextImage := if reply.imported?.isSome then studio.nextImage.next else studio.nextImage }
  | buffers {request : PoolRequest} {reply : PoolReply} {pool : BufferPool} :
    Step studio (.buffers request) (.buffers reply) { studio with pool }

theorem step_handle (studio : Studio) (r : StudioRequest) :
    studio.Step r (studio.handle r).1 (studio.handle r).2 := by
  cases r with
  | setUp size short =>
    rw [handle_setUp]
    split
    next lacking => exact .lacking lacking
    next granted => exact .opened granted
  | ask id request =>
    cases there : studio.canvases.get? id with
    | none =>
      rw [handle_ask_unknown there]
      exact .unknown there
    | some c =>
      rw [handle_ask there]
      exact .asked there (c.step_handle _ _ request)
  | buffers request => exact .buffers

variable {reply : StudioReply} {studio' : Studio}

/-- A refused request changes nothing. -/
theorem Step.unchanged {e : RenderError} (step : studio.Step r (.refused e) studio') : studio' = studio := by
  cases step with
  | lacking => rfl
  | asked there step =>
    obtain rfl := step.unchanged
    rw [Table.insert_found there]
    rfl

/-! ### Names -/

/-- The image that a canvas has under a name. -/
def image? (studio : Studio) (id : ContextId) (i : ImageId) : Option Image :=
  (studio.canvases.get? id).bind (·.images.get? i)

/-- Names in use were drawn from their counters. -/
structure Ordered (studio : Studio) : Prop where
  canvases : ∀ id c, studio.canvases.get? id = some c → id.number < studio.nextCanvas.number
  images : ∀ id i image, studio.image? id i = some image → i.number < studio.nextImage.number

theorem Ordered.nextCanvas (ordered : studio.Ordered) : studio.canvases.get? studio.nextCanvas = none := by
  cases there : studio.canvases.get? studio.nextCanvas with
  | none => rfl
  | some c => exact (Nat.lt_irrefl _ (ordered.canvases _ c there)).elim

theorem Ordered.nextImage (ordered : studio.Ordered) (there : studio.canvases.get? id = some c) :
    c.images.get? studio.nextImage = none := by
  cases known : c.images.get? studio.nextImage with
  | none => rfl
  | some image =>
    have found : studio.image? id studio.nextImage = some image := by simp [image?, there, known]
    exact (Nat.lt_irrefl _ (ordered.images _ _ _ found)).elim

theorem Step.nextImage_eq (step : studio.Step r reply studio') : studio'.nextImage =
    if reply.imported?.isSome then studio.nextImage.next else studio.nextImage := by
  cases step <;> rfl

/-- The name that is handed out is the next one. -/
theorem Step.imported_eq {i : ImageId} (step : studio.Step r (.imported i) studio') :
    i = studio.nextImage := by
  cases step with
  | asked there step => exact step.imported_eq

/-! ### What canvases keep -/

/-- The request has the canvas of that name make an image of a buffer. -/
def Imports (studio : Studio) (r : StudioRequest) (reply : StudioReply) (id : ContextId) (i : ImageId)
    (image : Image) : Prop :=
  ∃ request, r = .ask id request ∧ Canvas.Imports studio.pool request reply i image

/-- The canvas of that name was terminated. -/
def Over (studio : Studio) (id : ContextId) : Prop := ∃ c, studio.canvases.get? id = some c ∧ c.Over

/-- The request takes an image from a canvas. -/
def Takes (id : ContextId) (i : ImageId) (r : StudioRequest) : Prop :=
  r = .ask id (.destroyImage i) ∨ r = .ask id .terminate

theorem Step.image?_iff (step : studio.Step r reply studio') (ordered : studio.Ordered) {i : ImageId}
    {image : Image} : studio'.image? id i = some image ↔
      studio.Imports r reply id i image ∨ (studio.image? id i = some image ∧ ¬Takes id i r) := by
  cases step with
  | lacking | buffers => simp [Imports, Takes, image?]
  | opened =>
    -- No canvas had this name before, so no image is lost with it.
    have absent := ordered.nextCanvas
    simp only [image?, Table.get?_insert]
    split
    next here => simp [Imports, here, absent, Canvas.images]
    next elsewhere => simp [Imports, Takes]
  | @unknown id' request absent =>
    by_cases here : id = id'
    · simp [Imports, Canvas.Imports, image?, here, absent]
    · simp [Imports, Takes, Ne.symm here]
  | @asked id' c c' request reply there step =>
    have after : c'.images.get? i = some image ↔ _ := step.image_iff (ordered.nextImage there)
    by_cases here : id = id'
    · subst here
      simpa [Imports, Takes, image?, Table.get?_insert, there] using after
    · simp [Imports, Takes, image?, Table.get?_insert, here, Ne.symm here]

theorem Step.over_iff (step : studio.Step r reply studio') (ordered : studio.Ordered) : studio'.Over id ↔
    (r = .ask id .terminate ∧ (studio.canvases.get? id).isSome) ∨ studio.Over id := by
  cases step with
  | lacking | buffers => simp [Over]
  | opened =>
    have absent := ordered.nextCanvas
    simp only [Over, Table.get?_insert]
    split
    next here => simp [here, absent, Canvas.Over]
    next elsewhere => simp
  | @unknown id' request absent =>
    by_cases here : id = id'
    · simp [here, absent]
    · simp [Ne.symm here]
  | @asked id' c c' request reply there step =>
    have after := step.over_iff
    by_cases here : id = id'
    · subst here
      simp [Over, Table.get?_insert, there, after, or_comm]
    · simp [Over, Table.get?_insert, here, Ne.symm here]

theorem Step.ordered (step : studio.Step r reply studio') (ordered : studio.Ordered) : studio'.Ordered where
  canvases id c there' := by
    have old := ordered.canvases id
    cases step with
    | lacking | unknown | buffers => exact old c there'
    | opened =>
      simp only [Table.get?_insert] at there'
      split at there'
      next here => exact here ▸ Nat.lt_succ_self _
      next => exact Nat.lt_succ_of_lt (old c there')
    | asked there step =>
      simp only [Table.get?_insert] at there'
      split at there'
      next here => exact old _ (here ▸ there)
      next => exact old c there'
  images id i image found := by
    rw [step.nextImage_eq]
    rcases (step.image?_iff ordered).1 found with ⟨-, -, -, -, -, rfl, -, -⟩ | ⟨before, -⟩
    · rw [step.imported_eq]
      exact Nat.lt_succ_self _
    · have old := ordered.images id i image before
      split
      · exact Nat.lt_succ_of_lt old
      · exact old

/-- A request about a canvas does not touch the others. -/
theorem Step.apart (step : studio.Step r reply studio') (ordered : studio.Ordered)
    (there : studio.canvases.get? id = some c) (other : ∀ request, r ≠ .ask id request) :
    studio'.canvases.get? id = some c := by
  cases step with
  | lacking | unknown | buffers => exact there
  | opened =>
    have elsewhere : id ≠ studio.nextCanvas := by
      rintro rfl
      rw [ordered.nextCanvas] at there
      cases there
    simp only [Table.get?_insert, if_neg elsewhere, there]
  | @asked id' c c' request reply there' step =>
    have elsewhere : id ≠ id' := by
      rintro rfl
      exact other request rfl
    simp only [Table.get?_insert, if_neg elsewhere, there]

/-! ### Runs -/

theorem run_concat (studio : Studio) (past : List StudioRequest) (r : StudioRequest) :
    studio.run (past ++ [r]) = ((studio.run past).handle r).2 := by
  simp [run]

theorem replies_concat (studio : Studio) (past : List StudioRequest) (r : StudioRequest) :
    studio.replies (past ++ [r]) = studio.replies past ++ [((studio.run past).handle r).1] := by
  induction past generalizing studio with
  | nil => rfl
  | cons first rest ih => simp only [List.cons_append, replies, ih, run, List.foldl_cons]

theorem ordered_run (past : List StudioRequest) : (empty.run past).Ordered := by
  induction past using List.reverseRecOn with
  | nil => exact ⟨nofun, nofun⟩
  | append_singleton past r ih => exact run_concat _ _ _ ▸ (step_handle _ r).ordered ih

/-- The names that were handed out for images, in that order. -/
def handedOut (past : List StudioRequest) : List ImageId :=
  (empty.replies past).filterMap StudioReply.imported?

theorem handedOut_concat (past : List StudioRequest) (r : StudioRequest) : handedOut (past ++ [r]) =
    handedOut past ++ (((empty.run past).handle r).1.imported?).toList := by
  rw [handedOut, replies_concat, List.filterMap_append]
  cases named : ((empty.run past).handle r).1.imported? <;> simp [handedOut, named]

theorem handedOut_run (past : List StudioRequest) : (handedOut past).Nodup ∧
    ∀ i ∈ handedOut past, i.number < (empty.run past).nextImage.number := by
  induction past using List.reverseRecOn with
  | nil => exact ⟨List.nodup_nil, nofun⟩
  | append_singleton past r ih =>
    obtain ⟨nodup, below⟩ := ih
    have step := step_handle (empty.run past) r
    rw [handedOut_concat, run_concat, step.nextImage_eq]
    generalize ((empty.run past).handle r).1 = reply at step ⊢
    cases reply with
    | imported i =>
      -- The name is that of the counter, and all names before were below it.
      obtain rfl := step.imported_eq
      have new : (empty.run past).nextImage ∉ handedOut past := fun member =>
        Nat.lt_irrefl _ (below _ member)
      simp only [StudioReply.imported?, Option.toList_some, Option.isSome_some, if_true]
      refine ⟨List.nodup_append.2 ⟨nodup, by simp, ?_⟩, fun i member => ?_⟩
      · rintro i member j last rfl
        exact new (List.mem_singleton.1 last ▸ member)
      · rcases List.mem_append.1 member with member | last
        · exact Nat.lt_succ_of_lt (below i member)
        · exact List.mem_singleton.1 last ▸ Nat.lt_succ_self _
    | _ => simpa [StudioReply.imported?] using ⟨nodup, below⟩

/-- A canvas has an image under a name if it made it and has kept it since. -/
theorem image?_run_iff (past : List StudioRequest) (id : ContextId) (i : ImageId) (image : Image) :
    (empty.run past).image? id i = some image ↔ Standing (fun before r =>
      (empty.run before).Imports r ((empty.run before).handle r).1 id i image) (Takes id i) past := by
  refine standing_iff (fun past => (empty.run past).image? id i = some image) nofun (fun past r => ?_) past
  rw [run_concat]
  exact (step_handle _ r).image?_iff (ordered_run past)

/-- A canvas that was terminated remains so. -/
theorem over_run_iff (past : List StudioRequest) (id : ContextId) : (empty.run past).Over id ↔
    Standing (fun before r => r = .ask id .terminate ∧ ((empty.run before).canvases.get? id).isSome)
      (fun _ => False) past := by
  refine standing_iff (fun past => (empty.run past).Over id) nofun (fun past r => ?_) past
  rw [run_concat, (step_handle _ r).over_iff (ordered_run past), not_false_eq_true, and_true]

/-! ### The whole life -/

/-- What is so after a history. -/
structure Lifecycle (past : List StudioRequest) : Prop where
  /-- A canvas begins blank and without images, under a new name. -/
  opened : ∀ size short id, ((empty.run past).handle (.setUp size short)).1 = .opened id →
    (empty.run past).canvases.get? id = none ∧
    ((empty.run past).handle (.setUp size short)).2.canvases.get? id =
      some (.live (Framebuffer.filled size 0) Table.empty)
  /-- While it is live it has a word for each pixel. -/
  full : ∀ id fb images, (empty.run past).canvases.get? id = some (.live fb images) →
    fb.pixels.size = fb.size.width.toNat * fb.size.height.toNat
  /-- Only requests to the canvas itself change it. -/
  apart : ∀ r id c, (empty.run past).canvases.get? id = some c → (∀ request, r ≠ .ask id request) →
    ((empty.run past).handle r).2.canvases.get? id = some c
  /-- The size that it has is taken at no cost. -/
  kept : ∀ id fb images short, (empty.run past).canvases.get? id = some (.live fb images) →
    (empty.run past).handle (.ask id (.resize fb.size short)) = (.done, empty.run past)
  /-- Another size blanks it. -/
  resized : ∀ id fb images size short, (empty.run past).canvases.get? id = some (.live fb images) →
    size ≠ fb.size → ¬Canvas.Lacking size short →
    ((empty.run past).handle (.ask id (.resize size short))).1 = .done ∧
    ((empty.run past).handle (.ask id (.resize size short))).2.canvases.get? id =
      some (.live (Framebuffer.filled size 0) images)
  refused_iff : ∀ r e, ((empty.run past).handle r).1 = .refused e ↔ (empty.run past).Refuses r e
  /-- What is refused changes nothing. -/
  unchanged : ∀ r e, ((empty.run past).handle r).1 = .refused e →
    ((empty.run past).handle r).2 = empty.run past
  /-- No name of an image is handed out twice, whatever canvas it is for. -/
  names : (handedOut past).Nodup
  /-- An image shows its buffer as it was when the image was made. -/
  image_iff : ∀ id i image, (empty.run past).image? id i = some image ↔ Standing (fun before r =>
    (empty.run before).Imports r ((empty.run before).handle r).1 id i image) (Takes id i) past
  over_iff : ∀ id, (empty.run past).Over id ↔
    Standing (fun before r => r = .ask id .terminate ∧ ((empty.run before).canvases.get? id).isSome)
      (fun _ => False) past
  /-- A terminated canvas has neither pixels nor images, and refuses work. -/
  ended : ∀ id c, (empty.run past).canvases.get? id = some c → c.Over →
    c.pixels = #[] ∧ (∀ i, c.images.get? i = none) ∧
    ∀ request, request.needsLive (empty.run past).pool = true →
      (empty.run past).handle (.ask id request) = (.refused .terminated, empty.run past)

/-- Whatever is asked of a studio, its canvases live and end as they should. -/
theorem lifecycle_run (past : List StudioRequest) : Lifecycle past where
  opened size short id opened := by
    have ordered := ordered_run past
    rw [handle_setUp] at opened ⊢
    split at opened
    · cases opened
    next granted =>
      cases opened
      rw [if_neg granted]
      exact ⟨ordered.nextCanvas, by simp [Table.get?_insert]⟩
  full id fb images there := fb.pixels_size
  apart r id c there other := (step_handle _ r).apart (ordered_run past) there other
  kept id fb images short there := by
    rw [handle_ask there, Canvas.handle, Canvas.resize_eq, if_pos rfl]
    simp only [Canvas.settle, Table.insert_found there]
    rfl
  resized id fb images size short there other granted := by
    rw [handle_ask there, Canvas.handle, Canvas.resize_eq, if_neg other, if_neg granted]
    exact ⟨rfl, by simp [Canvas.settle, Table.get?_insert]⟩
  refused_iff r e := refused_iff
  unchanged r e refused := (refused ▸ step_handle (empty.run past) r).unchanged
  names := (handedOut_run past).1
  image_iff := image?_run_iff past
  over_iff := over_run_iff past
  ended id c there isOver := by
    obtain ⟨size, rfl⟩ := isOver
    refine ⟨rfl, fun _ => rfl, fun request needs => ?_⟩
    have refused : ((empty.run past).handle (.ask id request)).1 = .refused .terminated :=
      refused_iff.2 (.asked there (.ended needs))
    exact Prod.ext refused (refused ▸ step_handle (empty.run past) (.ask id request)).unchanged

/-- An image of a blue buffer, which is painted over and turned afterwards, and then a canvas that ends. -/
def bluePast : List StudioRequest :=
  [.setUp ⟨1, 1⟩ false, .buffers (.register ⟨.shared, ⟨1, 1⟩, 4, .argb, none⟩),
    .buffers (.setContents ⟨1⟩ #[0xff0000ff]), .ask ⟨1⟩ (.createImage ⟨1⟩),
    .buffers (.setContents ⟨1⟩ #[0]), .buffers (.setYInverted ⟨1⟩ true)]

theorem bluePast_lifecycle :
    ((empty.run bluePast).image? ⟨1⟩ ⟨1⟩).map (·.pixels) = some #[0xff0000ff] ∧
    Standing (fun before r => (empty.run before).Imports r ((empty.run before).handle r).1 ⟨1⟩ ⟨1⟩
      ⟨⟨1, 1⟩, #[0xff0000ff], false, true, rfl⟩) (Takes ⟨1⟩ ⟨1⟩) bluePast ∧
    (empty.run (bluePast ++ [.ask ⟨1⟩ .terminate])).handle (.ask ⟨1⟩ .bind) =
      (.refused .terminated, empty.run (bluePast ++ [.ask ⟨1⟩ .terminate])) := by
  refine ⟨rfl, ((lifecycle_run bluePast).image_iff _ _ _).1 rfl, ?_⟩
  exact ((lifecycle_run (bluePast ++ [.ask ⟨1⟩ .terminate])).ended ⟨1⟩ (.terminated ⟨1, 1⟩) rfl ⟨_, rfl⟩).2.2
    .bind rfl

end Studio

end Compositing
