import Compositing.Proofs.Compositor.Cores
import Compositing.Proofs.Compositor.Painting
import Compositing.Proofs.Compositor.Retention

/-!
# The images of outputs that render in memory

Two tables have to agree: the renderer's, with the image of each surface, and the canvas', with what is
in the images. They do at all times, and every image is one of a surface that the output shows, in the
size of the surface. So nothing but the screen can refuse a frame, and no image outlives its output.
Main statement: `Issued.imaged`.
-/

namespace Compositing

/-! ### The buffers of a surface -/

/-- The buffers of the surface were registered once. If the one that is shown still is, it has the size
of the surface. -/
structure Surface.Fitted (pool : BufferPool) (s : Surface) : Prop where
  pending : ∀ b, s.pending.buffer = some b → b.number < pool.nextId.number
  shown : ∀ b, s.buffer = some b → b.number < pool.nextId.number
  fits : ∀ b record, s.buffer = some b → pool.get? b = some record → record.size = s.size

namespace Surface

variable {pool pool' : BufferPool} {s s' : Surface}

theorem fitted_ofHandle (pool : BufferPool) (id : SurfaceId) (handle : Handle) :
    (ofHandle id handle).Fitted pool :=
  ⟨nofun, nofun, nofun⟩

theorem Fitted.of_same (fitted : s.Fitted pool) (pending : s'.pending.buffer = s.pending.buffer)
    (shown : s'.buffer = s.buffer) (size : s'.size = s.size) : s'.Fitted pool :=
  ⟨pending ▸ fitted.pending, shown ▸ fitted.shown, shown ▸ size ▸ fitted.fits⟩

theorem Fitted.later (fitted : s.Fitted pool) (later : pool.Later pool') : s.Fitted pool' where
  pending b there := Nat.lt_of_lt_of_le (fitted.pending b there) later.next
  shown b there := Nat.lt_of_lt_of_le (fitted.shown b there) later.next
  fits b record' there found' := by
    -- The name was drawn before, so the record is the one of then.
    rcases later.sizes b record' found' with ⟨record, found, same⟩ | ⟨new, -⟩
    · exact same ▸ fitted.fits b record there found
    · exact absurd (fitted.shown b there) (Nat.not_lt.2 new)

theorem Fitted.attach (fitted : s.Fitted pool) {buffer : Option BufferId}
    (issued : ∀ b, buffer = some b → b.number < pool.nextId.number) (offset : Point) :
    (s.attach buffer offset).Fitted pool :=
  ⟨issued, fitted.shown, fitted.fits⟩

theorem Fitted.commit (fitted : s.Fitted pool) : (s.commit pool).surface.Fitted pool := by
  by_cases attached : s.pending.newlyAttached = true
  · -- The size is taken from the record of the buffer that is shown from now on.
    have shown : (s.commit pool).surface.buffer = s.pending.buffer := by
      simp [Surface.commit, commitBuffer, commitRegions, attached, buffer]
    have size : (s.commit pool).surface.size =
        (s.pending.buffer.bind pool.get?).elim Size.zero (·.size) := by
      simp [Surface.commit, commitBuffer, commitRegions, attached]
    have taken : (s.commit pool).surface.pending.buffer = none := by
      simp [Surface.commit, commitBuffer, commitRegions, attached]
    refine ⟨by simp [taken], shown ▸ fitted.pending, fun b record there found => ?_⟩
    rw [size, ← shown, there, Option.bind_some, found, Option.elim_some]
  · have idle : s.commitBuffer pool = (s, {}, none) := by simp [commitBuffer, attached]
    refine fitted.of_same ?_ ?_ ?_ <;> simp [Surface.commit, idle, commitRegions, buffer]

end Surface

namespace Compositor

variable {c c' : Compositor}

theorem Turned.fitted {k : SurfaceId} {request : Request} {s : Surface}
    (turned : Turned c k request s) (before : ∀ s, c.surfaces.get? k = some s → s.Fitted c.buffers)
    (issued : ∀ k b offset, request = .attach k (some b) offset →
      b.number < c.buffers.nextId.number) : s.Fitted c.buffers := by
  cases turned with
  | made handle => exact Surface.fitted_ofHandle c.buffers k handle
  | attached found asked =>
    exact (before _ found).attach (fun b same => issued k b _ (same ▸ asked)) _
  | inputSet found => exact (before _ found).of_same rfl rfl rfl
  | committed found => exact (before _ found).commit
  | kept found size committed buffer =>
    exact (before _ found).of_same buffer (congrArg SurfaceState.buffer committed) size

theorem buffers_handle (reached : c.Reachable) (host : Host) (request : Request) :
    c.buffers.Later (c.handle host request).2.buffers :=
  (handle_keeps (I := fun d => c.buffers.Later d.buffers)
    (fun _ _ _ before change => before.trans change.later.buffers)
    (fun _ _ _ _ before rendered => before.trans rendered.buffers) reached.linked reached.held
    (.refl _) host request).2.2

/-- The states that requests lead to when only buffers are attached whose names were issued. Clients
get no other names: they cannot guess the one of a buffer that is still to come. -/
inductive Issued : Compositor → Prop
  | start (config : Config) (contexts : Contexts) : Issued { config, contexts }
  | handle {c : Compositor} (before : Issued c) (host : Host) (request : Request)
      (issued : ∀ k b offset, request = .attach k (some b) offset →
        b.number < c.buffers.nextId.number) : Issued (c.handle host request).2
  | collect {c : Compositor} (before : Issued c) : Issued c.collect.2

theorem Issued.reachable (issued : Issued c) : c.Reachable := by
  induction issued with
  | start config contexts => exact .start config contexts
  | handle _ host request _ ih => exact ih.handle host request
  | collect _ ih => exact ih.collect

theorem Issued.fitted (issued : Issued c) {k : SurfaceId} {s : Surface}
    (found : c.surfaces.get? k = some s) : s.Fitted c.buffers := by
  induction issued generalizing s with
  | start => simp at found
  | handle before host request issued ih =>
    obtain ⟨t, turned, same⟩ := turned_handle before.reachable.tidy before.reachable.held found
    obtain ⟨-, -, size, pending, shown, -⟩ := Surface.core_eq same
    have fitted := turned.fitted (fun s found => ih found) issued
    exact (fitted.of_same (congrArg _ pending) shown size).later
      (buffers_handle before.reachable host request)
  | collect _ ih => exact ih found

/-! ### Pictures and surfaces -/

/-- A picture has the size of its surface, mapped or not. -/
theorem Issued.size_eq (issued : Issued c) {o : OutputId} {p : Output} {k : SurfaceId}
    {image : Image} {s : Surface} (found : c.outputs.get? o = some p)
    (picture : p.picture? k = some image) (there : c.surfaces.get? k = some s) :
    image.size = s.size := by
  induction issued generalizing o p image s with
  | start => simp at found
  | @handle c before host request fresh ih =>
    have issued : Issued (c.handle host request).2 := before.handle host request fresh
    have shown := ((issued.reachable.pictured.depicts o p found).fits k image picture).shown
    rcases before.reachable.stays_or_imports host request k with ⟨stays, -⟩ | imports
    · -- The output drew the picture before, when the surface had the same size.
      obtain ⟨s', v, w, shows⟩ := shown_iff.1 shown
      cases there.symm.trans shows.found
      obtain ⟨s₀, w₀, p₀, shows₀, size, found₀, alike⟩ := stays o s v w p shows found
      rw [size]
      exact ih found₀ (alike.picture ▸ picture) shows₀.found
    · -- The record that was imported is that of the buffer which the surface shows.
      rw [imports o p shown found, recorded?, shown_eq, there] at picture
      obtain ⟨_, -, picture⟩ := Option.bind_eq_some_iff.1 picture
      obtain ⟨record, registered, picture⟩ := Option.bind_eq_some_iff.1 picture
      obtain ⟨b, buffer, registered⟩ := Option.bind_eq_some_iff.1 registered
      rw [Buffer.picture?_size picture]
      exact (issued.fitted there).fits b record buffer registered
  | collect _ ih => exact ih found picture there

/-- The images on the canvas of an output are those of surfaces that it shows, one for each, in their
sizes. -/
structure Imaged (c : Compositor) (o : OutputId) (r : Renderer) (images : Table ImageId Image) :
    Prop where
  apart : ∀ k k' i, r.images.get? k = some i → r.images.get? k' = some i → k = k'
  exact : ∀ i, (∃ image, images.get? i = some image) ↔ ∃ k, r.images.get? k = some i
  shown : ∀ k i image, r.images.get? k = some i → images.get? i = some image →
    c.outputOfSurface? k = some o ∧ ∃ s, c.surfaces.get? k = some s ∧ image.size = s.size ∧
      image.pixels.size = s.size.width.toNat * s.size.height.toNat

theorem Issued.imaged_of_software (issued : Issued c) {o : OutputId} {p : Output} {r : Renderer}
    {fb : Framebuffer} {images : Table ImageId Image} (found : c.outputs.get? o = some p)
    (renderer : p.renderer = some r) (there : r.software? = some (fb, images)) :
    c.Imaged o r images := by
  have depicts := issued.reachable.pictured.depicts o p found
  have sound := depicts.sound r renderer
  refine ⟨sound.apart, fun i => ⟨fun ⟨image, here⟩ => sound.owned _ i image there here,
    fun ⟨k, owner⟩ => sound.imported _ k i there owner⟩, fun k i image owner here => ?_⟩
  have picture : p.picture? k = some image := by
    simp [Output.picture?, renderer, Renderer.picture?, there, owner, here]
  have shown := (depicts.fits k image picture).shown
  obtain ⟨s, v, w, shows⟩ := shown_iff.1 shown
  have size := issued.size_eq found picture shows.found
  exact ⟨shown, s, shows.found, size, by rw [image.pixels_size, size, Size.pixelCount]⟩

/-! ### Render passes -/

section

variable {d : Compositor} {o : OutputId} {p : Output} {next : ImageId}

/-- A pass on an output that renders in memory goes well, whatever its screen answers. -/
theorem renderOutput_well (found : d.outputs.get? o = some p) (sound : p.Sound next)
    (memory : p.display?.isSome) (host : Host) (time : UInt32) :
    (d.renderOutput host o time).1 = true := by
  obtain ⟨⟨size, degraded⟩, display⟩ := Option.isSome_iff_exists.1 memory
  obtain ⟨r, fb, images, renderer, there, -, -⟩ := display?_eq_some.1 display
  have here : (d.outputs.get? o).filter (·.renderer.isSome) = some p := by
    simp [found, Option.filter, renderer]
  have begun := d.beginItems_unseen (d.paintItems p)
  simp only [renderOutput, completePass, here]
  generalize d.beginItems (d.paintItems p) = reading at begun
  obtain ⟨busy, e⟩ := reading
  obtain ⟨q, found', steady⟩ := found_of_rel_left (begun.quiet.outputs o) found
  have same : q.renderer = some r := steady.renderer.trans renderer
  have painted := Renderer.repaint_software e.contexts host.device ⟨q.name, host.screen o⟩
    e.config.render.clearColour (d.paintItems p) (sound r renderer) there
  simp only [repaintOutput, found', same]
  rw [painted.1]
  rfl

/-- Passes on any outputs leave the output in order. -/
theorem passes_sound (held : d.Held) (host : Host) (time : UInt32) (due : List OutputId)
    (found : d.outputs.get? o = some p) (sound : p.Sound next) (memory : p.display?.isSome) :
    ∃ q, (due.foldl (fun c id => c.pass host time id) d).outputs.get? o = some q ∧ q.Sound next ∧
      q.display?.isSome := by
  induction due generalizing d p with
  | nil => exact ⟨p, found, sound, memory⟩
  | cons id due ih =>
    have rendered := d.pass_rendered held host time id
    obtain ⟨q, found', after⟩ := found_of_rel_left (rendered.outputs o) found
    apply ih (rendered.held held) found'
    · split at after
      · exact after.2.2.2.2.2.2.1 next sound
      · exact fun r there => sound r (after.renderer ▸ there)
    · split at after
      · rwa [Output.isSome_of_map after.2.2.2.2.2.2.2]
      · rwa [Output.display?, after.renderer]

end

/-! ### The end of an output -/

end Compositor

namespace Renderer

variable {r : Renderer} {next : ImageId} {fb : Framebuffer} {images : Table ImageId Image}

/-- The renderer when the images of some surfaces were dropped. -/
def without (r : Renderer) (ks : List SurfaceId) : Renderer := ks.foldl detach r

theorem terminate_eq (r : Renderer) (contexts : Contexts) :
    r.terminate contexts = contexts.terminate (r.without r.images.keys).handle := rfl

theorem without_software (sound : r.Sound next) (there : r.software? = some (fb, images))
    (ks : List SurfaceId) :
    (r.without ks).Sound next ∧ (∃ rest, (r.without ks).software? = some (fb, rest)) ∧
      ∀ k, (r.without ks).images.get? k = if k ∈ ks then none else r.images.get? k := by
  -- Over the surfaces that are left: dropping one image leaves a sound renderer with a canvas.
  induction ks generalizing r images with
  | nil => exact ⟨sound, ⟨images, there⟩, by simp [without]⟩
  | cons k ks ih =>
    have after := software?_detach (r := r) k
    rw [there, Option.map_some] at after
    obtain ⟨sound', there', gone⟩ := ih (sound_detach sound k) after
    refine ⟨sound', there', fun x => (gone x).trans ?_⟩
    rw [images_detach]
    simp only [List.mem_cons]
    grind

/-- Once the images of all surfaces are dropped, there are none on the canvas. -/
theorem without_all (sound : r.Sound next) (there : r.software? = some (fb, images)) :
    ∃ rest, (r.without r.images.keys).software? = some (fb, rest) ∧ ∀ i, rest.get? i = none := by
  obtain ⟨sound', ⟨rest, there'⟩, gone⟩ := without_software sound there r.images.keys
  refine ⟨rest, there', fun i => ?_⟩
  -- An image that was left would belong to a surface of the table, and those all lost theirs.
  cases left : rest.get? i with
  | none => rfl
  | some image =>
    obtain ⟨k, owner⟩ := sound'.owned _ i image there' left
    have empty : (r.without r.images.keys).images.get? k = none := by
      rw [gone]
      split
      next => rfl
      next absent => simpa [Table.mem_keys_iff] using absent
    cases owner.symm.trans empty

end Renderer

namespace Compositor

variable {c : Compositor}

/-- The renderer of an output that is removed is terminated. -/
theorem removeOutput_contexts {o : OutputId} {p : Output} {r : Renderer}
    (found : c.outputs.get? o = some p) (renderer : p.renderer = some r) :
    (c.removeOutput o).contexts = (r.terminate c.contexts).1 := by
  have hidden := (foldl_hideView_fields p.creationOrder
    { c with outputs := c.outputs.erase o, outputOrder := c.outputOrder.filter (· ≠ o) }).2.1
  simp only [removeOutput, discardOutput, found, renderer, tellPolicy_fields, tell_fields]
  rw [hidden]

/-! ### The main statement -/

/-- Where an output renders in memory, its images are in order. Every pass on it goes well, also in the
middle of a request to render, but for frames that the screen refuses. When it is removed, nothing is
left on the canvas that is terminated. -/
theorem Issued.imaged (issued : Issued c) {o : OutputId} {p : Output} {r : Renderer}
    (found : c.outputs.get? o = some p) (renderer : p.renderer = some r)
    (memory : r.handle.context.inMemory = true) :
    ∃ fb images, r.software? = some (fb, images) ∧ c.Imaged o r images ∧
      (∀ contexts device screen background items,
        let pass := r.repaint contexts device screen background items
        pass.result = .ok () ∧
          pass.renderer.handle.degraded = (r.handle.degraded || !screen.answer.toBool)) ∧
      (∀ host time, (c.renderOutput host o time).1 = true) ∧
      (∀ host time (before : List OutputId),
        (((before.foldl (fun c id => c.pass host time id) c).modifyOutput o
          fun p => { p with pendingRender := false }).renderOutput host o time).1 = true) ∧
      (c.removeOutput o).outputs.get? o = none ∧
      (c.removeOutput o).contexts = (r.terminate c.contexts).1 ∧
      (∀ contexts, r.terminate contexts =
        contexts.terminate (r.without r.images.keys).handle) ∧
      ∃ rest, (r.without r.images.keys).software? = some (fb, rest) ∧ ∀ i, rest.get? i = none := by
  have reached := issued.reachable
  have depicts := reached.pictured.depicts o p found
  have sound := depicts.sound r renderer
  obtain ⟨⟨fb, images⟩, there⟩ := Option.isSome_iff_exists.1 (sound.live memory)
  have drawn : p.display?.isSome := by
    simp [Output.display?, renderer, Renderer.display?, there]
  refine ⟨fb, images, there, issued.imaged_of_software found renderer there, ?_, ?_, ?_, ?_,
    removeOutput_contexts found renderer, r.terminate_eq, Renderer.without_all sound there⟩
  · intro contexts device screen background items
    have painted := Renderer.repaint_software contexts device screen background items sound there
    exact ⟨painted.1, painted.2.2.1⟩
  · exact fun host time => renderOutput_well found depicts.sound drawn host time
  · intro host time before
    obtain ⟨q, found', sound', drawn'⟩ :=
      passes_sound reached.held host time before found depicts.sound drawn
    refine renderOutput_well (p := { q with pendingRender := false }) ?_ sound' drawn' host time
    simp [Table.get?_modify, found']
  · obtain ⟨d, gone, told⟩ := removeOutput_found reached.linked found
    simp [told, gone.outputs]

theorem onePixel_imaged : Issued onePixel ∧ ∃ p r fb images,
    onePixel.outputs.get? ⟨1⟩ = some p ∧ p.renderer = some r ∧
    r.handle.context.inMemory = true ∧ r.software? = some (fb, images) ∧
    onePixel.Imaged ⟨1⟩ r images ∧ r.images.get? ⟨1⟩ = some ⟨1⟩ ∧
    (onePixel.renderOutput .willing ⟨1⟩ 7).1 = true := by
  have registered := ((Issued.start {} .standard).handle .willing (.createSurface ⟨1⟩ 1)
    nofun).handle .willing (.pool (.register
      { memory := .shared, size := ⟨1, 1⟩, stride := 4, format := .xrgb, owner := none })) nofun
  have filled := registered.handle .willing (.pool (.setContents ⟨1⟩ #[0x123456])) nofun
  have attached := filled.handle .willing (.attach ⟨1⟩ (some ⟨1⟩) ⟨0, 0⟩) fun k b offset same => by
    cases same
    decide
  have shown := ((attached.handle .willing (.commit ⟨1⟩) nofun).handle .willing
    (.addOutput "screen" ⟨2, 1⟩) nofun).handle .willing (.createView ⟨1⟩ ⟨⟨1⟩, 2⟩) nofun
  have issued : Issued onePixel := (shown.handle .willing (.setViewOutput ⟨1⟩ (some ⟨1⟩))
    nofun).handle .willing (.setViewGeometry ⟨1⟩ ⟨⟨1, 0⟩, ⟨1, 1⟩⟩) nofun
  obtain ⟨fb, images, there, imaged, -, well, -⟩ := issued.imaged
    (show onePixel.outputs.get? ⟨1⟩ = some _ from rfl) rfl rfl
  exact ⟨issued, _, _, fb, images, rfl, rfl, rfl, there, imaged, rfl, well .willing 7⟩

end Compositor

end Compositing
