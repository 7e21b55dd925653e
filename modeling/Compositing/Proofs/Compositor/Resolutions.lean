import Compositing.Proofs.Compositor.Additions
import Compositing.Proofs.Compositor.Standings

/-!
# Resolutions and framebuffers

An output has a resolution, and the context of its renderer a framebuffer. They are set one after the
other, and where there is no memory for the framebuffer, only the resolution is. A history keeps the
settings of resolutions, each with whether there was a framebuffer for it.
`Resolved.resolution_framebuffer` says that the sizes of the two agree exactly if there was one at the last
setting, wherever the resolution came from.
-/

namespace Compositing

/-! ### Contexts -/

/-- A blank framebuffer of another size, if the host has memory for it. -/
def Framebuffer.resized (fb : Framebuffer) (size : Size) (short : Bool) : Framebuffer :=
  if size = fb.size ∨ Canvas.Lacking size short then fb else Framebuffer.filled size 0

theorem Framebuffer.size_resized_eq_iff (fb : Framebuffer) (size : Size) (short : Bool) :
    (fb.resized size short).size = size ↔ fb.size = size ∨ ¬Canvas.Lacking size short := by
  unfold resized
  by_cases same : size = fb.size
  · simp [same]
  · by_cases lacking : Canvas.Lacking size short <;> simp [same, lacking, Ne.symm same, filled]

theorem RenderContext.resized_software (ctx : RenderContext) (device : DeviceAnswers) (size : Size) :
    (ctx.resize device size).context.software? =
      ctx.software?.map fun s => (s.1.resized size (device.short ctx.id size), s.2) := by
  rw [resize]
  cases there : ctx.software? with
  | none => exact software?_onCanvas_none there fun _ => ⟨_, Canvas.resize_terminated ..⟩
  | some s =>
    obtain ⟨fb, images⟩ := s
    simp only [onCanvas_software there, Canvas.resize_eq, Option.map_some, Framebuffer.resized]
    by_cases same : size = fb.size
    · simp [same, software?_withCanvas there]
    · by_cases lacking : Canvas.Lacking size (device.short ctx.id size)
      · simp [same, lacking, there]
      · simp [same, lacking, software?_withCanvas there]

/-- A new context that renders in memory has a framebuffer of the size that was asked for. -/
theorem Backend.construct_framebuffer {b : Backend} {device : DeviceAnswers} {id : ContextId}
    {size : Size} {ctx : RenderContext} {told : List Event}
    (made : b.construct device id size = (.ok ctx, told)) {fb : Framebuffer}
    {images : Table ImageId Image} (there : ctx.software? = some (fb, images)) : fb.size = size := by
  obtain ⟨name, construction⟩ := b
  have made := congrArg Prod.fst made
  rw [RenderContext.software?_eq_some] at there
  -- Contexts on a device keep no framebuffer here.
  cases construction with
  | missing reason => cases made
  | memory =>
    simp only [construct, Canvas.setUp_eq] at made
    split at made
    · cases made
    · cases made
      cases there
      rfl
  | device =>
    simp only [construct, Except.bind, Except.map] at made
    split at made
    · cases made
    · split at made <;> cases made
      cases there
  | native =>
    simp only [construct, Except.map] at made
    split at made <;> cases made
    cases there

theorem Contexts.probe_framebuffer {device : DeviceAnswers} {id : ContextId} {size : Size}
    {backends : List Backend} {ctx : RenderContext}
    (found : (probe device id size backends).1 = some ctx) {fb : Framebuffer}
    {images : Table ImageId Image} (there : ctx.software? = some (fb, images)) : fb.size = size := by
  induction backends with
  | nil => cases found
  | cons b rest ih =>
    simp only [probe] at found
    split at found
    next made =>
      cases found
      exact Backend.construct_framebuffer made there
    next => exact ih found

/-! ### Outputs -/

/-- There is a framebuffer of that size for the frames of a renderer: theirs already, or one that the host
has the memory for. -/
def Renderer.CanTake (r : Renderer) (device : DeviceAnswers) (size : Size) : Prop :=
  r.frameSize? = some size ∨ ¬Canvas.Lacking size (device.short r.handle.id size)

instance (r : Renderer) (device : DeviceAnswers) (size : Size) : Decidable (r.CanTake device size) :=
  inferInstanceAs (Decidable (_ ∨ _))

/-- Frames of another size have a framebuffer that was resized for them. -/
theorem Renderer.frames_resize {r : Renderer} {device : DeviceAnswers} {size frames : Size}
    (there : (r.resize device size).1.frameSize? = some frames) :
    ∃ fb images, r.handle.context.software? = some (fb, images) ∧
      (frames = size ↔ fb.size = size ∨ ¬Canvas.Lacking size (device.short r.handle.id size)) := by
  obtain ⟨s', resized, rfl⟩ := Option.map_eq_some_iff.1 there
  obtain ⟨s, software, rfl⟩ := Option.map_eq_some_iff.1
    ((RenderContext.resized_software ..).symm.trans resized)
  exact ⟨s.1, s.2, software, Framebuffer.size_resized_eq_iff ..⟩

/-- Where the resolution changes, the frames follow if they can. -/
theorem Renderer.frames_resize_iff {r : Renderer} {device : DeviceAnswers} {size frames : Size}
    (there : (r.resize device size).1.frameSize? = some frames) :
    frames = size ↔ r.CanTake device size := by
  obtain ⟨fb, images, software, follows⟩ := frames_resize there
  have before : r.frameSize? = some fb.size := by
    rw [frameSize?, software?, software]
    rfl
  rw [follows, CanTake, before, Option.some_inj]

/-- The frames of an output have its resolution if and only if they could follow when it was set. -/
def Output.Sized (p : Output) (followed : Prop) : Prop :=
  ∀ size, p.frameSize? = some size → (size = p.resolution ↔ followed)

theorem Output.Sized.same {p p' : Output} {followed : Prop} (sized : p.Sized followed)
    (format : p'.format = p.format) : p'.Sized followed := by
  obtain ⟨resolution, frames⟩ := Prod.mk.inj format
  intro size there
  rw [resolution]
  exact sized size (frames.symm.trans there)

theorem Output.sized_of_resize {p p' : Output} {device : DeviceAnswers} {size : Size}
    (resolution : p'.resolution = size)
    (renderer : p'.renderer = p.renderer.map fun r => (r.resize device size).1) :
    p'.Sized (p.renderer.any fun r => r.CanTake device size) := by
  intro frames there
  obtain ⟨r', renderer', shown⟩ := Option.bind_eq_some_iff.1 there
  obtain ⟨r, before, rfl⟩ := Option.map_eq_some_iff.1 (renderer.symm.trans renderer')
  rw [before, resolution, Renderer.frames_resize_iff shown]
  simp

/-! ### Settings -/

/-- What came of it when the resolution of an output was set last. -/
def lastSetting (o : OutputId) (history : List (OutputId × Bool)) : Option Bool :=
  (history.reverse.find? (·.1 = o)).map (·.2)

theorem lastSetting_concat (o x : OutputId) (history : List (OutputId × Bool)) (followed : Bool) :
    lastSetting o (history ++ [(x, followed)]) =
      if x = o then some followed else lastSetting o history := by
  by_cases here : x = o <;> simp [lastSetting, here]

namespace Compositor

variable {c c' : Compositor} {history : List (OutputId × Bool)}

/-- The output that a request gives a resolution, a new output or one that had another resolution, and
whether there is a framebuffer for it. -/
def setting? (c : Compositor) (host : Host) : Request → Option (OutputId × Bool)
  | .addOutput _ reported =>
    let resolution := c.resolutionFor reported
    -- The first framebuffer of a context is as large as its screen says.
    some (c.nextIds.output, reported = resolution ∨
      ¬Canvas.Lacking resolution (host.device.short c.contexts.nextId resolution))
  | .setResolution o size =>
    ((c.outputs.get? o).filter (·.resolution ≠ size)).map fun p =>
      (o, p.renderer.any fun r => r.CanTake host.device size)
  | _ => none

/-- A run, with the settings of resolutions in it. -/
inductive Resolved : Compositor → List (OutputId × Bool) → Prop
  | start (config : Config) (contexts : Contexts) : Resolved { config, contexts } []
  | handle {c : Compositor} {history : List (OutputId × Bool)} (before : Resolved c history)
      (host : Host) (request : Request) :
      Resolved (c.handle host request).2 (history ++ (c.setting? host request).toList)
  | collect {c : Compositor} {history : List (OutputId × Bool)} (before : Resolved c history) :
      Resolved c.collect.2 history

theorem Resolved.reachable (resolved : Resolved c history) : c.Reachable := by
  induction resolved with
  | start config contexts => exact .start config contexts
  | handle _ host request ih => exact ih.handle host request
  | collect _ ih => exact ih.collect

/-- Every reachable state has a history of settings. -/
theorem Reachable.resolved (reached : c.Reachable) : ∃ history, Resolved c history := by
  induction reached with
  | start config contexts => exact ⟨[], .start config contexts⟩
  | handle _ host request ih =>
    obtain ⟨history, resolved⟩ := ih
    exact ⟨_, resolved.handle host request⟩
  | collect _ ih =>
    obtain ⟨history, resolved⟩ := ih
    exact ⟨history, resolved.collect⟩

/-! ### Every request -/

/-- The frames of every output have its resolution exactly if they could follow at the last setting. -/
def Scaled (c : Compositor) (history : List (OutputId × Bool)) : Prop :=
  ∀ o p, c.outputs.get? o = some p → p.Sized (lastSetting o history = some true)

theorem SameFormats.scaled (same : SameFormats c c') (scaled : c.Scaled history) :
    c'.Scaled history := by
  intro o p' found
  obtain ⟨p, there, format⟩ := same o p' found
  exact (scaled o p there).same format

/-- A screen without a size of its own gets frames of the resolution that its output gets, if there is
memory for them. -/
theorem openRenderer_sized (c : Compositor) (host : Host) (reported : Size) {p : Output}
    (renderer : p.renderer = (c.openRenderer host reported p.resolution).1) :
    p.Sized (reported = p.resolution ∨
      ¬Canvas.Lacking p.resolution (host.device.short c.contexts.nextId p.resolution)) := by
  intro size there
  obtain ⟨r, opened, frames⟩ := Option.bind_eq_some_iff.1 there
  rw [renderer] at opened
  rcases c.contexts.create_eq host.device reported with ⟨h, made, new, -, found⟩ | ⟨e, failed⟩
  · simp only [openRenderer, made, Option.some.injEq] at opened
    subst opened
    obtain ⟨fb, images, software, follows⟩ := Renderer.frames_resize frames
    have first : fb.size = reported := Contexts.probe_framebuffer found software
    have named : ({ handle := h } : Renderer).handle.id = c.contexts.nextId := new
    rw [follows, first, named]
  · simp only [openRenderer, failed] at opened
    cases opened

theorem Scaled.addOutput (scaled : c.Scaled history) (host : Host) (name : String)
    (reported : Size) : (c.addOutput host name reported).2.Scaled
      (history ++ (c.setting? host (.addOutput name reported)).toList) := by
  have entered : (c.entered host name reported).Scaled
      (history ++ (c.setting? host (.addOutput name reported)).toList) := by
    intro o p found
    rw [setting?, Option.toList_some, lastSetting_concat]
    simp only [Compositor.entered, Table.get?_insert] at found
    by_cases new : o = c.nextIds.output
    · rw [if_pos new] at found
      cases found
      have sized := c.openRenderer_sized host reported (p := c.enteredOutput host name reported) rfl
      have resolution : (c.enteredOutput host name reported).resolution = c.resolutionFor reported := rfl
      simpa [new, resolution] using sized
    · rw [if_neg new] at found
      rw [if_neg (Ne.symm new)]
      exact scaled o p found
  rw [addOutput_eq]
  simp only
  split
  · exact (settled_discardOutput _).formats.scaled entered
  · split
    · exact ((settled_tellPolicy _).trans (settled_scheduleOutput _)).formats.scaled entered
    · exact ((settled_tellPolicy _).trans (settled_discardOutput _)).formats.scaled entered

/-- The output has the resolution that it was given, and its renderer was told to follow, unless it
had that resolution before. -/
theorem setOutputResolution_found (host : Host) {o : OutputId} {p : Output}
    (found : c.outputs.get? o = some p) (size : Size) :
    p.resolution = size ∧ c.setOutputResolution host o size = c ∨
    p.resolution ≠ size ∧
      (c.setOutputResolution host o size).outputs = c.outputs.modify o fun q =>
        { q with
          resolution := size
          renderer := p.renderer.map fun r : Renderer =>
            (r.resize host.device size).1 }.schedule := by
  unfold setOutputResolution
  rw [found]
  simp only
  split
  next same => exact .inl ⟨same, rfl⟩
  next other =>
    refine .inr ⟨other, ?_⟩
    cases p.renderer <;> rfl

theorem Scaled.setOutputResolution (scaled : c.Scaled history) (host : Host) (o : OutputId)
    (size : Size) : (c.setOutputResolution host o size).Scaled
      (history ++ (c.setting? host (.setResolution o size)).toList) := by
  cases found : c.outputs.get? o with
  | none =>
    simp only [Compositor.setOutputResolution, setting?, found, Option.filter_none, Option.map_none,
      Option.toList_none, List.append_nil]
    exact scaled
  | some p =>
    rcases setOutputResolution_found host found size with ⟨same, kept⟩ | ⟨other, outputs⟩
    · -- Nothing is set where the output has the resolution.
      simp only [kept, setting?, found, Option.filter_some, same, ne_eq, not_true_eq_false, decide_false]
      simpa using scaled
    · intro x q there
      simp only [setting?, found, Option.filter_some, ne_eq, other, not_false_eq_true, decide_true,
        if_true, Option.map_some, Option.toList_some, lastSetting_concat]
      rw [outputs, Table.get?_modify] at there
      by_cases here : x = o
      · subst here
        simp only [if_true, found, Option.map_some, Option.some.injEq] at there
        subst there
        have sized := @Output.sized_of_resize p
          { p with
            resolution := size
            renderer := p.renderer.map fun r : Renderer => (r.resize host.device size).1 }.schedule
          host.device size rfl rfl
        simpa using sized
      · rw [if_neg here] at there
        rw [if_neg (Ne.symm here)]
        exact scaled x q there

theorem Scaled.handle (scaled : c.Scaled history) (reached : c.Reachable) (host : Host)
    (request : Request) :
    (c.handle host request).2.Scaled (history ++ (c.setting? host request).toList) := by
  cases format : request.aboutFormat with
  | false =>
    have unset : c.setting? host request = none := by cases request <;> first | rfl | cases format
    rw [unset, Option.toList_none, List.append_nil]
    exact (sameFormats_handle reached host format).scaled scaled
  | true =>
    cases request with
    | addOutput name reported =>
      simp only [Compositor.handle, settle_snd]
      exact scaled.addOutput host name reported
    | setResolution o size => exact scaled.setOutputResolution host o size
    | _ => cases format

theorem Resolved.scaled (resolved : Resolved c history) : c.Scaled history := by
  induction resolved with
  | start config contexts => intro o p found; cases found
  | handle before host request ih => exact ih.handle before.reachable host request
  | collect _ ih => exact ih

/-- The framebuffer of an output that is rendered in memory has the size that the resolution says, if and
only if there was one of that size when the resolution was set last. Another resolution replaces the
framebuffer by a blank one of that size if there is memory for it, and else leaves it as it is. -/
theorem Resolved.resolution_framebuffer (resolved : Resolved c history) {o : OutputId} {p : Output}
    {r : Renderer} (found : c.outputs.get? o = some p) (renderer : p.renderer = some r)
    (memory : r.handle.context.inMemory = true) :
    ∃ fb images, r.software? = some (fb, images) ∧
      (fb.size = p.resolution ↔ lastSetting o history = some true) ∧
      (lastSetting o history = some true →
        fb.pixels.size = p.resolution.width.toNat * p.resolution.height.toNat) ∧
      ∀ host size, ∃ p' r', (c.handle host (.setResolution o size)).2.outputs.get? o = some p' ∧
        p'.resolution = size ∧ p'.renderer = some r' ∧
        r'.software? = some (if size = p.resolution then fb
          else fb.resized size (host.device.short r.handle.id size), images) := by
  have reached := resolved.reachable
  have live := ((reached.pictured.depicts o p found).sound r renderer).live memory
  obtain ⟨⟨fb, images⟩, there⟩ := Option.isSome_iff_exists.1 live
  have frames : p.frameSize? = some fb.size := by
    rw [Output.frameSize?, renderer, Option.bind_some, Renderer.frameSize?, there, Option.map_some]
  have follows := resolved.scaled o p found fb.size frames
  refine ⟨fb, images, there, follows, fun granted => ?_, fun host size => ?_⟩
  · rw [fb.pixels_size, follows.2 granted, Size.pixelCount]
  · rcases setOutputResolution_found host found size with ⟨same, kept⟩ | ⟨other, outputs⟩
    · refine ⟨p, r, (congrArg (·.outputs.get? o) kept).trans found, same, renderer, ?_⟩
      rw [if_pos same.symm, there]
    · have now := congrArg (·.get? o) outputs
      simp only [Table.get?_modify, if_true, found, Option.map_some, renderer] at now
      refine ⟨_, _, now, rfl, rfl, ?_⟩
      rw [if_neg (Ne.symm other)]
      have followed := r.handle.context.resized_software host.device size
      exact followed.trans (congrArg (Option.map _) there)

/-- A host without memory for any framebuffer that has pixels. -/
def starving : Host :=
  { Host.willing with device := { DeviceAnswers.willing with short := fun _ _ => true } }

/-- A screen without a size of its own that was given another resolution than it got at first. -/
def widened : Compositor :=
  ({ config := { output := { defaultResolution := ⟨2, 1⟩ } }, contexts := .standard } : Compositor).run
    ([.addOutput "screen" ⟨0, 0⟩, .setResolution ⟨1⟩ ⟨3, 2⟩].map (Prod.mk .willing))

theorem widened_framebuffer : Resolved widened [(⟨1⟩, true), (⟨1⟩, true)] ∧
    ∃ p r fb images, widened.outputs.get? ⟨1⟩ = some p ∧
      p.resolution = ⟨3, 2⟩ ∧ p.renderer = some r ∧ r.software? = some (fb, images) ∧
      fb.pixels.size = 6 ∧
      ∃ p' r', (widened.handle starving (.setResolution ⟨1⟩ ⟨2, 2⟩)).2.outputs.get? ⟨1⟩ = some p' ∧
        p'.resolution = ⟨2, 2⟩ ∧ p'.renderer = some r' ∧ r'.software? = some (fb, images) := by
  have resolved : Resolved widened [(⟨1⟩, true), (⟨1⟩, true)] :=
    ((Resolved.start { output := { defaultResolution := ⟨2, 1⟩ } } .standard).handle .willing
      (.addOutput "screen" ⟨0, 0⟩)).handle .willing (.setResolution ⟨1⟩ ⟨3, 2⟩)
  obtain ⟨p, r, found, resolution, renderer, memory⟩ : ∃ p r, widened.outputs.get? ⟨1⟩ = some p ∧
      p.resolution = ⟨3, 2⟩ ∧ p.renderer = some r ∧ r.handle.context.inMemory = true :=
    ⟨_, _, rfl, rfl, rfl, rfl⟩
  obtain ⟨fb, images, there, -, pixels, next⟩ :=
    resolved.resolution_framebuffer found renderer memory
  obtain ⟨p', r', found', resolution', renderer', there'⟩ := next starving ⟨2, 2⟩
  have other : (⟨2, 2⟩ : Size) ≠ p.resolution := by
    rw [resolution]
    decide
  have kept : fb.resized ⟨2, 2⟩ (starving.device.short r.handle.id ⟨2, 2⟩) = fb :=
    if_pos (.inr (.inl ⟨rfl, by decide⟩))
  rw [if_neg other, kept] at there'
  rw [resolution] at pixels
  exact ⟨resolved, p, r, fb, images, found, resolution, renderer, there, pixels rfl, p', r', found',
    resolution', renderer', there'⟩

/-- The sides are as long as they can be, and there are too many pixels to ask for. -/
def boundless : Size := ⟨4294967295, 4294967295⟩

/-- A screen of one pixel that was given a resolution nothing can be allocated for. -/
def overstretched : Compositor :=
  ({ config := {}, contexts := .standard } : Compositor).run
    ([.addOutput "screen" ⟨1, 1⟩, .setResolution ⟨1⟩ boundless].map (Prod.mk .willing))

theorem overstretched_framebuffer : overstretched.Reachable ∧
    ∃ p r fb images, overstretched.outputs.get? ⟨1⟩ = some p ∧ p.renderer = some r ∧
      r.handle.context.inMemory = true ∧ r.software? = some (fb, images) ∧
      p.resolution = boundless ∧ fb.pixels.size = 1 ∧
      fb.pixels.size ≠ p.resolution.width.toNat * p.resolution.height.toNat :=
  ⟨(Reachable.start _ _).run _, _, _, _, _, rfl, rfl, rfl, rfl, rfl, rfl, by decide⟩

end Compositor

end Compositing
