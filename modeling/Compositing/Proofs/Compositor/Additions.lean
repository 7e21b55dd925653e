import Compositing.Proofs.Compositor.Tending
import Compositing.Proofs.Rendering.Handles

/-!
# Adding an output

A new output is entered first and judged then: it is given up again if no output has a renderer, or if
the policy does not want it. `addOutput_eq` tells the two steps apart, and `openRenderer_cases` says all
that is done to set its context up.
-/

namespace Compositing

theorem RenderContext.events_onCanvas (ctx : RenderContext) (device : DeviceAnswers) (call : DeviceCall)
    (work : Canvas → Except RenderError Canvas) {event : Event}
    (member : event ∈ (ctx.onCanvas device call work).events) : event = ctx.told call := by
  unfold onCanvas at member
  split at member
  · split at member <;> cases member
  · simp only [ask] at member
    split at member <;> exact List.mem_singleton.1 member
  · cases member

namespace Compositor

variable {c : Compositor}

/-- The context of a new output gets the next name, and nothing else changes but the log. A change of
size that the context did not follow is no failure. -/
theorem openRenderer_cases (c : Compositor) (host : Host) (reported resolution : Size) :
    ∃ told, Technical told ∧ Rack.Endless told ∧
      ((∃ r, c.openRenderer host reported resolution = (some r, { c with
          contexts := { c.contexts with nextId := c.contexts.nextId.next }
          log := c.log ++ told }) ∧ r.handle.id = c.contexts.nextId ∧ r.images = Table.empty) ∨
        c.openRenderer host reported resolution = (none, c.tell told)) := by
  have technical : Technical (Contexts.probe host.device c.contexts.nextId reported
      c.contexts.backends).2 := Contexts.technical_probe ..
  have probed : Rack.Endless (Contexts.probe host.device c.contexts.nextId reported
      c.contexts.backends).2 := fun event member context => by
    obtain ⟨backend, rfl⟩ := Contexts.probe_told host.device _ reported _ member
    rfl
  rcases c.contexts.create_eq host.device reported with ⟨h, made, new, -⟩ | ⟨e, failed⟩
  · have technical' : Technical (({ handle := h } : Renderer).resize host.device resolution).2 :=
      Renderer.technical_resize ..
    have resized : Rack.Endless (({ handle := h } : Renderer).resize host.device resolution).2 :=
      fun event member context => by
        rw [RenderContext.events_onCanvas _ _ _ _ member]
        rfl
    refine ⟨_, technical_append.2 ⟨technical, technical'⟩, fun event member context => ?_,
      .inl ⟨(({ handle := h } : Renderer).resize host.device resolution).1, ?_, ?_, rfl⟩⟩
    · rcases List.mem_append.1 member with member | member
      · exact probed event member context
      · exact resized event member context
    · simp only [openRenderer, made, tell, List.append_assoc]
    · exact (Renderer.id_onCanvas h.context host.device _ _).trans new
  · exact ⟨_, technical, probed, .inr (by simp only [openRenderer, failed])⟩

/-- The resolution of a new output. -/
def resolutionFor (c : Compositor) (reported : Size) : Size :=
  if reported.isProper then reported else c.config.output.defaultResolution

/-- The new output of a compositor, with the renderer that was opened for it. -/
def enteredOutput (c : Compositor) (host : Host) (name : String) (reported : Size) : Output :=
  { id := c.nextIds.output, name, resolution := c.resolutionFor reported
    renderer := (c.openRenderer host reported (c.resolutionFor reported)).1 }

/-- The compositor with the new output, before it is judged. -/
def entered (c : Compositor) (host : Host) (name : String) (reported : Size) : Compositor :=
  { (c.openRenderer host reported (c.resolutionFor reported)).2 with
    outputs := c.outputs.insert c.nextIds.output (c.enteredOutput host name reported)
    outputOrder := c.outputOrder ++ [c.nextIds.output]
    nextIds := { c.nextIds with output := c.nextIds.output.next } }

theorem addOutput_eq (c : Compositor) (host : Host) (name : String) (reported : Size) :
    c.addOutput host name reported =
      let d := c.entered host name reported
      let id := c.nextIds.output
      if d.outputs.values.all fun p => p.renderer.isNone then
        (.error .noRenderableOutput, (d.discardOutput id).2)
      else if host.acceptOutput id then
        (.ok (some id), (d.tellPolicy (.outputCreated id)).scheduleOutput id)
      else (.ok none, ((d.tellPolicy (.outputCreated id)).discardOutput id).2) := by
  obtain ⟨-, -, -, -, outputs, order, -, nextIds⟩ :=
    c.openRenderer_fields host reported (c.resolutionFor reported)
  simp only [addOutput, entered, enteredOutput, ← outputs, ← order, ← nextIds]
  rfl

/-- All tables but that of the outputs are as they were. -/
theorem entered_eq (c : Compositor) (host : Host) (name : String) (reported : Size) :
    ∃ told, Technical told ∧ Rack.Endless told ∧
      c.entered host name reported =
        { c with
          contexts := { c.contexts with
            nextId := ((c.enteredOutput host name reported).renderer.elim c.contexts.nextId
              fun _ => c.contexts.nextId.next) }
          outputs := c.outputs.insert c.nextIds.output (c.enteredOutput host name reported)
          outputOrder := c.outputOrder ++ [c.nextIds.output]
          nextIds := { c.nextIds with output := c.nextIds.output.next }
          log := c.log ++ told } ∧
      ∀ r, (c.enteredOutput host name reported).renderer = some r →
        r.handle.id = c.contexts.nextId ∧ r.images = Table.empty := by
  obtain ⟨told, technical, endless, ⟨r, opened, new, bare⟩ | opened⟩ :=
    c.openRenderer_cases host reported (c.resolutionFor reported)
  · refine ⟨told, technical, endless, ?_, fun r' there => ?_⟩
    · simp only [entered, enteredOutput, opened, Option.elim]
    · simp only [enteredOutput, opened, Option.some.injEq] at there
      exact there ▸ ⟨new, bare⟩
  · refine ⟨told, technical, endless, ?_, fun r' there => ?_⟩
    · simp only [entered, enteredOutput, opened, Option.elim, tell]
    · simp [enteredOutput, opened] at there

end Compositor

end Compositing
