import Compositing.Proofs.Compositor.Additions
import Compositing.Proofs.Compositor.Launches
import Compositing.Proofs.Rendering.Albums

/-!
# The images of all outputs

In every state that can be reached the renderers have their images in order, and the next image has a
name that none of them uses: `Reachable.orderly`. No two images have one name: `Reachable.numbered`.
-/

namespace Compositing.Compositor

variable {c c' : Compositor}

/-- All renderers have their images in order. -/
def Orderly (c : Compositor) : Prop :=
  ∀ o p r, c.outputs.get? o = some p → p.renderer = some r → r.Orderly c.nextIds.image

theorem Orderly.same (orderly : c.Orderly) (outputs : c'.outputs = c.outputs)
    (nextImage : c'.nextIds.image = c.nextIds.image) : c'.Orderly := by
  intro o p r found renderer
  rw [nextImage]
  exact orderly o p r (outputs ▸ found) renderer

theorem Tends.orderly (tends : Tends c c') (orderly : c.Orderly) : c'.Orderly := by
  intro o p' r' found' renderer'
  obtain ⟨p, found, tended⟩ := found_of_rel (tends.outputs o) found'
  obtain ⟨r, renderer, tended⟩ := found_of_rel tended renderer'
  exact Renderer.orderly_tended tended (orderly o p r found renderer)

/-! ### Outputs that come and go -/

theorem orderly_discardOutput (orderly : c.Orderly) (o : OutputId) : (c.discardOutput o).2.Orderly := by
  cases found : c.outputs.get? o with
  | none =>
    have same : (c.discardOutput o).2 = c := by simp [discardOutput, found]
    rw [same]
    exact orderly
  | some p =>
    have nextIds : (c.discardOutput o).2.nextIds = c.nextIds := by
      obtain ⟨-, -, -, -, -, -, -, nextIds, -⟩ := foldl_hideView_fields p.creationOrder
        { c with outputs := c.outputs.erase o, outputOrder := c.outputOrder.filter (· ≠ o) }
      simp only [discardOutput, found]
      cases p.renderer <;> exact nextIds
    intro x q r there renderer
    rw [(discardOutput_contexts found).1, Table.get?_erase, Option.ite_none_left_eq_some] at there
    rw [nextIds]
    exact orderly x q r there.2 renderer

theorem orderly_openRenderer {host : Host} {reported resolution : Size} {r : Renderer}
    (opened : (c.openRenderer host reported resolution).1 = some r) (next : ImageId) :
    r.Orderly next := by
  simp only [openRenderer] at opened
  rcases c.contexts.create_eq host.device reported with ⟨⟨context, degraded⟩, made, -, fine, found⟩ |
    ⟨e, failed⟩
  · obtain rfl : degraded = false := fine
    rw [made] at opened
    cases opened
    exact Renderer.orderly_resize (Renderer.orderly_probe found next) host.device resolution
  · rw [failed] at opened
    cases opened

theorem orderly_addOutput (orderly : c.Orderly) (host : Host) (name : String) (reported : Size) :
    (c.addOutput host name reported).2.Orderly := by
  have entered : (c.entered host name reported).Orderly := by
    intro o p r found renderer
    obtain ⟨-, -, -, -, outputs, -, -, nextIds⟩ :=
      c.openRenderer_fields host reported (c.resolutionFor reported)
    have next : (c.entered host name reported).nextIds.image = c.nextIds.image := rfl
    rw [next]
    simp only [Compositor.entered, Table.get?_insert] at found
    split at found
    · cases found
      exact orderly_openRenderer renderer _
    · exact orderly o p r found renderer
  have told : ((c.entered host name reported).tellPolicy (.outputCreated c.nextIds.output)).Orderly :=
    entered.same rfl rfl
  rw [addOutput_eq]
  simp only
  split
  · exact orderly_discardOutput entered _
  · split
    · exact (tends_scheduleOutput _).orderly told
    · exact orderly_discardOutput told _

/-! ### Every state -/

theorem Round.orderly {time : UInt32} {os : List OutputId} {ks : List SurfaceId}
    (round : Round c c' time os ks) (orderly : c.Orderly) : c'.Orderly := by
  have nextIds : c'.nextIds = c.nextIds := by rw [round.frame]; rfl
  intro o p' r' found' renderer'
  obtain ⟨p, found, same⟩ := found_of_rel (round.outputs o) found'
  rw [nextIds]
  split at same
  · have blank : r'.blank ∈ p.renderer.map Renderer.blank := by
      have renderers : p'.renderer.map Renderer.blank = p.renderer.map Renderer.blank :=
        congrArg Output.renderer same
      rw [← renderers, renderer']
      rfl
    obtain ⟨r, renderer, same⟩ := Option.map_eq_some_iff.1 blank
    have images : r'.images = r.images := (congrArg Renderer.images same).symm
    have context : r'.handle.context.blank = r.handle.context.blank :=
      (congrArg (fun r => r.handle.context) same).symm
    exact (orderly o p r found renderer).of_blank images context
  · exact orderly o p r' found (same ▸ renderer')

theorem orderly_handle (reached : c.Reachable) (orderly : c.Orderly) (host : Host)
    (request : Request) : (c.handle host request).2.Orderly := by
  cases about : request.aboutContexts with
  | false => exact (tends_handle reached.linked host about).orderly orderly
  | true =>
    cases request with
    | addOutput name reported =>
      simp only [handle, settle_snd]
      exact orderly_addOutput orderly host name reported
    | removeOutput o =>
      have gone := orderly_discardOutput orderly o
      simp only [handle, removeOutput]
      split
      next eq =>
        rw [eq] at gone
        exact gone.same rfl rfl
      next eq =>
        rw [eq] at gone
        exact gone
    | render time => exact (reached.round host time).2.orderly orderly
    | _ => cases about

theorem Reachable.orderly (reached : c.Reachable) : c.Orderly := by
  induction reached with
  | start config contexts => intro o p r found; cases found
  | handle before host request ih => exact orderly_handle before ih host request
  | collect before ih => exact ih.same rfl rfl

/-! ### Names of images -/

/-- Each image has a name of its own. -/
def Numbered (c : Compositor) : Prop :=
  ∀ o k o' k' i, c.imageAt? o k = some i → c.imageAt? o' k' = some i → o' = o ∧ k' = k

theorem Orderly.named (orderly : c.Orderly) {o : OutputId} {k : SurfaceId} {i : ImageId}
    (there : c.imageAt? o k = some i) : i.number < c.nextIds.image.number := by
  obtain ⟨p, found, there⟩ := imageAt?_eq_some.1 there
  obtain ⟨r, renderer, there⟩ := Option.bind_eq_some_iff.1 there
  exact (orderly o p r found renderer).sound.named k i there

theorem Tends.numbered (tends : Tends c c') (orderly : c.Orderly) (numbered : c.Numbered) :
    c'.Numbered := by
  intro o k o' k' i here there
  rcases tends.named o k i here with old | ⟨low, -, alone⟩
  · rcases tends.named o' k' i there with old' | ⟨low, -⟩
    · exact numbered o k o' k' i old old'
    · exact absurd (orderly.named old) (Nat.not_lt.2 low)
  · rcases alone o' k' there with old' | same
    · exact absurd (orderly.named old') (Nat.not_lt.2 low)
    · exact same

/-- Images that are gone do not matter. -/
theorem Numbered.mono (numbered : c.Numbered)
    (old : ∀ o k i, c'.imageAt? o k = some i → c.imageAt? o k = some i) : c'.Numbered :=
  fun o k o' k' i here there => numbered o k o' k' i (old o k i here) (old o' k' i there)

theorem imageAt?_of_outputs (outputs : c'.outputs = c.outputs) (o : OutputId) (k : SurfaceId) :
    c'.imageAt? o k = c.imageAt? o k := by
  rw [imageAt?, outputs, imageAt?]

theorem Numbered.discardOutput (numbered : c.Numbered) (o : OutputId) :
    (c.discardOutput o).2.Numbered := by
  cases found : c.outputs.get? o with
  | none =>
    have same : (c.discardOutput o).2 = c := by simp [Compositor.discardOutput, found]
    rw [same]
    exact numbered
  | some p =>
    refine numbered.mono fun x k i there => ?_
    obtain ⟨q, left, there⟩ := imageAt?_eq_some.1 there
    rw [(discardOutput_contexts found).1, Table.get?_erase, Option.ite_none_left_eq_some] at left
    exact imageAt?_eq_some.2 ⟨q, left.2, there⟩

theorem Numbered.addOutput (numbered : c.Numbered) (host : Host) (name : String) (reported : Size) :
    (c.addOutput host name reported).2.Numbered := by
  have entered : (c.entered host name reported).Numbered := by
    obtain ⟨-, -, -, -, bare⟩ := c.entered_eq host name reported
    refine numbered.mono fun o k i there => ?_
    obtain ⟨p, found, there⟩ := imageAt?_eq_some.1 there
    simp only [Compositor.entered, Table.get?_insert] at found
    split at found
    -- The new output has no images yet.
    · cases found
      obtain ⟨r, renderer, there⟩ := Option.bind_eq_some_iff.1 there
      rw [(bare r renderer).2] at there
      cases there
    · exact imageAt?_eq_some.2 ⟨p, found, there⟩
  have told : ((c.entered host name reported).tellPolicy (.outputCreated c.nextIds.output)).Numbered :=
    entered.mono fun o k i there => (imageAt?_of_outputs rfl o k).symm.trans there
  rw [addOutput_eq]
  simp only
  split
  · exact entered.discardOutput _
  · split
    · refine told.mono fun o k i there => ?_
      obtain ⟨p', found', there⟩ := imageAt?_eq_some.1 there
      simp only [scheduleOutput, modifyOutput_fields, Table.get?_modify] at found'
      split at found'
      · obtain ⟨p, found, rfl⟩ := Option.map_eq_some_iff.1 found'
        exact imageAt?_eq_some.2 ⟨p, found, there⟩
      · exact imageAt?_eq_some.2 ⟨p', found', there⟩
    · exact told.discardOutput _

theorem Round.numbered {time : UInt32} {os : List OutputId} {ks : List SurfaceId}
    (round : Round c c' time os ks) (numbered : c.Numbered) : c'.Numbered := by
  refine numbered.mono fun o k i there => ?_
  obtain ⟨p', found', there⟩ := imageAt?_eq_some.1 there
  obtain ⟨p, found, same⟩ := found_of_rel (round.outputs o) found'
  refine imageAt?_eq_some.2 ⟨p, found, ?_⟩
  split at same
  · have images (p : Output) : p.blank.imageOf? k = p.imageOf? k := by
      cases renderer : p.renderer <;> simp only [Output.imageOf?, Output.blank, renderer] <;> rfl
    have kept : p'.imageOf? k = p.attended.imageOf? k := by rw [← images, same, images]
    exact kept.symm.trans there
  · exact same ▸ there

theorem Reachable.numbered (reached : c.Reachable) : c.Numbered := by
  induction reached with
  | start config contexts => intro o k o' k' i here; cases here
  | @handle c before host request ih =>
    cases about : request.aboutContexts with
    | false => exact (tends_handle before.linked host about).numbered before.orderly ih
    | true =>
      cases request with
      | addOutput name reported =>
        simp only [Compositor.handle, settle_snd]
        exact ih.addOutput host name reported
      | removeOutput o =>
        have gone := ih.discardOutput o
        simp only [Compositor.handle, removeOutput]
        split
        next eq =>
          rw [eq] at gone
          exact gone
        next eq =>
          rw [eq] at gone
          exact gone
      | render time => exact (before.round host time).2.numbered ih
      | _ => cases about
  | collect before ih => exact ih

end Compositing.Compositor
