import Compositing.Proofs.Compositor.Custody
import Compositing.Proofs.Compositor.Painting
import Compositing.Proofs.Rendering.Blitting

/-!
# Rendering in machine words

A pass hands a screen one frame, and what is drawn in machine words is this frame, unless a picture is so
large that they cannot count its columns or rows: `Reachable.paints`. Clients name the sides of a buffer
with signed words, so they stay below 2^31, and with them the sides of all surfaces and of all pictures.
No such picture is too large: `ReachableBy.drawPictures?_eq`.
-/

namespace Compositing

/-- Both sides are what signed words of 32 bits can say. -/
def Size.IsSigned (size : Size) : Prop :=
  size.width.toNat < 2 ^ 31 ∧ size.height.toNat < 2 ^ 31

instance (size : Size) : Decidable size.IsSigned := inferInstanceAs (Decidable (_ ∧ _))

/-- A new buffer has a size that a client can ask for (`wl_shm_pool.create_buffer`). -/
def Request.isSigned : Request → Bool
  | .pool (.register d) => d.size.IsSigned
  | _ => true

namespace BufferPool

variable {pool : BufferPool}

/-- Names are drawn for new buffers only. -/
theorem nextId_handle {r : PoolRequest} (old : ∀ d, r ≠ .register d) :
    (pool.handle r).2.nextId = pool.nextId := by
  have turn := turn_handle pool r
  generalize pool.handle r = answer at turn ⊢
  obtain ⟨reply, pool'⟩ := answer
  cases turn
  case registered d _ _ => exact absurd rfl (old d)
  case releaseParked b _ _ _ | destroyParked b _ _ _ =>
    change (pool.park b).nextId = pool.nextId
    unfold park
    split <;> rfl
  all_goals rfl

/-- The size of every buffer can be asked for. -/
def IsSigned (pool : BufferPool) : Prop := ∀ b record, pool.get? b = some record → record.size.IsSigned

theorem IsSigned.later {pool' : BufferPool} (signed : pool.IsSigned) (later : pool.Later pool')
    (drawn : pool'.nextId = pool.nextId) : pool'.IsSigned := by
  intro b record there
  rcases later.sizes b record there with ⟨old, found, size⟩ | ⟨first, last⟩
  · exact size ▸ signed b old found
  · -- No name was drawn in between.
    rw [drawn] at last
    omega

theorem IsSigned.register (signed : pool.IsSigned) {d : Description} (size : d.size.IsSigned) :
    (pool.handle (.register d)).2.IsSigned := by
  intro b record there
  simp only [BufferPool.handle, settle, BufferPool.register] at there
  split at there
  next value after registered =>
    split at registered <;> cases registered
    rw [get?, Table.get?_insert] at there
    split at there
    · cases there
      exact size
    · exact signed b record there
  next => exact signed b record there

theorem IsSigned.handle (signed : pool.IsSigned) {r : PoolRequest}
    (new : ∀ d, r = .register d → d.size.IsSigned) : (pool.handle r).2.IsSigned := by
  by_cases old : ∀ d, r ≠ .register d
  · exact signed.later (pool.handle_later r) (nextId_handle old)
  · push Not at old
    obtain ⟨d, rfl⟩ := old
    exact signed.register (new d rfl)

end BufferPool

namespace Compositor

variable {c c' : Compositor}

/-- The sizes of all buffers and of all surfaces can be asked for. -/
structure IsSigned (c : Compositor) : Prop where
  buffers : c.buffers.IsSigned
  surfaces : ∀ k s, c.surfaces.get? k = some s → s.size.IsSigned

/-- Every surface has the size it had, or that of a buffer, or none. -/
def SizedFrom (c c' : Compositor) : Prop :=
  ∀ k s', c'.surfaces.get? k = some s' →
    (∃ s, c.surfaces.get? k = some s ∧ s'.size = s.size) ∨ s'.size = Size.zero ∨
      ∃ b record, c.buffers.get? b = some record ∧ s'.size = record.size

theorem SameSurfaces.sizedFrom (surfaces : SameSurfaces c c') : SizedFrom c c' := fun k _ there =>
  have ⟨s, found, same⟩ := found_of_rel (surfaces k) there
  .inl ⟨s, found, (looks_eq same).2.1⟩

theorem Change.sizedFrom (change : Change c c') : SizedFrom c c' := by
  intro k s' there
  cases change with
  | moved _ _ _ change => exact change.surfaces.sizedFrom k s' there
  | committed j t t' content change =>
    obtain ⟨s, found, look⟩ := found_of_rel (change.surfaces k) there
    split at look
    · obtain ⟨-, size, -⟩ := looks_eq look
      rw [size, change.size, change.attached]
      right
      cases shows : t'.buffer.bind c.buffers.get? with
      | none => exact .inl rfl
      | some record =>
        obtain ⟨b, -, found⟩ := Option.bind_eq_some_iff.1 shows
        exact .inr ⟨b, record, found, rfl⟩
    · exact .inl ⟨s, found, (looks_eq look).2.1⟩
  | minor change => cases change with
    | quiet change => exact change.surfaces.sizedFrom k s' there
    | surfaceAdded change =>
      by_cases new : k = c.nextIds.surface
      · obtain ⟨s, found, look⟩ := change.new
        cases (new ▸ there).symm.trans found
        exact .inr (.inl (congrArg (·.2.2.1) look))
      · obtain ⟨s, found, same⟩ := found_of_rel (change.surfaces k new) there
        exact .inl ⟨s, found, (looks_eq same).2.1⟩
    | viewAdded j t change =>
      obtain ⟨s, found, look⟩ := found_of_rel (change.surfaces k) there
      exact .inl ⟨s, found, by split at look <;> simp_all [Surface.look]⟩
    | viewGone v view change =>
      obtain ⟨s, found, look⟩ := found_of_rel (change.surfaces k) there
      exact .inl ⟨s, found, by split at look <;> simp_all [Surface.look]⟩
    | surfaceGone j t change =>
      have other : k ≠ j := fun same => by simp [same, change.gone] at there
      obtain ⟨s, found, same⟩ := found_of_rel (change.surfaces k other) there
      exact .inl ⟨s, found, (looks_eq same).2.1⟩
    | outputAdded _ change => exact change.surfaces.sizedFrom k s' there
    | outputGone _ change => exact change.surfaces.sizedFrom k s' there
    | placed _ _ _ change => exact change.surfaces.sizedFrom k s' there
    | rearranged _ change => exact change.surfaces.sizedFrom k s' there

theorem IsSigned.step (signed : c.IsSigned) (later : c.buffers.Later c'.buffers)
    (drawn : c'.buffers.nextId = c.buffers.nextId)
    (sizes : SizedFrom c c') : c'.IsSigned := by
  refine ⟨signed.buffers.later later drawn, fun k s' there => ?_⟩
  rcases sizes k s' there with ⟨s, found, size⟩ | size | ⟨b, record, found, size⟩
  · exact size ▸ signed.surfaces k s found
  · exact size ▸ ⟨by decide, by decide⟩
  · exact size ▸ signed.buffers b record found

/-- Requests that register nothing draw no name. -/
theorem Deal.nextId {back : List BufferId} {request : Request} (deal : Deal c c' back request)
    (old : ∀ d, request ≠ .pool (.register d)) : c'.buffers.nextId = c.buffers.nextId := by
  cases deal with
  | kept _ kept => exact kept.recounted.next
  | gaveUp _ _ _ _ _ buffers => exact buffers ▸ BufferPool.nextId_handle nofun
  | took _ _ _ _ buffers => rw [buffers]
  | asked asks _ buffers =>
    refine buffers ▸ BufferPool.nextId_handle fun d same => ?_
    subst same
    cases request <;> cases asks
    exact old d rfl

/-- As long as no name is drawn, changes and passes keep the sizes. -/
theorem isSigned_unless_drawn {next : BufferId} (later : Later c c') (sizes : SizedFrom c c')
    (before : next.number ≤ c.buffers.nextId.number ∧ (c.buffers.nextId = next → c.IsSigned)) :
    next.number ≤ c'.buffers.nextId.number ∧ (c'.buffers.nextId = next → c'.IsSigned) := by
  have le := later.buffers.next
  refine ⟨by omega, fun undrawn => ?_⟩
  have drawn : c.buffers.nextId = next := by
    rw [undrawn] at le
    exact congrArg BufferId.mk (Nat.le_antisymm le before.1)
  exact (before.2 drawn).step later.buffers (undrawn.trans drawn.symm) sizes

theorem IsSigned.handle (signed : c.IsSigned) (reached : c.Reachable) (host : Host) {request : Request}
    (asked : request.isSigned) : (c.handle host request).2.IsSigned := by
  by_cases old : ∀ d, request ≠ .pool (.register d)
  · have keeps := handle_keeps (I := fun d => c.buffers.nextId.number ≤ d.buffers.nextId.number ∧
        (d.buffers.nextId = c.buffers.nextId → d.IsSigned))
      (fun _ _ _ before change => isSigned_unless_drawn change.later change.sizedFrom before)
      (fun _ _ _ _ before rendered =>
        isSigned_unless_drawn rendered.toLater rendered.surfaces.sizedFrom before)
      reached.linked reached.held ⟨Nat.le_refl _, fun _ => signed⟩ host request
    exact keeps.2.2.2 ((reached.deal host request).nextId old)
  · push Not at old
    obtain ⟨d, rfl⟩ := old
    exact ⟨signed.buffers.register (of_decide_eq_true asked), signed.surfaces⟩

/-- As long as clients name the sides of buffers with signed words, all sizes are of such words. -/
theorem ReachableBy.isSigned (reached : c.ReachableBy fun _ _ request => request.isSigned) :
    c.IsSigned := by
  induction reached with
  | start config contexts =>
    exact ⟨fun b record there => by simp [BufferPool.get?, BufferPool.empty] at there,
      fun k s there => by simp at there⟩
  | handle before host request asked ih => exact ih.handle before.reachable host asked
  | collect _ ih => exact ⟨ih.buffers, ih.surfaces⟩

/-! ### What is painted -/

/-- A picture that is drawn has sides, those of its surface. -/
theorem size_of_picture (linked : c.Linked) {o : OutputId} {p : Output} (depicts : c.Depicts o p)
    {item : PaintItem} (drawn : item ∈ c.paintItems p) {image : Image}
    (picture : p.picture? item.surface = some image) :
    (0 < image.size.width.toNat ∧ 0 < image.size.height.toNat) ∧
      ∃ s, c.surfaces.get? item.surface = some s ∧ image.size = s.size := by
  obtain ⟨v, -, drawn⟩ := List.mem_filterMap.1 drawn
  obtain ⟨s, there, mapped, -⟩ := paintItem?_eq_some linked drawn
  have size := (depicts.fits item.surface image picture).size s there mapped
  refine ⟨?_, s, there, size⟩
  rw [size]
  simpa [Surface.isMapped, Size.isProper, Nat.pos_iff_ne_zero, ← UInt32.toNat_inj] using mapped

/-- What an output draws in machine words, if words can count how far into the pictures its pixels lie, is
what it draws without them. -/
theorem drawPictures?_iff (linked : c.Linked) {o : OutputId} {p : Output} (depicts : c.Depicts o p)
    (fb words : Framebuffer) : fb.drawPictures? p.picture? (c.paintItems p) = some words ↔
      (∀ item ∈ c.paintItems p, ∀ image, p.picture? item.surface = some image →
        Framebuffer.Fits fb.size image item.placement) ∧
      words = fb.drawPictures p.picture? (c.paintItems p) :=
  Framebuffer.drawPictures?_eq_some_iff fun _ drawn _ picture =>
    (size_of_picture linked depicts drawn picture).1

/-- Pictures whose sides are signed words are drawn without fail, whatever was there before. -/
theorem ReachableBy.drawPictures?_eq (reached : c.ReachableBy fun _ _ request => request.isSigned)
    {o : OutputId} {p : Output} (found : c.outputs.get? o = some p) (fb : Framebuffer) :
    fb.drawPictures? p.picture? (c.paintItems p) =
      some (fb.drawPictures p.picture? (c.paintItems p)) := by
  have linked := reached.reachable.linked
  have depicts := reached.reachable.pictured.depicts o p found
  refine (drawPictures?_iff linked depicts fb _).2 ⟨fun item drawn image picture => ?_, rfl⟩
  obtain ⟨-, s, there, same⟩ := size_of_picture linked depicts drawn picture
  exact Framebuffer.fits_of_sides _ _ (same ▸ reached.isSigned.surfaces _ s there)

end Compositor

end Compositing
