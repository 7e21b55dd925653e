import Compositing.Proofs.Compositor.Lifetimes

/-!
# Protocol objects that the index cannot lose

A protocol object that one object holds, and nobody else, stays in the index for as long as that
object holds it, whatever becomes of all others. So a report of it reaches its owner.
-/

namespace Compositing.Compositor

variable {c c' c'' : Compositor} {h : Handle} {k : SurfaceId} {owner : Owner}

/-- Nobody but its owner holds the protocol object, which does so once, and the index names the owner. -/
structure Sole (c : Compositor) (owner : Owner) (h : Handle) : Prop where
  index : c.resources.get? h = some owner
  once : (c.handlesOf owner).count h ≤ 1
  only : ∀ o, h ∈ c.handlesOf o → o = owner

/-- Nobody holds the protocol object more often than before, and the index treats it as it did unless
somebody holds it less often. -/
structure Careful (h : Handle) (c c' : Compositor) : Prop where
  fewer : ∀ o, (c'.handlesOf o).count h ≤ (c.handlesOf o).count h
  index : c'.resources.get? h = c.resources.get? h ∨
    ∃ o, (c'.handlesOf o).count h < (c.handlesOf o).count h

theorem Careful.held (careful : Careful h c c') {o : Owner} (held : h ∈ c'.handlesOf o) :
    h ∈ c.handlesOf o :=
  List.count_pos_iff.1 (Nat.lt_of_lt_of_le (List.count_pos_iff.2 held) (careful.fewer o))

theorem Sole.step (sole : c.Sole owner h) (careful : Careful h c c')
    (held : h ∈ c'.handlesOf owner) : c'.Sole owner h where
  index := by
    rcases careful.index with same | ⟨o, less⟩
    · exact same.trans sole.index
    · -- Who held it once and less often now, holds it no more.
      have holder : h ∈ c.handlesOf o := List.count_pos_iff.1 (Nat.zero_lt_of_lt less)
      obtain rfl := sole.only o holder
      have once := sole.once
      have none := List.count_pos_iff.2 held
      omega
  once := Nat.le_trans (careful.fewer _) sole.once
  only o member := sole.only o (careful.held member)

/-! ### Changes that shed protocol objects -/

theorem Careful.trans (first : Careful h c c') (second : Careful h c' c'') : Careful h c c'' where
  fewer o := Nat.le_trans (second.fewer o) (first.fewer o)
  index := by
    rcases second.index with same | ⟨o, less⟩
    · rcases first.index with same' | ⟨o, less⟩
      · exact .inl (same.trans same')
      · exact .inr ⟨o, Nat.lt_of_le_of_lt (second.fewer o) less⟩
    · exact .inr ⟨o, Nat.lt_of_lt_of_le less (first.fewer o)⟩

theorem Still.careful (still : Still c c') (h : Handle) : Careful h c c' :=
  ⟨fun o => Nat.le_of_eq (by rw [still.handles]), .inl (by rw [still.resources])⟩

/-- What is destroyed was lost by somebody. -/
theorem Destroyed.careful {gone : List Handle} (destroyed : Destroyed c gone c')
    (fewer : ∀ o, (c'.handlesOf o).count h ≤ (c.handlesOf o).count h)
    (lost : h ∈ gone → ∃ o, (c'.handlesOf o).count h < (c.handlesOf o).count h) :
    Careful h c c' where
  fewer := fewer
  index := by
    rw [destroyed.index]
    split
    next member => exact .inr (lost member)
    next => exact .inl rfl

theorem Dropped.careful {owners : List Owner} (dropped : Dropped c owners c') (h : Handle) :
    Careful h c c' := by
  refine dropped.destroyed.careful (fun o => ?_) fun member => ?_
  · rw [dropped.handles]
    split <;> simp
  · obtain ⟨o, listed, held⟩ := List.mem_flatMap.1 member
    refine ⟨o, ?_⟩
    rw [dropped.handles, if_pos listed]
    exact List.count_pos_iff.2 held

theorem careful_finishItem (time : UInt32) (item : PaintItem) (h : Handle) :
    Careful h c (c.finishItem time item) := by
  cases found : c.surfaces.get? item.surface with
  | none =>
    rw [finishItem_of_absent time found]
    exact (Still.refl c).careful h
  | some s =>
    obtain ⟨fired, handles⟩ := destroyed_finishItem time found
    have held : c.handlesOf (.callback item.surface) = s.allCallbacks := (handlesOf_found found).2
    have count : s.allCallbacks.count h = s.callbacks.count h + s.pendingCallback.toList.count h :=
      List.count_append
    refine fired.careful (fun o => ?_) fun member => ⟨.callback item.surface, ?_⟩
    · rw [handles]
      split
      next here =>
        rw [here, held]
        omega
      next => exact Nat.le_refl _
    · have there := List.count_pos_iff.2 member
      rw [handles, if_pos rfl, held]
      omega

theorem careful_closed : Closed fun c c' => ∀ h, Careful h c c' :=
  ⟨Still.careful, fun first second h => (first h).trans (second h),
    fun _ dropped => dropped.careful, fun _ time item => careful_finishItem time item⟩

/-! ### Protocol objects that come from outside -/

/-- Whatever is made, nobody gets this one. -/
theorem careful_made {x : Handle} {o : Owner} (other : x ≠ h)
    (index : ∀ y, c'.resources.get? y = if y = x then some o else c.resources.get? y)
    (fewer : ∀ o, (c'.handlesOf o).count h ≤ (c.handlesOf o).count h) : Careful h c c' where
  fewer := fewer
  index := by
    rw [index, if_neg (Ne.symm other)]
    exact .inl rfl

theorem Entered.careful {x : Handle} {o : Owner} (entered : Entered c x o c') (other : x ≠ h) :
    Careful h c c' := by
  refine careful_made other entered.index fun o => ?_
  rw [entered.handles]
  split <;> simp [other]

theorem careful_createSurface (linked : c.Linked) {host : Host} {client : ClientId} {id : UInt32}
    (other : host.createResource .surface client id ≠ .ok h) :
    Careful h c (c.createSurface host client id).2 := by
  cases made : host.createResource .surface client id with
  | error =>
    simp only [createSurface, createResource, made]
    exact (still_tell fun _ => rfl).careful h
  | ok x => exact (entered_createSurface linked made).careful fun same => other (same ▸ made)

theorem careful_createRegion {host : Host} {client : ClientId} {id : UInt32}
    (other : host.createResource .region client id ≠ .ok h) :
    Careful h c (c.createRegion host client id).2 := by
  cases made : host.createResource .region client id with
  | error =>
    simp only [createRegion, createResource, made]
    exact (still_tell fun _ => rfl).careful h
  | ok x => exact (entered_createRegion made).careful fun same => other (same ▸ made)

theorem careful_createView (host : Host) (k : SurfaceId) {role : Handle} (other : role ≠ h) :
    Careful h c (c.createView host k role).2 := by
  rcases createView_cases (c := c) host k role with ⟨e, refused⟩ | ⟨_, d, -, new, -, same | discarded⟩
  · rw [refused]
    exact (Still.refl c).careful h
  · rw [same]
    exact new.careful other
  · rw [discarded]
    exact (new.careful other).trans (careful_closed.discardView c.nextIds.view h)

theorem Made.careful {x : Handle} {o : Owner} (made : Made c x o c') (other : x ≠ h) :
    Careful h c c' := by
  refine careful_made other made.index fun o => ?_
  rw [made.handles]
  split
  next here => simp [here, other]
  next => exact Nat.le_refl _

/-- A callback that is replaced is lost and destroyed. -/
theorem careful_requestFrame (linked : c.Linked) (host : Host) (k : SurfaceId) (callback : UInt32)
    (other : ∀ s, c.surfaces.get? k = some s →
      host.createResource .callback s.client callback ≠ .ok h) :
    Careful h c (c.requestFrame host k callback).2 := by
  cases found : c.surfaces.get? k with
  | none =>
    simp only [requestFrame, found]
    exact (Still.refl c).careful h
  | some s =>
    cases made : host.createResource .callback s.client callback with
    | error =>
      simp only [requestFrame, found, createResource, made]
      exact (still_tell fun _ => rfl).careful h
    | ok x =>
      obtain ⟨d, -, new, held, destroyed, handles⟩ := requestFrame_made linked found made
      refine (new.careful fun (same : x = h) => other s found (same ▸ made)).trans
        (destroyed.careful (fun o => ?_) fun member => ⟨.callback k, ?_⟩)
      · rw [handles]
        split
        next here => simp [here, held]
        next => exact Nat.le_refl _
      · have there := List.count_pos_iff.2 member
        simpa [handles, held] using there

/-- Nobody gets a callback or a link by a change of one surface that drops some. -/
theorem sublist_modifySurface (k : SurfaceId) {f : Surface → Surface}
    (fewer : ∀ s, (f s).resource.toList.Sublist s.resource.toList ∧
      (f s).allCallbacks.Sublist s.allCallbacks) (o : Owner) :
    ((c.modifySurface k f).handlesOf o).Sublist (c.handlesOf o) := by
  cases o with
  | surface x | callback x =>
    cases found : c.surfaces.get? x with
    | none => simp [handlesOf, Table.get?_modify, found]
    | some s =>
      by_cases here : x = k
      · subst here
        simp [handlesOf, Table.get?_modify, found, fewer s]
      · simp [handlesOf, Table.get?_modify, here]
  | region | view => exact List.Sublist.refl _

theorem sublist_forgetCallback (k : SurfaceId) (x : Handle) (o : Owner) :
    (((c.disown x).modifySurface k fun s => s.forgetCallback x).handlesOf o).Sublist
      (c.handlesOf o) := by
  rw [← handlesOf_disown x o]
  refine sublist_modifySurface k (fun s => ?_) o
  unfold Surface.forgetCallback
  split
  · exact ⟨.refl _, by simp [Surface.allCallbacks]⟩
  · exact ⟨.refl _, List.erase_sublist.append_right _⟩

/-- The report of another protocol object. -/
theorem careful_resourceDestroyed {x : Handle} (other : x ≠ h) :
    Careful h c (c.resourceDestroyed x) := by
  -- The index forgets the other one, and one object loses what it holds.
  have forgets {d : Compositor} (resources : d.resources = c.resources.erase x)
      (fewer : ∀ o, (d.handlesOf o).Sublist (c.handlesOf o)) : Careful h c d :=
    ⟨fun o => (fewer o).count_le h, .inl (by rw [resources, Table.get?_erase, if_neg other.symm])⟩
  have disowned (o : Owner) := handlesOf_disown (c := c) x o
  unfold resourceDestroyed
  split
  next => exact (Still.refl c).careful h
  next o _ =>
    cases o with
    | surface k =>
      refine (forgets (d := (c.disown x).modifySurface k fun s => s.detachResource.2) rfl
        fun o => ?_).trans (careful_closed.surfaceResourceGone k h)
      rw [← disowned]
      exact sublist_modifySurface (c := c.disown x) k (f := fun s => s.detachResource.2)
        (fun s => ⟨List.nil_sublist _, .refl _⟩) o
    | region r =>
      refine forgets rfl fun o => ?_
      rw [← disowned, handlesOf_replaceRegion (c := c.disown x) (g := none)
        (by exact fun _ => Table.get?_erase ..) (by rfl) (by rfl) o]
      split <;> simp
    | callback k => exact forgets rfl (sublist_forgetCallback k x)
    | view v =>
      refine (forgets (d := (c.disown x).modifyView v fun w => { w with link := .detached }) rfl
        fun o => ?_).trans (careful_closed.destroyView v h)
      rw [handlesOf_cutView, disowned]
      split <;> simp

/-- Whatever is asked, a protocol object is tracked unless the request brings it or reports it. -/
theorem careful_handle (linked : c.Linked) (host : Host) (request : Request)
    (brings : c.brought? host request ≠ some h) (reports : request ≠ .resourceDestroyed h) :
    Careful h c (c.handle host request).2 := by
  cases request with
  | createSurface client id =>
    rw [handle, settle_snd]
    refine careful_createSurface linked fun made => brings ?_
    simp [brought?, made, Except.toOption]
  | createRegion client id =>
    rw [handle, settle_snd]
    refine careful_createRegion fun made => brings ?_
    simp [brought?, made, Except.toOption]
  | frame k callback =>
    rw [handle, settle_snd]
    exact careful_requestFrame linked host k callback fun s found made =>
      brings (by simp [brought?, found, made, Except.toOption])
  | createView k role =>
    rw [handle, settle_snd]
    exact careful_createView host k fun same => brings (by simp [brought?, same])
  | resourceDestroyed x => exact careful_resourceDestroyed fun same => reports (same ▸ rfl)
  | _ => exact careful_closed.handle host _ (by simp) (by simp) (by simp) (by simp) (by simp) h

/-! ### Callbacks -/

/-- A new callback is held once. -/
theorem sole_frame (linked : c.Linked) {host : Host} {callback : UInt32}
    (brought : c.brought? host (.frame k callback) = some h) (free : c.Free h) :
    (c.handle host (.frame k callback)).2.Sole (.callback k) h := by
  obtain ⟨s, found, created⟩ := Option.bind_eq_some_iff.1 brought
  have made : host.createResource .callback s.client callback = .ok h := by
    cases reply : host.createResource .callback s.client callback with
    | error => simp [reply, Except.toOption] at created
    | ok x => simpa [reply, Except.toOption] using created
  obtain ⟨d, -, new, held, destroyed, handles⟩ := requestFrame_made linked found made
  have unheld : h ∉ s.callbacks ++ s.pendingCallback.toList := fun member =>
    free (.callback k) ((handlesOf_found found).2 ▸ member)
  rw [List.mem_append, not_or] at unheld
  rw [handle, settle_snd]
  constructor
  case index => rw [destroyed.index, if_neg unheld.2, new.index, if_pos rfl]
  case once =>
    rw [handles, if_pos rfl, List.count_append, List.count_eq_zero_of_not_mem unheld.1]
    simp
  case only =>
    intro o member
    by_contra other
    rw [handles, if_neg other, new.handles, if_neg other] at member
    exact free o member

/-- Nobody waits for a tracked callback after its report. -/
theorem Sole.reported (sole : c.Sole (.callback k) h) : (c.resourceDestroyed h).Free h := by
  intro o member
  simp only [resourceDestroyed, sole.index] at member
  obtain rfl := sole.only o ((sublist_forgetCallback k h o).subset member)
  cases found : c.surfaces.get? k with
  | none => simp [handlesOf, Table.get?_modify, disown, found] at member
  | some s =>
    have once := sole.once
    have held := (sublist_forgetCallback k h _).subset member
    rw [(handlesOf_found found).2] at once held
    obtain ⟨link, before, after, split, rest⟩ := s.forgetCallback_split held
    rw [handlesOf_of_link (c := c.disown h) found link, if_pos rfl, rest] at member
    have still := List.count_pos_iff.2 member
    simp only [split, List.count_append, List.count_singleton_self] at once still
    omega

end Compositing.Compositor
