import Compositing.Proofs.Compositor.Requests

/-!
# Requests about what is not there

A request may name an object that is gone or never was. `Reachable.handle_stranger` says what comes of
it: mostly nothing at all, but three requests take a name that means nothing for none, which they then
obey.
-/

namespace Compositing

/-- The name of an object of some kind. -/
inductive Name where
  | surface (id : SurfaceId)
  | region (id : RegionId)
  | view (id : ViewId)
  | output (id : OutputId)
  deriving DecidableEq

/-- The view that another one is moved beside. -/
def Output.Restack.other? : Output.Restack → Option ViewId
  | front | back => none
  | below other | above other => some other

namespace Request

/-- The names that have to stand for objects. -/
def needs : Request → List Name
  | attach k _ _ | damage k _ | setOpaque k _ | setInput k _ | frame k _ | commit k
  | scheduleSurface k | acquire k | release k | destroySurface k | createView k _ => [.surface k]
  | addToRegion r _ | subtractFromRegion r _ | destroyRegion r => [.region r]
  | destroyView v | setViewGeometry v _ | requestGeometry v _ | setViewState v _ _
  | requestState v _ _ | setViewType v _ _ | setViewMask v _ | setTitle v _ | setClass v _
  | setAppId v _ => [.view v]
  | setViewOutput v target => .view v :: (target.map .output).toList
  | setViewParent v parent => .view v :: (parent.map .view).toList
  | restack v move => .view v :: (move.other?.map .view).toList
  | removeOutput o | setResolution o _ | setSleep o _ | setOutputMask o _ | scheduleOutput o =>
    [.output o]
  | _ => []

/-- A name that counts as none if it stands for nothing. -/
def option? : Request → Option Name
  | setOpaque _ region | setInput _ region => region.map .region
  | focus view => view.map .view
  | _ => none

/-- The same request with none in place of that name. -/
def withoutOption : Request → Request
  | setOpaque k _ => setOpaque k none
  | setInput k _ => setInput k none
  | focus _ => focus none
  | request => request

/-- The answer if an object that has to exist does not. -/
def refusal : Request → Reply
  | acquire _ | setViewOutput _ _ | setViewParent _ _ | restack _ _ => .flag false
  | commit _ => .committed none
  | frame _ _ | createView _ _ => .failed (.invalidHandle "surface")
  | setTitle _ _ | setClass _ _ | setAppId _ _ => .failed (.invalidHandle "view")
  | _ => .done

end Request

namespace Table

variable {κ α : Type} [DecidableEq κ] {t : Table κ α} {k : κ}

theorem get?_of_not_contains (absent : t.contains k = false) : t.get? k = none := by
  simpa [contains] using absent

theorem modify_of_absent (absent : t.contains k = false) (f : α → α) : t.modify k f = t := by
  refine map_self fun x v found => ?_
  split
  next here => simp [here, get?_of_not_contains absent] at found
  next => rfl

end Table

namespace Compositor

variable {c : Compositor}

/-- The name stands for an object. -/
def knows (c : Compositor) : Name → Bool
  | .surface k => c.surfaces.contains k
  | .region r => c.regions.contains r
  | .view v => c.views.contains v
  | .output o => c.outputs.contains o

theorem modifySurface_of_absent {k : SurfaceId} (absent : c.surfaces.contains k = false)
    (f : Surface → Surface) : c.modifySurface k f = c := by
  rw [modifySurface, Table.modify_of_absent absent]

theorem modifyView_of_absent {v : ViewId} (absent : c.views.contains v = false) (f : View → View) :
    c.modifyView v f = c := by
  rw [modifyView, Table.modify_of_absent absent]

theorem modifyRegion_of_absent {r : RegionId} (absent : c.regions.contains r = false)
    (f : Region → Region) : c.modifyRegion r f = c := by
  rw [modifyRegion, Table.modify_of_absent absent]

theorem modifyOutput_of_absent {o : OutputId} (absent : c.outputs.contains o = false)
    (f : Output → Output) : c.modifyOutput o f = c := by
  rw [modifyOutput, Table.modify_of_absent absent]

/-- A move beside a view that does not exist is none, as outputs list only views that do. -/
theorem restackView_of_absent (linked : c.Linked) {v other : ViewId} {move : Output.Restack}
    (beside : move.other? = some other) (absent : c.views.contains other = false) :
    c.restackView v move = (false, c) := by
  unfold restackView
  split
  · rfl
  next p there =>
    obtain ⟨o, -, found⟩ := Option.bind_eq_some_iff.1 there
    -- The output is asked for the place of the other view, not the table of views.
    have unlisted : other ∉ p.paintOrder := fun listed => by
      obtain ⟨w, viewed, -⟩ := (linked.mem_creation o p found other).1
        ((linked.paint_perm o p found).mem_iff.1 listed)
      rw [Table.get?_of_not_contains absent] at viewed
      cases viewed
    have refused : p.restack? v move = none := by
      cases move <;> cases beside <;> simp [Output.restack?, unlisted]
    rw [refused]

/-- Where an object has to exist and does not, nothing happens. -/
theorem handle_of_needs (linked : c.Linked) (host : Host) {request : Request} {name : Name}
    (needed : name ∈ request.needs) (absent : c.knows name = false) :
    c.handle host request = (request.refusal, c) := by
  -- A request changes the entry under the name, which is no change where there is none, or it looks the
  -- object up first and stops. With two names it stops at whichever is missing.
  cases request
  case attach k _ _ | damage k _ | setOpaque k _ | setInput k _ =>
    obtain rfl := List.mem_singleton.1 needed
    exact Prod.ext rfl (modifySurface_of_absent absent _)
  case acquire k =>
    obtain rfl := List.mem_singleton.1 needed
    exact Prod.ext (congrArg Reply.flag absent) (modifySurface_of_absent absent _)
  case frame k _ | commit k | scheduleSurface k | release k | destroySurface k | createView k _ =>
    obtain rfl := List.mem_singleton.1 needed
    have gone := Table.get?_of_not_contains absent
    simp [handle, settle, requestFrame, commitSurface, Compositor.scheduleSurface, outputOfSurface?,
      releaseSurface, Compositor.destroySurface, Compositor.createView, gone, Request.refusal]
  case addToRegion r _ | subtractFromRegion r _ | destroyRegion r =>
    obtain rfl := List.mem_singleton.1 needed
    have unknown : c.regions.contains r = false := absent
    have gone := Table.get?_of_not_contains unknown
    simp [handle, modifyRegion_of_absent unknown, Compositor.destroyRegion, gone, Request.refusal]
  case destroyView v =>
    obtain rfl := List.mem_singleton.1 needed
    exact Prod.ext rfl (destroyView_of_absent (Table.get?_of_not_contains absent))
  case setViewType v _ _ =>
    obtain rfl := List.mem_singleton.1 needed
    exact Prod.ext rfl (modifyView_of_absent absent _)
  case setViewGeometry v _ | requestGeometry v _ | setViewState v _ _ | requestState v _ _
    | setViewMask v _ | setTitle v _ | setClass v _ | setAppId v _ =>
    obtain rfl := List.mem_singleton.1 needed
    have unknown : c.views.contains v = false := absent
    have gone := Table.get?_of_not_contains unknown
    simp [handle, settle, Compositor.setViewGeometry, Compositor.requestGeometry,
      Compositor.setViewState, Compositor.requestState, Compositor.setViewMask, setViewTitle,
      setViewClass, setViewAppId, setViewText, unknown, gone, Request.refusal]
  case setViewOutput v target =>
    rcases List.mem_cons.1 needed with rfl | joined
    · have gone : c.views.get? v = none := Table.get?_of_not_contains absent
      simp [handle, Compositor.setViewOutput, gone, Request.refusal]
    · obtain ⟨o, rfl, rfl⟩ := Option.map_eq_some_iff.1 (Option.mem_toList.1 joined)
      have unknown : c.outputs.contains o = false := absent
      simp [handle, Compositor.setViewOutput, unknown, Request.refusal]
  case setViewParent v parent =>
    rcases List.mem_cons.1 needed with rfl | named
    · have unknown : c.views.contains v = false := absent
      simp [handle, Compositor.setViewParent, unknown, Request.refusal]
    · obtain ⟨p, rfl, rfl⟩ := Option.map_eq_some_iff.1 (Option.mem_toList.1 named)
      have unknown : c.views.contains p = false := absent
      simp [handle, Compositor.setViewParent, unknown, Request.refusal]
  case restack v move =>
    rcases List.mem_cons.1 needed with rfl | named
    · have gone : c.views.get? v = none := Table.get?_of_not_contains absent
      simp [handle, restackView, outputOf?, gone, Request.refusal]
    · obtain ⟨other, beside, rfl⟩ := Option.map_eq_some_iff.1 (Option.mem_toList.1 named)
      simp [handle, restackView_of_absent linked beside absent, Request.refusal]
  case removeOutput o | setResolution o _ =>
    obtain rfl := List.mem_singleton.1 needed
    have gone : c.outputs.get? o = none := Table.get?_of_not_contains absent
    simp [handle, Compositor.removeOutput, discardOutput, setOutputResolution, gone, Request.refusal]
  case setSleep o _ | setOutputMask o _ | scheduleOutput o =>
    obtain rfl := List.mem_singleton.1 needed
    exact Prod.ext rfl (modifyOutput_of_absent absent _)
  all_goals cases needed

/-- A name that may be none counts as none where no object has it. -/
theorem handle_of_option (host : Host) {request : Request} {name : Name}
    (optional : request.option? = some name) (absent : c.knows name = false) :
    c.handle host request = c.handle host request.withoutOption := by
  cases request
  case setOpaque k region | setInput k region =>
    obtain ⟨r, rfl, rfl⟩ := Option.map_eq_some_iff.1 optional
    have gone : c.region? r = none := by
      rw [region?, Table.get?_of_not_contains absent, Option.map_none]
    simp [handle, Request.withoutOption, gone]
  case focus view =>
    obtain ⟨v, rfl, rfl⟩ := Option.map_eq_some_iff.1 optional
    have filtered : (some v).filter c.views.contains = none :=
      Option.filter_eq_none_iff.2 fun _ same => by
        cases same
        exact Bool.eq_false_iff.1 absent
    have same : c.focusView (some v) = c.focusView none := by
      rw [focusView, filtered, focusView, Option.filter_none]
    exact Prod.ext rfl same
  all_goals cases optional

/-- A request about what is not there is refused and changes nothing, nor does anybody hear of it. Only
a region to be copied and a view to be focused count as none instead, and the request is obeyed. Reading
finds nothing. -/
theorem Reachable.handle_stranger (reached : c.Reachable) (host : Host) {request : Request}
    {name : Name} (absent : c.knows name = false) :
    (name ∈ request.needs → c.handle host request = (request.refusal, c)) ∧
    (request.option? = some name → c.handle host request = c.handle host request.withoutOption) ∧
    (∀ r, name = .region r → c.region? r = none) ∧
    (∀ v, name = .view v → c.parentOf? v = none ∧ c.outputOf? v = none) ∧
    ∀ o, name = .output o → ∀ offset x y, c.topmost? o offset = none ∧ c.viewAt? o x y = none := by
  refine ⟨fun needed => handle_of_needs reached.linked host needed absent,
    fun optional => handle_of_option host optional absent, ?_, ?_, ?_⟩
  · rintro r rfl
    rw [region?, Table.get?_of_not_contains absent, Option.map_none]
  · rintro v rfl
    have gone : c.views.get? v = none := Table.get?_of_not_contains absent
    exact ⟨by simp [parentOf?, gone], by simp [outputOf?, gone]⟩
  · rintro o rfl offset x y
    have gone : c.outputs.get? o = none := Table.get?_of_not_contains absent
    exact ⟨by simp [topmost?, gone], by simp [viewAt?, gone]⟩

/-- A focused view on a surface that asked for an opaque and for an input region. -/
def settledIn : Compositor :=
  ({ config := {}, contexts := .standard } : Compositor).run
    ([.createSurface ⟨1⟩ 1, .createRegion ⟨1⟩ 2, .addToRegion ⟨1⟩ ⟨0, 0, 1, 1⟩,
      .setOpaque ⟨1⟩ (some ⟨1⟩), .setInput ⟨1⟩ (some ⟨1⟩), .createView ⟨1⟩ ⟨⟨1⟩, 3⟩,
      .focus (some ⟨1⟩)].map (Prod.mk .willing))

theorem settledIn_stranger : settledIn.Reachable ∧
    settledIn.handle .willing (.setViewParent ⟨1⟩ (some ⟨9⟩)) = (.flag false, settledIn) ∧
    settledIn.handle .willing (.setTitle ⟨9⟩ "none") =
      (.failed (.invalidHandle "view"), settledIn) ∧
    settledIn.handle .willing (.focus (some ⟨9⟩)) = settledIn.handle .willing (.focus none) := by
  have reached : settledIn.Reachable := (Reachable.start _ _).run _
  have stranger (request : Request) :=
    @Reachable.handle_stranger settledIn reached .willing request (.view ⟨9⟩) rfl
  exact ⟨reached, (stranger _).1 (by decide), (stranger _).1 (by decide), (stranger _).2.1 rfl⟩

/-- The focus is lost, and the policy hears of it, for the sake of a view that does not exist. A region
that does not exist empties the opaque region of a surface, and opens its input region. -/
theorem settledIn_obeys : settledIn.Reachable ∧
    settledIn.knows (.view ⟨9⟩) = false ∧ settledIn.knows (.region ⟨9⟩) = false ∧
    settledIn.focused = some ⟨1⟩ ∧
    (settledIn.handle .willing (.focus (some ⟨9⟩))).2.focused = none ∧
    (settledIn.handle .willing (.focus (some ⟨9⟩))).2.log =
      settledIn.log ++ [.policy (.focusChanged ⟨1⟩ false)] ∧
    (settledIn.surfaces.get? ⟨1⟩).map (·.pending.opaqueRegion.rects) = some [⟨0, 0, 1, 1⟩] ∧
    ((settledIn.handle .willing (.setOpaque ⟨1⟩ (some ⟨9⟩))).2.surfaces.get? ⟨1⟩).map
      (·.pending.opaqueRegion.rects) = some [] ∧
    (settledIn.surfaces.get? ⟨1⟩).map (·.pending.inputRegion.rects) = some [⟨0, 0, 1, 1⟩] ∧
    ((settledIn.handle .willing (.setInput ⟨1⟩ (some ⟨9⟩))).2.surfaces.get? ⟨1⟩).map
      (·.pending.inputRegion.rects) = some Region.plane.rects :=
  ⟨(Reachable.start _ _).run _, rfl, rfl, rfl, rfl, rfl, by decide +kernel, rfl, by decide +kernel,
    rfl⟩

end Compositor

end Compositing
