import Compositing.Proofs.Compositor.Shedding

/-!
# Every protocol object ends once

Whoever begins, the client or the compositor, a protocol object comes to one end: the compositor
destroys it, or the transport reports that it is gone. Until then the index names who holds it. Main
statement: `Lived.ends_once`.
-/

namespace Compositing

/-! ### The turns of one protocol object -/

/-- Whether an event is the end of a protocol object. -/
def LifeEvent.Ends (h : Handle) (e : LifeEvent) : Prop := e = .destroyed h ∨ e = .reported h

instance (h : Handle) : DecidablePred (LifeEvent.Ends h) :=
  fun e => inferInstanceAs (Decidable (e = .destroyed h ∨ e = .reported h))

/-- How often a protocol object ended. -/
def ends (h : Handle) (events : List LifeEvent) : Nat := events.countP (LifeEvent.Ends h)

/-- A protocol object is made while nobody has it, and ends while somebody does. -/
inductive Turns (h : Handle) : Option Owner → List LifeEvent → Option Owner → Prop
  | done (o : Option Owner) : Turns h o [] o
  | other {e : LifeEvent} {events : List LifeEvent} {o o' : Option Owner}
      (made : ∀ x, e ≠ .made h x) (ends : ¬e.Ends h) (rest : Turns h o events o') :
      Turns h o (e :: events) o'
  | made {events : List LifeEvent} {o : Owner} {o' : Option Owner}
      (rest : Turns h (some o) events o') : Turns h none (.made h o :: events) o'
  | ended {e : LifeEvent} {events : List LifeEvent} {o : Owner} {o' : Option Owner}
      (ends : e.Ends h) (rest : Turns h none events o') : Turns h (some o) (e :: events) o'

namespace Turns

variable {h : Handle} {o o' o'' : Option Owner} {events events' : List LifeEvent}

theorem append (first : Turns h o events o') (second : Turns h o' events' o'') :
    Turns h o (events ++ events') o'' := by
  induction first with
  | done => exact second
  | other made ends _ ih => exact .other made ends (ih second)
  | made _ ih => exact .made (ih second)
  | ended ends _ ih => exact .ended ends (ih second)

theorem split (turns : Turns h o (events ++ events') o'') :
    ∃ o', Turns h o events o' ∧ Turns h o' events' o'' := by
  induction events generalizing o with
  | nil => exact ⟨o, .done o, turns⟩
  | cons e events ih =>
    cases turns with
    | other made ends rest =>
      obtain ⟨o', first, second⟩ := ih rest
      exact ⟨o', .other made ends first, second⟩
    | made rest =>
      obtain ⟨o', first, second⟩ := ih rest
      exact ⟨o', .made first, second⟩
    | ended ends rest =>
      obtain ⟨o', first, second⟩ := ih rest
      exact ⟨o', .ended ends first, second⟩

/-- Nothing ends that nobody has. -/
theorem idle (turns : Turns h none events o') (unmade : ∀ o, .made h o ∉ events) :
    o' = none ∧ ends h events = 0 := by
  induction events with
  | nil => cases turns; exact ⟨rfl, rfl⟩
  | cons e events ih =>
    cases turns with
    | other _ other rest =>
      obtain ⟨last, none⟩ := ih rest fun o member => unmade o (by simp [member])
      refine ⟨last, ?_⟩
      rw [ends, List.countP_cons_of_neg (by simpa using other)]
      exact none
    | @made _ o => exact absurd (by simp) (unmade o)

/-- What was made ends at most once before it is made again, and has ended if its owner lost it. -/
theorem ended_once {o : Owner} (turns : Turns h (some o) events o')
    (unmade : ∀ o, .made h o ∉ events) :
    (o' = some o ∧ ends h events = 0) ∨ (o' = none ∧ ends h events = 1) := by
  induction events with
  | nil => cases turns; exact .inl ⟨rfl, rfl⟩
  | cons e events ih =>
    have unmade' (o : Owner) : .made h o ∉ events := fun member => unmade o (by simp [member])
    cases turns with
    | other _ other rest =>
      rw [ends, List.countP_cons_of_neg (by simpa using other)]
      exact ih rest unmade'
    | ended ending rest =>
      obtain ⟨last, none⟩ := rest.idle unmade'
      refine .inr ⟨last, ?_⟩
      rw [ends, List.countP_cons_of_pos (by simpa using ending)]
      exact congrArg (· + 1) none

/-- Protocol objects that are destroyed one after the other. -/
theorem destroyed {gone : List Handle} (nodup : gone.Nodup) (there : h ∈ gone → o ≠ none) :
    Turns h o (gone.map .destroyed) (if h ∈ gone then none else o) := by
  induction gone generalizing o with
  | nil => exact .done o
  | cons x gone ih =>
    obtain ⟨fresh, distinct⟩ := List.nodup_cons.1 nodup
    by_cases same : h = x
    · subst same
      obtain ⟨owner, rfl⟩ := Option.ne_none_iff_exists'.1 (there (by simp))
      have rest := ih (o := none) distinct fun member => absurd member fresh
      simpa using Turns.ended (o := owner) (.inl rfl) (by simpa using rest)
    · have rest := ih distinct fun member => there (by simp [member])
      have other : ¬(LifeEvent.destroyed x).Ends h := by simp [LifeEvent.Ends, Ne.symm same]
      simpa [same] using Turns.other (e := .destroyed x) (by simp) other rest

end Turns

theorem Surface.forgetCallback_split {h : Handle} (s : Surface) (held : h ∈ s.allCallbacks) :
    (s.forgetCallback h).link = s.link ∧ ∃ before after,
      s.allCallbacks = before ++ [h] ++ after ∧
      (s.forgetCallback h).allCallbacks = before ++ after := by
  unfold forgetCallback
  split
  next pending =>
    exact ⟨rfl, s.callbacks, [], by simp [allCallbacks, pending], by simp [allCallbacks]⟩
  next other =>
    have committed : h ∈ s.callbacks := by
      rw [allCallbacks, List.mem_append, Option.mem_toList] at held
      exact held.resolve_right other
    obtain ⟨before, after, -, split, rest⟩ := List.exists_erase_eq committed
    exact ⟨rfl, before, after ++ s.pendingCallback.toList, by simp [allCallbacks, split],
      by simp [allCallbacks, rest]⟩

namespace Compositor

variable {c c' c'' : Compositor}

/-! ### What a change means for all protocol objects -/

/-- The events are the turns of every protocol object, from its place in the index to the next. -/
structure Lives (c : Compositor) (events : List LifeEvent) (c' : Compositor) : Prop where
  indexed : c'.Indexed
  turns : ∀ h, Turns h (c.resources.get? h) events (c'.resources.get? h)

theorem Lives.trans {events events' : List LifeEvent} (first : Lives c events c')
    (second : Lives c' events' c'') : Lives c (events ++ events') c'' :=
  ⟨second.indexed, fun h => (first.turns h).append (second.turns h)⟩

/-- As far as the log tells what happened. -/
def Logged (c : Compositor) (owner : Option Owner) (c' : Compositor) : Prop :=
  ∃ told, c'.log = c.log ++ told ∧ Lives c (lifeEvents owner told) c'

theorem Logged.trans {owner : Option Owner} (first : Logged c owner c')
    (second : Logged c' owner c'') : Logged c owner c'' := by
  obtain ⟨told, log, lives⟩ := first
  obtain ⟨told', log', lives'⟩ := second
  exact ⟨told ++ told', by simp [log, log'], by simpa using lives.trans lives'⟩

theorem Sheds.logged (sheds : Sheds c c') (indexed : c.Indexed) (owner : Option Owner) :
    Logged c owner c' := by
  obtain ⟨gone, destroyed, lost⟩ := sheds indexed
  obtain ⟨told, log, life⟩ := destroyed.told
  refine ⟨told, log, indexed.lost destroyed.toForgot lost, fun h => ?_⟩
  rw [life, destroyed.index]
  exact .destroyed lost.nodup (lost.there h)

/-! ### New protocol objects -/

/-- An object has one protocol object more. -/
structure Made (c : Compositor) (h : Handle) (o : Owner) (c' : Compositor) : Prop where
  index : ∀ x, c'.resources.get? x = if x = h then some o else c.resources.get? x
  handles : ∀ x, c'.handlesOf x = if x = o then c.handlesOf o ++ [h] else c.handlesOf x
  drawn : c'.Drawn o
  later : ∀ x, c.Drawn x → c'.Drawn x

/-- Nobody holds the protocol object. -/
def Free (c : Compositor) (h : Handle) : Prop := ∀ o, h ∉ c.handlesOf o

theorem Indexed.free_iff (indexed : c.Indexed) (h : Handle) :
    c.Free h ↔ c.resources.get? h = none := by
  simp only [Free, ← indexed.index, Option.eq_none_iff_forall_ne_some]

theorem Made.lives {h : Handle} {o : Owner} (made : Made c h o c') (indexed : c.Indexed)
    (free : c.Free h) : Lives c [.made h o] c' := by
  constructor
  case indexed =>
    constructor
    case index =>
      intro x o'
      rw [made.index, made.handles]
      by_cases here : x = h <;> by_cases same : o' = o <;>
        simp [here, same, indexed.index, eq_comm (a := o)]
      exact free o'
    case nodup =>
      intro o'
      rw [made.handles]
      split
      · exact List.nodup_append.2
          ⟨indexed.nodup o, by simp, fun x held y new => by
            rintro rfl
            exact free o (List.mem_singleton.1 new ▸ held)⟩
      · exact indexed.nodup o'
    case drawn =>
      intro o' x held
      rw [made.handles] at held
      split at held
      next here => exact here ▸ made.drawn
      next => exact made.later o' (indexed.drawn o' x held)
  case turns =>
    intro x
    rw [made.index]
    split
    next here =>
      rw [here, (indexed.free_iff h).1 free]
      exact .made (.done _)
    next other =>
      refine .other ?_ ?_ (.done _)
      · simpa using fun same => absurd same.symm other
      · simp [LifeEvent.Ends]

/-- A new object is in its table, with its protocol object. -/
structure Entered (c : Compositor) (h : Handle) (o : Owner) (c' : Compositor) : Prop where
  index : ∀ x, c'.resources.get? x = if x = h then some o else c.resources.get? x
  handles : ∀ x, c'.handlesOf x = if x = o then [h] else c.handlesOf x
  drawn : c'.Drawn o
  later : ∀ x, c.Drawn x → c'.Drawn x

theorem Entered.made {h : Handle} {o : Owner} (entered : Entered c h o c') (indexed : c.Indexed)
    (fresh : ¬c.Drawn o) : Made c h o c' where
  index := entered.index
  handles x := by rw [entered.handles, indexed.handlesOf_eq_nil fresh, List.nil_append]
  drawn := entered.drawn
  later := entered.later

theorem entered_createSurface (linked : c.Linked) {host : Host} {client : ClientId} {id : UInt32}
    {h : Handle} (made : host.createResource .surface client id = .ok h) :
    Entered c h (.surface c.nextIds.surface) (c.createSurface host client id).2 := by
  simp only [createSurface, createResource, made]
  constructor
  case index => exact fun x => Table.get?_insert _ _ _ _
  case handles =>
    intro x
    refine (handlesOf_replaceSurface (c := c) (k := c.nextIds.surface)
      (s := some (.ofHandle c.nextIds.surface h)) (by exact fun _ => Table.get?_insert ..)
      (by rfl) (by rfl) x).trans ?_
    split
    next => rfl
    next =>
      split
      next here =>
        -- The name is new, so no surface of that name had callbacks.
        cases found : c.surfaces.get? c.nextIds.surface with
        | none => simp [here, handlesOf, found, Surface.ofHandle, Surface.allCallbacks]
        | some s => exact absurd (linked.surface_named _ s found).2 (Nat.lt_irrefl _)
      next => rfl
  case drawn => exact Nat.lt_succ_self _
  case later =>
    intro x drawn
    cases x with
    | surface | callback => exact Nat.lt_succ_of_lt drawn
    | region | view => exact drawn

theorem entered_createRegion {host : Host} {client : ClientId} {id : UInt32} {h : Handle}
    (made : host.createResource .region client id = .ok h) :
    Entered c h (.region c.nextIds.region) (c.createRegion host client id).2 := by
  simp only [createRegion, createResource, made]
  constructor
  case index => exact fun x => Table.get?_insert _ _ _ _
  case handles =>
    exact handlesOf_replaceRegion (g := some { link := .live h })
      (by exact fun _ => Table.get?_insert ..) (by rfl) (by rfl)
  case drawn => exact Nat.lt_succ_self _
  case later =>
    intro x drawn
    cases x with
    | region => exact Nat.lt_succ_of_lt drawn
    | surface | callback | view => exact drawn

/-- A role is taken if there is a surface for it, even if the view is then rejected. -/
theorem createView_cases (host : Host) (k : SurfaceId) (role : Handle) :
    (∃ e, c.createView host k role = (.error e, c)) ∨
    ∃ view d, (c.createView host k role).1 = .ok view ∧
      Entered c role (.view c.nextIds.view) d ∧
      (∃ told, d.log = c.log ++ told ∧ ∀ owner, lifeEvents owner told = []) ∧
      ((c.createView host k role).2 = d ∨
        (c.createView host k role).2 = (d.discardView c.nextIds.view).2) := by
  unfold createView
  cases found : c.surfaces.get? k with
  | none => exact .inl ⟨_, rfl⟩
  | some s =>
    by_cases taken : s.view.isSome
    · exact .inl ⟨.invalidHandle "surface without a role", by simp [taken]⟩
    · let v := c.nextIds.view
      let d := (({ c.modifySurface k fun s => { s with view := some v } with
        views := (c.modifySurface k fun s => { s with view := some v }).views.insert v
          (View.ofRole v k role)
        nextIds := { c.nextIds with view := v.next } } : Compositor).own role (.view v)).tellPolicy
          (.viewCreated v)
      have new : Entered c role (.view v) d := by
        have marked := still_modifySurface (c := c) k
          (f := fun s => { s with view := some v }) fun _ _ => ⟨rfl, rfl⟩
        constructor
        case index => exact fun x => Table.get?_insert _ _ _ _
        case handles =>
          intro x
          exact (handlesOf_replaceView (w := some (.ofRole v k role))
            (by exact fun _ => Table.get?_insert ..) (by rfl) (by rfl) x).trans
            (if_congr Iff.rfl rfl (marked.handles x))
        case drawn => exact Nat.lt_succ_self _
        case later =>
          intro x drawn
          cases x with
          | view => exact Nat.lt_succ_of_lt drawn
          | surface | callback | region => exact drawn
      have told : ∃ told, d.log = c.log ++ told ∧ ∀ owner, lifeEvents owner told = [] :=
        ⟨[.policy (.viewCreated v)], rfl, fun _ => rfl⟩
      simp only [taken, Bool.false_eq_true, if_false]
      split
      · exact .inr ⟨some v, d, rfl, new, told, .inl rfl⟩
      · exact .inr ⟨none, d, rfl, new, told, .inr rfl⟩

/-- The new callback is pending. One that it replaces is destroyed after it is made, and in between,
one may think, the surface has both. -/
theorem requestFrame_made (linked : c.Linked) {host : Host} {k : SurfaceId} {callback : UInt32}
    {s : Surface} {h : Handle} (found : c.surfaces.get? k = some s)
    (made : host.createResource .callback s.client callback = .ok h) :
    ∃ d, d.log = c.log ++ [.transport (.created .callback h)] ∧ Made c h (.callback k) d ∧
      d.handlesOf (.callback k) = s.callbacks ++ s.pendingCallback.toList ++ [h] ∧
      Destroyed d s.pendingCallback.toList (c.requestFrame host k callback).2 ∧
      ∀ o, (c.requestFrame host k callback).2.handlesOf o =
        if o = .callback k then s.callbacks ++ [h] else d.handlesOf o := by
  simp only [requestFrame, found, createResource, made]
  let owned := (c.tellTransport (.created .callback h)).own h (.callback k)
  have unchanged (x : Owner) : owned.handlesOf x = c.handlesOf x := by cases x <;> rfl
  have found' : owned.surfaces.get? k = some s := found
  let both : Surface := { s with callbacks := s.allCallbacks, pendingCallback := some h }
  have handles (x : Owner) : (owned.modifySurface k fun _ => both).handlesOf x =
      if x = .callback k then c.handlesOf (.callback k) ++ [h] else c.handlesOf x := by
    rw [handlesOf_of_link found' rfl, unchanged, (handlesOf_found found).2]
    rfl
  have swapped : Destroyed (owned.modifySurface k fun _ => both) []
      (owned.modifySurface k fun _ => (s.setCallback h).2) := destroyed_nothing rfl rfl rfl
  refine ⟨owned.modifySurface k fun _ => both, rfl,
    ⟨fun x => Table.get?_insert _ _ _ _, handles, (linked.surface_named k s found).2,
      fun _ drawn => drawn⟩, ?_, swapped.trans (destroyed_destroyResource s.pendingCallback),
    fun x => ?_⟩
  · rw [handles, if_pos rfl, (handlesOf_found found).2, Surface.allCallbacks]
  · rw [handlesOf_destroyResource, handlesOf_of_link found' rfl, handles, unchanged]
    split <;> rfl

/-! ### What the log tells of them -/

theorem Made.logged {h : Handle} {o : Owner} {kind : ResourceKind} (made : Made c h o c')
    (log : c'.log = c.log ++ [.transport (.created kind h)]) (indexed : c.Indexed)
    (free : c.Free h) : Logged c (some o) c' :=
  ⟨_, log, made.lives indexed free⟩

theorem logged_createSurface (indexed : c.Indexed) (linked : c.Linked) (host : Host)
    (client : ClientId) (id : UInt32)
    (free : ∀ h, host.createResource .surface client id = .ok h → c.Free h) :
    Logged c (some (.surface c.nextIds.surface)) (c.createSurface host client id).2 := by
  cases made : host.createResource .surface client id with
  | error =>
    simp only [createSurface, createResource, made]
    exact (still_tell fun _ => rfl).sheds.logged indexed _
  | ok h =>
    have new := (entered_createSurface linked made).made indexed (Nat.lt_irrefl _)
    have log : (c.createSurface host client id).2.log =
        c.log ++ [.transport (.created .surface h)] := by
      simp only [createSurface, createResource, made]
      rfl
    exact new.logged log indexed (free h made)

theorem logged_createRegion (indexed : c.Indexed) (host : Host) (client : ClientId) (id : UInt32)
    (free : ∀ h, host.createResource .region client id = .ok h → c.Free h) :
    Logged c (some (.region c.nextIds.region)) (c.createRegion host client id).2 := by
  cases made : host.createResource .region client id with
  | error =>
    simp only [createRegion, createResource, made]
    exact (still_tell fun _ => rfl).sheds.logged indexed _
  | ok h =>
    have new := (entered_createRegion made).made indexed (Nat.lt_irrefl _)
    have log : (c.createRegion host client id).2.log =
        c.log ++ [.transport (.created .region h)] := by
      simp only [createRegion, createResource, made]
      rfl
    exact new.logged log indexed (free h made)

theorem logged_requestFrame (indexed : c.Indexed) (linked : c.Linked) (host : Host) (k : SurfaceId)
    (callback : UInt32)
    (free : ∀ s, c.surfaces.get? k = some s → ∀ h,
      host.createResource .callback s.client callback = .ok h → c.Free h) :
    Logged c (some (.callback k)) (c.requestFrame host k callback).2 := by
  cases found : c.surfaces.get? k with
  | none =>
    simp only [requestFrame, found]
    exact (Still.refl c).sheds.logged indexed _
  | some s =>
    cases made : host.createResource .callback s.client callback with
    | error =>
      simp only [requestFrame, found, createResource, made]
      exact (still_tell fun _ => rfl).sheds.logged indexed _
    | ok h =>
      obtain ⟨d, log, new, held, destroyed, handles⟩ := requestFrame_made linked found made
      have free := free s found h made
      refine (new.logged log indexed free).trans (Sheds.logged (fun indexed' => ?_)
        (new.lives indexed free).indexed _)
      exact ⟨s.pendingCallback.toList, destroyed, indexed'.lost_part held handles⟩

/-! ### Reports of the transport -/

/-- The link that the index names is cut, before anything else goes. -/
theorem lives_reported {h : Handle} {o : Owner} (indexed : c.Indexed)
    (found : c.resources.get? h = some o) (resources : c'.resources = c.resources.erase h)
    (names : c'.names = c.names) (lost : Lost c [h] c') : Lives c [.reported h] c' := by
  have index (x : Handle) : c'.resources.get? x = if x ∈ [h] then none else c.resources.get? x := by
    simp [resources, Table.get?_erase]
  refine ⟨indexed.lost ⟨index, names⟩ lost, fun x => ?_⟩
  rw [index]
  split
  next here =>
    obtain rfl := List.mem_singleton.1 here
    rw [found]
    exact .ended (.inr rfl) (.done none)
  next other =>
    refine .other (by simp) ?_ (.done _)
    simpa [LifeEvent.Ends, eq_comm] using other

theorem handlesOf_disown (h : Handle) (o : Owner) : (c.disown h).handlesOf o = c.handlesOf o := by
  cases o <;> rfl

theorem lost_forgetCallback (indexed : c.Indexed) {h : Handle} {k : SurfaceId}
    (held : h ∈ c.handlesOf (.callback k)) :
    Lost c [h] ((c.disown h).modifySurface k fun s => s.forgetCallback h) := by
  cases found : c.surfaces.get? k with
  | none => simp [handlesOf, found] at held
  | some s =>
    have all := (handlesOf_found found).2
    have found' : (c.disown h).surfaces.get? k = some s := found
    obtain ⟨link, before, after, split, rest⟩ := s.forgetCallback_split (all ▸ held)
    refine indexed.lost_part (all.trans split) fun x => ?_
    rw [handlesOf_of_link found' link, handlesOf_disown, rest]

/-- An object that is no surface with callbacks holds one protocol object by its link. -/
theorem handlesOf_eq_singleton {h : Handle} {o : Owner} (held : h ∈ c.handlesOf o)
    (link : ∀ k, o ≠ .callback k) : c.handlesOf o = [] ++ [h] ++ [] := by
  have single {x : Option Handle} (member : h ∈ x.toList) : x.toList = [h] := by
    rw [Option.mem_toList.1 member, Option.toList_some]
  cases o with
  | surface k =>
    cases found : c.surfaces.get? k with
    | none => simp [handlesOf, found] at held
    | some s =>
      simp only [handlesOf, found] at held ⊢
      exact single held
  | region r =>
    cases found : c.regions.get? r with
    | none => simp [handlesOf, found] at held
    | some g =>
      simp only [handlesOf, found] at held ⊢
      exact single held
  | view v =>
    cases found : c.views.get? v with
    | none => simp [handlesOf, found] at held
    | some w =>
      simp only [handlesOf, found] at held ⊢
      exact single held
  | callback k => exact absurd rfl (link k)

theorem handlesOf_cutView (v : ViewId) (o : Owner) :
    (c.modifyView v fun w => { w with link := .detached }).handlesOf o =
      if o = .view v then [] else c.handlesOf o := by
  cases o with
  | view x =>
    by_cases here : x = v
    · cases found : c.views.get? v <;>
        simp [handlesOf, Table.get?_modify, here, found, View.role, Link.handle?]
    · simp [handlesOf, Table.get?_modify, here]
  | surface | callback | region => rfl

/-- The report is effective, and what else goes is destroyed by the compositor. -/
theorem lives_resourceDestroyed (indexed : c.Indexed) {h : Handle} {o : Owner}
    (found : c.resources.get? h = some o) : ∃ told, (c.resourceDestroyed h).log = c.log ++ told ∧
      Lives c (.reported h :: lifeEvents none told) (c.resourceDestroyed h) := by
  have held := (indexed.index h o).1 found
  -- What follows the cut is as if the compositor had begun.
  have afterwards (d : Compositor) {e : Compositor} (resources : d.resources = c.resources.erase h)
      (names : d.names = c.names) (log : d.log = c.log) (lost : Lost c [h] d) (sheds : Sheds d e) :
      ∃ told, e.log = c.log ++ told ∧ Lives c (.reported h :: lifeEvents none told) e := by
    have cut := lives_reported indexed found resources names lost
    obtain ⟨told, logged, lives⟩ := sheds.logged cut.indexed none
    exact ⟨told, log ▸ logged, cut.trans lives⟩
  simp only [resourceDestroyed, found]
  cases o with
  | surface k =>
    refine afterwards ((c.disown h).modifySurface k fun s => s.detachResource.2) rfl rfl rfl ?_
      (sheds_closed.surfaceResourceGone k)
    refine indexed.lost_part (handlesOf_eq_singleton held (by simp)) fun x => ?_
    cases there : c.surfaces.get? k with
    | none => simp [handlesOf, there] at held
    | some s =>
      have there' : (c.disown h).surfaces.get? k = some s := there
      rw [handlesOf_detachResource there', handlesOf_disown, List.append_nil]
  | region r =>
    refine afterwards { c.disown h with regions := (c.disown h).regions.erase r } rfl rfl rfl ?_
      (Still.refl _).sheds
    refine indexed.lost_part (handlesOf_eq_singleton held (by simp)) fun x => ?_
    exact handlesOf_replaceRegion (g := none) (by exact fun _ => Table.get?_erase ..) (by rfl)
      (by rfl) x
  | callback k =>
    exact afterwards ((c.disown h).modifySurface k fun s => s.forgetCallback h) rfl rfl rfl
      (lost_forgetCallback indexed held) (Still.refl _).sheds
  | view v =>
    refine afterwards ((c.disown h).modifyView v fun w => { w with link := .detached }) rfl rfl rfl
      ?_ (sheds_closed.destroyView v)
    refine indexed.lost_part (handlesOf_eq_singleton held (by simp)) fun x => ?_
    rw [handlesOf_cutView, handlesOf_disown, List.append_nil]

/-! ### Requests -/

/-- The protocol object that a request brings: the transport makes it, or the host passes it. -/
def brought? (c : Compositor) (host : Host) : Request → Option Handle
  | .createSurface client id => (host.createResource .surface client id).toOption
  | .createRegion client id => (host.createResource .region client id).toOption
  | .frame k callback =>
    (c.surfaces.get? k).bind fun s => (host.createResource .callback s.client callback).toOption
  | .createView _ role => some role
  | _ => none

/-- The object that it is for. -/
def ownerOf? (c : Compositor) : Request → Option Owner
  | .createSurface _ _ => some (.surface c.nextIds.surface)
  | .createRegion _ _ => some (.region c.nextIds.region)
  | .frame k _ => some (.callback k)
  | .createView _ _ => some (.view c.nextIds.view)
  | _ => none

/-- What the log does not tell: that a role was taken, and that a report had an effect. -/
def unlogged (c : Compositor) (host : Host) : Request → List LifeEvent
  | .createView k role =>
    match (c.createView host k role).1 with
    | .ok _ => [.made role (.view c.nextIds.view)]
    | .error _ => []
  | .resourceDestroyed h => if c.resources.contains h then [.reported h] else []
  | _ => []

/-- What a request means for protocol objects. -/
def lifeOf (c : Compositor) (host : Host) (request : Request) : List LifeEvent :=
  c.unlogged host request ++
    lifeEvents (c.ownerOf? request) ((c.handle host request).2.log.drop c.log.length)

/-- The transport makes no protocol object that is live, and the host passes none for a role. -/
def Trusted (c : Compositor) (host : Host) (request : Request) : Prop :=
  ∀ h ∈ c.brought? host request, c.Free h

theorem lives_of_log {host : Host} {request : Request} {told : List Event}
    (log : (c.handle host request).2.log = c.log ++ told)
    (lives : Lives c (c.unlogged host request ++ lifeEvents (c.ownerOf? request) told)
      (c.handle host request).2) : Lives c (c.lifeOf host request) (c.handle host request).2 := by
  rwa [lifeOf, log, List.drop_left]

theorem Logged.lives {host : Host} {request : Request} (silent : c.unlogged host request = [])
    (logged : Logged c (c.ownerOf? request) (c.handle host request).2) :
    Lives c (c.lifeOf host request) (c.handle host request).2 := by
  obtain ⟨told, log, lives⟩ := logged
  exact lives_of_log log (by rwa [silent])

theorem lives_createView (indexed : c.Indexed) (host : Host) (k : SurfaceId) {role : Handle}
    (free : c.Free role) :
    Lives c (c.lifeOf host (.createView k role)) (c.handle host (.createView k role)).2 := by
  have settled : (c.handle host (.createView k role)).2 = (c.createView host k role).2 :=
    settle_snd _ _
  rcases createView_cases (c := c) host k role with ⟨e, refused⟩ | ⟨view, d, reply, new, told, rest⟩
  · refine Logged.lives (by simp [unlogged, refused]) ?_
    rw [settled, refused]
    exact (Still.refl c).sheds.logged indexed _
  · obtain ⟨told, log, silent⟩ := told
    have taken := (new.made indexed (Nat.lt_irrefl _)).lives indexed free
    have sheds : Sheds d (c.createView host k role).2 := by
      rcases rest with same | discarded
      · rw [same]
        exact (Still.refl d).sheds
      · rw [discarded]
        exact sheds_closed.discardView c.nextIds.view
    obtain ⟨told', log', lives⟩ := sheds.logged taken.indexed (some (.view c.nextIds.view))
    rw [← settled] at log' lives
    rw [log, List.append_assoc] at log'
    refine lives_of_log log' ?_
    simpa [unlogged, reply, silent, ownerOf?] using taken.trans lives

theorem lives_report (indexed : c.Indexed) (host : Host) (h : Handle) :
    Lives c (c.lifeOf host (.resourceDestroyed h)) (c.handle host (.resourceDestroyed h)).2 := by
  cases found : c.resources.get? h with
  | none =>
    have ignored : (c.handle host (.resourceDestroyed h)).2 = c := by
      simp [handle, resourceDestroyed, found]
    refine Logged.lives (by simp [unlogged, Table.contains, found]) ?_
    rw [ignored]
    exact (Still.refl c).sheds.logged indexed _
  | some o =>
    obtain ⟨told, log, lives⟩ := lives_resourceDestroyed indexed found
    refine lives_of_log log ?_
    simpa [unlogged, Table.contains, found, ownerOf?, handle] using lives

/-- Whatever is asked, every protocol object takes its turns. -/
theorem lives_handle (indexed : c.Indexed) (linked : c.Linked) (host : Host) (request : Request)
    (trusted : c.Trusted host request) :
    Lives c (c.lifeOf host request) (c.handle host request).2 := by
  cases request with
  | createSurface client id =>
    refine Logged.lives rfl ?_
    rw [handle, settle_snd]
    exact logged_createSurface indexed linked host client id fun h made =>
      trusted h (by simp [brought?, made, Except.toOption])
  | createRegion client id =>
    refine Logged.lives rfl ?_
    rw [handle, settle_snd]
    exact logged_createRegion indexed host client id fun h made =>
      trusted h (by simp [brought?, made, Except.toOption])
  | frame k callback =>
    refine Logged.lives rfl ?_
    rw [handle, settle_snd]
    exact logged_requestFrame indexed linked host k callback fun s found h made =>
      trusted h (by simp [brought?, found, made, Except.toOption])
  | createView k role => exact lives_createView indexed host k (trusted role rfl)
  | resourceDestroyed h => exact lives_report indexed host h
  | _ =>
    refine Logged.lives rfl
      (Sheds.logged (sheds_closed.handle host _ ?_ ?_ ?_ ?_ ?_) indexed _) <;> simp

/-! ### Runs -/

/-- The states that requests lead to while the transport and the host can be trusted, with what
happened to protocol objects on the way. The host may collect what it was told at any time. -/
inductive Lived : Compositor → List LifeEvent → Prop
  | start (config : Config) (contexts : Contexts) : Lived { config, contexts } []
  | handle {c : Compositor} {history : List LifeEvent} (before : Lived c history) (host : Host)
      (request : Request) (trusted : c.Trusted host request) :
      Lived (c.handle host request).2 (history ++ c.lifeOf host request)
  | collect {c : Compositor} {history : List LifeEvent} (before : Lived c history) :
      Lived c.collect.2 history

variable {history : List LifeEvent}

theorem Lived.reachable (lived : Lived c history) : c.Reachable := by
  induction lived with
  | start config contexts => exact .start config contexts
  | handle _ host request _ ih => exact ih.handle host request
  | collect _ ih => exact ih.collect

theorem Lived.lives (lived : Lived c history) :
    c.Indexed ∧ ∀ h, Turns h none history (c.resources.get? h) := by
  induction lived with
  | start config contexts => exact ⟨start_indexed config contexts, fun h => .done none⟩
  | handle before host request trusted ih =>
    obtain ⟨indexed, turns⟩ := ih
    have next := lives_handle indexed before.reachable.linked host request trusted
    exact ⟨next.indexed, fun h => (turns h).append (next.turns h)⟩
  | collect _ ih =>
    obtain ⟨indexed, turns⟩ := ih
    exact ⟨⟨indexed.index, indexed.nodup, indexed.drawn⟩, turns⟩

/-- The index has a protocol object exactly if one object holds it by one link, and names that
object. Between its creation and the next one of the same handle, a protocol object ends at most
once, and it has ended once when it is made again or its owner has it no more. -/
theorem Lived.ends_once (lived : Lived c history) :
    (∀ h o, c.resources.get? h = some o ↔
      (c.handlesOf o).count h = 1 ∧ ∀ o', h ∈ c.handlesOf o' → o' = o) ∧
    (∀ h o, h ∈ c.handlesOf o → c.resources.get? h = some o) ∧
    ∀ before h o after rest, history = before ++ .made h o :: (after ++ rest) →
      (∀ o', .made h o' ∉ after) →
      ends h after ≤ 1 ∧
      ((∃ o' later, rest = .made h o' :: later) ∨ (rest = [] ∧ h ∉ c.handlesOf o) →
        ends h after = 1) := by
  obtain ⟨indexed, turns⟩ := lived.lives
  refine ⟨fun h o => ⟨fun found => ?_, fun ⟨once, _⟩ => ?_⟩, fun h o held =>
    (indexed.index h o).2 held, ?_⟩
  · have held := (indexed.index h o).1 found
    exact ⟨List.count_eq_one_of_mem (indexed.nodup o) held, fun o' held' =>
      indexed.unique held held'⟩
  · exact (indexed.index h o).2 (List.count_pos_iff.1 (by omega))
  · intro before h o after rest split unmade
    have turns := turns h
    generalize last : c.resources.get? h = final at turns
    obtain ⟨_, _, here⟩ := (split ▸ turns).split
    cases here with
    | other made => exact absurd rfl (made o)
    | ended ending => exact absurd ending (by simp [LifeEvent.Ends])
    | made here =>
      obtain ⟨o', first, second⟩ := here.split
      rcases first.ended_once unmade with ⟨rfl, none⟩ | ⟨rfl, once⟩
      · refine ⟨by omega, ?_⟩
        rintro (⟨o', later, rfl⟩ | ⟨rfl, lost⟩)
        · -- What is still held is not made again.
          cases second with
          | other made => exact absurd rfl (made o')
          | ended ending => exact absurd ending (by simp [LifeEvent.Ends])
        · cases second
          exact absurd ((indexed.index h o).1 last) lost
      · exact ⟨by omega, fun _ => once⟩

/-- Whether a protocol object is live shows in the index. -/
theorem Indexed.trusted (indexed : c.Indexed) {host : Host} {request : Request}
    (absent : ∀ h ∈ c.brought? host request, c.resources.get? h = none) : c.Trusted host request :=
  fun h member => (indexed.free_iff h).2 (absent h member)

theorem Lived.handle_of_absent (lived : Lived c history) (host : Host) (request : Request)
    (absent : ∀ h ∈ c.brought? host request, c.resources.get? h = none) :
    Lived (c.handle host request).2 (history ++ c.lifeOf host request) :=
  lived.handle host request (lived.lives.1.trusted absent)

/-- A client destroys a surface that has a view and a callback, and gives its name to another. -/
def renamed : Compositor :=
  ({ config := {}, contexts := .standard } : Compositor).run <| List.map (Prod.mk .willing)
    [.createSurface ⟨1⟩ 1, .frame ⟨1⟩ 2, .createView ⟨1⟩ ⟨⟨1⟩, 3⟩, .resourceDestroyed ⟨⟨1⟩, 1⟩,
      .createSurface ⟨1⟩ 1]

theorem renamed_ends_once :
    let h : Handle := ⟨⟨1⟩, 1⟩
    let after : List LifeEvent :=
      [.made ⟨⟨1⟩, 2⟩ (.callback ⟨1⟩), .made ⟨⟨1⟩, 3⟩ (.view ⟨1⟩), .reported h,
        .destroyed ⟨⟨1⟩, 3⟩, .destroyed ⟨⟨1⟩, 2⟩]
    Lived renamed (.made h (.surface ⟨1⟩) :: (after ++ [.made h (.surface ⟨2⟩)])) ∧
      ends h after = 1 ∧ (renamed.handlesOf (.surface ⟨2⟩)).count h = 1 := by
  intro h after
  have shown := (Lived.start {} .standard).handle_of_absent .willing (.createSurface ⟨1⟩ 1)
    (by rintro x ⟨⟩; rfl)
  have waiting := shown.handle_of_absent .willing (.frame ⟨1⟩ 2) (by rintro x ⟨⟩; rfl)
  have viewed := waiting.handle_of_absent .willing (.createView ⟨1⟩ ⟨⟨1⟩, 3⟩) (by rintro x ⟨⟩; rfl)
  have gone := viewed.handle_of_absent .willing (.resourceDestroyed h) (by rintro x ⟨⟩)
  have lived : Lived renamed (.made h (.surface ⟨1⟩) :: (after ++ [.made h (.surface ⟨2⟩)])) :=
    gone.handle_of_absent .willing (.createSurface ⟨1⟩ 1) (by rintro x ⟨⟩; rfl)
  obtain ⟨index, -, once⟩ := lived.ends_once
  have unmade : ∀ o, .made h o ∉ after := by simp [after, h]
  have made : renamed.resources.get? h = some (.surface ⟨2⟩) := rfl
  exact ⟨lived, (once [] h _ after _ rfl unmade).2 (.inl ⟨_, _, rfl⟩), ((index h _).1 made).1⟩

end Compositor

end Compositing
