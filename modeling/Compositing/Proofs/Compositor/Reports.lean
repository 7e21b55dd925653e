import Compositing.Proofs.Compositor.Lifetimes
import Compositing.Proofs.Histories

/-!
# Late reports

The transport answers each destruction with a report, at any later time, and until then a client may
give the handle to another object. Handles have no generation, so a report is about whatever its
handle stands for when it comes. Main statement: `Interleaved.harmless`.
-/

namespace Compositing

variable {h : Handle} {events : List LifeEvent}

/-! ### Protocol objects that ended -/

/-- The protocol object ended, and was not made again. -/
def Ended (h : Handle) (events : List LifeEvent) : Prop :=
  ∃ before e after, events = before ++ e :: after ∧ e.Ends h ∧ ∀ o, .made h o ∉ after

theorem ended_concat_iff {e : LifeEvent} :
    Ended h (events ++ [e]) ↔ e.Ends h ∨ (Ended h events ∧ ∀ o, e ≠ .made h o) := by
  constructor
  · rintro ⟨before, e', after, split, ends, unmade⟩
    rcases concat_eq_append_cons_iff.1 split with ⟨-, rfl, -⟩ | ⟨rest, rfl, rfl⟩
    · exact .inl ends
    · exact .inr ⟨⟨before, e', rest, rfl, ends, fun o member => unmade o (by simp [member])⟩,
        fun o made => unmade o (by simp [made])⟩
  · rintro (ends | ⟨⟨before, e', after, rfl, ends, unmade⟩, other⟩)
    · exact ⟨events, e, [], rfl, ends, by simp⟩
    · exact ⟨before, e', after ++ [e], by simp, ends, fun o => by
        simpa using ⟨unmade o, (other o).symm⟩⟩

/-- Nobody has a protocol object exactly if it ended, or nobody had it and it was not made. -/
theorem Turns.eq_none_iff {o o' : Option Owner} (turns : Turns h o events o') :
    o' = none ↔ Ended h events ∨ (o = none ∧ ∀ x, .made h x ∉ events) := by
  induction events using List.reverseRecOn generalizing o' with
  | nil =>
    cases turns
    simp [Ended]
  | append_singleton events e ih =>
    obtain ⟨o'', first, last⟩ := turns.split
    rw [ended_concat_iff]
    cases last with
    | other made ends rest =>
      cases rest
      simp [ih first, ends, made, (made _).symm]
    | @made _ x _ rest =>
      cases rest
      refine iff_of_false (by simp) ?_
      rintro ((ends | ⟨-, other⟩) | ⟨-, unmade⟩)
      · simp [LifeEvent.Ends] at ends
      · exact other x rfl
      · exact unmade x (by simp)
    | ended ends rest =>
      cases rest
      simp [ends]

/-! ### Reports on their way -/

/-- The reports that the transport owes for what it was told to destroy. -/
def answers (events : List LifeEvent) : List Handle :=
  events.filterMap fun
    | .destroyed h => some h
    | _ => none

theorem mem_answers_iff : h ∈ answers events ↔ .destroyed h ∈ events := by
  constructor
  · intro member
    obtain ⟨e, there, answered⟩ := List.mem_filterMap.1 member
    cases e with
    | destroyed x => exact Option.some.inj answered ▸ there
    | made | reported => simp at answered
  · exact fun member => List.mem_filterMap.2 ⟨_, member, rfl⟩

/-- No protocol object is made while a report about its handle is on its way. -/
def Unused (late : List Handle) : List LifeEvent → Prop
  | [] => True
  | .made h _ :: events => h ∉ late ∧ Unused late events
  | .destroyed h :: events => Unused (h :: late) events
  | .reported _ :: events => Unused late events

/-- What is reported late has ended. -/
theorem Unused.ended {late : List Handle} {history : List LifeEvent} (unused : Unused late events)
    (ended : ∀ h ∈ late, Ended h history) :
    ∀ h ∈ late ++ answers events, Ended h (history ++ events) := by
  induction events generalizing late history with
  | nil => simpa [answers] using ended
  | cons e events ih =>
    intro h member
    rw [List.append_cons]
    cases e with
    | made x o =>
      obtain ⟨fresh, unused⟩ := unused
      refine ih unused (fun y sent => ended_concat_iff.2 (.inr ⟨ended y sent, ?_⟩)) h member
      rintro o' ⟨⟩
      exact fresh sent
    | destroyed x =>
      refine ih unused (fun y sent => ended_concat_iff.2 ?_) h
        (by simpa [answers, or_left_comm] using member)
      rcases List.mem_cons.1 sent with rfl | sent
      · exact .inl (.inl rfl)
      · exact .inr ⟨ended y sent, by simp⟩
    | reported x =>
      exact ih unused (fun y sent => ended_concat_iff.2 (.inr ⟨ended y sent, by simp⟩)) h member

namespace Compositor

variable {c : Compositor}

/-! ### What one report does -/

/-- Whoever held the protocol object, nobody does after the report. -/
theorem free_resourceDestroyed (indexed : c.Indexed) (h : Handle) :
    (c.resourceDestroyed h).Free h := by
  cases found : c.resources.get? h with
  | none =>
    have ignored : c.resourceDestroyed h = c := by simp [resourceDestroyed, found]
    rw [ignored]
    exact (indexed.free_iff h).2 found
  | some o =>
    obtain ⟨told, -, lives⟩ := lives_resourceDestroyed indexed found
    refine (lives.indexed.free_iff h).2 ((lives.turns h).eq_none_iff.2 (.inl ?_))
    refine ⟨[], .reported h, lifeEvents none told, rfl, .inr rfl, fun o member => ?_⟩
    obtain ⟨e, -, life⟩ := List.mem_filterMap.1 member
    cases e <;> simp at life

/-- A report does nothing exactly if nobody holds the protocol object. -/
theorem report_ignored_iff (indexed : c.Indexed) (host : Host) (h : Handle) :
    c.handle host (.resourceDestroyed h) = (.done, c) ↔ c.Free h := by
  constructor
  · intro ignored
    have same : c.resourceDestroyed h = c := congrArg Prod.snd ignored
    exact same ▸ free_resourceDestroyed indexed h
  · intro free
    simp [handle, resourceDestroyed, (indexed.free_iff h).1 free]

/-! ### Runs -/

/-- The states that requests and reports lead to in any order, with what happened to protocol objects
and the reports that are on their way. Reports about what clients destroyed are requests like others.
A client may use a handle again as soon as nobody holds it, unless the transport is patient: then the
reports about it come first. -/
inductive Interleaved (patient : Prop) : Compositor → List LifeEvent → List Handle → Prop
  | start (config : Config) (contexts : Contexts) : Interleaved patient { config, contexts } [] []
  | handle {c : Compositor} {history : List LifeEvent} {late : List Handle}
      (before : Interleaved patient c history late) (host : Host) (request : Request)
      (trusted : c.Trusted host request) (unused : patient → Unused late (c.lifeOf host request)) :
      Interleaved patient (c.handle host request).2 (history ++ c.lifeOf host request)
        (late ++ answers (c.lifeOf host request))
  | report {c : Compositor} {history : List LifeEvent} {late : List Handle}
      (before : Interleaved patient c history late) (host : Host) {h : Handle} (sent : h ∈ late) :
      Interleaved patient (c.handle host (.resourceDestroyed h)).2
        (history ++ c.lifeOf host (.resourceDestroyed h))
        (late.erase h ++ answers (c.lifeOf host (.resourceDestroyed h)))
  | collect {c : Compositor} {history : List LifeEvent} {late : List Handle}
      (before : Interleaved patient c history late) : Interleaved patient c.collect.2 history late

variable {patient : Prop} {history : List LifeEvent} {late : List Handle}

theorem Interleaved.lived (run : Interleaved patient c history late) : Lived c history := by
  induction run with
  | start config contexts => exact .start config contexts
  | handle _ host request trusted _ ih => exact ih.handle host request trusted
  | report _ host _ ih => exact ih.handle host _ (by rintro x ⟨⟩)
  | collect _ ih => exact ih.collect

/-- What is reported late, the compositor destroyed. -/
theorem Interleaved.destroyed (run : Interleaved patient c history late) :
    ∀ h ∈ late, .destroyed h ∈ history := by
  induction run with
  | start => simp
  | handle _ _ _ _ _ ih =>
    intro h member
    exact List.mem_append.2 ((List.mem_append.1 member).imp (ih h) mem_answers_iff.1)
  | report _ _ _ ih =>
    intro h member
    exact List.mem_append.2 ((List.mem_append.1 member).imp
      (fun left => ih h (List.mem_of_mem_erase left)) mem_answers_iff.1)
  | collect _ ih => exact ih

/-- A late report finds nobody exactly if its handle was not used again. -/
theorem Interleaved.free_iff (run : Interleaved patient c history late) {h : Handle}
    (sent : h ∈ late) : c.Free h ↔ Ended h history := by
  obtain ⟨indexed, turns⟩ := run.lived.lives
  rw [indexed.free_iff, (turns h).eq_none_iff, or_iff_left_of_imp]
  rintro ⟨-, unmade⟩
  obtain ⟨before, after, rfl⟩ := List.append_of_mem (run.destroyed h sent)
  exact ⟨before, _, after, rfl, .inl rfl, fun o member => unmade o (by simp [member])⟩

theorem lifeOf_ignored {host : Host} {request : Request}
    (ignored : (c.handle host request).2 = c) (silent : c.unlogged host request = []) :
    c.lifeOf host request = [] := by
  simp [lifeOf, ignored, silent, lifeEvents]

theorem Interleaved.ended (run : Interleaved patient c history late) (waits : patient) :
    ∀ h ∈ late, Ended h history := by
  induction run with
  | start => simp
  | handle _ _ _ _ unused ih => exact (unused waits).ended ih
  | @report c _ _ before host h sent ih =>
    have indexed := before.lived.lives.1
    have free := (before.free_iff sent).2 (ih h sent)
    have nothing : c.lifeOf host (.resourceDestroyed h) = [] :=
      lifeOf_ignored (congrArg Prod.snd ((report_ignored_iff indexed host h).2 free))
        (by simp [unlogged, Table.contains, (indexed.free_iff h).1 free])
    intro x member
    simp only [nothing, answers, List.filterMap_nil, List.append_nil] at member ⊢
    exact ih x (List.mem_of_mem_erase member)
  | collect _ ih => exact ih

/-- Whatever else happens before it comes, a late report does nothing exactly if its handle was not
used again, and never does anything if the transport is patient. -/
theorem Interleaved.harmless (run : Interleaved patient c history late) {h : Handle}
    (sent : h ∈ late) :
    (∀ host, c.handle host (.resourceDestroyed h) = (.done, c) ↔ Ended h history) ∧
      (patient → Ended h history) :=
  ⟨fun host => (report_ignored_iff run.lived.lives.1 host h).trans (run.free_iff sent),
    fun waits => run.ended waits h sent⟩

theorem Interleaved.handle_of_absent (run : Interleaved patient c history late) (host : Host)
    (request : Request) (absent : ∀ h ∈ c.brought? host request, c.resources.get? h = none)
    (events : List LifeEvent) (life : c.lifeOf host request = events)
    (unused : patient → Unused late events) :
    Interleaved patient (c.handle host request).2 (history ++ events) (late ++ answers events) := by
  subst life
  exact run.handle host request (run.lived.lives.1.trusted absent) unused

/-- A client destroys a region, then a surface that has a view and a callback, and goes on with a new
surface. -/
def abandoned : Compositor :=
  ({ config := {}, contexts := .standard } : Compositor).run <| List.map (Prod.mk .willing)
    [.createSurface ⟨1⟩ 5, .frame ⟨1⟩ 6, .createView ⟨1⟩ ⟨⟨1⟩, 7⟩, .createRegion ⟨1⟩ 8,
      .destroyRegion ⟨1⟩, .destroySurface ⟨1⟩, .createSurface ⟨1⟩ 9]

theorem abandoned_harmless :
    let late : List Handle := [⟨⟨1⟩, 8⟩, ⟨⟨1⟩, 5⟩, ⟨⟨1⟩, 7⟩, ⟨⟨1⟩, 6⟩]
    (∃ history, Interleaved True abandoned history late) ∧
      ∀ h ∈ late, ∀ host, abandoned.handle host (.resourceDestroyed h) = (.done, abandoned) := by
  intro late
  have start : Interleaved True { config := {}, contexts := .standard } [] [] := .start {} .standard
  have shown := start.handle_of_absent .willing (.createSurface ⟨1⟩ 5) (by rintro x ⟨⟩; rfl)
    [.made ⟨⟨1⟩, 5⟩ (.surface ⟨1⟩)] rfl (by simp [Unused])
  have waiting := shown.handle_of_absent .willing (.frame ⟨1⟩ 6) (by rintro x ⟨⟩; rfl)
    [.made ⟨⟨1⟩, 6⟩ (.callback ⟨1⟩)] rfl (by simp [Unused, answers])
  have viewed := waiting.handle_of_absent .willing (.createView ⟨1⟩ ⟨⟨1⟩, 7⟩)
    (by rintro x ⟨⟩; rfl) [.made ⟨⟨1⟩, 7⟩ (.view ⟨1⟩)] rfl (by simp [Unused, answers])
  have drawn := viewed.handle_of_absent .willing (.createRegion ⟨1⟩ 8) (by rintro x ⟨⟩; rfl)
    [.made ⟨⟨1⟩, 8⟩ (.region ⟨1⟩)] rfl (by simp [Unused, answers])
  have erased := drawn.handle_of_absent .willing (.destroyRegion ⟨1⟩) (by rintro x ⟨⟩)
    [.destroyed ⟨⟨1⟩, 8⟩] rfl (by simp [Unused])
  have gone := erased.handle_of_absent .willing (.destroySurface ⟨1⟩) (by rintro x ⟨⟩)
    [.destroyed ⟨⟨1⟩, 5⟩, .destroyed ⟨⟨1⟩, 7⟩, .destroyed ⟨⟨1⟩, 6⟩] rfl (by simp [Unused])
  have again := gone.handle_of_absent .willing (.createSurface ⟨1⟩ 9) (by rintro x ⟨⟩; rfl)
    [.made ⟨⟨1⟩, 9⟩ (.surface ⟨2⟩)] rfl (by simp [Unused, answers])
  refine ⟨⟨_, again⟩, fun h member host => ?_⟩
  obtain ⟨ignored, ended⟩ := again.harmless member
  exact (ignored host).2 (ended trivial)

/-- A client gives the handle of a surface that it destroyed to another one, before the report. -/
def reused : Compositor :=
  ({ config := {}, contexts := .standard } : Compositor).run <| List.map (Prod.mk .willing)
    [.createSurface ⟨1⟩ 5, .destroySurface ⟨1⟩, .createSurface ⟨1⟩ 5]

/-- The report about the first surface frees the second. -/
theorem reused_surface_freed :
    let h : Handle := ⟨⟨1⟩, 5⟩
    Interleaved False reused [.made h (.surface ⟨1⟩), .destroyed h, .made h (.surface ⟨2⟩)] [h] ∧
      (reused.surfaces.get? ⟨2⟩).isSome ∧
      (reused.handle .willing (.resourceDestroyed h)).2.surfaces.get? ⟨2⟩ = none := by
  intro h
  have start : Interleaved False { config := {}, contexts := .standard } [] [] :=
    .start {} .standard
  have shown := start.handle_of_absent .willing (.createSurface ⟨1⟩ 5) (by rintro x ⟨⟩; rfl)
    [.made h (.surface ⟨1⟩)] rfl (by simp)
  have gone := shown.handle_of_absent .willing (.destroySurface ⟨1⟩) (by rintro x ⟨⟩)
    [.destroyed h] rfl (by simp)
  have again := gone.handle_of_absent .willing (.createSurface ⟨1⟩ 5) (by rintro x ⟨⟩; rfl)
    [.made h (.surface ⟨2⟩)] rfl (by simp)
  exact ⟨again, rfl, rfl⟩

end Compositor

end Compositing
