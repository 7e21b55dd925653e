import Compositing.Compositor.Words
import Compositing.Proofs.Compositor.Rounds
import Compositing.Proofs.Compositor.Sides

/-!
# Counts that stay words

A request in machine words gives what it gives without them, exactly if all it counts can be counted.
`CanCount` says when that is: what a request counts, each thing as often as the request counts it, stays
below the words' end. For a render pass that is all the surfaces it draws, and all the buffers they show.
Main statements: `Reachable.handle?_eq_some_iff`, `Reachable.run?_eq_some_iff` for runs, and
`ReachableBy.renders`, all that a request to render changes.
-/

namespace Compositing

/-! ### One count -/

/-- What follows a checked step that succeeds exactly under a condition. -/
theorem bind_checked {α β : Type} {checked : Option α} {possible : Prop} {plain : α}
    (step : ∀ a, checked = some a ↔ possible ∧ plain = a) (next : α → Option β) {b : β} :
    checked.bind next = some b ↔ possible ∧ next plain = some b := by
  simp only [Option.bind_eq_some_iff, step, and_assoc, exists_and_left, exists_eq_left']

theorem map_checked {α β : Type} {checked : Option α} {possible : Prop} {plain : α}
    (step : ∀ a, checked = some a ↔ possible ∧ plain = a) (f : α → β) {b : β} :
    checked.map f = some b ↔ possible ∧ f plain = b := by
  rw [Option.map_eq_bind, bind_checked step, Function.comp_apply, Option.some_inj]

theorem countWord?_eq_some_iff {n m : Nat} :
    countWord? n = some m ↔ n < UInt32.size ∧ n = m := by
  simp [countWord?]

theorem Surface.acquire?_eq_some_iff {s s' : Surface} :
    s.acquire? = some s' ↔ s.refCount + 1 < UInt32.size ∧ s.acquire = s' :=
  map_checked (fun _ => countWord?_eq_some_iff) _

/-- Each of the counts can grow by one for every time it is listed. -/
def CanGrow {α : Type} [DecidableEq α] (counts : α → Option Nat) (listed : List α) : Prop :=
  ∀ x ∈ listed, ∀ n ∈ counts x, n + listed.count x < UInt32.size

instance {α : Type} [DecidableEq α] (counts : α → Option Nat) (listed : List α) :
    Decidable (CanGrow counts listed) :=
  inferInstanceAs (Decidable (∀ x ∈ listed, ∀ n ∈ counts x, n + listed.count x < UInt32.size))

theorem canGrow_concat_iff {α : Type} [DecidableEq α] {counts : α → Option Nat} {listed : List α}
    {y : α} : CanGrow counts (listed ++ [y]) ↔
      CanGrow counts listed ∧ ∀ n ∈ counts y, n + listed.count y + 1 < UInt32.size := by
  constructor
  · intro grows
    constructor
    · intro x member n count
      have more := grows x (List.mem_append_left _ member) n count
      rw [List.count_append] at more
      omega
    · intro n count
      have more := grows y (by simp) n count
      rwa [List.count_append, List.count_singleton_self, ← Nat.add_assoc] at more
  · rintro ⟨before, last⟩ x member n count
    rw [List.count_append, List.count_singleton]
    by_cases here : y = x
    · subst here
      have more := last n count
      simp only [beq_self_eq_true, if_true]
      omega
    · have there : x ∈ listed := by simpa [Ne.symm here] using member
      have more := before x there n count
      simp [here, more]

/-! ### Requests to the pool -/

namespace BufferPool

variable {pool : BufferPool} {b : BufferId}

/-- A mark that is asked for can be counted. -/
def CanCount (pool : BufferPool) : PoolRequest → Prop
  | .markBusy b => pool.busyCount b + 1 < UInt32.size
  | _ => True

theorem markBusy?_eq_some_iff {marked : Except BufferError (Nat × BufferPool)} :
    pool.markBusy? b = some marked ↔
      pool.busyCount b + 1 < UInt32.size ∧ pool.markBusy b = marked := by
  unfold markBusy? markBusy
  cases there : pool.get? b with
  | none => simp [lookup_of_absent there, busyCount, there, UInt32.size, bind, Except.bind]
  | some record =>
    simp [lookup_of_found there, busyCount_eq there, countWord?_eq_some_iff, and_assoc, bind,
      Except.bind, pure, Except.pure]

theorem handle?_eq_some_iff {r : PoolRequest} {turn : PoolReply × BufferPool} :
    pool.handle? r = some turn ↔ pool.CanCount r ∧ pool.handle r = turn := by
  cases r with
  | markBusy b =>
    exact map_checked (fun _ => markBusy?_eq_some_iff) _
  | _ => simp [handle?, CanCount]

end BufferPool

namespace Compositor

variable {c c' : Compositor} {time : UInt32}

/-! ### What a pass takes -/

theorem modifySurface_congr {k : SurfaceId} {f g : Surface → Surface}
    (same : ∀ s, c.surfaces.get? k = some s → f s = g s) :
    c.modifySurface k f = c.modifySurface k g := by
  have surfaces : c.surfaces.modify k f = c.surfaces.modify k g := Table.map_congr fun x s found => by
    split
    next here => exact same s (here ▸ found)
    next => rfl
  rw [modifySurface, surfaces, modifySurface]

/-- A pass can take the surface, and read what it shows. -/
def Spare (c : Compositor) (k : SurfaceId) : Prop :=
  ∀ s, c.surfaces.get? k = some s → s.refCount + 1 < UInt32.size ∧
    ∀ b, s.buffer = some b → c.buffers.busyCount b + 1 < UInt32.size

theorem beginItem?_eq_some_iff {item : PaintItem} {begun : Option BufferId × Compositor} :
    c.beginItem? item = some begun ↔ c.Spare item.surface ∧ c.beginItem item = begun := by
  unfold beginItem? beginItem Spare
  cases found : c.surfaces.get? item.surface with
  | none => simp
  | some s =>
    have acquired : (c.modifySurface item.surface fun _ => s.acquire) =
        c.modifySurface item.surface Surface.acquire :=
      modifySurface_congr fun t there => by rw [Option.some.inj (found.symm.trans there)]
    have pool (f : Surface → Surface) : (c.modifySurface item.surface f).buffers = c.buffers := rfl
    simp only [Option.some.injEq, forall_eq', and_assoc, Option.bind_eq_bind]
    refine (bind_checked (fun _ => Surface.acquire?_eq_some_iff) _).trans (and_congr_right fun _ => ?_)
    rw [acquired]
    cases shows : s.buffer with
    | none => simp
    | some b =>
      simp only [Option.some.injEq, forall_eq', pool]
      refine (bind_checked (fun _ => BufferPool.markBusy?_eq_some_iff) _).trans
        (and_congr_right fun _ => ?_)
      cases c.buffers.markBusy b <;> simp

/-- All that a pass on these surfaces counts can be counted. -/
structure HasRoom (c : Compositor) (surfaces : List SurfaceId) : Prop where
  references : CanGrow c.refs surfaces
  marks : CanGrow (some ∘ c.buffers.busyCount) (c.buffersRead surfaces)

instance (c : Compositor) (surfaces : List SurfaceId) : Decidable (c.HasRoom surfaces) :=
  decidable_of_iff (_ ∧ _) ⟨fun ⟨references, marks⟩ => ⟨references, marks⟩,
    fun ⟨references, marks⟩ => ⟨references, marks⟩⟩

theorem busyCount_reading {pool : BufferPool} {b : BufferId} {record : Buffer}
    (there : pool.get? b = some record) (reads : List BufferId) :
    (pool.reading reads).busyCount b = pool.busyCount b + reads.count b := by
  rw [BufferPool.busyCount_eq (BufferPool.get?_reading there reads), BufferPool.busyCount_eq there]
  rfl

theorem spare_holding_iff {held : List SurfaceId} {reads : List BufferId} {k : SurfaceId} :
    (c.holding held reads).Spare k ↔
      (∀ n, c.refs k = some n → n + held.count k + 1 < UInt32.size) ∧
      ∀ b, c.bufferRead? k = some b → c.buffers.busyCount b + reads.count b + 1 < UInt32.size := by
  unfold Spare refs bufferRead?
  cases found : c.surfaces.get? k with
  | none => simp [get?_holding_of_absent found]
  | some s =>
    have shows : (s.withHolders (held.count k)).buffer = s.buffer := rfl
    have pool : (c.holding held reads).buffers = c.buffers.reading reads := rfl
    have count : (s.withHolders (held.count k)).refCount = s.refCount + held.count k := rfl
    simp only [get?_holding found, Option.some.injEq, forall_eq', shows, pool, count, Option.map_some,
      Option.bind_some]
    refine and_congr_right fun _ => ?_
    cases s.buffer with
    | none => simp
    | some b =>
      cases there : c.buffers.get? b with
      | none =>
        -- A buffer that is not registered is not marked.
        have unknown : c.buffers.contains b = false := by
          simp [BufferPool.contains, Table.contains, show c.buffers.buffers.get? b = none from there]
        have unmarked : (c.buffers.reading reads).busyCount b = 0 := by
          have missing : (c.buffers.reading reads).get? b = none := by
            simpa [BufferPool.reading, BufferPool.get?, Table.get?_map] using there
          simp [BufferPool.busyCount, missing]
        simp [Option.filter, unknown, unmarked, UInt32.size]
      | some record =>
        have known : c.buffers.contains b = true :=
          (c.buffers.buffers.contains_iff b).2 ⟨record, there⟩
        simp [Option.filter, known, busyCount_reading there]

/-- While a pass has taken some surfaces, it can take one more if each count has room for all of them. -/
theorem hasRoom_concat_iff {surfaces : List SurfaceId} {k : SurfaceId} :
    c.HasRoom (surfaces ++ [k]) ↔ c.HasRoom surfaces ∧
      (c.holding surfaces (c.buffersRead surfaces)).Spare k := by
  have read : c.buffersRead (surfaces ++ [k]) =
      c.buffersRead surfaces ++ (c.bufferRead? k).toList := by
    simp [buffersRead]
  have marks : CanGrow (some ∘ c.buffers.busyCount) (c.buffersRead (surfaces ++ [k])) ↔
      CanGrow (some ∘ c.buffers.busyCount) (c.buffersRead surfaces) ∧ ∀ b, c.bufferRead? k = some b →
        c.buffers.busyCount b + (c.buffersRead surfaces).count b + 1 < UInt32.size := by
    rw [read]
    cases c.bufferRead? k with
    | none => simp
    | some b => simp [canGrow_concat_iff]
  rw [spare_holding_iff]
  constructor
  · rintro ⟨references, grows⟩
    obtain ⟨before, last⟩ := canGrow_concat_iff.1 references
    obtain ⟨before', last'⟩ := marks.1 grows
    exact ⟨⟨before, before'⟩, last, last'⟩
  · rintro ⟨⟨before, before'⟩, last, last'⟩
    exact ⟨canGrow_concat_iff.2 ⟨before, last⟩, marks.2 ⟨before', last'⟩⟩

theorem beginItems?_eq_some_iff {items : List PaintItem} {begun : List BufferId × Compositor} :
    c.beginItems? items = some begun ↔
      c.HasRoom (items.map (·.surface)) ∧ c.beginItems items = begun := by
  induction items using List.reverseRecOn generalizing begun with
  | nil =>
    have room : c.HasRoom [] := ⟨by simp [CanGrow], by simp [CanGrow, buffersRead]⟩
    simp [beginItems?, beginItems, room]
  | append_singleton items item ih =>
    -- All that was begun so far, begun without fail, and then one item more.
    have step : c.beginItems? (items ++ [item]) = (c.beginItems? items).bind fun done =>
        (done.2.beginItem? item).map fun one => (done.1 ++ one.1.toList, one.2) := by
      simp [beginItems?, List.foldlM_append, Option.map_eq_bind]
    have last : c.beginItems (items ++ [item]) =
        ((c.beginItems items).1 ++ ((c.beginItems items).2.beginItem item).1.toList,
          ((c.beginItems items).2.beginItem item).2) := by
      simp [beginItems, List.foldl_append]
    rw [step, last, List.map_append, List.map_singleton, hasRoom_concat_iff, bind_checked fun _ => ih,
      map_checked fun _ => beginItem?_eq_some_iff, beginItems_eq_holding, and_assoc]

/-! ### Passes -/

theorem renderOutput?_eq_some_iff {host : Host} {o : OutputId} {pass : Bool × Compositor} :
    c.renderOutput? host o time = some pass ↔
      c.HasRoom (c.drawn o) ∧ c.renderOutput host o time = pass := by
  unfold renderOutput? renderOutput drawn
  cases (c.outputs.get? o).filter (·.renderer.isSome) with
  | none =>
    have room : c.HasRoom [] := ⟨by simp [CanGrow], by simp [CanGrow, buffersRead]⟩
    simp [room]
  | some p =>
    exact (bind_checked (fun _ => beginItems?_eq_some_iff) _).trans
      (and_congr_right fun _ => Option.some_inj)

/-- The counts after passes are those before. -/
theorem Round.hasRoom_iff {os : List OutputId} {ks : List SurfaceId} (round : Round c c' time os ks)
    (surfaces : List SurfaceId) : c'.HasRoom surfaces ↔ c.HasRoom surfaces := by
  have refs : c'.refs = c.refs := by
    funext k
    rw [Compositor.refs, round.frame]
    cases found : c.surfaces.get? k <;>
      simp [Compositor.refs, finished, Table.get?_map, found]
    split <;> rfl
  have pool : c'.buffers = c.buffers := by rw [round.frame]; rfl
  have read : c'.buffersRead surfaces = c.buffersRead surfaces := by
    refine List.flatMap_congr fun k _ => congrArg Option.toList ?_
    rw [bufferRead?, bufferRead?, pool]
    congr 1
    rw [round.frame]
    cases found : c.surfaces.get? k <;> simp [finished, Table.get?_map, found]
    split <;> rfl
  exact ⟨fun ⟨references, marks⟩ => ⟨refs ▸ references, read ▸ pool ▸ marks⟩,
    fun ⟨references, marks⟩ => ⟨refs ▸ references, read ▸ pool ▸ marks⟩⟩

theorem drawn_attended (o : OutputId) :
    (c.modifyOutput o Output.attended).drawn o = c.drawn o := by
  rcases c.bare_or_found o with bare | ⟨p, r, found, renderer⟩
  · rw [drawn_of_bare bare, drawn_of_bare fun p there => ?_]
    obtain ⟨q, found, rfl⟩ := Option.map_eq_some_iff.1
      (((Table.get?_modify ..).trans (if_pos rfl)).symm.trans there)
    exact bare q found
  · have found' : (c.modifyOutput o Output.attended).outputs.get? o = some p.attended := by
      simp [Table.get?_modify, found]
    rw [drawn_found found renderer, drawn_found found' (r := r) renderer]
    exact congrArg (List.map _) (paintItems_same rfl rfl rfl rfl)

/-- One pass of a round, and the number of passes that went well, in machine words. -/
def countedPass? (host : Host) (time : UInt32) (done : Nat × Compositor) (o : OutputId) :
    Option (Nat × Compositor) :=
  ((done.2.modifyOutput o Output.attended).renderOutput? host o time).map fun pass =>
    (done.1 + pass.1.toNat, pass.2)

theorem countedPasses?_eq_some_iff (tidy : c.buffers.Tidy) (held : c.Held) (linked : c.Linked)
    (host : Host) {due : List OutputId} (once : due.Nodup) {count : Nat} {done : Nat × Compositor} :
    due.foldlM (countedPass? host time) (count, c) = some done ↔
      (∀ o ∈ due, c.HasRoom (c.drawn o)) ∧
      due.foldl (fun done o => countedPass host time
        (done.1, done.2.modifyOutput o Output.attended) o) (count, c) = done := by
  induction due generalizing c count with
  | nil => simp
  | cons o due ih =>
    obtain ⟨other, once⟩ := List.nodup_cons.1 once
    have painted := c.pass_rendered held host time o
    have round := pass_round tidy held linked host time o
    -- The flag that falls first is no count, and the later passes find the counts as they were.
    have drawn : (c.modifyOutput o Output.attended).drawn o = c.drawn o := drawn_attended o
    have room : (c.modifyOutput o Output.attended).HasRoom (c.drawn o) ↔ c.HasRoom (c.drawn o) := by
      constructor <;> exact fun room => ⟨room.references, room.marks⟩
    have rest (count : Nat) := @ih _ (tidy_pass tidy held host time o) (painted.held held)
      (linked.rendered painted) once count
    simp only [round.hasRoom_iff, round.drawn] at rest
    have first {pass : Nat × Compositor} : countedPass? host time (count, c) o = some pass ↔
        c.HasRoom (c.drawn o) ∧ countedPass host time (count, c.modifyOutput o Output.attended) o =
          pass := by
      rw [countedPass?, map_checked fun _ => renderOutput?_eq_some_iff, drawn, room]
      rfl
    rw [List.foldlM_cons, List.foldl_cons, List.forall_mem_cons, and_assoc]
    exact (bind_checked (fun _ => first) _).trans (and_congr_right fun _ => rest _)

theorem renderOutputs?_eq_some_iff (tidy : c.buffers.Tidy) (held : c.Held) (linked : c.Linked)
    (host : Host) {done : Nat × Compositor} : c.renderOutputs? host time = some done ↔
      (∀ o ∈ c.dueOutputs, c.HasRoom (c.drawn o)) ∧ c.renderOutputs host time = done := by
  have once : c.dueOutputs.Nodup := linked.order_nodup.filter _
  have words : c.renderOutputs? host time = c.dueOutputs.foldlM (countedPass? host time) (0, c) := by
    unfold renderOutputs?
    congr 1
    funext done o
    rw [countedPass?, Option.map_eq_bind]
    rfl
  rw [words, countedPasses?_eq_some_iff tidy held linked host once]
  rfl

/-! ### Requests and runs -/

/-- All that a request counts can be counted. -/
def CanCount (c : Compositor) : Request → Prop
  | .acquire k => ∀ n, c.refs k = some n → n + 1 < UInt32.size
  | .pool request => c.buffers.CanCount request
  | .render _ => ∀ o ∈ c.dueOutputs, c.HasRoom (c.drawn o)
  | _ => True

theorem acquireSurface?_eq_some_iff {k : SurfaceId} {acquired : Bool × Compositor} :
    c.acquireSurface? k = some acquired ↔
      (∀ n, c.refs k = some n → n + 1 < UInt32.size) ∧ c.acquireSurface k = acquired := by
  unfold acquireSurface? acquireSurface refs
  cases found : c.surfaces.get? k with
  | none =>
    have same : c.modifySurface k Surface.acquire = c :=
      modifySurface_self fun s there => nomatch found.symm.trans there
    simp [Table.contains, found, same]
  | some s =>
    have acquired : (c.modifySurface k fun _ => s.acquire) = c.modifySurface k Surface.acquire :=
      modifySurface_congr fun t there => by rw [Option.some.inj (found.symm.trans there)]
    simp [Table.contains, found, Surface.acquire?_eq_some_iff, and_assoc, acquired]

theorem Reachable.handle?_eq_some_iff (reached : c.Reachable) {host : Host} {request : Request}
    {answer : Reply × Compositor} : c.handle? host request = some answer ↔
      c.CanCount request ∧ c.handle host request = answer := by
  cases request
  case acquire k => exact map_checked (fun _ => acquireSurface?_eq_some_iff) _
  case pool request => exact map_checked (fun _ => BufferPool.handle?_eq_some_iff) _
  case render time =>
    exact map_checked
      (fun _ => renderOutputs?_eq_some_iff reached.tidy reached.held reached.linked host) _
  all_goals simp [handle?, CanCount]

/-- Every request of a run can count all it counts. -/
def CanCountAll (c : Compositor) : List (Host × Request) → Prop
  | [] => True
  | (host, request) :: later => c.CanCount request ∧ (c.handle host request).2.CanCountAll later

theorem canCountAll_concat_iff {past : List (Host × Request)} {x : Host × Request} :
    c.CanCountAll (past ++ [x]) ↔ c.CanCountAll past ∧ (c.run past).CanCount x.2 := by
  induction past generalizing c with
  | nil => simp [CanCountAll, run]
  | cons y past ih =>
    rw [List.cons_append, CanCountAll, ih, CanCountAll, and_assoc]
    rfl

theorem Reachable.run?_eq_some_iff (reached : c.Reachable) {requests : List (Host × Request)} :
    c.run? requests = some c' ↔ c.CanCountAll requests ∧ c.run requests = c' := by
  induction requests generalizing c with
  | nil => exact Option.some_inj.trans (true_and _).symm.to_iff
  | cons x requests ih =>
    have step (answer : Compositor) : (c.handle? x.1 x.2).map Prod.snd = some answer ↔
        c.CanCount x.2 ∧ (c.handle x.1 x.2).2 = answer :=
      map_checked (fun _ => reached.handle?_eq_some_iff) _
    rw [CanCountAll, and_assoc]
    exact (bind_checked step _).trans
      (and_congr_right fun _ => ih (reached.handle x.1 x.2))

/-! ### A round in machine words -/

/-- As long as clients name the sides of buffers with signed words, and all that the passes count can be
counted, a request to render is a round, in machine words too. -/
theorem ReachableBy.renders (reached : c.ReachableBy fun _ _ request => request.isSigned) (host : Host)
    (time : UInt32) (room : c.CanCount (.render time)) :
    c.renderOutputs? host time = some (c.renderOutputs host time) ∧
    (∀ o ∈ c.toRender, ∀ p, c.outputs.get? o = some p → ∀ fb : Framebuffer,
      fb.drawPictures? p.picture? (c.paintItems p) =
        some (fb.drawPictures p.picture? (c.paintItems p))) ∧
    c.renderOutputs host time =
      c.toRender.foldl (countedPass host time) (0, c.attend c.dueOutputs) ∧
    Round c (c.renderOutputs host time).2 time c.dueOutputs (c.toRender.flatMap c.drawn) := by
  have reached' := reached.reachable
  refine ⟨?_, fun o _ p found fb => reached.drawPictures?_eq found fb, reached'.round host time⟩
  exact (renderOutputs?_eq_some_iff reached'.tidy reached'.held reached'.linked host).2 ⟨room, rfl⟩

/-- A surface that is acquired again and again is held that often. -/
theorem run_acquires (c : Compositor) (host : Host) (k : SurfaceId) (n : Nat) :
    c.run (List.replicate n (host, .acquire k)) = c.holding (List.replicate n k) [] := by
  induction n with
  | zero => exact c.holding_nil.symm
  | succ n ih =>
    have last : c.run (List.replicate n (host, .acquire k) ++ [(host, .acquire k)]) =
        (c.run (List.replicate n (host, .acquire k))).modifySurface k Surface.acquire := by
      simp only [run, List.foldl_append, List.foldl_cons, List.foldl_nil]
      rfl
    rw [List.replicate_succ', last, ih, acquire_holding, List.replicate_succ']

theorem drawn_holding (held : List SurfaceId) (reads : List BufferId) (o : OutputId) :
    (c.holding held reads).drawn o = c.drawn o := by
  have items (p : Output) : (c.holding held reads).paintItems p = c.paintItems p := by
    refine paintItems_kept rfl fun v _ => paintItem?_same rfl (rel_refl (fun _ => ⟨rfl, rfl, rfl⟩) _)
      fun w _ => ?_
    simp only [holding, Table.get?_map]
    exact rel_map fun _ _ => ⟨rfl, rfl⟩
  simp only [drawn, items]
  rfl

theorem awaited_renders : awaited.ReachableBy (fun _ _ request => request.isSigned) ∧
    awaited.CanCount (.render 7) ∧
    awaited.renderOutputs? .willing 7 = some (awaited.renderOutputs .willing 7) ∧
    Round awaited (awaited.renderOutputs .willing 7).2 7 [⟨1⟩] [⟨1⟩] := by
  have reached : awaited.ReachableBy fun _ _ request => request.isSigned :=
    ((ReachableBy.start _ _).run _ (by decide)).run _ (by decide)
  have room : ∀ o ∈ awaited.dueOutputs, awaited.HasRoom (awaited.drawn o) := by decide
  obtain ⟨words, -, -, round⟩ := reached.renders .willing 7 room
  exact ⟨reached, room, words, round⟩

/-- At the last reference that a word can count, no pass begins. -/
theorem renderOutputs?_of_full {n : Nat} (full : n + 2 = UInt32.size) :
    (awaited.run (List.replicate n (.willing, .acquire ⟨1⟩))).refs ⟨1⟩ = some (n + 1) ∧
    (awaited.run (List.replicate n (.willing, .acquire ⟨1⟩))).renderOutputs? .willing 7 = none := by
  have reached : (awaited.run (List.replicate n (.willing, .acquire ⟨1⟩))).Reachable :=
    (((Reachable.start _ _).run _).run _).run _
  have held : awaited.run (List.replicate n (.willing, .acquire ⟨1⟩)) =
      awaited.holding (List.replicate n ⟨1⟩) [] := run_acquires ..
  have refs : (awaited.run (List.replicate n (.willing, .acquire ⟨1⟩))).refs ⟨1⟩ = some (n + 1) := by
    rw [held, Compositor.refs, get?_holding (show awaited.surfaces.get? ⟨1⟩ = some _ from rfl)]
    simp only [Option.map_some, Surface.withHolders, List.count_replicate_self]
    exact congrArg some (Nat.add_comm 1 n)
  refine ⟨refs, Option.eq_none_iff_forall_ne_some.2 fun done words => ?_⟩
  obtain ⟨room, -⟩ :=
    (renderOutputs?_eq_some_iff reached.tidy reached.held reached.linked .willing).1 words
  have due : (⟨1⟩ : OutputId) ∈ (awaited.run (List.replicate n (.willing, .acquire ⟨1⟩))).dueOutputs := by
    rw [held]
    change (⟨1⟩ : OutputId) ∈ awaited.dueOutputs
    decide
  have drawn : (awaited.run (List.replicate n (.willing, .acquire ⟨1⟩))).drawn ⟨1⟩ = [⟨1⟩] := by
    rw [held, drawn_holding]
    decide
  have more := (room ⟨1⟩ due).references ⟨1⟩ (by simp [drawn]) (n + 1) refs
  rw [drawn, List.count_singleton_self] at more
  omega

/-- A surface whose client gave the handle of its frame callback to a new surface. -/
def overtaken : Compositor := awaited.run [(.willing, .createSurface ⟨1⟩ 3)]

/-- A pass forgets the handle of a surface that it does not draw. None begins at the last reference that a
word can count, and none draws an image that is too wide. -/
theorem overtaken_render :
    (overtaken.resources.get? ⟨⟨1⟩, 3⟩ = some (.surface ⟨2⟩) ∧
      overtaken.toRender.flatMap overtaken.drawn = [⟨1⟩] ∧
      (overtaken.renderOutputs .willing 7).2.resources.get? ⟨⟨1⟩, 3⟩ = none) ∧
    ((awaited.run (List.replicate 4294967294 (.willing, .acquire ⟨1⟩))).refs ⟨1⟩ = some 4294967295 ∧
      (awaited.run (List.replicate 4294967294 (.willing, .acquire ⟨1⟩))).renderOutputs? .willing 7 =
        none) ∧
    ∀ (fb : Framebuffer) (image : Image), fb.size = ⟨2, 1⟩ → image.size = ⟨4294967295, 1⟩ →
      fb.draw? image ⟨⟨-2147483648, 0⟩, ⟨4294967295, 1⟩⟩ = none :=
  ⟨by decide, renderOutputs?_of_full rfl, fun _ _ => Framebuffer.draw?_of_wide⟩

end Compositor

end Compositing
