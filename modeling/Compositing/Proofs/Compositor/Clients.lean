import Compositing.Proofs.Compositor.Merging

/-!
# Clients do not interfere

Two clients, each with its share of the objects, may take turns in any order. What comes of a share is
what comes of it where its client is alone, and what the transport hears of it comes in the same order.
All orders end in the same, but for the numbers of images. Main statement: `Reachable.interleaved`.
-/

namespace Compositing

/-! ### Interleavings -/

/-- The third list is made of the first two, which keep their orders. -/
inductive Shuffle {α : Type} : List α → List α → List α → Prop
  | nil : Shuffle [] [] []
  | left {x : α} {xs ys zs : List α} : Shuffle xs ys zs → Shuffle (x :: xs) ys (x :: zs)
  | right {y : α} {xs ys zs : List α} : Shuffle xs ys zs → Shuffle xs (y :: ys) (y :: zs)

/-- The share is the client's own. Nothing outside it shows or awaits a buffer of it, or holds a protocol
object of it; objects that are yet to be made are held by nothing at all. -/
structure Share.Own (A : Share) (c : Compositor) : Prop where
  client : ∀ k ∈ A.surfaces, ∀ s, c.surfaces.get? k = some s → s.client = A.client
  surfaces : ∀ k s, c.surfaces.get? k = some s → k ∉ A.surfaces → s.Avoids A
  views : ∀ v w, c.views.get? v = some w → w.surface ∉ A.surfaces →
    ∀ h, w.role = some h → h ∉ A.handles

/-! ### The same but for the numbers of images -/

/-- The outputs are the same, but that images have other names. -/
def Output.Renumbered (rename : ImageId → ImageId) (p p' : Output) : Prop :=
  { p' with renderer := p.renderer } = p ∧
    Option.Rel (Renderer.Renumbered rename) p.renderer p'.renderer

namespace Compositor

/-- The compositors are the same, but that the images of one are numbered in another way. -/
structure Renumbered (rename : ImageId → ImageId) (c c' : Compositor) : Prop where
  config : c'.config = c.config
  contexts : c'.contexts = c.contexts
  surfaces : ∀ k, c'.surfaces.get? k = c.surfaces.get? k
  regions : ∀ r, c'.regions.get? r = c.regions.get? r
  buffers : ∀ x, c'.buffers.get? x = c.buffers.get? x
  deferred : ∀ x, x ∈ c'.buffers.deferred ↔ x ∈ c.buffers.deferred
  nextBuffer : c'.buffers.nextId = c.buffers.nextId
  views : ∀ v, c'.views.get? v = c.views.get? v
  outputs : ∀ o, Option.Rel (Output.Renumbered rename) (c.outputs.get? o) (c'.outputs.get? o)
  order : c'.outputOrder = c.outputOrder
  focused : c'.focused = c.focused
  resources : ∀ h, c'.resources.get? h = c.resources.get? h
  nextIds : { c'.nextIds with image := c.nextIds.image } = c.nextIds
  /-- Different images keep different names. -/
  apart : ∀ o k o' k' i j, c.imageAt? o k = some i → c.imageAt? o' k' = some j →
    rename i = rename j → i = j

/-- Of the share `A`, and of what is in no share, `d` has what `a` has, where the client of the share `B`
was not at work. Only a buffer that is in no share may have been let go of by that client, as in `b`. -/
structure Undisturbed (A B : Share) (a b d : Compositor) : Prop where
  surfaces : ∀ k ∉ B.surfaces, d.surfaces.get? k = a.surfaces.get? k
  regions : ∀ r ∉ B.regions, d.regions.get? r = a.regions.get? r
  buffers : ∀ x ∈ A.buffers, d.buffers.get? x = a.buffers.get? x
  lent : ∀ x ∉ A.buffers, x ∉ B.buffers →
    d.buffers.get? x = (a.buffers.get? x).map (·.letGo (b.buffers.releases x))
  views : ∀ v w, w.surface ∉ B.surfaces → (d.views.get? v = some w ↔ a.views.get? v = some w)
  /-- The transport hears of the share in the same order. -/
  told : ∀ P : TransportEvent → Bool, (∀ e, P e = true → A.Concerned e) →
    (transportEvents d.log).filter P = (transportEvents a.log).filter P

variable {A B : Share} {a b c d d' : Compositor}

/-! ### Before the clients begin -/

theorem Half.start (linked : c.Linked) (own : A.Own c) (other : B.Own c) : Half A B c c c where
  config := rfl
  contexts := rfl
  surfaces _ _ := rfl
  regions _ _ := rfl
  buffers _ _ := rfl
  lent x _ _ := by
    cases found : c.buffers.get? x with
    | none => rfl
    | some p => simp [BufferPool.releases, Buffer.letGo, found]
  nextBuffer := rfl
  views _ _ _ := Iff.rfl
  outputs o := by
    refine rel_refl_found fun p found => ?_
    have listed (v : ViewId) (member : v ∈ p.creationOrder) : c.views.contains v = true := by
      obtain ⟨w, there, -⟩ := (linked.mem_creation o p found v).1 member
      exact (Table.contains_iff c.views v).2 ⟨w, there⟩
    refine ⟨rfl, (List.filter_eq_self.2 fun v member => ?_).symm,
      (List.filter_eq_self.2 listed).symm, rel_refl (fun r => ⟨rfl, fun _ _ => rfl⟩) _⟩
    exact listed v ((linked.paint_perm o p found).mem_iff.1 member)
  order := rfl
  focused := by
    cases focused : c.focused with
    | none => rfl
    | some v =>
      have there := (Table.contains_iff c.views v).2 (linked.focus_exists v focused)
      simp [Option.filter_some, there]
  resources _ _ := rfl
  others h _ _ := by cases c.resources.get? h <;> rfl
  nextIds := rfl
  avoids k s found off := other.surfaces k s found off
  roles v w found off := other.views v w found off
  client := own.client

theorem Merged.start (linked : c.Linked) (apart : A.Apart B) (own : A.Own c) (other : B.Own c) :
    Merged A B c c c where
  apart := apart
  left := Half.start linked own other
  right := Half.start linked other own
  due o p q r first second third := by
    cases first.symm.trans second
    cases first.symm.trans third
    exact (Bool.or_self _).symm
  deferred _ := (or_self_iff).symm

/-! ### Taking turns -/

/-- Two clients were at work, and each of them alone. -/
structure Abreast (A B : Share) (a b d : Compositor) : Prop where
  reached : a.Reachable
  reached' : b.Reachable
  both : d.Reachable
  merged : Merged A B a b d
  left : ∀ P : TransportEvent → Bool, (∀ e, P e = true → A.Concerned e) →
    (transportEvents d.log).filter P = (transportEvents a.log).filter P
  right : ∀ P : TransportEvent → Bool, (∀ e, P e = true → B.Concerned e) →
    (transportEvents d.log).filter P = (transportEvents b.log).filter P

theorem Abreast.start (reached : c.Reachable) (apart : A.Apart B) (own : A.Own c) (other : B.Own c) :
    Abreast A B c c c :=
  ⟨reached, reached, reached, Merged.start reached.linked apart own other, fun _ _ => rfl,
    fun _ _ => rfl⟩

theorem Abreast.symm (abreast : Abreast A B a b d) : Abreast B A b a d :=
  ⟨abreast.reached', abreast.reached, abreast.both, abreast.merged.symm, abreast.right, abreast.left⟩

theorem Abreast.handle (abreast : Abreast A B a b d) {host : Host} {request : Request}
    (within : request.Within A host) :
    Abreast A B (a.handle host request).2 b (d.handle host request).2 := by
  obtain ⟨-, along⟩ := abreast.merged.handle abreast.reached abreast.both within
  obtain ⟨told, left, right, spared⟩ := along.told
  refine ⟨abreast.reached.handle host request, abreast.reached', abreast.both.handle host request,
    along.merged, fun P concerned => ?_, fun P concerned => ?_⟩
  · rw [left, right, List.filter_append, List.filter_append, abreast.left P concerned]
  · -- Of the other share the transport hears nothing.
    have none : told.filter P = [] := List.filter_eq_nil_iff.2 fun e member selected =>
      spared e member (concerned e selected)
    rw [right, List.filter_append, none, List.append_nil, abreast.right P concerned]

theorem Abreast.run {xs ys zs : List (Host × Request)} (mixed : Shuffle xs ys zs)
    (within : ∀ x ∈ xs, x.2.Within A x.1) (within' : ∀ y ∈ ys, y.2.Within B y.1)
    (abreast : Abreast A B a b d) : Abreast A B (a.run xs) (b.run ys) (d.run zs) := by
  induction mixed generalizing a b d with
  | nil => exact abreast
  | left _ ih =>
    rw [List.forall_mem_cons] at within
    exact ih within.2 within' (abreast.handle within.1)
  -- The invariant is symmetric, so the turns of the other client need no proof of their own.
  | right _ ih =>
    rw [List.forall_mem_cons] at within'
    exact ih within within'.2 (abreast.symm.handle within'.1).symm

/-- The replies to the requests, one after the other. -/
def replies (c : Compositor) : List (Host × Request) → List Reply
  | [] => []
  | (host, request) :: rest =>
    (c.handle host request).1 :: (c.handle host request).2.replies rest

theorem Abreast.replies {xs ys zs : List (Host × Request)} (mixed : Shuffle xs ys zs)
    (within : ∀ x ∈ xs, x.2.Within A x.1) (within' : ∀ y ∈ ys, y.2.Within B y.1)
    (abreast : Abreast A B a b d) : Shuffle (a.replies xs) (b.replies ys) (d.replies zs) := by
  induction mixed generalizing a b d with
  | nil => exact .nil
  | left _ ih =>
    rw [List.forall_mem_cons] at within
    have same := (abreast.merged.handle abreast.reached abreast.both within.1).1
    rw [Compositor.replies, Compositor.replies, same]
    exact .left (ih within.2 within' (abreast.handle within.1))
  | right _ ih =>
    rw [List.forall_mem_cons] at within'
    have same := (abreast.merged.symm.handle abreast.reached' abreast.both within'.1).1
    rw [Compositor.replies, Compositor.replies, same]
    exact .right (ih within within'.2 (abreast.symm.handle within'.1).symm)

theorem Abreast.undisturbed (abreast : Abreast A B a b d) : Undisturbed A B a b d where
  surfaces := abreast.merged.left.surfaces
  regions := abreast.merged.left.regions
  buffers x own := abreast.merged.left.buffers x fun off => off own
  lent := abreast.merged.left.lent
  views := abreast.merged.left.views
  told := abreast.left

/-! ### Two orders -/

section

variable (first : Merged A B a b d) (second : Merged A B a b d')
include first second

theorem Merged.views_eq (v : ViewId) : d'.views.get? v = d.views.get? v := by
  ext w
  by_cases own : w.surface ∈ B.surfaces
  · have other := first.apart.surfaces.notMem_of_mem_right own
    exact (second.right.views v w other).trans (first.right.views v w other).symm
  · exact (second.left.views v w own).trans (first.left.views v w own).symm

theorem Merged.contains_eq : d'.views.contains = d.views.contains := by
  funext v
  rw [Table.contains, Table.contains, first.views_eq second v]

/-- An output has the same views and keeps the same pictures. -/
theorem Merged.output (o : OutputId) : Option.Rel (fun p p' : Output =>
    { p' with renderer := p.renderer } = p ∧
    Option.Rel (fun r r' : Renderer => r'.bare = r.bare ∧ ∀ k, r'.kept? k = r.kept? k)
      p.renderer p'.renderer) (d.outputs.get? o) (d'.outputs.get? o) := by
  have contains := first.contains_eq second
  -- Both orders are compared with one of the clients alone, and then with the other one alone.
  refine rel_of_common (first.left.outputs o) (second.left.outputs o)
    fun p r r' found there there' half half' => ?_
  obtain ⟨q, found', other⟩ := found_of_rel (first.right.outputs o) there
  obtain ⟨q', found'', other'⟩ := found_of_rel (second.right.outputs o) there'
  cases found'.symm.trans found''
  refine ⟨?_, ?_⟩
  · have rest := congrArg (fun x : Output => { x with
      paintOrder := r.paintOrder
      creationOrder := r.creationOrder
      pendingRender := r.pendingRender
      renderer := r.renderer }) (half'.rest.trans half.rest.symm)
    have paint : r'.paintOrder = r.paintOrder := by rw [half'.paint, half.paint, contains]
    have creation : r'.creationOrder = r.creationOrder := by
      rw [half'.creation, half.creation, contains]
    have due : r'.pendingRender = r.pendingRender := by
      rw [second.due o p q r' found found' there', first.due o p q r found found' there]
    refine Eq.trans ?_ rest
    simp only [← paint, ← creation, ← due]
  · refine rel_of_common half.renderer half'.renderer fun g t t' _ left left' same same' => ?_
    refine ⟨same'.1.trans same.1.symm, fun k => ?_⟩
    by_cases own : k ∈ B.surfaces
    · have foreign := first.apart.surfaces.notMem_of_mem_right own
      obtain ⟨u, before, kept⟩ := found_of_rel other.renderer left
      obtain ⟨u', before', kept'⟩ := found_of_rel other'.renderer left'
      cases before.symm.trans before'
      exact (kept'.2 k foreign).trans (kept.2 k foreign).symm
    · exact (same'.2 k own).trans (same.2 k own).symm

/-- The same surfaces have images on the same outputs. -/
theorem Merged.isSome_imageAt? (o : OutputId) (k : SurfaceId) :
    (d'.imageAt? o k).isSome = (d.imageAt? o k).isSome := by
  have outputs := first.output second o
  cases found : d.outputs.get? o with
  | none =>
    rw [found] at outputs
    rw [imageAt?, imageAt?, found, none_of_rel outputs]
  | some p =>
    obtain ⟨p', found', -, renderers⟩ := found_of_rel_left outputs found
    cases renderer : p.renderer with
    | none =>
      rw [renderer] at renderers
      rw [imageAt?, imageAt?, found, found', Option.bind_some, Option.bind_some, Output.imageOf?,
        Output.imageOf?, renderer, none_of_rel renderers]
    | some r =>
      obtain ⟨r', renderer', -, kept⟩ := found_of_rel_left renderers renderer
      rw [imageAt?_found found renderer, imageAt?_found found' renderer', ← Renderer.isSome_kept?,
        kept, Renderer.isSome_kept?]

/-- An image is called anew after the surface it is kept for. -/
theorem Merged.exists_rename (numbered : d.Numbered) : ∃ rename : ImageId → ImageId,
    ∀ o k i, d.imageAt? o k = some i → d'.imageAt? o k = some (rename i) := by
  classical
  refine ⟨fun i => if named : ∃ e : OutputId × SurfaceId, d.imageAt? e.1 e.2 = some i
    then (d'.imageAt? named.choose.1 named.choose.2).getD i else i, fun o k i there => ?_⟩
  have named : ∃ e : OutputId × SurfaceId, d.imageAt? e.1 e.2 = some i := ⟨(o, k), there⟩
  obtain ⟨output, surface⟩ := numbered o k _ _ i there named.choose_spec
  obtain ⟨j, there'⟩ := Option.isSome_iff_exists.1
    ((first.isSome_imageAt? second o k).trans (by rw [there]; rfl))
  simp only [dif_pos named, output, surface, there', Option.getD_some]

theorem Merged.outputs_renumbered (orderly : d.Orderly) (orderly' : d'.Orderly)
    {rename : ImageId → ImageId}
    (renamed : ∀ o k i, d.imageAt? o k = some i → d'.imageAt? o k = some (rename i)) (o : OutputId) :
    Option.Rel (Output.Renumbered rename) (d.outputs.get? o) (d'.outputs.get? o) := by
  have outputs := first.output second o
  cases found : d.outputs.get? o with
  | none =>
    rw [found] at outputs
    rw [none_of_rel outputs]
    exact .none
  | some p =>
    obtain ⟨p', found', rest, renderers⟩ := found_of_rel_left outputs found
    rw [found']
    refine .some ⟨rest, ?_⟩
    cases renderer : p.renderer with
    | none =>
      rw [renderer] at renderers
      rw [none_of_rel renderers]
      exact .none
    | some r =>
      obtain ⟨r', renderer', bare, kept⟩ := found_of_rel_left renderers renderer
      rw [renderer']
      refine .some (Renderer.renumbered_of_kept (orderly o p r found renderer)
        (orderly' o p' r' found' renderer') bare kept fun k i there => ?_)
      rw [← imageAt?_found found' renderer' k]
      exact renamed o k i ((imageAt?_found found renderer k).trans there)

theorem Merged.renumbered (orderly : d.Orderly) (orderly' : d'.Orderly) (numbered : d.Numbered)
    (numbered' : d'.Numbered) : ∃ rename, Renumbered rename d d' := by
  obtain ⟨rename, renamed⟩ := first.exists_rename second numbered
  -- Nothing is in both shares.
  have off {α : Type} {S T : Set α} (disjoint : Disjoint S T) (x : α) : x ∉ T ∨ x ∉ S := by
    by_cases own : x ∈ S
    · exact .inl (disjoint.notMem_of_mem_left own)
    · exact .inr own
  refine ⟨rename, ?_⟩
  constructor
  case config => rw [second.left.config, first.left.config]
  case contexts => rw [second.left.contexts, first.left.contexts]
  case nextBuffer => rw [second.left.nextBuffer, first.left.nextBuffer]
  case order => rw [second.left.order, first.left.order]
  case nextIds =>
    exact congrArg (fun ids : NextIds => { ids with image := d.nextIds.image })
      (second.left.nextIds.trans first.left.nextIds.symm)
  case deferred => intro x; rw [second.deferred, first.deferred]
  case views => exact first.views_eq second
  case focused => rw [second.left.focused, first.left.focused, first.contains_eq second]
  case surfaces =>
    exact fun k => first.left.surfaces.eq_of_both first.right.surfaces second.left.surfaces
      second.right.surfaces (off first.apart.surfaces k)
  case regions =>
    exact fun r => first.left.regions.eq_of_both first.right.regions second.left.regions
      second.right.regions (off first.apart.regions r)
  case buffers =>
    intro x
    by_cases lent : x ∉ A.buffers ∧ x ∉ B.buffers
    · exact (second.left.lent x lent.1 lent.2).trans (first.left.lent x lent.1 lent.2).symm
    · refine first.left.buffers.eq_of_both first.right.buffers second.left.buffers
        second.right.buffers ?_
      simp only [Set.mem_compl_iff, not_not]
      tauto
  case resources =>
    intro h
    by_cases shared : h ∉ A.handles ∧ h ∉ B.handles
    · exact (second.left.others h shared.1 shared.2).trans (first.left.others h shared.1 shared.2).symm
    · refine first.left.resources.eq_of_both first.right.resources second.left.resources
        second.right.resources ?_
      simp only [Set.mem_compl_iff, not_not]
      tauto
  case apart =>
    intro o k o' k' i j here there same
    obtain ⟨rfl, rfl⟩ := numbered' o k o' k' (rename i) (renamed o k i here)
      (same ▸ renamed o' k' j there)
    exact Option.some.inj (here.symm.trans there)
  case outputs => exact first.outputs_renumbered second orderly orderly' renamed

end

/-- Each request has the reply that it has where its client is alone. -/
theorem Reachable.replies (reached : c.Reachable) (apart : A.Apart B) (own : A.Own c)
    (other : B.Own c) {xs ys zs : List (Host × Request)} (within : ∀ x ∈ xs, x.2.Within A x.1)
    (within' : ∀ y ∈ ys, y.2.Within B y.1) (mixed : Shuffle xs ys zs) :
    Shuffle (c.replies xs) (c.replies ys) (c.replies zs) :=
  (Abreast.start reached apart own other).replies mixed within within'

/-- However two clients take turns, what comes of the share of each is what comes of it where the client
is alone, and all orders end in the same, but for the numbers of images. The host answers each request in
the same way, whenever it comes. -/
theorem Reachable.interleaved (reached : c.Reachable) (apart : A.Apart B) (own : A.Own c)
    (other : B.Own c) {xs ys zs zs' : List (Host × Request)}
    (within : ∀ x ∈ xs, x.2.Within A x.1) (within' : ∀ y ∈ ys, y.2.Within B y.1)
    (mixed : Shuffle xs ys zs) (mixed' : Shuffle xs ys zs') :
    Undisturbed A B (c.run xs) (c.run ys) (c.run zs) ∧
    Undisturbed B A (c.run ys) (c.run xs) (c.run zs) ∧
    ∃ rename, Renumbered rename (c.run zs) (c.run zs') := by
  have start := Abreast.start reached apart own other
  have first := start.run mixed within within'
  have second := start.run mixed' within within'
  exact ⟨first.undisturbed, first.symm.undisturbed,
    first.merged.renumbered second.merged first.both.orderly second.both.orderly
      first.both.numbered second.both.numbered⟩

/-- A client with one surface and one buffer, and all of its protocol objects. -/
def smallShare (client : ClientId) (surface : SurfaceId) (buffer : BufferId) : Share where
  client := client
  surfaces := {surface}
  regions := ∅
  buffers := {buffer}
  handles := { h | h.client = client }

/-- One output shows the surfaces of two clients. Each client has a buffer. -/
def twoClients : Compositor :=
  (ofBackends {} [⟨"panel", .native⟩]).run <| List.map (Prod.mk .willing)
    [.addOutput "screen" ⟨2, 1⟩, .createSurface ⟨1⟩ 1, .createSurface ⟨2⟩ 1,
      .createView ⟨1⟩ ⟨⟨1⟩, 2⟩, .createView ⟨2⟩ ⟨⟨2⟩, 2⟩, .setViewOutput ⟨1⟩ (some ⟨1⟩),
      .setViewOutput ⟨2⟩ (some ⟨1⟩),
      .pool (.register ⟨.shared, ⟨1, 1⟩, 4, .argb, none⟩),
      .pool (.register ⟨.shared, ⟨1, 1⟩, 4, .argb, none⟩)]

theorem surface_twoClients {k : SurfaceId} {s : Surface} (found : twoClients.surfaces.get? k = some s) :
    (k = ⟨1⟩ ∧ s.client = ⟨1⟩ ∨ k = ⟨2⟩ ∧ s.client = ⟨2⟩) ∧ s.buffer = none ∧ s.pending.buffer = none ∧
    (∀ h, s.resource = some h → h.client = s.client) ∧ s.allCallbacks = [] := by
  have keys : twoClients.surfaces.keys = [⟨1⟩, ⟨2⟩] := by decide
  have key : k ∈ twoClients.surfaces.keys := (Table.mem_keys_iff _ _).2 (by rw [found]; rfl)
  rw [keys, List.mem_pair] at key
  rcases key with rfl | rfl
  · cases found
    exact ⟨.inl ⟨rfl, rfl⟩, rfl, rfl, fun h there => by cases there; rfl, rfl⟩
  · cases found
    exact ⟨.inr ⟨rfl, rfl⟩, rfl, rfl, fun h there => by cases there; rfl, rfl⟩

theorem view_twoClients {v : ViewId} {w : View} (found : twoClients.views.get? v = some w) {h : Handle}
    (role : w.role = some h) :
    w.surface = ⟨1⟩ ∧ h.client = ⟨1⟩ ∨ w.surface = ⟨2⟩ ∧ h.client = ⟨2⟩ := by
  have keys : twoClients.views.keys = [⟨1⟩, ⟨2⟩] := by decide
  have key : v ∈ twoClients.views.keys := (Table.mem_keys_iff _ _).2 (by rw [found]; rfl)
  rw [keys, List.mem_pair] at key
  rcases key with rfl | rfl
  · cases found
    cases role
    exact .inl ⟨rfl, rfl⟩
  · cases found
    cases role
    exact .inr ⟨rfl, rfl⟩

theorem own_smallShare {client : ClientId} {k : SurfaceId} (x : BufferId)
    (there : k = ⟨1⟩ ∧ client = ⟨1⟩ ∨ k = ⟨2⟩ ∧ client = ⟨2⟩) :
    (smallShare client k x).Own twoClients where
  client y own s found := by
    cases Set.mem_singleton_iff.1 own
    obtain ⟨who, -⟩ := surface_twoClients found
    grind [smallShare]
  surfaces y s found off := by
    obtain ⟨who, shown, pending, resource, callbacks⟩ := surface_twoClients found
    have other : s.client ≠ client := by
      have off : y ≠ k := off
      grind
    refine ⟨fun z there => ?_, fun z there => ?_, fun h there own => ?_, fun h member => ?_⟩
    · cases shown.symm.trans there
    · cases pending.symm.trans there
    · exact other ((resource h there).symm.trans own)
    · rw [callbacks] at member
      cases member
  views v w found off h role own := by
    have who := view_twoClients found role
    have off : w.surface ≠ k := off
    have own : h.client = client := own
    grind

/-- Shows a buffer on a surface, and asks when the next frame is due. -/
def showing (surface : SurfaceId) (buffer : BufferId) : List (Host × Request) :=
  List.map (Prod.mk .willing) [.attach surface (some buffer) ⟨0, 0⟩, .frame surface 3, .commit surface]

theorem within_showing (client : ClientId) (k : SurfaceId) (x : BufferId) :
    ∀ y ∈ showing k x, y.2.Within (smallShare client k x) y.1 := by
  simp [showing, Request.Within, smallShare, Host.willing]

/-- The client that is first gets the first image. -/
theorem twoClients_interleaved :
    let first := twoClients.run (showing ⟨1⟩ ⟨1⟩ ++ showing ⟨2⟩ ⟨2⟩)
    let second := twoClients.run (showing ⟨2⟩ ⟨2⟩ ++ showing ⟨1⟩ ⟨1⟩)
    first.imageAt? ⟨1⟩ ⟨1⟩ = some ⟨1⟩ ∧ second.imageAt? ⟨1⟩ ⟨1⟩ = some ⟨2⟩ ∧
    ∃ rename, Renumbered rename first second := by
  have apart : (smallShare ⟨1⟩ ⟨1⟩ ⟨1⟩).Apart (smallShare ⟨2⟩ ⟨2⟩ ⟨2⟩) := by
    refine ⟨by decide, ?_, ?_, ?_, ?_⟩
    · exact Set.disjoint_singleton.2 (by decide)
    · exact Set.disjoint_empty _
    · exact Set.disjoint_singleton.2 (by decide)
    · refine Set.disjoint_left.2 fun h own other => ?_
      cases own.symm.trans other
  have mixed : Shuffle (showing ⟨1⟩ ⟨1⟩) (showing ⟨2⟩ ⟨2⟩) (showing ⟨1⟩ ⟨1⟩ ++ showing ⟨2⟩ ⟨2⟩) :=
    .left (.left (.left (.right (.right (.right .nil)))))
  have mixed' : Shuffle (showing ⟨1⟩ ⟨1⟩) (showing ⟨2⟩ ⟨2⟩) (showing ⟨2⟩ ⟨2⟩ ++ showing ⟨1⟩ ⟨1⟩) :=
    .right (.right (.right (.left (.left (.left .nil)))))
  obtain ⟨-, -, same⟩ := ((Reachable.start _ _).run _ : twoClients.Reachable).interleaved apart
    (own_smallShare ⟨1⟩ (.inl ⟨rfl, rfl⟩)) (own_smallShare ⟨2⟩ (.inr ⟨rfl, rfl⟩))
    (within_showing ⟨1⟩ ⟨1⟩ ⟨1⟩) (within_showing ⟨2⟩ ⟨2⟩ ⟨2⟩) mixed mixed'
  exact ⟨rfl, rfl, same⟩

end Compositor

end Compositing
