import Compositing.Proofs.Compositor.Requests

/-!
# Pictures fit their surfaces

An output has pictures only of surfaces that it shows, and the picture of a mapped surface has the size
of the surface. A picture is imported when a buffer is committed or when a view joins an output, which
may be long after the commit: what makes it fit even then is that buffers keep their sizes, and that a
name never stands for two buffers.
-/

namespace Compositing.Compositor

variable {c c' : Compositor}

/-- A proper size is the size of a buffer that was registered. The buffer may be gone. -/
def Backed (pool : BufferPool) (size : Size) (buffer : Option BufferId) : Prop :=
  size.isProper = true → ∃ b, buffer = some b ∧ b.number < pool.nextId.number ∧
    ∀ record, pool.get? b = some record → record.size = size

/-- An image fits as the picture that an output has of a surface: the output shows the surface, and if
the surface is mapped, the image has its size. -/
structure Fits (c : Compositor) (o : OutputId) (k : SurfaceId) (image : Image) : Prop where
  shown : c.outputOfSurface? k = some o
  size : ∀ s, c.surfaces.get? k = some s → s.isMapped = true → image.size = s.size

/-- The pictures of an output are in order. -/
structure Depicts (c : Compositor) (o : OutputId) (p : Output) : Prop where
  sound : p.Sound c.nextIds.image
  fits : ∀ k image, p.picture? k = some image → c.Fits o k image

/-- The pictures of all outputs are in order. -/
structure Pictured (c : Compositor) : Prop where
  named : c.buffers.Named
  backed : ∀ k s, c.surfaces.get? k = some s → Backed c.buffers s.size s.buffer
  depicts : ∀ o p, c.outputs.get? o = some p → c.Depicts o p

theorem start_pictured (config : Config) (contexts : Contexts) :
    ({ config, contexts } : Compositor).Pictured := by
  constructor
  · simp [BufferPool.Named, BufferPool.get?, BufferPool.empty]
  · simp
  · simp

/-! ### What is kept -/

theorem Backed.later {pool pool' : BufferPool} {size : Size} {buffer : Option BufferId}
    (backed : Backed pool size buffer) (later : pool.Later pool') : Backed pool' size buffer := by
  intro proper
  obtain ⟨b, there, below, fits⟩ := backed proper
  refine ⟨b, there, Nat.lt_of_lt_of_le below later.next, ?_⟩
  intro record' found'
  -- A record under the old name is the old record, since names are not drawn twice.
  rcases later.sizes b record' found' with ⟨record, found, same⟩ | ⟨new, -⟩
  · exact same.symm.trans (fits record found)
  · exact absurd below (Nat.not_lt.2 new)

/-- A buffer that is committed backs its size. -/
theorem backed_of_record {pool : BufferPool} (named : pool.Named) {buffer : Option BufferId}
    {content : Option Buffer} (attached : content = buffer.bind pool.get?) :
    Backed pool (content.elim Size.zero (·.size)) buffer := by
  intro proper
  cases content with
  | none => simp [Size.zero, Size.isProper] at proper
  | some record =>
    obtain ⟨b, rfl, found⟩ := Option.bind_eq_some_iff.1 attached.symm
    refine ⟨b, rfl, named b record found, ?_⟩
    intro other there
    cases found.symm.trans there
    rfl

theorem Pictured.step (pictured : c.Pictured) (later : Later c c')
    (surfaces : ∀ k s', c'.surfaces.get? k = some s' → Backed c.buffers s'.size s'.buffer)
    (outputs : ∀ o p', c'.outputs.get? o = some p' → c'.Depicts o p') : c'.Pictured where
  named := later.buffers.named pictured.named
  backed k s' found := (surfaces k s' found).later later.buffers
  depicts := outputs

/-- The surface and the view that stand behind a picture. -/
structure Shows (c : Compositor) (o : OutputId) (k : SurfaceId) (s : Surface) (v : ViewId)
    (w : View) : Prop where
  found : c.surfaces.get? k = some s
  role : s.view = some v
  there : c.views.get? v = some w
  output : w.output = some o

theorem shown_iff {k : SurfaceId} {o : OutputId} :
    c.outputOfSurface? k = some o ↔ ∃ s v w, Shows c o k s v w := by
  simp only [outputOfSurface?, outputOf?, Option.bind_eq_some_iff]
  constructor
  · rintro ⟨v, ⟨s, found, role⟩, w, there, output⟩
    exact ⟨s, v, w, found, role, there, output⟩
  · rintro ⟨s, v, w, found, role, there, output⟩
    exact ⟨v, ⟨s, found, role⟩, w, there, output⟩

/-- A picture fits as long as the surface stays where it is, in its size. -/
theorem Fits.kept {o : OutputId} {k : SurfaceId} {image : Image} (fits : c.Fits o k image)
    (scene : ∀ s v w, Shows c o k s v w →
      (∃ s', c'.surfaces.get? k = some s' ∧ s'.view = some v ∧ s'.size = s.size) ∧
      ∃ w', c'.views.get? v = some w' ∧ w'.output = some o) : c'.Fits o k image := by
  obtain ⟨s, v, w, shows⟩ := shown_iff.1 fits.shown
  obtain ⟨⟨s', found', role', size⟩, w', there', output'⟩ := scene s v w shows
  refine ⟨shown_iff.2 ⟨s', v, w', found', role', there', output'⟩, ?_⟩
  intro t found mapped
  cases found.symm.trans found'
  rw [size]
  exact fits.size s shows.found (by rwa [Surface.isMapped, ← size])

theorem SameViews.output (views : SameViews c c') (v : ViewId) :
    Option.Rel (fun w w' => w'.output = w.output) (c.views.get? v) (c'.views.get? v) :=
  rel_mono (views v) fun _ _ _ same => (View.look_eq_iff.1 same).2.2.1

theorem backed_of_look {pool : BufferPool} {s s' : Surface} (backed : Backed pool s.size s.buffer)
    (same : s'.size = s.size ∧ s'.buffer = s.buffer) : Backed pool s'.size s'.buffer :=
  same.1.symm ▸ same.2.symm ▸ backed

/-- What a change leaves alone in a surface, if not its view. -/
theorem looks_eq {s s' : Surface} (same : s'.look = s.look) :
    s'.view = s.view ∧ s'.size = s.size ∧ s'.buffer = s.buffer := by
  exact (Surface.look_eq_iff.1 same).2

theorem Fits.same {o : OutputId} {k : SurfaceId} {image : Image} (fits : c.Fits o k image)
    (surface : Option.Rel (fun s s' => s'.look = s.look) (c.surfaces.get? k) (c'.surfaces.get? k))
    (views : ∀ v, Option.Rel (fun w w' => w'.output = w.output) (c.views.get? v) (c'.views.get? v)) :
    c'.Fits o k image := by
  apply fits.kept
  intro s v w shows
  obtain ⟨s', there, same⟩ := found_of_rel_left surface shows.found
  obtain ⟨w', there', output⟩ := found_of_rel_left (views v) shows.there
  obtain ⟨role, size, -⟩ := looks_eq same
  exact ⟨⟨s', there, role.trans shows.role, size⟩, w', there', output.trans shows.output⟩

section

variable (pictured : c.Pictured)
include pictured

/-- Changes that leave all pictures alone, and where surfaces are shown. -/
theorem Pictured.same (later : Later c c') (surfaces : SameSurfaces c c')
    (views : ∀ v, Option.Rel (fun w w' => w'.output = w.output) (c.views.get? v) (c'.views.get? v))
    (outputs : ∀ o, Option.Rel (fun p p' => (∀ k, p'.picture? k = p.picture? k) ∧
      (p.Sound c.nextIds.image → p'.Sound c.nextIds.image)) (c.outputs.get? o) (c'.outputs.get? o)) :
    c'.Pictured := by
  apply pictured.step later
  · intro k s' found'
    obtain ⟨s, found, same⟩ := found_of_rel (surfaces k) found'
    exact backed_of_look (pictured.backed k s found) (looks_eq same).2
  · intro o p' found'
    obtain ⟨p, found, pictures, sound⟩ := found_of_rel (outputs o) found'
    have depicts := pictured.depicts o p found
    refine ⟨(sound depicts.sound).mono later.nextImage, ?_⟩
    intro k image picture'
    exact (depicts.fits k image (pictures k ▸ picture')).same (surfaces k) views

variable (linked : c.Linked)
include linked

theorem Pictured.surfaceAdded (change : SurfaceAdded c c') : c'.Pictured := by
  have fresh := linked.surface_fresh
  apply pictured.step change.toLater
  · intro k s' found'
    by_cases new : k = c.nextIds.surface
    · obtain ⟨s, found, look⟩ := change.new
      cases (new ▸ found').symm.trans found
      have size : s'.size = Size.zero := congrArg (·.2.2.1) look
      -- A new surface has no proper size.
      intro proper
      simp [size, Size.zero, Size.isProper] at proper
    · obtain ⟨s, found, same⟩ := found_of_rel (change.surfaces k new) found'
      exact backed_of_look (pictured.backed k s found) (looks_eq same).2
  · intro o p found
    have depicts := pictured.depicts o p (change.outputs ▸ found)
    refine ⟨depicts.sound.mono change.nextImage, ?_⟩
    intro k image picture
    have fits := depicts.fits k image picture
    obtain ⟨s, v, w, shows⟩ := shown_iff.1 fits.shown
    -- The new surface is shown nowhere, so the picture is of an old one.
    have old : k ≠ c.nextIds.surface := fun new => by simp [← new, shows.found] at fresh
    exact fits.same (change.surfaces k old) change.views.output

theorem Pictured.viewAdded {k : SurfaceId} {s : Surface} (change : ViewAdded c c' k s) :
    c'.Pictured := by
  have fresh := linked.view_fresh
  have surfaces (x) := rel_mono (change.surfaces x) (S := fun t t' =>
      (x ≠ k → t'.view = t.view) ∧ t'.size = t.size ∧ t'.buffer = t.buffer) fun t t' _ same => by
    split at same <;> simp_all [Surface.look, Surface.buffer]
  apply pictured.step change.toLater
  · intro x t' found'
    obtain ⟨t, found, -, same⟩ := found_of_rel (surfaces x) found'
    exact backed_of_look (pictured.backed x t found) same
  · intro o p found
    have depicts := pictured.depicts o p (change.outputs ▸ found)
    refine ⟨depicts.sound.mono change.nextImage, ?_⟩
    intro x image picture
    apply (depicts.fits x image picture).kept
    intro t v w shows
    -- A surface without a view is shown nowhere.
    have other : x ≠ k := fun same => by
      cases (same ▸ shows.found).symm.trans change.found
      exact absurd shows.role (by simp [change.bare])
    have old : v ≠ c.nextIds.view := fun new => by simp [← new, shows.there] at fresh
    obtain ⟨t', there, role, size, -⟩ := found_of_rel_left (surfaces x) shows.found
    obtain ⟨w', there', look⟩ := found_of_rel_left (change.views v old) shows.there
    obtain ⟨-, -, output, -⟩ := View.look_eq_iff.1 look
    exact ⟨⟨t', there, (role other).trans shows.role, size⟩, w', there', output.trans shows.output⟩

end

/-! ### A view leaves an output -/

/-- All surfaces but the one of a view are shown where they were. -/
structure Beside (c c' : Compositor) (v : ViewId) (view : View) : Prop where
  found : c.views.get? v = some view
  surfaces : ∀ k, k ≠ view.surface → Option.Rel (fun s s' => s'.view = s.view ∧ s'.size = s.size)
    (c.surfaces.get? k) (c'.surfaces.get? k)
  views : ∀ w, w ≠ v →
    Option.Rel (fun x x' => x'.output = x.output) (c.views.get? w) (c'.views.get? w)
  nextImage : c.nextIds.image.number ≤ c'.nextIds.image.number

variable {v : ViewId} {view : View} {o : OutputId} {p : Output}

/-- An output has pictures only of surfaces whose views it shows. -/
theorem Depicts.not_pictured (depicts : c.Depicts o p) (linked : c.Linked)
    (found : c.views.get? v = some view) (elsewhere : view.output ≠ some o) :
    p.picture? view.surface = none := by
  -- A picture would mean that the output shows the surface, and so the view.
  cases picture : p.picture? view.surface with
  | none => rfl
  | some image =>
    obtain ⟨s, w, x, there, role, there', output⟩ :=
      shown_iff.1 (depicts.fits _ image picture).shown
    obtain ⟨t, there'', role'⟩ := linked.surface_exists v view found
    cases there.symm.trans there''
    cases role.symm.trans role'
    cases there'.symm.trans found
    exact absurd output elsewhere

theorem Fits.beside {k : SurfaceId} {image : Image} (fits : c.Fits o k image) (linked : c.Linked)
    (beside : Beside c c' v view) (other : k ≠ view.surface) : c'.Fits o k image := by
  apply fits.kept
  intro s w x shows
  -- Another surface has another view.
  have elsewhere : w ≠ v := fun same => by
    obtain ⟨y, there, surface⟩ := linked.view_exists k s w shows.found shows.role
    cases (same ▸ there).symm.trans beside.found
    exact other surface.symm
  obtain ⟨s', there, role, size⟩ := found_of_rel_left (beside.surfaces k other) shows.found
  obtain ⟨x', there', output⟩ := found_of_rel_left (beside.views w elsewhere) shows.there
  exact ⟨⟨s', there, role.trans shows.role, size⟩, x', there', output.trans shows.output⟩

/-- The output that the view leaves drops the picture of its surface. -/
theorem Depicts.left (depicts : c.Depicts o p) (linked : c.Linked) (beside : Beside c c' v view) :
    c'.Depicts o ((p.removeView v).detach view.surface).schedule := by
  have gone (k) : ((p.removeView v).detach view.surface).schedule.picture? k =
      if k = view.surface then none else p.picture? k :=
    Output.picture?_detach depicts.sound view.surface k
  refine ⟨(Output.sound_detach depicts.sound view.surface).mono beside.nextImage, ?_⟩
  intro k image picture
  rw [gone] at picture
  split at picture
  next => simp at picture
  next other => exact (depicts.fits k image picture).beside linked beside other

/-- An output that the view was not on keeps its pictures. -/
theorem Depicts.elsewhere (depicts : c.Depicts o p) (linked : c.Linked) (beside : Beside c c' v view)
    (elsewhere : view.output ≠ some o) {p' : Output} (same : p'.renderer = p.renderer) :
    c'.Depicts o p' where
  sound r there := (depicts.sound r (same ▸ there)).mono beside.nextImage
  fits k image picture := by
    rw [Output.picture?, same] at picture
    apply (depicts.fits k image picture).beside linked beside
    intro here
    rw [here, ← Output.picture?, depicts.not_pictured linked beside.found elsewhere] at picture
    simp at picture

theorem Pictured.viewGone (pictured : c.Pictured) (linked : c.Linked)
    (change : ViewGone c c' v view) : c'.Pictured := by
  have surfaces (k) := rel_mono (change.surfaces k) (S := fun s s' =>
      (k ≠ view.surface → s'.view = s.view) ∧ s'.size = s.size ∧ s'.buffer = s.buffer)
      fun s s' _ same => by
    split at same <;> simp_all [Surface.look, Surface.buffer]
  have beside : Beside c c' v view := by
    refine ⟨change.found, ?_, ?_, change.nextImage⟩
    · intro k other
      exact rel_mono (surfaces k) fun s s' _ same => ⟨same.1 other, same.2.1⟩
    · intro w other
      exact rel_mono (change.views w other) fun x x' _ same => by simp_all [View.look]
  apply pictured.step change.toLater
  · intro k s' found'
    obtain ⟨s, found, -, same⟩ := found_of_rel (surfaces k) found'
    exact backed_of_look (pictured.backed k s found) same
  · intro o p' found'
    obtain ⟨p, found, after⟩ := found_of_rel (change.outputs o) found'
    have depicts := pictured.depicts o p found
    split at after
    next => exact after ▸ depicts.left linked beside
    next elsewhere => exact depicts.elsewhere linked beside elsewhere (after ▸ rfl)

theorem Pictured.moved (pictured : c.Pictured) (linked : c.Linked) {target : Option OutputId}
    (change : Moved c c' v view target) : c'.Pictured := by
  have views (w) := rel_mono (change.views w) (S := fun x x' =>
      x'.output = if w = v then target else x.output) fun x x' _ same => by
    split at same <;> simp_all [View.look]
  have beside : Beside c c' v view := by
    refine ⟨change.found, ?_, ?_, change.nextImage⟩
    · intro k _
      exact rel_mono (change.surfaces k) fun s s' _ same => ⟨(looks_eq same).1, (looks_eq same).2.1⟩
    · intro w other
      exact rel_mono (views w) fun x x' _ same => by rw [same, if_neg other]
  apply pictured.step change.toLater
  · intro k s' found'
    obtain ⟨s, found, same⟩ := found_of_rel (change.surfaces k) found'
    exact backed_of_look (pictured.backed k s found) (looks_eq same).2
  · intro o p' found'
    obtain ⟨p, found, after⟩ := found_of_rel (change.outputs o) found'
    have depicts := pictured.depicts o p found
    split at after
    next => exact after ▸ depicts.left linked beside
    next elsewhere =>
      split at after
      next here =>
        -- Nothing was imported, or the picture of the surface that joined was.
        rcases after.renderer with ⟨same, -⟩ | replaced
        · exact depicts.elsewhere linked beside elsewhere same
        obtain ⟨sound', replaced⟩ := replaced depicts.sound
        refine ⟨sound', ?_⟩
        intro k image picture
        by_cases other : k = view.surface
        · subst other
          obtain ⟨b, content, size⟩ := replaced.size picture
          obtain ⟨s, there, role⟩ := linked.surface_exists v view change.found
          obtain ⟨s', there', same⟩ := found_of_rel_left (change.surfaces view.surface) there
          obtain ⟨role', size', -⟩ := looks_eq same
          obtain ⟨w', new, output⟩ := found_of_rel_left (views v) change.found
          rw [if_pos rfl] at output
          refine ⟨shown_iff.2 ⟨s', v, w', there', role'.trans role, new, output.trans here⟩, ?_⟩
          intro t again mapped
          cases there'.symm.trans again
          -- A buffer found under the name is the one that was committed, however long ago.
          obtain ⟨id, buffer, -, backed⟩ :=
            pictured.backed view.surface s there (by rwa [Surface.isMapped, size'] at mapped)
          rw [size, size']
          exact backed b (by simpa [there, buffer] using content)
        · refine (depicts.fits k image ?_).beside linked beside other
          rw [← replaced.others k other, picture]
      next => exact depicts.elsewhere linked beside elsewhere (after ▸ rfl)

/-! ### All changes -/

section

variable (pictured : c.Pictured)
include pictured

theorem Pictured.surfaceGone {k : SurfaceId} {s : Surface} (change : SurfaceGone c c' k s) :
    c'.Pictured := by
  apply pictured.step change.toLater
  · intro x t' found'
    have other : x ≠ k := fun same => by simp [same, change.gone] at found'
    obtain ⟨t, found, same⟩ := found_of_rel (change.surfaces x other) found'
    exact backed_of_look (pictured.backed x t found) (looks_eq same).2
  · intro o p' found'
    obtain ⟨p, found, rfl⟩ := found_of_rel (change.outputs o) found'
    have depicts := pictured.depicts o p found
    refine ⟨(Output.sound_detach depicts.sound k).mono change.nextImage, ?_⟩
    intro x image picture
    rw [Output.picture?_detach depicts.sound] at picture
    split at picture
    next => simp at picture
    next other =>
      exact (depicts.fits x image picture).same (change.surfaces x other) change.views.output

theorem Pictured.outputAdded {p : Output} (change : OutputAdded c c' p) : c'.Pictured := by
  apply pictured.step change.toLater
  · intro k s' found'
    obtain ⟨s, found, same⟩ := found_of_rel (change.surfaces k) found'
    exact backed_of_look (pictured.backed k s found) (looks_eq same).2
  · intro o p' found'
    rw [change.outputs] at found'
    split at found'
    next =>
      cases found'
      exact ⟨change.sound, fun k image picture => by simp [change.pictures] at picture⟩
    next =>
      have depicts := pictured.depicts o p' found'
      refine ⟨depicts.sound.mono change.nextImage, ?_⟩
      intro k image picture
      exact (depicts.fits k image picture).same (change.surfaces k) change.views.output

theorem Pictured.outputGone {o : OutputId} (change : OutputGone c c' o) : c'.Pictured := by
  apply pictured.step change.toLater
  · intro k s' found'
    obtain ⟨s, found, same⟩ := found_of_rel (change.surfaces k) found'
    exact backed_of_look (pictured.backed k s found) (looks_eq same).2
  · intro x p found'
    rw [change.outputs] at found'
    split at found'
    next => simp at found'
    next other =>
      have depicts := pictured.depicts x p found'
      refine ⟨depicts.sound.mono change.nextImage, ?_⟩
      intro k image picture
      apply (depicts.fits k image picture).kept
      intro s v w shows
      obtain ⟨s', there, same⟩ := found_of_rel_left (change.surfaces k) shows.found
      obtain ⟨w', there', look⟩ := found_of_rel_left (change.views v) shows.there
      rw [if_neg fun gone => other (Option.some.inj (shows.output.symm.trans gone))] at look
      obtain ⟨-, -, output, -⟩ := View.look_eq_iff.1 look
      obtain ⟨role, size, -⟩ := looks_eq same
      exact ⟨⟨s', there, role.trans shows.role, size⟩, w', there', output.trans shows.output⟩

theorem Pictured.committed {k : SurfaceId} {s s' : Surface} {content : Option Buffer}
    (change : Committed c c' k s s' content) : c'.Pictured := by
  apply pictured.step change.toLater
  · intro x t' found'
    obtain ⟨t, found, look⟩ := found_of_rel (change.surfaces x) found'
    split at look
    next =>
      obtain ⟨-, size, buffer⟩ := looks_eq look
      rw [size, buffer, change.size]
      exact backed_of_record pictured.named change.attached
    next => exact backed_of_look (pictured.backed x t found) (looks_eq look).2
  · intro o p' found'
    obtain ⟨p, found, after⟩ := found_of_rel (change.outputs o) found'
    have depicts := pictured.depicts o p found
    have kept {x image} (fits : c.Fits o x image) (other : x ≠ k) : c'.Fits o x image := by
      refine fits.same (rel_mono (change.surfaces x) ?_) change.views.output
      intro t t' _ look
      rwa [if_neg other] at look
    split at after
    next here =>
      obtain ⟨sound', replaced⟩ := after.2 depicts.sound
      refine ⟨sound', ?_⟩
      intro x image picture
      by_cases other : x = k
      · subst other
        -- The picture that was imported is one of the committed buffer, whose size the surface took.
        obtain ⟨b, rfl, size⟩ := replaced.size picture
        obtain ⟨t, v, w, shows⟩ := shown_iff.1 here
        cases shows.found.symm.trans change.found
        obtain ⟨t', there, look⟩ := found_of_rel_left (change.surfaces x) change.found
        rw [if_pos rfl] at look
        obtain ⟨w', there', output⟩ := found_of_rel_left (change.views.output v) shows.there
        obtain ⟨role', size', -⟩ := looks_eq look
        refine ⟨shown_iff.2 ⟨t', v, w', there, (role'.trans change.view).trans shows.role, there',
          output.trans shows.output⟩, fun y again _ => ?_⟩
        cases there.symm.trans again
        rw [size, size', change.size]
        rfl
      · exact kept (depicts.fits x image (by rw [← replaced.others x other, picture])) other
    next elsewhere =>
      subst after
      refine ⟨depicts.sound.mono change.nextImage, ?_⟩
      intro x image picture
      exact kept (depicts.fits x image picture) fun same =>
        elsewhere (same ▸ (depicts.fits x image picture).shown)

theorem Pictured.change (linked : c.Linked) (change : Change c c') : c'.Pictured := by
  cases change with
  | moved v view target change => exact pictured.moved linked change
  | committed k s s' content change => exact pictured.committed change
  | minor change => cases change with
    | quiet change =>
      apply pictured.same change.toLater change.surfaces change.views.output
      intro o
      apply rel_mono (change.outputs o)
      intro p p' _ steady
      exact ⟨fun k => by rw [Output.picture?, steady.renderer, Output.picture?],
        fun sound r there => sound r (steady.renderer ▸ there)⟩
    | surfaceAdded change => exact pictured.surfaceAdded linked change
    | viewAdded k s change => exact pictured.viewAdded linked change
    | viewGone v view change => exact pictured.viewGone linked change
    | surfaceGone k s change => exact pictured.surfaceGone change
    | outputAdded p change => exact pictured.outputAdded change
    | outputGone o change => exact pictured.outputGone change
    | placed v view view' change =>
      refine pictured.same change.toLater change.surfaces (fun w => ?_) fun o =>
        rel_mono (change.outputs o) fun p p' _ after => ?_
      · apply rel_mono (change.views w)
        intro x x' found same
        split at same
        next here =>
          cases (here ▸ found).symm.trans change.found
          simp_all [View.look, change.output]
        next => simp_all [View.look]
      · split at after <;> exact after ▸ ⟨fun _ => rfl, fun sound => sound⟩
    | rearranged o change =>
      apply pictured.same change.toLater change.surfaces change.views.output
      intro x
      apply rel_mono (change.outputs x)
      intro p p' _ after
      split at after
      · exact ⟨after.2.1, after.2.2.1 _⟩
      · exact after ▸ ⟨fun _ => rfl, fun sound => sound⟩

theorem Pictured.rendered {o : OutputId} (change : Rendered c c' o) : c'.Pictured := by
  apply pictured.same change.toLater change.surfaces change.views.output
  intro x
  apply rel_mono (change.outputs x)
  intro p p' _ after
  split at after
  · obtain ⟨-, -, -, -, -, pictures, sound, -⟩ := after
    exact ⟨pictures, sound _⟩
  · exact ⟨fun k => by rw [Output.picture?, after.renderer, Output.picture?],
      fun sound r there => sound r (after.renderer ▸ there)⟩

end

theorem Reachable.pictured (reached : c.Reachable) : c.Pictured :=
  (reached.keeps (I := Pictured) start_pictured (fun _ _ linked pictured => pictured.change linked)
    fun _ _ _ _ pictured => pictured.rendered).2.2

end Compositing.Compositor
