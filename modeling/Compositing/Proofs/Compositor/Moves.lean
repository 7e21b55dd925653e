import Compositing.Proofs.Compositor.Painting
import Compositing.Proofs.Compositor.Retention

/-!
# Views that go to another output

Outputs share no images, so the output that a view joins makes its own: of the buffer that the surface
shows, as it is when the view moves. That is what the old output drew as long as nobody touched the
buffer since the last commit, `Reachable.setViewOutput_draws`. A client that did touch it sees its
edits on the new output without a commit, `touched_moves`.
-/

namespace Compositing.Compositor

variable {c : Compositor} {k : SurfaceId}

/-- The states that requests lead to which leave what is in the buffer of the surface as it was, but
for commits of the surface. -/
inductive Untouched (k : SurfaceId) : Compositor → Prop
  | start (config : Config) (contexts : Contexts) : Untouched k { config, contexts }
  | handle {c : Compositor} (before : Untouched k c) (host : Host) (request : Request)
      (kept : request = .commit k ∨ (c.handle host request).2.recorded? k = c.recorded? k) :
      Untouched k (c.handle host request).2
  | collect {c : Compositor} (before : Untouched k c) : Untouched k c.collect.2

theorem Untouched.reachable (untouched : Untouched k c) : c.Reachable := by
  induction untouched with
  | start config contexts => exact .start config contexts
  | handle _ host request _ ih => exact ih.handle host request
  | collect _ ih => exact ih.collect

/-- What is drawn of the surface is what is in its buffer. -/
theorem Untouched.draws (untouched : Untouched k c) : c.Draws k (c.recorded? k) := by
  induction untouched with
  | start => exact fun o p _ found => by simp at found
  | @handle c before host request kept ih =>
    rcases before.reachable.stays_or_imports host request k with ⟨stays, commits⟩ | imports
    · -- Neither the picture nor what is in the buffer changed.
      have same := kept.elim commits id
      exact same ▸ ih.stays stays
    · exact imports
  | @collect c _ ih => exact ih.stays ((quiet_collect c).stays k)

section

variable (linked : c.Linked) {v : ViewId} {view : View} (found : c.views.get? v = some view)
include linked found

/-- A surface is shown where its view is. -/
theorem outputOfSurface?_of_view : c.outputOfSurface? view.surface = view.output := by
  obtain ⟨s, there, role⟩ := linked.surface_exists v view found
  simp [outputOfSurface?, outputOf?, there, role, found]

end

/-- A view that moves from one output to another is drawn there with what is in the buffer of its
surface now. If the buffer was left alone since the last commit, that is what the old output drew. -/
theorem Reachable.setViewOutput_draws (reached : c.Reachable) (host : Host) {v : ViewId} {view : View}
    {o o' : OutputId} {p p' : Output} (found : c.views.get? v = some view)
    (shown : view.output = some o) (apart : o ≠ o') (source : c.outputs.get? o = some p)
    (memory : p.display?.isSome) (target : c.outputs.get? o' = some p')
    (memory' : p'.display?.isSome) :
    (c.setViewOutput host v (some o')).1 = true ∧
    ∃ q, (c.setViewOutput host v (some o')).2.outputs.get? o' = some q ∧
      q.picture? view.surface = c.recorded? view.surface ∧
      (Untouched view.surface c → q.picture? view.surface = p.picture? view.surface) := by
  have linked := reached.linked
  have pictured := reached.pictured
  have away : view.output ≠ some o' := fun same => apart (Option.some.inj (shown.symm.trans same))
  obtain ⟨done, d, moved, quiet⟩ := setViewOutput_moved host found away fun x same =>
    ⟨p', Option.some.inj same ▸ target⟩
  refine ⟨done, ?_⟩
  -- The output that was joined renders in memory as before, and shows the surface now.
  obtain ⟨q₁, found₁, joined⟩ := found_of_rel_left (moved.outputs o') target
  rw [if_neg away, if_pos rfl] at joined
  obtain ⟨q, found', steady⟩ := found_of_rel_left (quiet.outputs o') found₁
  have display : q.display? = p'.display? := by
    rw [Output.display?, steady.renderer]
    exact joined.display (pictured.depicts o' p' target).sound
  have linked₁ := linked.change (.moved v view (some o') moved)
  have linked' := linked₁.change (.minor (.quiet quiet))
  obtain ⟨w₁, there₁, look₁⟩ := found_of_rel_left (moved.views v) found
  obtain ⟨w, there, look⟩ := found_of_rel_left (quiet.views v) there₁
  rw [if_pos rfl] at look₁
  obtain ⟨-, surface, output, -⟩ := View.look_eq_iff.1 (look.trans look₁)
  have here := outputOfSurface?_of_view linked' there
  rw [surface, output] at here
  have drawn := ((moved.draws linked pictured).stays (quiet.stays _)) o' q here found'
  obtain ⟨size, memory'⟩ := Option.isSome_iff_exists.1 memory'
  rw [display, memory', Option.bind_some] at drawn
  refine ⟨q, found', drawn, fun untouched => ?_⟩
  obtain ⟨size, memory⟩ := Option.isSome_iff_exists.1 memory
  have before := untouched.draws o p ((outputOfSurface?_of_view linked found).trans shown) source
  rw [drawn, before, memory, Option.bind_some]

/-- A surface is shown on one of two outputs. -/
def untouchedRequests : List Request := onePixelRequests ++ [.addOutput "other" ⟨2, 1⟩]

def untouchedPixel : Compositor :=
  ({ config := {}, contexts := .standard } : Compositor).run
    (untouchedRequests.map (Prod.mk .willing))

theorem untouchedPixel_moves : Untouched ⟨1⟩ untouchedPixel ∧ ∃ p q image,
    untouchedPixel.outputs.get? ⟨1⟩ = some p ∧ p.picture? ⟨1⟩ = some image ∧
    image.pixels = #[0x123456] ∧
    (untouchedPixel.setViewOutput .willing ⟨1⟩ (some ⟨2⟩)).2.outputs.get? ⟨2⟩ = some q ∧
    q.picture? ⟨1⟩ = some image := by
  have registered := ((Untouched.start (k := ⟨1⟩) {} .standard).handle .willing
    (.createSurface ⟨1⟩ 1) (.inr rfl)).handle .willing (.pool (.register
      { memory := .shared, size := ⟨1, 1⟩, stride := 4, format := .xrgb, owner := none })) (.inr rfl)
  have attached := (registered.handle .willing (.pool (.setContents ⟨1⟩ #[0x123456]))
    (.inr rfl)).handle .willing (.attach ⟨1⟩ (some ⟨1⟩) ⟨0, 0⟩) (.inr rfl)
  have placed := ((attached.handle .willing (.commit ⟨1⟩) (.inl rfl)).handle .willing
    (.addOutput "screen" ⟨2, 1⟩) (.inr rfl)).handle .willing (.createView ⟨1⟩ ⟨⟨1⟩, 2⟩) (.inr rfl)
  have shown := (placed.handle .willing (.setViewOutput ⟨1⟩ (some ⟨1⟩)) (.inr rfl)).handle .willing
    (.setViewGeometry ⟨1⟩ ⟨⟨1, 0⟩, ⟨1, 1⟩⟩) (.inr rfl)
  have untouched : Untouched ⟨1⟩ untouchedPixel :=
    shown.handle .willing (.addOutput "other" ⟨2, 1⟩) (.inr rfl)
  obtain ⟨-, q, found, -, same⟩ := untouched.reachable.setViewOutput_draws .willing
    (show untouchedPixel.views.get? ⟨1⟩ = some _ from rfl) rfl
    (show OutputId.mk 1 ≠ ⟨2⟩ by decide)
    (show untouchedPixel.outputs.get? ⟨1⟩ = some _ from rfl) rfl
    (show untouchedPixel.outputs.get? ⟨2⟩ = some _ from rfl) rfl
  exact ⟨untouched, _, q, _, rfl, rfl, rfl, found, same untouched⟩

/-- What an output draws of a surface, word by word. -/
def words? (c : Compositor) (o : OutputId) (k : SurfaceId) : Option (Array UInt32) :=
  ((c.outputs.get? o).bind (·.picture? k)).map (·.pixels)

/-- The client edits a buffer that is shown, or destroys it, and commits nothing. Then the view moves,
and what is drawn of it changes. -/
theorem touched_moves :
    let edited := (untouchedPixel.handle .willing (.pool (.setContents ⟨1⟩ #[0x654321]))).2
    let destroyed := (untouchedPixel.handle .willing (.destroyBuffer ⟨1⟩)).2
    (edited.Reachable ∧ (edited.surfaces.get? ⟨1⟩).any (·.isMapped) ∧
      edited.words? ⟨1⟩ ⟨1⟩ = some #[0x123456] ∧
      (edited.setViewOutput .willing ⟨1⟩ (some ⟨2⟩)).2.words? ⟨2⟩ ⟨1⟩ = some #[0x654321]) ∧
    destroyed.Reachable ∧ (destroyed.surfaces.get? ⟨1⟩).any (·.isMapped) ∧
      destroyed.words? ⟨1⟩ ⟨1⟩ = some #[0x123456] ∧
      (destroyed.setViewOutput .willing ⟨1⟩ (some ⟨2⟩)).2.words? ⟨2⟩ ⟨1⟩ = none := by
  intro edited destroyed
  have reached : untouchedPixel.Reachable := (Reachable.start _ _).run _
  exact ⟨⟨reached.handle _ _, rfl, rfl, rfl⟩, reached.handle _ _, rfl, rfl, rfl⟩

end Compositing.Compositor
