import Compositing.Proofs.Compositor.Frames

/-!
# The passes of a request to render

A request for a render pass runs one pass on every output that is due. The pass hands the screen of the
output one frame, that of the state before all passes. No image is ever stretched.
-/

namespace Compositing.Compositor

variable {c : Compositor}

/-- The passes of a request to render, each with what the host was told in it. -/
def passesOver (host : Host) (time : UInt32) :
    List OutputId → Compositor → List (OutputId × List Event)
  | [], _ => []
  | id :: due, c => (id, (c.pass host time id).log.drop c.log.length) ::
      passesOver host time due (c.pass host time id)

def passes (c : Compositor) (host : Host) (time : UInt32) : List (OutputId × List Event) :=
  passesOver host time c.dueOutputs c

theorem fst_passesOver (host : Host) (time : UInt32) (due : List OutputId) (c : Compositor) :
    (passesOver host time due c).map Prod.fst = due := by
  induction due generalizing c with
  | nil => rfl
  | cons id due ih => rw [passesOver, List.map_cons, ih]

theorem filter_passesOver_of_absent (host : Host) (time : UInt32) {due : List OutputId} {id : OutputId}
    (absent : id ∉ due) : (passesOver host time due c).filter (·.1 = id) = [] := by
  apply List.filter_eq_nil_iff.2
  intro entry member
  have key := List.mem_map_of_mem (f := Prod.fst) member
  rw [fst_passesOver] at key
  simpa using ne_of_mem_of_not_mem key absent

/-- Requests that show a surface of one pixel, at the right end of an output of two. -/
def onePixelRequests : List Request :=
  [.createSurface ⟨1⟩ 1,
    .pool (.register
      { memory := .shared, size := ⟨1, 1⟩, stride := 4, format := .xrgb, owner := none }),
    .pool (.setContents ⟨1⟩ #[0x123456]), .attach ⟨1⟩ (some ⟨1⟩) ⟨0, 0⟩, .commit ⟨1⟩,
    .addOutput "screen" ⟨2, 1⟩, .createView ⟨1⟩ ⟨⟨1⟩, 2⟩, .setViewOutput ⟨1⟩ (some ⟨1⟩),
    .setViewGeometry ⟨1⟩ ⟨⟨1, 0⟩, ⟨1, 1⟩⟩]

def onePixel : Compositor :=
  ({ config := {}, contexts := .standard } : Compositor).run
    (onePixelRequests.map (Prod.mk .willing))

end Compositing.Compositor
