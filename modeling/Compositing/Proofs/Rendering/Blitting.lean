import Compositing.Proofs.Rendering.Layers
import Mathlib

/-!
# Drawing row by row

Drawing an image, as it is done row by row and pixel by pixel in machine words. Every number on the way is
checked to be a word of 64 bits and every place to be inside its pixels, so this can fail where
`Framebuffer.draw` cannot. Main statements: `Framebuffer.blit?_eq_some_iff`, that it fails exactly if a
covered pixel lies too far into the image for words, and gives the same picture else, and
`Canvas.draw_exact`, which pixel of the image each pixel of the picture is made of.
-/

namespace Compositing

namespace Blit

/-! ### Machine words -/

/-- The number, if it is a signed word of 64 bits. -/
def signed? (n : Int) : Option Int :=
  if -9223372036854775808 ≤ n ∧ n ≤ 9223372036854775807 then some n else none

/-- The number, if it is an unsigned word of 64 bits. -/
def unsigned? (n : Int) : Option Nat := if 0 ≤ n ∧ n ≤ 18446744073709551615 then some n.toNat else none

/-- The place along a side of an image that belongs to an offset into an extent. Division cuts off what
is left over, and there is none by zero. -/
def scaled? (offset side extent : Int) : Option Int := do
  let product ← signed? (offset * side)
  if extent = 0 then none else signed? (product.tdiv extent)

/-- The numbers from the first on up to, but not including, the last. -/
def span (first last : Int) : List Int := (List.range (last - first).toNat).map fun (k : Nat) => first + k

theorem signed?_eq {n : Int} (low : -9223372036854775808 ≤ n)
    (high : n ≤ 9223372036854775807) : signed? n = some n :=
  if_pos ⟨low, high⟩

theorem unsigned?_eq {n : Nat} (high : n < 2 ^ 64) : unsigned? n = some n := by
  rw [unsigned?, if_pos (by omega), Int.toNat_natCast]

theorem scaled_lt {offset side extent : Nat} (within : offset < extent) (proper : 0 < side) :
    offset * side / extent < side :=
  Nat.div_lt_of_lt_mul (Nat.mul_lt_mul_of_pos_right within proper)

theorem scaled?_eq {offset side extent : Nat} (within : offset < extent)
    (product : offset * side < 2 ^ 63) :
    scaled? offset side extent = some ((offset * side / extent : Nat) : Int) := by
  have word {n : Nat} (le : n ≤ offset * side) : signed? (n : Int) = some (n : Int) := by
    have lt : n < 2 ^ 63 := Nat.lt_of_le_of_lt le product
    exact signed?_eq (by omega) (by omega)
  have nonzero : ¬(extent : Int) = 0 := by omega
  simp only [scaled?, Option.bind_eq_bind]
  rw [← Int.natCast_mul, word (Nat.le_refl _), Option.bind_some, if_neg nonzero, ← Int.ofNat_tdiv,
    word (Nat.div_le_self ..)]

/-- What is scaled was multiplied in words. -/
theorem product_of_scaled? {offset side extent n : Int} (scaled : scaled? offset side extent = some n) :
    offset * side < 2 ^ 63 := by
  obtain ⟨product, word, -⟩ := Option.bind_eq_some_iff.1 scaled
  unfold signed? at word
  split at word
  · omega
  · cases word

theorem mem_span {first last k : Int} : k ∈ span first last ↔ first ≤ k ∧ k < last := by
  simp only [span, List.mem_map, List.mem_range]
  constructor
  · rintro ⟨n, below, rfl⟩
    omega
  · rintro ⟨from_, below⟩
    exact ⟨(k - first).toNat, by omega, by omega⟩

/-- A loop that does not fail fails in none of its steps. -/
theorem step_of_foldlM {σ α : Type} {step : σ → α → Option σ} {list : List α} {s s' : σ}
    (done : list.foldlM step s = some s') {x : α} (member : x ∈ list) : ∃ t t', step t x = some t' := by
  induction list generalizing s with
  | nil => cases member
  | cons y list ih =>
    obtain ⟨t, first, rest⟩ := Option.bind_eq_some_iff.1 done
    rcases List.mem_cons.1 member with rfl | later
    · exact ⟨s, t, first⟩
    · exact ih rest later

/-- A loop that takes each of its states to the next ends in the last one. -/
theorem foldlM_span {σ : Type} {step : σ → Int → Option σ} (state : Int → σ) {first last : Int}
    (le : first ≤ last)
    (steps : ∀ k, first ≤ k → k < last → step (state k) k = some (state (k + 1))) :
    (span first last).foldlM step (state first) = some (state last) := by
  obtain ⟨n, rfl⟩ : ∃ n : Nat, last = first + n := ⟨(last - first).toNat, by omega⟩
  rw [span, show (first + n - first).toNat = n by omega]
  clear le
  induction n with
  | zero => simp
  | succ n ih =>
    have now := steps (first + n) (by omega) (by omega)
    rw [List.range_succ, List.map_append, List.foldlM_append,
      ih fun k from_ below => steps k from_ (by omega)]
    simp [now, Int.add_assoc]

end Blit

open Blit

/-! ### The loops -/

namespace Framebuffer

/-- The row of an image as it is stored. -/
def turned? (image : Image) (row : Int) : Option Int :=
  if image.yInverted then do
    let last ← signed? (image.size.height.toNat - 1)
    signed? (last - row)
  else some row

/-- Where a row of the image begins, and the row of the framebuffer that it is drawn on. -/
def rowStarts? (fb : Framebuffer) (image : Image) (p : Placement) (y : Int) :
    Option (Nat × Nat) := do
  let offset ← signed? (y - p.origin.y.toInt)
  let row ← scaled? offset image.size.height.toNat p.size.height.toNat
  let turned ← turned? image row
  let stored ← unsigned? turned
  let source ← unsigned? (stored * image.size.width.toNat)
  let line ← unsigned? y
  let target ← unsigned? (line * fb.size.width.toNat)
  return (source, target)

/-- Draws one pixel, given where the rows begin. -/
def blitPixel? (image : Image) (p : Placement) (source target : Nat) (pixels : Array UInt32) (x : Int) :
    Option (Array UInt32) := do
  let offset ← signed? (x - p.origin.x.toInt)
  let scaled ← scaled? offset image.size.width.toNat p.size.width.toNat
  let column ← unsigned? scaled
  let shown ← unsigned? (source + column : Nat)
  let word ← image.pixels[shown]?
  let along ← unsigned? x
  let place ← unsigned? (target + along : Nat)
  let old ← pixels[place]?
  return pixels.setIfInBounds place (image.draw word old)

/-- Draws one row, between two columns. -/
def blitRow? (fb : Framebuffer) (image : Image) (p : Placement) (left right : Int)
    (pixels : Array UInt32) (y : Int) : Option (Array UInt32) := do
  let (source, target) ← fb.rowStarts? image p y
  (span left right).foldlM (blitPixel? image p source target) pixels

/-- The pixels after an image was drawn over a placement. The placement is clipped to the framebuffer
first. -/
def blit? (fb : Framebuffer) (image : Image) (p : Placement) : Option (Array UInt32) := do
  let left := max p.origin.x.toInt 0
  let top := max p.origin.y.toInt 0
  let beside ← signed? (p.origin.x.toInt + p.size.width.toNat)
  let below ← signed? (p.origin.y.toInt + p.size.height.toNat)
  let right := min beside fb.size.width.toNat
  let bottom := min below fb.size.height.toNat
  if right ≤ left ∨ bottom ≤ top ∨ p.size.width = 0 ∨ p.size.height = 0 then return fb.pixels
  else (span top bottom).foldlM (fb.blitRow? image p left right) fb.pixels

/-! ### Half finished pictures -/

variable (fb : Framebuffer) (image : Image) (p : Placement)

/-- The pixels after the image was drawn on those that are done. -/
def halfway (done : Nat → Nat → Prop) [∀ x y, Decidable (done x y)] : Array UInt32 :=
  fb.pixels.mapIdx fun i old =>
    let x := i % fb.size.width.toNat
    let y := i / fb.size.width.toNat
    if done x y then image.draw (shown image p x y) old else old

variable {fb image p}

section

variable {done done' : Nat → Nat → Prop} [∀ x y, Decidable (done x y)] [∀ x y, Decidable (done' x y)]
  {x y : Nat}

theorem size_halfway : (fb.halfway image p done).size = fb.size.pixelCount := by
  rw [halfway, Array.size_mapIdx, fb.pixels_size]

theorem pixel_halfway (within : x < fb.size.width.toNat) :
    (fb.halfway image p done)[y * fb.size.width.toNat + x]? =
      (fb.pixel? x y).map fun old => if done x y then image.draw (shown image p x y) old else old := by
  simp only [halfway, Array.getElem?_mapIdx, column_place within, row_place within, pixel?]

/-- Pictures are the same that are the same pixel by pixel. -/
theorem ext_pixels {pixels pixels' : Array UInt32} (size : pixels.size = fb.size.pixelCount)
    (size' : pixels'.size = fb.size.pixelCount)
    (same : ∀ x y, x < fb.size.width.toNat → y < fb.size.height.toNat →
      pixels[y * fb.size.width.toNat + x]? = pixels'[y * fb.size.width.toNat + x]?) :
    pixels = pixels' := by
  refine Array.ext_getElem? fun i => ?_
  rcases Nat.lt_or_ge i fb.size.pixelCount with below | beyond
  · have proper : 0 < fb.size.width.toNat := by
      refine Nat.pos_of_ne_zero fun none => ?_
      simp [Size.pixelCount, none] at below
    have row : i / fb.size.width.toNat < fb.size.height.toNat :=
      Nat.div_lt_of_lt_mul below
    have each := same (i % fb.size.width.toNat) (i / fb.size.width.toNat) (Nat.mod_lt _ proper) row
    rwa [Nat.mul_comm, Nat.div_add_mod] at each
  · rw [Array.getElem?_eq_none (size ▸ beyond), Array.getElem?_eq_none (size' ▸ beyond)]

theorem halfway_congr (same : ∀ x y, x < fb.size.width.toNat → y < fb.size.height.toNat →
    (done x y ↔ done' x y)) : fb.halfway image p done = fb.halfway image p done' := by
  refine ext_pixels size_halfway size_halfway fun x y within within' => ?_
  rw [pixel_halfway within, pixel_halfway within]
  simp only [same x y within within']

theorem place_inj {x' y' : Nat} (within : x < fb.size.width.toNat) (within' : x' < fb.size.width.toNat) :
    y * fb.size.width.toNat + x = y' * fb.size.width.toNat + x' ↔ x' = x ∧ y' = y := by
  refine ⟨fun same => ⟨?_, ?_⟩, fun ⟨column, row⟩ => by rw [column, row]⟩
  · rw [← column_place within', ← same, column_place within]
  · rw [← row_place (y := y') within', ← same, row_place within]

/-- One more pixel is done. -/
theorem set_halfway (within : x < fb.size.width.toNat) {old : UInt32} (there : fb.pixel? x y = some old)
    (grows : ∀ x' y', done' x' y' ↔ done x' y' ∨ (x' = x ∧ y' = y)) :
    (fb.halfway image p done).setIfInBounds (y * fb.size.width.toNat + x)
      (image.draw (shown image p x y) old) = fb.halfway image p done' := by
  refine ext_pixels (by rw [Array.size_setIfInBounds, size_halfway]) size_halfway
    fun x' y' within' row => ?_
  have below := index_lt within' row
  rw [Array.getElem?_setIfInBounds, pixel_halfway within', pixel_halfway within', size_halfway]
  simp only [grows, place_inj within within']
  split
  next here =>
    obtain ⟨rfl, rfl⟩ := here
    simp [below, there]
  next elsewhere => simp only [elsewhere, or_false]

end

/-! ### One pixel and one row -/

/-- The row of an image, as it is stored, that belongs to a row of an area. -/
def storedRow (image : Image) (area : Size) (row : Nat) : Nat :=
  let y := row * image.size.height.toNat / area.height.toNat
  if image.yInverted then image.size.height.toNat - 1 - y else y

/-- The place of the pixel in the image is found by products that are signed words of 64 bits. -/
def Near (image : Image) (p : Placement) (x y : Nat) : Prop :=
  ((x : Int) - p.origin.x.toInt) * image.size.width.toNat < 2 ^ 63 ∧
    ((y : Int) - p.origin.y.toInt) * image.size.height.toNat < 2 ^ 63

/-- All pixels of the framebuffer that the placement covers are near enough. -/
def Fits (size : Size) (image : Image) (p : Placement) : Prop :=
  ∀ x y, x < size.width.toNat → y < size.height.toNat → Covers p x y → Near image p x y

/-- Sides that are signed words of 32 bits are short enough for all placements. -/
theorem fits_of_sides (size : Size) (p : Placement)
    (sides : image.size.width.toNat < 2 ^ 31 ∧ image.size.height.toNat < 2 ^ 31) :
    Fits size image p := by
  have near {offset : Int} {side : Nat} (word : offset < 2 ^ 32) (short : side < 2 ^ 31) :
      offset * side < 2 ^ 63 := by
    rcases lt_or_ge offset 0 with negative | positive
    · have := Int.mul_nonpos_of_nonpos_of_nonneg (Int.le_of_lt negative) (Int.natCast_nonneg side)
      omega
    · obtain ⟨n, rfl⟩ := Int.eq_ofNat_of_zero_le positive
      have product : n * side < 2 ^ 32 * 2 ^ 31 := Nat.mul_lt_mul'' (by omega) short
      rw [← Int.natCast_mul]
      omega
  rintro x y - - ⟨-, right, -, bottom⟩
  have width := p.size.width.toNat_lt
  have height := p.size.height.toNat_lt
  exact ⟨near (by omega) sides.1, near (by omega) sides.2⟩

theorem pixelCount_lt (size : Size) : size.pixelCount < 2 ^ 64 := by
  have sides : size.pixelCount < 2 ^ 32 * 2 ^ 32 :=
    Nat.mul_lt_mul'' size.width.toNat_lt size.height.toNat_lt
  omega

section

variable {x y : Nat} (proper : 0 < image.size.width.toNat ∧ 0 < image.size.height.toNat)

include proper

theorem storedRow_lt {area : Size} {row : Nat} (within : row < area.height.toNat) :
    storedRow image area row < image.size.height.toNat := by
  have scaled := scaled_lt within proper.2
  unfold storedRow
  generalize row * image.size.height.toNat / area.height.toNat = stored at scaled ⊢
  simp only
  split <;> omega

/-- The image has a pixel for every pixel of the placement. -/
theorem getElem?_shown (covers : Covers p x y) :
    image.pixels[storedRow image p.size ((y : Int) - p.origin.y.toInt).toNat *
        image.size.width.toNat +
      ((x : Int) - p.origin.x.toInt).toNat * image.size.width.toNat / p.size.width.toNat]? =
      some (shown image p x y) := by
  obtain ⟨left, right, top, bottom⟩ := covers
  have column := scaled_lt (show ((x : Int) - p.origin.x.toInt).toNat < p.size.width.toNat by omega)
    proper.1
  have row := storedRow_lt proper
    (show ((y : Int) - p.origin.y.toInt).toNat < p.size.height.toNat by omega)
  have below := image.pixels_size ▸ index_lt column row
  rw [Array.getElem?_eq_getElem below]
  simp only [shown, Image.sample, Array.getD_eq_getD_getElem?]
  rw [show (if image.yInverted then _ else _ : Nat) = storedRow image p.size _ from rfl,
    Array.getElem?_eq_getElem below, Option.getD_some]

theorem rowStarts?_eq (near : ((y : Int) - p.origin.y.toInt) * image.size.height.toNat < 2 ^ 63)
    (top : 0 ≤ (y : Int) - p.origin.y.toInt)
    (bottom : (y : Int) - p.origin.y.toInt < p.size.height.toNat) (within : y < fb.size.height.toNat) :
    fb.rowStarts? image p y =
      some (storedRow image p.size ((y : Int) - p.origin.y.toInt).toNat * image.size.width.toNat,
        y * fb.size.width.toNat) := by
  obtain ⟨row, offset⟩ := Int.eq_ofNat_of_zero_le top
  rw [offset] at near
  have extent := p.size.height.toNat_lt
  have below : row < p.size.height.toNat := by omega
  have scaled := scaled_lt below proper.2
  -- The rows that begin here lie inside the image and inside the framebuffer.
  have stored := storedRow_lt proper below
  have source : storedRow image p.size row * image.size.width.toNat < 2 ^ 64 := by
    have start := index_lt proper.1 stored
    have := pixelCount_lt image.size
    omega
  have target : y * fb.size.width.toNat < 2 ^ 64 := by
    have last := Nat.mul_le_mul_right fb.size.width.toNat (Nat.le_of_lt within)
    rw [Nat.mul_comm fb.size.height.toNat] at last
    exact Nat.lt_of_le_of_lt last (pixelCount_lt fb.size)
  have height := fb.size.height.toNat_lt
  have tall := image.size.height.toNat_lt
  have turned : turned? image ((row * image.size.height.toNat / p.size.height.toNat : Nat) : Int) =
      some ((storedRow image p.size row : Nat) : Int) := by
    unfold turned? storedRow
    generalize row * image.size.height.toNat / p.size.height.toNat = shown at scaled ⊢
    simp only
    split
    · rw [signed?_eq (by omega) (by omega), Option.bind_eq_bind, Option.bind_some,
        signed?_eq (by omega) (by omega)]
      exact congrArg some (by omega)
    · rfl
  rw [rowStarts?, offset, signed?_eq (by omega) (by omega)]
  simp only [Option.bind_eq_bind, Option.bind_some]
  rw [scaled?_eq below (by exact_mod_cast near), Option.bind_some, turned, Option.bind_some,
    unsigned?_eq (by omega), Option.bind_some, ← Int.natCast_mul, unsigned?_eq source,
    Option.bind_some, unsigned?_eq (by omega), Option.bind_some, ← Int.natCast_mul,
    unsigned?_eq target]
  rfl

/-- One pixel is drawn without fail. -/
theorem blitPixel?_eq {done done' : Nat → Nat → Prop} [∀ x y, Decidable (done x y)]
    [∀ x y, Decidable (done' x y)] (covers : Covers p x y) (near : Near image p x y)
    (within : x < fb.size.width.toNat) (within' : y < fb.size.height.toNat) (fresh : ¬done x y)
    (grows : ∀ x' y', done' x' y' ↔ done x' y' ∨ (x' = x ∧ y' = y)) :
    blitPixel? image p
      (storedRow image p.size ((y : Int) - p.origin.y.toInt).toNat * image.size.width.toNat)
      (y * fb.size.width.toNat) (fb.halfway image p done) x = some (fb.halfway image p done') := by
  have found := getElem?_shown proper covers
  obtain ⟨left, right, -, -⟩ := covers
  obtain ⟨column, offset⟩ := Int.eq_ofNat_of_zero_le left
  have near := near.1
  rw [offset] at near
  rw [offset, Int.toNat_natCast] at found
  have extent := p.size.width.toNat_lt
  have below : column < p.size.width.toNat := by omega
  have scaled := scaled_lt below proper.1
  have width := fb.size.width.toNat_lt
  have wide := image.size.width.toNat_lt
  generalize storedRow image p.size ((y : Int) - p.origin.y.toInt).toNat * image.size.width.toNat =
    source at found ⊢
  have read : source + column * image.size.width.toNat / p.size.width.toNat < 2 ^ 64 := by
    have inside := (Array.getElem?_eq_some_iff.1 found).1
    rw [image.pixels_size] at inside
    exact Nat.lt_trans inside (pixelCount_lt image.size)
  have place := index_lt within within'
  obtain ⟨old, there⟩ : ∃ old, fb.pixel? x y = some old :=
    ⟨_, Array.getElem?_eq_getElem (fb.pixels_size ▸ place)⟩
  have written := Nat.lt_trans place (pixelCount_lt fb.size)
  have before : (fb.halfway image p done)[y * fb.size.width.toNat + x]? = some old := by
    rw [pixel_halfway within, there, Option.map_some, if_neg fresh]
  rw [blitPixel?, offset, signed?_eq (by omega) (by omega)]
  simp only [Option.bind_eq_bind, Option.bind_some]
  rw [scaled?_eq below (by exact_mod_cast near), Option.bind_some, unsigned?_eq (by omega),
    Option.bind_some, unsigned?_eq read, Option.bind_some, found, Option.bind_some,
    unsigned?_eq (by omega), Option.bind_some, unsigned?_eq written, Option.bind_some, before, Option.bind_some,
    ← set_halfway within there grows]
  rfl

end

/-! ### The whole picture -/

/-- The rows above are done, and in this row what is left of a column. -/
def Reached (p : Placement) (row column : Int) (x y : Nat) : Prop :=
  Covers p x y ∧ ((y : Int) < row ∨ ((y : Int) = row ∧ (x : Int) < column))

instance (p : Placement) (row column : Int) (x y : Nat) : Decidable (Reached p row column x y) :=
  inferInstanceAs (Decidable (_ ∧ _))

theorem halfway_eq_pixels {done : Nat → Nat → Prop} [∀ x y, Decidable (done x y)]
    (none : ∀ x y, x < fb.size.width.toNat → y < fb.size.height.toNat → ¬done x y) :
    fb.halfway image p done = fb.pixels := by
  refine ext_pixels size_halfway fb.pixels_size fun x y within within' => ?_
  simp only [pixel_halfway within, none x y within within', if_false, Option.map_id']
  rfl

theorem draw_pixels : (fb.draw image p).pixels = fb.halfway image p (Covers p) := rfl

section

variable (proper : 0 < image.size.width.toNat ∧ 0 < image.size.height.toNat)
  (fits : Fits fb.size image p)

include proper fits

/-- A row is drawn without fail: what was reached at its left end is reached at its right end. -/
theorem blitRow?_eq {y : Nat} {left right : Int} (lt : left < right)
    (left_eq : left = max p.origin.x.toInt 0)
    (right_eq : right = min (p.origin.x.toInt + p.size.width.toNat) fb.size.width.toNat)
    (top : 0 ≤ (y : Int) - p.origin.y.toInt)
    (bottom : (y : Int) - p.origin.y.toInt < p.size.height.toNat) (within : y < fb.size.height.toNat) :
    fb.blitRow? image p left right (fb.halfway image p (Reached p y left)) y =
      some (fb.halfway image p (Reached p y right)) := by
  -- The row has a covered pixel, so it is near enough.
  obtain ⟨x, first⟩ := Int.eq_ofNat_of_zero_le (show 0 ≤ left by omega)
  have near := (fits x y (by omega) within ⟨by omega, by omega, top, bottom⟩).2
  rw [blitRow?, rowStarts?_eq proper near top bottom within, Option.bind_eq_bind, Option.bind_some]
  refine foldlM_span (fun x => fb.halfway image p (Reached p y x)) (Int.le_of_lt lt)
    fun k from_ below => ?_
  obtain ⟨x, rfl⟩ := Int.eq_ofNat_of_zero_le (show 0 ≤ k by omega)
  have covers : Covers p x y := ⟨by omega, by omega, top, bottom⟩
  refine blitPixel?_eq proper covers (fits x y (by omega) within covers) (by omega) within ?_
    fun x' y' => ?_
  · rintro ⟨-, above | ⟨-, before⟩⟩ <;> omega
  · constructor
    · rintro ⟨inside, reached⟩
      by_cases here : x' = x ∧ y' = y
      · exact .inr here
      · exact .inl ⟨inside, by omega⟩
    · rintro (⟨inside, reached⟩ | ⟨rfl, rfl⟩)
      · exact ⟨inside, by omega⟩
      · exact ⟨covers, by omega⟩

/-- Row by row and pixel by pixel, if all is near enough for words of 64 bits, drawing goes without fail,
and gives the picture that the image and the placement describe. -/
theorem blit?_eq : fb.blit? image p = some (fb.draw image p).pixels := by
  have x_low := p.origin.x.le_toInt
  have x_high := p.origin.x.toInt_lt
  have y_low := p.origin.y.le_toInt
  have y_high := p.origin.y.toInt_lt
  have width := p.size.width.toNat_lt
  have height := p.size.height.toNat_lt
  rw [blit?, signed?_eq (by omega) (by omega)]
  simp only [Option.bind_eq_bind, Option.bind_some]
  rw [signed?_eq (by omega) (by omega), Option.bind_some, draw_pixels]
  split
  next nothing =>
    -- An empty area, or one beside the framebuffer, covers no pixel, so the early return loses nothing.
    refine congrArg some (halfway_eq_pixels fun x y within within' inside => ?_).symm
    obtain ⟨left, right, top, bottom⟩ := inside
    rcases nothing with beside | below | flat | flat
    · omega
    · omega
    · simp only [flat, UInt32.toNat_zero] at right
      omega
    · simp only [flat, UInt32.toNat_zero] at bottom
      omega
  next something =>
    simp only [not_or, Int.not_le] at something
    obtain ⟨across, down, -, -⟩ := something
    generalize left_eq : max p.origin.x.toInt 0 = left at across ⊢
    generalize right_eq : min (p.origin.x.toInt + p.size.width.toNat : Int) fb.size.width.toNat =
      right at across ⊢
    -- Before the first row nothing is reached, and after the last one all that is covered.
    have start : fb.pixels = fb.halfway image p (Reached p (max p.origin.y.toInt 0) left) := by
      refine (halfway_eq_pixels fun x y within within' => ?_).symm
      rintro ⟨⟨hl, hr, ht, hb⟩, above | ⟨-, before⟩⟩ <;> omega
    have all : fb.halfway image p (Covers p) = fb.halfway image p (Reached p
        (min (p.origin.y.toInt + p.size.height.toNat) fb.size.height.toNat) left) := by
      refine halfway_congr fun x y within within' => ?_
      refine ⟨fun inside => ⟨inside, ?_⟩, And.left⟩
      obtain ⟨hl, hr, ht, hb⟩ := inside
      omega
    rw [all]
    conv => lhs; rw [start]
    refine foldlM_span (fun y => fb.halfway image p (Reached p y left)) (by omega)
      fun k from_ below => ?_
    obtain ⟨y, rfl⟩ := Int.eq_ofNat_of_zero_le (show 0 ≤ k by omega)
    rw [blitRow?_eq proper fits (by omega) left_eq.symm right_eq.symm (by omega) (by omega) (by omega)]
    -- The right end of a row is the left end of the next one: no covered pixel lies between them.
    refine congrArg some (halfway_congr fun x' y' within within' => ?_)
    refine and_congr_right fun ⟨hl, hr, ht, hb⟩ => ?_
    omega

end

/-- Drawing in words comes past every covered pixel. -/
theorem fits_of_blit? {pixels : Array UInt32} (drawn : fb.blit? image p = some pixels) :
    Fits fb.size image p := by
  intro x y within within' ⟨left, right, top, bottom⟩
  unfold blit? at drawn
  obtain ⟨beside, sum, drawn⟩ := Option.bind_eq_some_iff.1 drawn
  obtain ⟨below, sum', drawn⟩ := Option.bind_eq_some_iff.1 drawn
  have unchanged {n m : Int} (word : signed? n = some m) : m = n := by
    unfold signed? at word
    split at word
    · exact (Option.some.inj word).symm
    · cases word
  obtain rfl := unchanged sum
  obtain rfl := unchanged sum'
  rw [if_neg] at drawn
  · -- The loops come to this row and to this column of it, and multiply on both ways.
    obtain ⟨t, t', row⟩ := step_of_foldlM drawn (x := (y : Int)) (mem_span.2 (by omega))
    obtain ⟨⟨source, target⟩, starts, row⟩ := Option.bind_eq_some_iff.1 row
    obtain ⟨u, u', pixel⟩ := step_of_foldlM row (x := (x : Int)) (mem_span.2 (by omega))
    constructor
    · obtain ⟨offset, same, pixel⟩ := Option.bind_eq_some_iff.1 pixel
      obtain ⟨column, scaled, -⟩ := Option.bind_eq_some_iff.1 pixel
      rw [unchanged same] at scaled
      exact product_of_scaled? scaled
    · obtain ⟨offset, same, starts⟩ := Option.bind_eq_some_iff.1 starts
      obtain ⟨stored, scaled, -⟩ := Option.bind_eq_some_iff.1 starts
      rw [unchanged same] at scaled
      exact product_of_scaled? scaled
  · -- A covered pixel of the framebuffer lies in the clipped area, so there was no early return.
    rintro (beside | below | flat | flat)
    · omega
    · omega
    · simp only [flat, UInt32.toNat_zero] at right
      omega
    · simp only [flat, UInt32.toNat_zero] at bottom
      omega

theorem blit?_eq_some_iff (proper : 0 < image.size.width.toNat ∧ 0 < image.size.height.toNat)
    {pixels : Array UInt32} : fb.blit? image p = some pixels ↔
      Fits fb.size image p ∧ pixels = (fb.draw image p).pixels := by
  constructor
  · intro drawn
    have fits := fits_of_blit? drawn
    exact ⟨fits, Option.some.inj (drawn.symm.trans (blit?_eq proper fits))⟩
  · rintro ⟨fits, rfl⟩
    exact blit?_eq proper fits

/-! ### The pictures of a pass -/

/-- The framebuffer after an image was drawn over a placement in machine words. -/
def draw? (fb : Framebuffer) (image : Image) (p : Placement) : Option Framebuffer := do
  let pixels ← fb.blit? image p
  if whole : pixels.size = fb.size.pixelCount then return ⟨fb.size, pixels, whole⟩ else none

/-- The framebuffer after the pictures of the items were drawn on it in machine words. -/
def drawPictures? (fb : Framebuffer) (picture? : SurfaceId → Option Image)
    (items : List PaintItem) : Option Framebuffer :=
  items.foldlM
    (fun fb item =>
      match picture? item.surface with
      | some image => fb.draw? image item.placement
      | none => some fb)
    fb

theorem draw?_eq_some_iff (proper : 0 < image.size.width.toNat ∧ 0 < image.size.height.toNat)
    {drawn : Framebuffer} : fb.draw? image p = some drawn ↔
      Fits fb.size image p ∧ drawn = fb.draw image p := by
  have whole : (fb.draw image p).pixels.size = fb.size.pixelCount := (fb.draw image p).pixels_size
  constructor
  · intro done
    obtain ⟨pixels, blit, done⟩ := Option.bind_eq_some_iff.1 done
    obtain ⟨fits, rfl⟩ := (blit?_eq_some_iff proper).1 blit
    rw [dif_pos whole] at done
    exact ⟨fits, (Option.some.inj done).symm⟩
  · rintro ⟨fits, rfl⟩
    rw [draw?, blit?_eq proper fits, Option.bind_eq_bind, Option.bind_some, dif_pos whole]
    rfl

/-- Drawing the pictures in words fails exactly if one of them is too large for its placement. -/
theorem drawPictures?_eq_some_iff {picture? : SurfaceId → Option Image} {items : List PaintItem}
    (proper : ∀ item ∈ items, ∀ image, picture? item.surface = some image →
      0 < image.size.width.toNat ∧ 0 < image.size.height.toNat) {drawn : Framebuffer} :
    fb.drawPictures? picture? items = some drawn ↔
      (∀ item ∈ items, ∀ image, picture? item.surface = some image →
        Fits fb.size image item.placement) ∧ drawn = fb.drawPictures picture? items := by
  unfold drawPictures? drawPictures
  induction items generalizing fb with
  | nil => simp [eq_comm]
  | cons item items ih =>
    obtain ⟨first, later⟩ := List.forall_mem_cons.1 proper
    rw [List.foldlM_cons, List.foldl_cons, List.forall_mem_cons]
    cases picture : picture? item.surface with
    | none => simpa using ih later
    | some image =>
      simp only [Option.some.injEq, forall_eq', Option.bind_eq_bind, Option.bind_eq_some_iff,
        draw?_eq_some_iff (first image picture), and_assoc]
      constructor
      · rintro ⟨_, fits, rfl, rest⟩
        exact ⟨fits, (ih later).1 rest⟩
      · rintro ⟨fits, rest⟩
        exact ⟨_, fits, rfl, (ih later).2 rest⟩

/-- An image that is wider than signed words can say may not be drawn at all: the second column of the
frame lies so far into the image that its place in there is a quotient of no word. -/
theorem draw?_of_wide (frame : fb.size = ⟨2, 1⟩) (size : image.size = ⟨4294967295, 1⟩) :
    fb.draw? image ⟨⟨-2147483648, 0⟩, ⟨4294967295, 1⟩⟩ = none := by
  refine Option.eq_none_iff_forall_ne_some.2 fun drawn done => ?_
  have fits := ((draw?_eq_some_iff (by simp [size])).1 done).1
  have near := (fits 1 0 (by simp [frame]) (by simp [frame])
    ⟨by decide, by decide, by decide, by decide⟩).1
  rw [size] at near
  exact absurd near (by decide)

/-! ### Pixel by pixel -/

/-- The word of the image that belongs to a pixel of the placement. Its column and its row lie as far along
the image as the pixel along the placement, rounded down. -/
def Nearest (image : Image) (p : Placement) (x y : Nat) (word : UInt32) : Prop :=
  ∃ column row : Nat, column < image.size.width.toNat ∧ row < image.size.height.toNat ∧
    (column : Int) = ((x : Int) - p.origin.x.toInt) * image.size.width.toNat / p.size.width.toNat ∧
    (row : Int) = ((y : Int) - p.origin.y.toInt) * image.size.height.toNat / p.size.height.toNat ∧
    image.pixels[(if image.yInverted then image.size.height.toNat - 1 - row else row) *
      image.size.width.toNat + column]? = some word

theorem nearest_shown {x y : Nat} (proper : 0 < image.size.width.toNat ∧ 0 < image.size.height.toNat)
    (covers : Covers p x y) : Nearest image p x y (shown image p x y) := by
  have found := getElem?_shown proper covers
  obtain ⟨left, right, top, bottom⟩ := covers
  obtain ⟨column, across⟩ := Int.eq_ofNat_of_zero_le left
  obtain ⟨row, down⟩ := Int.eq_ofNat_of_zero_le top
  rw [across, down, Int.toNat_natCast, Int.toNat_natCast] at found
  have right' : column < p.size.width.toNat := by omega
  have bottom' : row < p.size.height.toNat := by omega
  exact ⟨_, _, scaled_lt right' proper.1, scaled_lt bottom' proper.2, by rw [across]; rfl,
    by rw [down]; rfl, found⟩

end Framebuffer

/-! ### Drawing on a canvas -/

/-- A known image is drawn without fail, also in words of 64 bits. In the placement each pixel is made of
what was there and of the nearest pixel of the image; outside of it nothing changes. -/
theorem Canvas.draw_exact (fb : Framebuffer) {images : Table ImageId Image} {id : ImageId} {image : Image}
    (known : images.get? id = some image)
    (width : 1 ≤ image.size.width.toNat ∧ image.size.width.toNat ≤ 2147483647)
    (height : 1 ≤ image.size.height.toNat ∧ image.size.height.toNat ≤ 2147483647) (p : Placement) :
    ∃ drawn : Framebuffer, (Canvas.live fb images).draw id p = .ok (.live drawn images) ∧
      fb.blit? image p = some drawn.pixels ∧ drawn.size = fb.size ∧
      ∀ x y, x < fb.size.width.toNat → y < fb.size.height.toNat →
        ∃ old, fb.pixel? x y = some old ∧
          (Framebuffer.Covers p x y → ∃ word, Framebuffer.Nearest image p x y word ∧
            drawn.pixel? x y = some (image.draw word old)) ∧
          (¬Framebuffer.Covers p x y → drawn.pixel? x y = some old) := by
  have proper : 0 < image.size.width.toNat ∧ 0 < image.size.height.toNat := ⟨width.1, height.1⟩
  refine ⟨fb.draw image p, by rw [Canvas.draw, known], ?_, rfl, fun x y within within' => ?_⟩
  · exact Framebuffer.blit?_eq proper (Framebuffer.fits_of_sides _ _ ⟨by omega, by omega⟩)
  · have there : fb.pixel? x y = some _ :=
      Array.getElem?_eq_getElem (fb.pixels_size ▸ Framebuffer.index_lt within within')
    have after := Framebuffer.pixel?_draw_covers image p y within
    rw [there, Option.map_some] at after
    refine ⟨_, there, fun covers => ?_, fun outside => ?_⟩
    · exact ⟨_, Framebuffer.nearest_shown proper covers, by rw [after, if_pos covers]⟩
    · rw [after, if_neg outside]

/-- An image of two rows, stored from the bottom up, is stretched to three columns that begin above and to the
left of the canvas. One pixel of it is seen, and it is of the lower row. -/
theorem Canvas.draw_exact_sticking_out :
    let image : Image := ⟨⟨1, 2⟩, #[0x00000001, 0x00000002], true, false, rfl⟩
    let fb := Framebuffer.filled ⟨2, 1⟩ 7
    let images := Table.empty.insert (⟨1⟩ : ImageId) image
    let p : Placement := ⟨⟨-2, -1⟩, ⟨3, 2⟩⟩
    ∃ drawn : Framebuffer, (Canvas.live fb images).draw ⟨1⟩ p = .ok (.live drawn images) ∧
      fb.blit? image p = some drawn.pixels ∧ drawn.pixels = #[0xff000001, 7] := by
  intro image fb images p
  obtain ⟨drawn, done, blit, -, -⟩ :=
    Canvas.draw_exact fb (show images.get? ⟨1⟩ = some image from rfl) (by decide) (by decide) p
  refine ⟨drawn, done, blit, ?_⟩
  have known : fb.blit? image p = some #[0xff000001, 7] := by decide
  exact Option.some.inj (blit.symm.trans known)

end Compositing
