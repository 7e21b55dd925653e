import Compositing.Proofs.Rendering.Layers
import Mathlib

/-!
# Blending

What laying pixels over each other does to their channels. Each channel of the result is made of the same
channel of both pixels and the alpha of the upper one: `Pixel.read_blend`. Solid pixels stay solid, and
premultiplied pixels stay premultiplied, without a channel ever being cut off: `Pixel.alpha_blend` and
`Pixel.Premultiplied.blend`. `Framebuffer.blending` says so of every sequence of draws.
-/

namespace Compositing

namespace Pixel

inductive Channel where
  | alpha
  | red
  | green
  | blue
  deriving DecidableEq, Repr

/-- The channel of a pixel. -/
def Channel.read : Channel → UInt32 → UInt8
  | alpha => Pixel.alpha
  | red => Pixel.red
  | green => Pixel.green
  | blue => Pixel.blue

/-! ### Channels of a word -/

theorem toNat_ofChannels (a r g b : UInt8) : (ofChannels a r g b).toNat =
    a.toNat * 2 ^ 24 + r.toNat * 2 ^ 16 + g.toNat * 2 ^ 8 + b.toNat := by
  have ha := a.toNat_lt
  have hr := r.toNat_lt
  have hg := g.toNat_lt
  have hb := b.toNat_lt
  -- Every channel is shifted past those below it, so nothing overlaps.
  have joined (high : Nat) {i low : Nat} (lt : low < 2 ^ i) :
      high <<< i ||| low = high * 2 ^ i + low := by
    rw [← Nat.shiftLeft_add_eq_or_of_lt lt, Nat.shiftLeft_eq]
  have cut {value n : Nat} (byte : value < 2 ^ 8) (le : n ≤ 24) : value <<< n % 2 ^ 32 = value <<< n := by
    refine Nat.mod_eq_of_lt ?_
    rw [Nat.shiftLeft_eq]
    calc value * 2 ^ n < 2 ^ 8 * 2 ^ n := Nat.mul_lt_mul_of_pos_right byte (Nat.two_pow_pos n)
      _ ≤ 2 ^ 8 * 2 ^ 24 := Nat.mul_le_mul_left _ (Nat.pow_le_pow_right (by decide) le)
      _ = 2 ^ 32 := by decide
  simp only [ofChannels, UInt32.toNat_or, UInt32.toNat_shiftLeft, UInt8.toNat_toUInt32,
    UInt32.reduceToNat, Nat.reduceMod]
  rw [cut ha (by decide), cut hr (by decide), cut hg (by decide), Nat.or_assoc, Nat.or_assoc,
    joined g.toNat hb, joined r.toNat (by omega), joined a.toNat (by omega)]
  omega

theorem toNat_read (k : Channel) (word : UInt32) : (k.read word).toNat = word.toNat /
    (match k with | .alpha => 2 ^ 24 | .red => 2 ^ 16 | .green => 2 ^ 8 | .blue => 1) % 2 ^ 8 := by
  cases k <;> simp [Channel.read, alpha, red, green, blue, Nat.shiftRight_eq_div_pow]

theorem read_ofChannels (k : Channel) (a r g b : UInt8) : k.read (ofChannels a r g b) =
    match k with | .alpha => a | .red => r | .green => g | .blue => b := by
  have ha := a.toNat_lt
  have hr := r.toNat_lt
  have hg := g.toNat_lt
  have hb := b.toNat_lt
  rw [← UInt8.toNat_inj, toNat_read, toNat_ofChannels]
  cases k <;> simp only <;> omega

/-! ### Blending in words -/

/-- How far the channel stands from the low end of a word. -/
def Channel.shift : Channel → UInt32
  | alpha => 24
  | red => 16
  | green => 8
  | blue => 0

/-- One channel of a source pixel laid over a destination pixel, in words of 32 bits. -/
def overlaid (k : Channel) (source destination : UInt32) : UInt32 :=
  let a : UInt32 := source >>> 24
  let s := (source >>> k.shift) &&& 255
  let d := (destination >>> k.shift) &&& 255
  min (s + (d * (255 - a) + 127) / 255) 255

/-- A source pixel laid over a destination pixel, in words of 32 bits: the channels are worked out one
after the other and put together in one word. -/
def overlay (source destination : UInt32) : UInt32 :=
  if source >>> 24 = 255 then source
  else
    [Channel.blue, .green, .red, .alpha].foldl
      (fun word k => word ||| overlaid k source destination <<< k.shift) 0

theorem masked_eq_read (k : Channel) (word : UInt32) :
    (word >>> k.shift) &&& 255 = (k.read word).toUInt32 := by
  have byte (n : Nat) : n &&& 255 = n % 2 ^ 8 := Nat.and_two_pow_sub_one_eq_mod n 8
  apply UInt32.toNat_inj.1
  rw [UInt8.toNat_toUInt32, toNat_read]
  cases k <;> simp [Channel.shift, byte, Nat.shiftRight_eq_div_pow]

theorem shiftRight_eq_alpha (word : UInt32) : word >>> 24 = (alpha word).toUInt32 := by
  have lt := word.toNat_lt
  apply UInt32.toNat_inj.1
  simp [alpha, Nat.shiftRight_eq_div_pow]
  omega

/-- No step of the reckoning leaves the range of words. -/
theorem word_blendChannel (a s d : UInt8) :
    min (s.toUInt32 + (d.toUInt32 * (255 - a.toUInt32) + 127) / 255) 255 =
      (blendChannel a s d).toUInt32 := by
  have ha := a.toNat_lt
  have hs := s.toNat_lt
  have hd := d.toNat_lt
  have inverse : (255 - a.toUInt32).toNat = 255 - a.toNat :=
    UInt32.toNat_sub_of_le _ _ (UInt32.le_iff_toNat_le.2 (by simp; omega))
  have product : d.toNat * (255 - a.toNat) ≤ 255 * 255 := Nat.mul_le_mul (by omega) (by omega)
  have sum : (s.toUInt32 + (d.toUInt32 * (255 - a.toUInt32) + 127) / 255).toNat =
      s.toNat + (d.toNat * (255 - a.toNat) + 127) / 255 := by
    simp only [UInt32.toNat_add, UInt32.toNat_mul, UInt32.toNat_div, UInt8.toNat_toUInt32, inverse,
      UInt32.reduceToNat]
    omega
  have cut (word : UInt32) : (min word 255).toNat = min 255 word.toNat := by
    change (if word ≤ 255 then word else 255).toNat = _
    split
    next le => exact (Nat.min_eq_right (UInt32.le_iff_toNat_le.1 le)).symm
    next gt => exact (Nat.min_eq_left (Nat.le_of_not_le (gt ∘ UInt32.le_iff_toNat_le.2))).symm
  have byte : min 255 (s.toNat + (d.toNat * (255 - a.toNat) + 127) / 255) < 2 ^ 8 := by omega
  apply UInt32.toNat_inj.1
  rw [cut, sum, UInt8.toNat_toUInt32, blendChannel, UInt8.toNat_ofNat', Nat.mod_eq_of_lt byte]

/-- The order in which channels are put into a word does not matter. -/
theorem eq_ofChannels (a r g b : UInt8) :
    0 ||| b.toUInt32 <<< Channel.blue.shift ||| g.toUInt32 <<< Channel.green.shift |||
      r.toUInt32 <<< Channel.red.shift ||| a.toUInt32 <<< Channel.alpha.shift =
      ofChannels a r g b := by
  have turned (x y z w : UInt32) : x ||| y ||| z ||| w = w ||| z ||| y ||| x := by
    rw [UInt32.or_comm _ w, UInt32.or_comm _ z, UInt32.or_comm x y, ← UInt32.or_assoc,
      ← UInt32.or_assoc]
  simp only [Channel.shift, ofChannels, UInt32.zero_or, UInt32.shiftLeft_zero]
  exact turned ..

/-- Blending is what the words of 32 bits give. -/
theorem overlay_eq_blend (source destination : UInt32) :
    overlay source destination = blend source destination := by
  have solid : source >>> 24 = 255 ↔ alpha source = 255 := by
    rw [shiftRight_eq_alpha]
    exact ⟨fun same => UInt8.toUInt32_inj.1 same, fun same => by rw [same]; rfl⟩
  have channel (k : Channel) : overlaid k source destination =
      (blendChannel (alpha source) (k.read source) (k.read destination)).toUInt32 := by
    rw [overlaid, masked_eq_read, masked_eq_read, shiftRight_eq_alpha, word_blendChannel]
  rw [overlay, blend]
  refine ite_congr (propext solid) (fun _ => rfl) fun _ => ?_
  simp only [List.foldl_cons, List.foldl_nil, channel, eq_ofChannels]
  rfl

/-! ### What becomes of a channel -/

/-- The value of a channel before it is stopped at the largest one. -/
def uncut (k : Channel) (source destination : UInt32) : Nat :=
  (k.read source).toNat +
    ((k.read destination).toNat * (255 - (alpha source).toNat) + 127) / 255

theorem toNat_blendChannel (k : Channel) (source destination : UInt32) :
    (blendChannel (alpha source) (k.read source) (k.read destination)).toNat =
      min 255 (uncut k source destination) := by
  rw [blendChannel, UInt8.toNat_ofNat', Nat.mod_eq_of_lt (by omega)]
  rfl

/-- A channel is made of the same channel of both pixels and the alpha of the source, and of nothing
else. -/
theorem read_blend (k : Channel) (source destination : UInt32) : k.read (blend source destination) =
    blendChannel (alpha source) (k.read source) (k.read destination) := by
  simp only [blend]
  split
  next solid =>
    -- Nothing of the destination shines through a solid source.
    have byte := (k.read source).toNat_lt
    rw [← UInt8.toNat_inj, toNat_blendChannel, uncut, solid]
    simp
    omega
  next => rw [read_ofChannels]; cases k <;> rfl

theorem read_solid (k : Channel) (word : UInt32) :
    k.read (solid word) = if k = .alpha then 255 else k.read word := by
  have full (a : UInt8) : a ||| 255 = 255 := UInt8.or_neg_one
  have none (a : UInt8) : a ||| 0 = a := UInt8.or_zero
  cases k <;>
    simp only [Channel.read, alpha, red, green, blue, solid, UInt32.shiftRight_or, UInt32.toUInt8_or]
  · exact full _
  · exact none _
  · exact none _
  · exact none _

/-- What a solid destination loses by the source's alpha, that alpha gives back. -/
theorem alpha_blend {source destination : UInt32} (solid : alpha destination = 255) :
    alpha (blend source destination) = 255 := by
  have byte := (alpha source).toNat_lt
  have read := congrArg UInt8.toNat (read_blend .alpha source destination)
  rw [toNat_blendChannel, uncut] at read
  simp only [Channel.read, solid, UInt8.reduceToNat] at read
  exact UInt8.toNat_inj.1 (read.trans (by simp; omega))

/-- No colour of the pixel is above its alpha. -/
def Premultiplied (word : UInt32) : Prop := ∀ k : Channel, k.read word ≤ alpha word

instance (word : UInt32) : Decidable (Premultiplied word) :=
  decidable_of_iff (∀ k ∈ [Channel.alpha, .red, .green, .blue], k.read word ≤ alpha word)
    ⟨fun all k => all k (by cases k <;> simp), fun all k _ => all k⟩

theorem premultiplied_zero : Premultiplied 0 := by decide

theorem premultiplied_of_solid {word : UInt32} (solid : alpha word = 255) : Premultiplied word := by
  intro k
  rw [solid, UInt8.le_iff_toNat_le]
  exact Nat.le_of_lt_succ (k.read word).toNat_lt

section

variable {source destination : UInt32} (above : Premultiplied source)
  (below : Premultiplied destination)

include above below

/-- Rounding keeps the order of channels. -/
theorem uncut_le_alpha (k : Channel) :
    uncut k source destination ≤ uncut .alpha source destination := by
  have shine : (k.read destination).toNat * (255 - (alpha source).toNat) ≤
      (alpha destination).toNat * (255 - (alpha source).toNat) :=
    Nat.mul_le_mul_right _ (UInt8.le_iff_toNat_le.1 (below k))
  exact Nat.add_le_add (UInt8.le_iff_toNat_le.1 (above k))
    (Nat.div_le_div_right (Nat.add_le_add_right shine 127))

/-- No channel is ever stopped at the largest value. -/
theorem uncut_le (k : Channel) : uncut k source destination ≤ 255 := by
  have byte := (alpha source).toNat_lt
  have byte' := (alpha destination).toNat_lt
  have shine : (alpha destination).toNat * (255 - (alpha source).toNat) ≤
      255 * (255 - (alpha source).toNat) := Nat.mul_le_mul_right _ (by omega)
  calc uncut k source destination
    _ ≤ uncut .alpha source destination := uncut_le_alpha above below k
    _ = (alpha source).toNat +
        ((alpha destination).toNat * (255 - (alpha source).toNat) + 127) / 255 := rfl
    _ ≤ (alpha source).toNat + (255 * (255 - (alpha source).toNat) + 127) / 255 :=
      Nat.add_le_add_left (Nat.div_le_div_right (Nat.add_le_add_right shine 127)) _
    _ = 255 := by omega

theorem Premultiplied.blend : Premultiplied (blend source destination) := by
  intro k
  have alpha := read_blend .alpha source destination
  rw [show Pixel.alpha (Pixel.blend source destination) = _ from alpha, read_blend,
    UInt8.le_iff_toNat_le, toNat_blendChannel, toNat_blendChannel]
  have le := uncut_le_alpha above below k
  omega

end

end Pixel

/-! ### Drawing -/

namespace Image

variable {image : Image} {source old : UInt32}

/-- What is shown is a pixel of the image, or zeros where the image has none. -/
theorem sample_mem (image : Image) (area : Size) (column row : Nat) :
    image.sample area column row ∈ image.pixels ∨ image.sample area column row = 0 := by
  have read (place : Nat) :
      image.pixels.getD place 0 ∈ image.pixels ∨ image.pixels.getD place 0 = 0 := by
    rw [Array.getD_eq_getD_getElem?]
    cases found : image.pixels[place]? with
    | none => exact .inr rfl
    | some source => exact .inl (Array.mem_of_getElem? found)
  exact read _

theorem alpha_draw (solid : Pixel.alpha old = 255) : Pixel.alpha (image.draw source old) = 255 := by
  unfold draw
  split
  · exact Pixel.alpha_blend solid
  · exact Pixel.read_solid .alpha source

theorem premultiplied_draw (above : image.hasAlpha = true → Pixel.Premultiplied source)
    (below : Pixel.Premultiplied old) : Pixel.Premultiplied (image.draw source old) := by
  unfold draw
  split
  next translucent => exact (above translucent).blend below
  next => exact Pixel.premultiplied_of_solid (Pixel.read_solid .alpha source)

end Image

namespace Framebuffer

/-- Every pixel was there, or was made by drawing a pixel of the image on one that was there. -/
theorem mem_draw {fb : Framebuffer} {image : Image} {p : Placement} {word : UInt32}
    (member : word ∈ (fb.draw image p).pixels) : word ∈ fb.pixels ∨
      ∃ source, (source ∈ image.pixels ∨ source = 0) ∧ ∃ old ∈ fb.pixels, word = image.draw source old := by
  obtain ⟨i, below, rfl⟩ := Array.getElem_of_mem member
  have there : i < fb.pixels.size := by simpa [draw] using below
  simp only [draw, Array.getElem_mapIdx]
  split
  · exact .inr ⟨_, image.sample_mem .., _, Array.getElem_mem there, rfl⟩
  · exact .inl (Array.getElem_mem there)

/-- Draws images one over the other. -/
def drawLayers (fb : Framebuffer) (layers : List Layer) : Framebuffer :=
  layers.foldl (fun fb layer => fb.draw layer.image layer.placement) fb

/-- What holds of all pixels, and of whatever is drawn on such a pixel, holds after any number of draws. -/
theorem forall_drawLayers {P : UInt32 → Prop} {fb : Framebuffer} {layers : List Layer}
    (kept : ∀ layer ∈ layers, ∀ source old, (source ∈ layer.image.pixels ∨ source = 0) → P old →
      P (layer.image.draw source old))
    (before : ∀ word ∈ fb.pixels, P word) : ∀ word ∈ (fb.drawLayers layers).pixels, P word := by
  induction layers generalizing fb with
  | nil => exact before
  | cons layer layers ih =>
    refine ih (fun layer' member => kept layer' (List.mem_cons_of_mem _ member)) fun word member => ?_
    rcases mem_draw member with old | ⟨source, pixel, old, there, rfl⟩
    · exact before word old
    · exact kept layer List.mem_cons_self source old pixel (before old there)

theorem premultiplied_drawLayers {fb : Framebuffer} {layers : List Layer}
    (before : ∀ word ∈ fb.pixels, Pixel.Premultiplied word)
    (drawn : ∀ layer ∈ layers, layer.image.hasAlpha = true →
      ∀ word ∈ layer.image.pixels, Pixel.Premultiplied word) :
    ∀ word ∈ (fb.drawLayers layers).pixels, Pixel.Premultiplied word := by
  refine forall_drawLayers (fun layer member source old pixel below => ?_) before
  refine Image.premultiplied_draw (fun translucent => ?_) below
  rcases pixel with pixel | rfl
  · exact drawn layer member translucent source pixel
  · exact Pixel.premultiplied_zero

/-- Whatever is drawn, solid pixels stay solid. If the pixels and those of the translucent images are
premultiplied, they stay so, and no channel is ever stopped at the largest value. A channel is made of the
same channel of both pixels and the alpha of the upper one only, also where the words of 32 bits are put
together. -/
theorem blending (fb : Framebuffer) (layers : List Layer) :
    ((∀ word ∈ fb.pixels, Pixel.alpha word = 255) →
      ∀ word ∈ (fb.drawLayers layers).pixels, Pixel.alpha word = 255) ∧
    ((∀ word ∈ fb.pixels, Pixel.Premultiplied word) →
      (∀ layer ∈ layers, layer.image.hasAlpha = true →
        ∀ word ∈ layer.image.pixels, Pixel.Premultiplied word) →
      (∀ word ∈ (fb.drawLayers layers).pixels, Pixel.Premultiplied word) ∧
      ∀ before layer after, layers = before ++ layer :: after → layer.image.hasAlpha = true →
        ∀ source ∈ layer.image.pixels, ∀ destination ∈ (fb.drawLayers before).pixels,
          ∀ k, Pixel.uncut k source destination ≤ 255) ∧
    ∀ source destination, Pixel.overlay source destination = Pixel.blend source destination ∧
      ∀ k : Pixel.Channel, k.read (Pixel.overlay source destination) =
        Pixel.blendChannel (Pixel.alpha source) (k.read source) (k.read destination) := by
  refine ⟨forall_drawLayers fun _ _ _ _ _ => Image.alpha_draw, fun before drawn => ⟨?_, ?_⟩, ?_⟩
  · exact premultiplied_drawLayers before drawn
  · rintro earlier layer after rfl translucent source pixel destination there k
    have below := premultiplied_drawLayers before
      (fun layer' member => drawn layer' (List.mem_append_left _ member)) destination there
    exact Pixel.uncut_le (drawn layer (by simp) translucent source pixel) below k
  · intro source destination
    rw [Pixel.overlay_eq_blend]
    exact ⟨rfl, fun k => Pixel.read_blend k source destination⟩

/-- One pixel of half transparent red. -/
def translucentRed : Layer := ⟨⟨⟨0, 0⟩, ⟨1, 1⟩⟩, ⟨1, 1⟩, #[0x80800000], false, true, rfl⟩

/-- Red is drawn twice on blue: the blue that shines through gets less each time. -/
theorem blending_translucentRed :
    let blue := filled ⟨1, 1⟩ 0xff0000ff
    let layers := [translucentRed, translucentRed]
    (∀ word ∈ blue.pixels, Pixel.alpha word = 255) ∧
    (∀ word ∈ (blue.drawLayers layers).pixels, Pixel.alpha word = 255) ∧
    (blue.drawLayers layers).pixels = #[0xffc0003f] ∧
    (∀ word ∈ (blue.drawLayers layers).pixels, Pixel.Premultiplied word) ∧
    ∀ destination ∈ (blue.drawLayers [translucentRed]).pixels,
      Pixel.uncut .red 0x80800000 destination ≤ 255 := by
  intro blue layers
  have solid : ∀ word ∈ blue.pixels, Pixel.alpha word = 255 := by
    intro word member
    obtain rfl : word = 0xff0000ff := (by simpa [blue, filled] using member : _ ∧ _).2
    rfl
  obtain ⟨opaquely, evenly, -⟩ := blending blue layers
  obtain ⟨tidy, unstopped⟩ := evenly (fun word member => Pixel.premultiplied_of_solid (solid word member))
    fun layer member _ word pixel => by
      obtain rfl : layer = translucentRed := by simpa [layers] using member
      obtain rfl : word = 0x80800000 := by simpa [translucentRed] using pixel
      decide
  exact ⟨solid, opaquely solid, by decide, tidy, fun destination there =>
    unstopped [translucentRed] translucentRed [] rfl rfl _ (by simp [translucentRed]) destination there
      .red⟩

end Framebuffer

end Compositing
