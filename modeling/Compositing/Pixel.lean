/-!
# Pixel words

A pixel is one word: alpha in the high byte, then red, green and blue. Colours are premultiplied by
alpha. Drawing a translucent pixel lays it over what is there already.
-/

namespace Compositing.Pixel

def alpha (word : UInt32) : UInt8 := (word >>> 24).toUInt8

def red (word : UInt32) : UInt8 := (word >>> 16).toUInt8

def green (word : UInt32) : UInt8 := (word >>> 8).toUInt8

def blue (word : UInt32) : UInt8 := word.toUInt8

def ofChannels (alpha red green blue : UInt8) : UInt32 :=
  (alpha.toUInt32 <<< 24) ||| (red.toUInt32 <<< 16) ||| (green.toUInt32 <<< 8) ||| blue.toUInt32

/-- The word with its alpha bits all set. -/
def solid (word : UInt32) : UInt32 := word ||| 0xff000000

/-- One channel of a source of the given alpha laid over a destination: the source and the part of the
destination that shines through, rounded to the nearest integer and stopped at the largest value. -/
def blendChannel (sourceAlpha source destination : UInt8) : UInt8 :=
  UInt8.ofNat <| min 255
    (source.toNat + (destination.toNat * (255 - sourceAlpha.toNat) + 127) / 255)

/-- A source pixel laid over a destination pixel. A solid source hides the destination. -/
def blend (source destination : UInt32) : UInt32 :=
  let a := alpha source
  if a = 255 then source
  else
    ofChannels (blendChannel a a (alpha destination)) (blendChannel a (red source) (red destination))
      (blendChannel a (green source) (green destination))
      (blendChannel a (blue source) (blue destination))

end Compositing.Pixel
