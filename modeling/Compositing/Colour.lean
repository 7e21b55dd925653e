import Compositing.Decimal.Shortest
import Compositing.Pixel

/-!
# Colours

A colour has four channels, nominally from zero to one. It becomes a pixel word by cutting each
channel to that range, multiplying the colours by alpha and rounding to 255 steps. Messages show a
channel as the shortest decimal that reads back.
-/

namespace Compositing

structure Colour where
  red : Float32
  green : Float32
  blue : Float32
  alpha : Float32
  deriving Inhabited

namespace Colour

def black : Colour := ⟨0, 0, 0, 1⟩

def channels (c : Colour) : List Float32 := [c.red, c.green, c.blue, c.alpha]

/-- Every channel is a number from zero to one. -/
def inRange (c : Colour) : Bool := c.channels.all fun v => 0 ≤ v && v ≤ 1

/-! ### Pixel words -/

/-- The nearest value between zero and one. What is no number stays as it is. -/
def cutToUnit (v : Float32) : Float32 := if v < 0 then 0 else if 1 < v then 1 else v

/-- The step of a channel, with halves rounded up. What is no number gives zero. -/
def step (v : Float32) : UInt8 := (cutToUnit v * 255).round.toUInt8

/-- The colour as a pixel word, premultiplied by alpha. -/
def pack (c : Colour) : UInt32 :=
  let alpha := cutToUnit c.alpha
  -- Alpha is not multiplied by itself.
  Pixel.ofChannels (step c.alpha) (step (c.red * alpha)) (step (c.green * alpha))
    (step (c.blue * alpha))

/-! ### Text -/

/-- The finite positive number with these bits, its sign left out. -/
private def binaryOfBits (bits : UInt32) : Decimal.Binary :=
  let biased := (bits >>> 23 &&& 0xff).toNat
  let fraction := (bits &&& 0x7fffff).toNat
  if biased = 0 then ⟨fraction, -149, false⟩
  else ⟨fraction + 8388608, biased - 150, fraction = 0 && 1 < biased⟩

private def zeros (n : Nat) : String := String.ofList (List.replicate n '0')

/-- Digits with a point, and always a digit on each side of it. -/
private def positional (digits : List Char) (exponent : Int) : String :=
  let point := digits.length + exponent
  if point ≤ 0 then "0." ++ zeros (-point).toNat ++ String.ofList digits
  else if 0 ≤ exponent then String.ofList digits ++ zeros exponent.toNat ++ ".0"
  else
    String.ofList (digits.take point.toNat) ++ "." ++ String.ofList (digits.drop point.toNat)

/-- Digits with a point after the first one, where there are others, and a power of ten. -/
private def scientific (digits : List Char) (exponent : Int) : String :=
  let power := digits.length + exponent - 1
  match digits with
  | first :: rest@(_ :: _) => s!"{first}.{String.ofList rest}e{power}"
  | _ => s!"{String.ofList digits}e{power}"

/-- The shortest decimal that reads back: in positional form from `0.0001` up to, but not including,
`10 ^ 16`, and in scientific form outside. -/
def channelText (v : Float32) : String :=
  let bits := v.toBits
  let sign := if bits >>> 31 = 1 then "-" else ""
  if v.isNaN then "NaN"
  else if v.isInf then sign ++ "inf"
  else if bits &&& 0x7fffffff = 0 then sign ++ "0.0"
  else
    let decimal := (binaryOfBits bits).shortest
    let digits := Nat.toDigits 10 decimal.digits
    let power := digits.length + decimal.exponent - 1
    if -4 ≤ power ∧ power < 16 then sign ++ positional digits decimal.exponent
    else sign ++ scientific digits decimal.exponent

/-- The channels in brackets. -/
def text (c : Colour) : String := "[" ++ ", ".intercalate (c.channels.map channelText) ++ "]"

end Colour

end Compositing
