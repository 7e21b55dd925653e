/-!
# The shortest decimal that reads back

A binary number stands for every real that rounds to it. Among the decimals in that range the
shortest is the one on the coarsest grid of powers of ten, and of two on that grid the nearer; a tie
goes to the larger. The search is exact, in natural numbers.
-/

namespace Compositing.Decimal

/-- The number `digits * 10 ^ exponent`. -/
structure Numeral where
  digits : Nat
  exponent : Int
  deriving DecidableEq, Repr, Inhabited

/-- The positive number `significand * 2 ^ exponent` among its neighbours. -/
structure Binary where
  significand : Nat
  exponent : Int
  /-- The next smaller number is half as far away as the next larger one. -/
  narrowBelow : Bool
  deriving DecidableEq, Repr, Inhabited

namespace Binary

/-! Numbers near a binary number are counted in quarters of its last place. -/

def quarters (b : Binary) : Nat := 4 * b.significand

def upper (b : Binary) : Nat := b.quarters + 2

def lower (b : Binary) : Nat := b.quarters - if b.narrowBelow then 1 else 2

/-- Both ends round to the number exactly when its last bit is zero. -/
def endsIncluded (b : Binary) : Bool := b.significand % 2 == 0

/-- Two factors with `quarters * p = n * q` exactly when `quarters` stands for `n * 10 ^ k`. -/
def factors (b : Binary) (k : Int) : Nat × Nat :=
  let q := b.exponent - 2
  (Nat.pow 2 q.toNat * Nat.pow 10 (-k).toNat, Nat.pow 10 k.toNat * Nat.pow 2 (-q).toNat)

/-- Whether `n * 10 ^ k` rounds to the number. -/
def covers (b : Binary) (n : Nat) (k : Int) : Bool :=
  let (p, q) := b.factors k
  if b.endsIncluded then b.lower * p ≤ n * q && n * q ≤ b.upper * p
  else b.lower * p < n * q && n * q < b.upper * p

/-- The multiple of `10 ^ k` that rounds to the number and is nearest to it, if there is one. -/
def onGrid? (b : Binary) (k : Int) : Option Numeral :=
  let (p, q) := b.factors k
  let below := b.quarters * p / q
  let lowerHit := b.covers below k
  let upperHit := b.covers (below + 1) k
  let lowerNearer := b.quarters * p - below * q < (below + 1) * q - b.quarters * p
  -- Equally near, the larger one is taken.
  if lowerHit && (!upperHit || lowerNearer) then some ⟨below, k⟩
  else if upperHit then some ⟨below + 1, k⟩
  else none

/-- The first hit on ever finer grids. -/
def search (b : Binary) : Nat → Int → Numeral
  | 0, k => ⟨b.quarters * (b.factors k).1 / (b.factors k).2, k⟩
  | steps + 1, k =>
    match b.onGrid? k with
    | some d => d
    | none => b.search steps (k - 1)

/-- An exponent of ten that is too large for the number. -/
def coarsest (b : Binary) : Int :=
  let bits := (b.significand.log2 : Int) + 1 + b.exponent
  if 0 ≤ bits then bits / 3 + 1 else bits / 4 + 1

/-- The shortest decimal that rounds to the number. Sixty-four grids are more than a number of 53
significant bits or fewer needs. -/
def shortest (b : Binary) : Numeral := b.search 64 b.coarsest

end Binary

end Compositing.Decimal
