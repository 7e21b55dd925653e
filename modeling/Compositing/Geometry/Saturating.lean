/-!
# Coordinates that saturate

Coordinates are 32-bit signed words. A sum that leaves their range stops at the nearest end of it
instead of wrapping around. Main statement: `toInt_saturatingAdd` reads the sum in the integers.
-/

namespace Compositing

/-- The coordinate nearest to an integer. -/
def clampCoordinate (n : Int) : Int32 := Int32.ofIntClamp n

/-- The sum, stopped at either end of the coordinate range. -/
def saturatingAdd (a b : Int32) : Int32 := clampCoordinate (a.toInt + b.toInt)

theorem toInt_clampCoordinate (n : Int) :
    (clampCoordinate n).toInt = max (-2147483648) (min n 2147483647) := by
  unfold clampCoordinate Int32.ofIntClamp
  split
  next low =>
    split
    next high =>
      rw [Int32.toInt_ofIntLE]
      have low' : (-2147483648 : Int) ≤ n := low
      have high' : n ≤ 2147483647 := high
      omega
    next high =>
      have high' : ¬ n ≤ 2147483647 := high
      show (2147483647 : Int) = _
      omega
  next low =>
    have low' : ¬ (-2147483648 : Int) ≤ n := low
    show (-2147483648 : Int) = _
    omega

theorem toInt_saturatingAdd (a b : Int32) :
    (saturatingAdd a b).toInt = max (-2147483648) (min (a.toInt + b.toInt) 2147483647) :=
  toInt_clampCoordinate _

/-- The largest coordinate a length can be cut to. -/
def coordinateOfLength (n : UInt32) : Int32 := clampCoordinate n.toNat

end Compositing
