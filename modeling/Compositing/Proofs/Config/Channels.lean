import Compositing.Colour
import Mathlib

/-!
# Channels as numbers

A channel of a colour is a word of 32 bits. Most words stand for a number, two for an infinity and the
others for what is no number, and channels are compared as the numbers they stand for. Main statement:
`Colour.inRange_iff`, that the channels of a colour in range are the numbers from zero to one.
-/

namespace Compositing

open Float.Model (Format UnpackedFloat)

namespace Channel

/-- The number that a float stands for, none for an infinity and for what is no number. -/
def numberOf? : UnpackedFloat → Option ℚ
  | .zero _ => some 0
  | .finite .positive mantissa exponent _ => some (mantissa * 2 ^ exponent)
  | .finite .negative mantissa exponent _ => some (-(mantissa * 2 ^ exponent))
  | .infinity _ | .notANumber => none

/-- The number that a channel stands for. -/
def number? (v : Float32) : Option ℚ := numberOf? v.toModel.unpack

/-! ### Full mantissas -/

/-- A mantissa fills the 24 digits that there are for it, unless the exponent is as small as can be. -/
def Full (mantissa : Nat) (exponent : Int) : Prop :=
  mantissa < 2 ^ 24 ∧ -149 ≤ exponent ∧ (exponent ≠ -149 → 2 ^ 23 ≤ mantissa)

def IsFull : UnpackedFloat → Prop
  | .finite _ mantissa exponent _ => Full mantissa exponent
  | _ => True

/-- What a word is read as has a full mantissa, if it has one at all. -/
theorem isFull_unpack (v : Float32) : IsFull v.toModel.unpack := by
  unfold Float32.Model.unpack
  generalize v.toModel.toBits.toBitVec = word
  have fraction : (@UnpackedFloat.unpackMantissa .binary32 word).toNat < 2 ^ 23 :=
    BitVec.isLt _
  have offset : (Format.binary32.exponentBias : Int) +
      Format.binary32.mantissaBitsWithoutImplicit = 150 := rfl
  fun_cases UnpackedFloat.unpack Format.binary32 word with
  | case1 | case2 | case3 => trivial
  | case4 bits exponentBits exponent _ _ _ least =>
    -- The leading digit is not there, and the exponent is the smallest one.
    have none_there : exponentBits.toNat = 0 := by rw [least]; rfl
    have fraction : bits.toNat < 2 ^ 23 := fraction
    exact ⟨by omega, by omega, fun larger => by omega⟩
  | case5 bits exponentBits exponent _ _ _ larger =>
    have there : exponentBits.toNat ≠ 0 := fun zero => larger (BitVec.eq_of_toNat_eq zero)
    have fraction : bits.toNat < 2 ^ 23 := fraction
    have leading : (1#1 ++ bits).toNat = 2 ^ 23 + bits.toNat := by
      rw [BitVec.toNat_append, ← Nat.shiftLeft_add_eq_or_of_lt fraction]
      rfl
    change Full (1#1 ++ bits).toNat exponent
    rw [leading]
    exact ⟨by omega, by omega, fun _ => by omega⟩

/-! ### Order -/

section

variable {m n : Nat} {e f : Int}

/-- A full mantissa with the smaller exponent makes the smaller number. -/
theorem scaled_lt (small : m < 2 ^ 24) (large : 2 ^ 23 ≤ n) (less : e < f) :
    (m * 2 ^ e : ℚ) < n * 2 ^ f := by
  have small : (m : ℚ) < 2 ^ 24 := by exact_mod_cast small
  have large : (2 ^ 23 : ℚ) ≤ n := by exact_mod_cast large
  -- The larger exponent makes up for the one digit that the larger mantissa can have more.
  calc (m * 2 ^ e : ℚ) < 2 ^ 24 * 2 ^ e := by gcongr
    _ = 2 ^ 23 * 2 ^ (e + 1) := by rw [zpow_add_one₀ two_ne_zero]; ring
    _ ≤ n * 2 ^ f := mul_le_mul large (zpow_le_zpow_right₀ one_le_two less) (by positivity)
        (by positivity)

/-- Numbers with full mantissas are compared by their exponents first. -/
theorem scaled_le_iff (full : Full m e) (full' : Full n f) :
    (m * 2 ^ e : ℚ) ≤ n * 2 ^ f ↔ e < f ∨ (e = f ∧ m ≤ n) := by
  obtain ⟨small, least, large⟩ := full
  obtain ⟨small', least', large'⟩ := full'
  -- The number with the larger exponent has all digits, as its exponent is not the least one.
  rcases lt_trichotomy e f with less | rfl | more
  · exact iff_of_true (scaled_lt small (large' (by omega)) less).le (.inl less)
  · have power : (0 : ℚ) < 2 ^ e := by positivity
    simp [mul_le_mul_iff_of_pos_right power]
  · exact iff_of_false (not_le.2 (scaled_lt small' (large (by omega)) more)) (by omega)

theorem isLE_compare_iff :
    ((compare e f).then (compare m n)).isLE = true ↔ e < f ∨ (e = f ∧ m ≤ n) := by
  rw [Ordering.isLE_then_iff_and, Int.isLE_compare, Nat.isLE_compare, Int.compare_eq_lt]
  omega

theorem swap_compare :
    ((compare e f).then (compare m n)).swap = (compare f e).then (compare n m) := by
  rw [Ordering.swap_then, Int.compare_swap, Nat.compare_swap]

end

/-- A float that stands for a number is zero, or it has a sign, a mantissa and an exponent. -/
theorem numberOf?_cases {a : UnpackedFloat} {p : ℚ} (number : numberOf? a = some p) :
    (∃ s, a = .zero s ∧ p = 0) ∨
    (∃ m e, ∃ some_m : 0 < m, a = .finite .negative m e some_m ∧ p = -(m * 2 ^ e)) ∨
    ∃ m e, ∃ some_m : 0 < m, a = .finite .positive m e some_m ∧ p = m * 2 ^ e := by
  cases a with
  | infinity | notANumber => cases number
  | zero s => exact .inl ⟨s, rfl, (Option.some.inj number).symm⟩
  | finite s m e some_m =>
    cases s with
    | negative => exact .inr (.inl ⟨m, e, some_m, rfl, (Option.some.inj number).symm⟩)
    | positive => exact .inr (.inr ⟨m, e, some_m, rfl, (Option.some.inj number).symm⟩)

/-- Floats that stand for numbers are compared as these numbers. -/
theorem le_iff_of_numbers {a b : UnpackedFloat} {p q : ℚ} (fullA : IsFull a) (fullB : IsFull b)
    (numberA : numberOf? a = some p) (numberB : numberOf? b = some q) :
    a.le b = true ↔ p ≤ q := by
  -- Signs decide unless they are the same, and neither number is zero.
  have proper {m : Nat} (e : Int) (some_m : 0 < m) : (0 : ℚ) < m * 2 ^ e := by positivity
  have no : ¬false = true := Bool.false_ne_true
  obtain ⟨s, rfl, rfl⟩ | ⟨m, e, some_m, rfl, rfl⟩ | ⟨m, e, some_m, rfl, rfl⟩ :=
    numberOf?_cases numberA
  · obtain ⟨t, rfl, rfl⟩ | ⟨n, f, some_n, rfl, rfl⟩ | ⟨n, f, some_n, rfl, rfl⟩ :=
      numberOf?_cases numberB
    · exact iff_of_true rfl le_rfl
    · exact iff_of_false no (by linarith [proper f some_n])
    · exact iff_of_true rfl (proper f some_n).le
  · have large := proper e some_m
    obtain ⟨t, rfl, rfl⟩ | ⟨n, f, some_n, rfl, rfl⟩ | ⟨n, f, some_n, rfl, rfl⟩ :=
      numberOf?_cases numberB
    · exact iff_of_true rfl (by linarith)
    · -- Of two negative numbers the one that is further from zero is the smaller one.
      change ((compare e f).then (compare m n)).swap.isLE = true ↔ _
      rw [swap_compare, isLE_compare_iff, neg_le_neg_iff, scaled_le_iff fullB fullA]
    · exact iff_of_true rfl (by linarith [proper f some_n])
  · have large := proper e some_m
    obtain ⟨t, rfl, rfl⟩ | ⟨n, f, some_n, rfl, rfl⟩ | ⟨n, f, some_n, rfl, rfl⟩ :=
      numberOf?_cases numberB
    · exact iff_of_false no (by linarith)
    · exact iff_of_false no (by linarith [proper f some_n])
    · change ((compare e f).then (compare m n)).isLE = true ↔ _
      rw [isLE_compare_iff, scaled_le_iff fullA fullB]

/-- Between two numbers lie only numbers, as what is no number is not compared with any. -/
theorem exists_number_of_between {a b c : UnpackedFloat} (above : a.le b = true) (below : b.le c = true)
    (first : (numberOf? a).isSome) (last : (numberOf? c).isSome) : ∃ q, numberOf? b = some q := by
  cases b with
  | zero s => exact ⟨_, rfl⟩
  | finite s m e some_m => cases s <;> exact ⟨_, rfl⟩
  | notANumber => cases a <;> cases above
  | infinity s =>
    cases s with
    | negative =>
      obtain ⟨p, number⟩ := Option.isSome_iff_exists.1 first
      obtain ⟨t, rfl, -⟩ | ⟨m, e, some_m, rfl, -⟩ | ⟨m, e, some_m, rfl, -⟩ :=
        numberOf?_cases number <;> cases above
    | positive =>
      obtain ⟨p, number⟩ := Option.isSome_iff_exists.1 last
      obtain ⟨t, rfl, -⟩ | ⟨m, e, some_m, rfl, -⟩ | ⟨m, e, some_m, rfl, -⟩ :=
        numberOf?_cases number <;> cases below

theorem le_iff_unpack (a b : Float32) :
    a ≤ b ↔ UnpackedFloat.le a.toModel.unpack b.toModel.unpack = true :=
  decide_eq_true_iff

theorem le_iff {a b : Float32} {p q : ℚ} (numberA : number? a = some p)
    (numberB : number? b = some q) : a ≤ b ↔ p ≤ q := by
  rw [le_iff_unpack, le_iff_of_numbers (isFull_unpack a) (isFull_unpack b) numberA numberB]

/-- A channel lies between zero and one exactly if it stands for a number that does. -/
theorem between_iff (v : Float32) :
    (0 ≤ v ∧ v ≤ 1) ↔ ∃ q, number? v = some q ∧ 0 ≤ q ∧ q ≤ 1 := by
  have zero : number? 0 = some 0 := rfl
  have one : number? 1 = some 1 := by
    change some ((8388608 : Nat) * 2 ^ (-23 : Int) : ℚ) = some 1
    norm_num
  constructor
  · rintro ⟨above, below⟩
    obtain ⟨q, number⟩ := exists_number_of_between ((le_iff_unpack 0 v).1 above)
      ((le_iff_unpack v 1).1 below) (Option.isSome_iff_exists.2 ⟨0, zero⟩)
      (Option.isSome_iff_exists.2 ⟨1, one⟩)
    exact ⟨q, number, (le_iff zero number).1 above, (le_iff number one).1 below⟩
  · rintro ⟨q, number, above, below⟩
    exact ⟨(le_iff zero number).2 above, (le_iff number one).2 below⟩

end Channel

/-- A colour is in range exactly if all of its channels are numbers from zero to one. -/
theorem Colour.inRange_iff (c : Colour) : c.inRange = true ↔
    ∀ v ∈ c.channels, ∃ q, Channel.number? v = some q ∧ 0 ≤ q ∧ q ≤ 1 := by
  simp only [inRange, List.all_eq_true, Bool.and_eq_true, decide_eq_true_eq, Channel.between_iff]

end Compositing
