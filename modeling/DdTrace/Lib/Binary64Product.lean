import Mathlib.Algebra.Order.Field.Rat
import Mathlib.Algebra.Order.Floor.Semifield
import Mathlib.Data.Rat.Floor
import Mathlib.Tactic.GCongr
import Mathlib.Tactic.Positivity
import Mathlib.Tactic.Ring
import DdTrace.Lib.Binary64

/-!
# Binary64Product — products of doubles, and doubles cut to whole numbers

The smallest double is `2 ^ (-1074)`, and every finite one is a whole number of such units.  In units a
product is a product of natural numbers, which is rounded back to a double.

* `units_roundUnits` — what has a place among the doubles is not rounded;
* `units_mono` — more bits are more units;
* `toU64_mul_twoPow64` — a double below one, scaled by `2 ^ 64` and cut down to a whole number.
-/

namespace DdTrace
namespace Lib
namespace Binary64

/-! ## Units -/

/-- The smallest double is two to the power of minus this. -/
def unitExponent : Nat := 1074

/-- The absolute value of a finite double, in units. -/
def units (x : BitVec 64) : Nat := significand x * 2 ^ (max 1 (exponent x) - 1)

/-- The absolute value of a finite double. -/
def value (x : BitVec 64) : ℚ := units x / 2 ^ unitExponent

def isInfinite (x : BitVec 64) : Bool := exponent x = 2047 && fraction x = 0

/-- A significand in its place.  One that lacks the leading bit stands at the smallest exponent. -/
theorem fields_ofNat {place s : Nat} (hs : s < 2 ^ 53) (hlead : place = 0 ∨ 2 ^ 52 ≤ s)
    (hplace : place < 2046) :
    units (BitVec.ofNat 64 (place * 2 ^ 52 + s)) = s * 2 ^ place ∧
      exponent (BitVec.ofNat 64 (place * 2 ^ 52 + s)) < 2047 := by
  have hbits : (BitVec.ofNat 64 (place * 2 ^ 52 + s)).toNat = place * 2 ^ 52 + s := by
    rw [BitVec.toNat_ofNat]
    omega
  by_cases hlow : s < 2 ^ 52
  · -- without the leading bit the exponent is zero
    have hzero : place = 0 := hlead.resolve_right (by omega)
    subst hzero
    have hexp : exponent (BitVec.ofNat 64 (0 * 2 ^ 52 + s)) = 0 := by
      rw [exponent, hbits]
      omega
    have hfrac : fraction (BitVec.ofNat 64 (0 * 2 ^ 52 + s)) = s := by
      rw [fraction, hbits]
      omega
    refine ⟨?_, by omega⟩
    rw [units, significand, hexp, hfrac, if_pos rfl]
    rfl
  · -- the leading bit counts as one step of the exponent
    have hexp : exponent (BitVec.ofNat 64 (place * 2 ^ 52 + s)) = place + 1 := by
      rw [exponent, hbits]
      omega
    have hfrac : fraction (BitVec.ofNat 64 (place * 2 ^ 52 + s)) = s - 2 ^ 52 := by
      rw [fraction, hbits]
      omega
    have hsig : significand (BitVec.ofNat 64 (place * 2 ^ 52 + s)) = s := by
      rw [significand, hexp, hfrac, if_neg (Nat.succ_ne_zero place)]
      omega
    have hmax : max 1 (place + 1) - 1 = place := by omega
    exact ⟨by rw [units, hsig, hexp, hmax], by omega⟩

theorem significand_lt (x : BitVec 64) : significand x < 2 ^ 53 := by
  have hfrac : fraction x < 2 ^ 52 := Nat.mod_lt _ (Nat.two_pow_pos 52)
  unfold significand
  split_ifs <;> omega

theorem toNat_eq_of_not_isNegative {x : BitVec 64} (h : isNegative x = false) :
    x.toNat = exponent x * 2 ^ 52 + fraction x := by
  have hlt : x.toNat < 2 ^ 63 := by
    simpa [isNegative] using h
  unfold exponent fraction
  omega

/-- The units of a double without sign, in the order of the bits. -/
theorem units_mono {x y : BitVec 64} (hx : isNegative x = false) (hy : isNegative y = false)
    (h : x.toNat ≤ y.toNat) : units x ≤ units y := by
  have hxfrac : fraction x < 2 ^ 52 := Nat.mod_lt _ (Nat.two_pow_pos 52)
  have hyfrac : fraction y < 2 ^ 52 := Nat.mod_lt _ (Nat.two_pow_pos 52)
  rw [toNat_eq_of_not_isNegative hx, toNat_eq_of_not_isNegative hy] at h
  rcases Nat.lt_trichotomy (exponent x) (exponent y) with hlt | heq | hgt
  · -- `y` has a leading bit, and its unit is that of `x` or a greater one
    have hsig : significand y = 2 ^ 52 + fraction y := if_neg (by omega)
    rcases Nat.eq_zero_or_pos (exponent x) with hzero | hpos
    · have hsigx : significand x = fraction x := if_pos hzero
      calc
        units x = fraction x := by simp [units, hsigx, hzero]
        _ ≤ significand y := by omega
        _ ≤ units y := Nat.le_mul_of_pos_right _ (Nat.two_pow_pos _)
    · calc
        units x ≤ 2 ^ 53 * 2 ^ (max 1 (exponent x) - 1) :=
          Nat.mul_le_mul_right _ (significand_lt x).le
        _ = 2 ^ 52 * 2 ^ (max 1 (exponent x)) := by
          rw [← Nat.pow_add, ← Nat.pow_add]
          congr 1
          omega
        _ ≤ 2 ^ 52 * 2 ^ (max 1 (exponent y) - 1) :=
          Nat.mul_le_mul_left _ (Nat.pow_le_pow_right (by decide) (by omega))
        _ ≤ units y := Nat.mul_le_mul_right _ (by omega)
  · have hsig : significand x ≤ significand y := by
      unfold significand
      rw [heq]
      split_ifs <;> omega
    unfold units
    rw [heq]
    exact Nat.mul_le_mul_right _ hsig
  · omega

theorem le_iff {x y : BitVec 64} :
    le x y = true ↔ isNaN x = false ∧ isNaN y = false ∧ ordinal x ≤ ordinal y := by
  simp only [le, Bool.and_eq_true, Bool.not_eq_true', decide_eq_true_eq, and_assoc]

theorem lt_iff {x y : BitVec 64} :
    lt x y = true ↔ isNaN x = false ∧ isNaN y = false ∧ ordinal x < ordinal y := by
  simp only [lt, Bool.and_eq_true, Bool.not_eq_true', decide_eq_true_eq, and_assoc]

/-- A double between zero and one. -/
theorem units_lt_of_lt_one {x : BitVec 64} (hpos : lt 0 x = true)
    (hone : lt x 0x3FF0000000000000 = true) :
    isNegative x = false ∧ units x < 2 ^ unitExponent := by
  obtain ⟨-, -, hpos⟩ := lt_iff.1 hpos
  obtain ⟨-, -, hone⟩ := lt_iff.1 hone
  have hzero : ordinal 0 = 0 := by decide
  have hends : ordinal 0x3FF0000000000000 = Int.ofNat (1023 * 2 ^ 52) := by decide
  rw [hzero] at hpos
  rw [hends] at hone
  have hsign : isNegative x = false := by
    by_contra hneg
    rw [ordinal, if_pos (Bool.eq_true_of_not_eq_false hneg)] at hpos
    exact absurd hpos (Int.not_lt.2 (Int.neg_nonpos_of_nonneg (Int.natCast_nonneg _)))
  have hbits : x.toNat < 1023 * 2 ^ 52 := by
    rw [ordinal, hsign, if_neg Bool.false_ne_true] at hone
    exact Int.ofNat_lt.1 hone
  refine ⟨hsign, ?_⟩
  have hexp : exponent x ≤ 1022 := by
    rw [toNat_eq_of_not_isNegative hsign] at hbits
    omega
  have hplace : 53 + (max 1 (exponent x) - 1) ≤ unitExponent := by
    rw [unitExponent]
    omega
  calc
    units x < 2 ^ 53 * 2 ^ (max 1 (exponent x) - 1) :=
      Nat.mul_lt_mul_of_pos_right (significand_lt x) (Nat.two_pow_pos _)
    _ = 2 ^ (53 + (max 1 (exponent x) - 1)) := (Nat.pow_add 2 53 _).symm
    _ ≤ 2 ^ unitExponent := Nat.pow_le_pow_right Nat.two_pos hplace

/-- Numbers are comparable. -/
theorem lt_of_le_eq_false {x y : BitVec 64} (hx : isNaN x = false) (hy : isNaN y = false)
    (h : le x y = false) : lt y x = true := by
  refine lt_iff.2 ⟨hy, hx, ?_⟩
  by_contra hle
  exact absurd (le_iff.2 ⟨hx, hy, Int.not_lt.1 hle⟩) (Bool.eq_false_iff.1 h)

theorem lt_eq_false_of_lt {x y : BitVec 64} (h : lt x y = true) : lt y x = false := by
  obtain ⟨-, -, horder⟩ := lt_iff.1 h
  exact Bool.eq_false_iff.2 fun hback => Int.lt_asymm horder (lt_iff.1 hback).2.2

/-- The order of two doubles without sign is that of their values. -/
theorem value_mono {x y : BitVec 64} (hx : isNegative x = false) (hy : isNegative y = false)
    (h : le x y = true) : value x ≤ value y := by
  obtain ⟨-, -, horder⟩ := le_iff.1 h
  rw [ordinal, ordinal, hx, hy, if_neg Bool.false_ne_true, if_neg Bool.false_ne_true] at horder
  have hunits := units_mono hx hy (Int.ofNat_le.1 horder)
  unfold value
  gcongr

/-! ## Rounding -/

/-- The bits of positive infinity. -/
def infinityBits : Nat := 2047 * 2 ^ 52

/-- The bits of the double nearest to `n` units divided by `2 ^ shift`, ties to even, where the sign is
left out.  A significand has 53 bits, or less where the unit is the smallest; what is rounded up beyond
the greatest double is infinite. -/
def roundUnits (n shift : Nat) : Nat :=
  let drop := max shift (n.log2 - 52)
  min ((drop - shift) * 2 ^ 52 + roundShift n drop) infinityBits

/-- A number with a place among the doubles is not rounded. -/
theorem units_roundUnits {s k shift : Nat} (hs : s < 2 ^ 53) (hk : shift ≤ k)
    (hrange : (s * 2 ^ k).log2 < shift + 2098) :
    units (BitVec.ofNat 64 (roundUnits (s * 2 ^ k) shift)) * 2 ^ shift = s * 2 ^ k ∧
      exponent (BitVec.ofNat 64 (roundUnits (s * 2 ^ k) shift)) < 2047 := by
  generalize hn : s * 2 ^ k = n at hrange ⊢
  generalize hdrop : max shift (n.log2 - 52) = drop
  have hupper : n < 2 ^ (n.log2 + 1) := Nat.lt_log2_self
  -- all that is dropped is zero
  have hle : drop ≤ k := by
    rcases Nat.eq_zero_or_pos n with hzero | hpos
    · have hlog : n.log2 = 0 := by simp [hzero]
      omega
    · have hlog : 2 ^ n.log2 ≤ n := Nat.log2_self_le (by omega)
      have hpow : 2 ^ n.log2 < 2 ^ (53 + k) := by
        calc
          2 ^ n.log2 ≤ s * 2 ^ k := hn ▸ hlog
          _ < 2 ^ 53 * 2 ^ k := Nat.mul_lt_mul_of_pos_right hs (Nat.two_pow_pos k)
          _ = 2 ^ (53 + k) := (Nat.pow_add 2 53 k).symm
      have := (Nat.pow_lt_pow_iff_right (by decide : 1 < 2)).1 hpow
      omega
  obtain ⟨t, ht⟩ : ∃ t, n = t * 2 ^ drop := by
    refine ⟨s * 2 ^ (k - drop), ?_⟩
    rw [← hn, Nat.mul_assoc, ← Nat.pow_add]
    congr 2
    omega
  have htlt : t < 2 ^ 53 := by
    have hpow : t * 2 ^ drop < 2 ^ 53 * 2 ^ drop := by
      calc
        t * 2 ^ drop < 2 ^ (n.log2 + 1) := ht ▸ hupper
        _ ≤ 2 ^ (53 + drop) := Nat.pow_le_pow_right (by decide) (by omega)
        _ = 2 ^ 53 * 2 ^ drop := Nat.pow_add 2 53 drop
    exact Nat.lt_of_mul_lt_mul_right hpow
  have hlead : drop - shift = 0 ∨ 2 ^ 52 ≤ t := by
    by_cases hshift : drop = shift
    · left
      omega
    · right
      have hlog : 2 ^ n.log2 ≤ n := Nat.log2_self_le (by
        intro hzero
        have : n.log2 = 0 := by simp [hzero]
        omega)
      have hpow : 2 ^ 52 * 2 ^ drop ≤ t * 2 ^ drop := by
        calc
          2 ^ 52 * 2 ^ drop = 2 ^ n.log2 := by
            rw [← Nat.pow_add]
            congr 1
            omega
          _ ≤ t * 2 ^ drop := ht ▸ hlog
      exact Nat.le_of_mul_le_mul_right hpow (Nat.two_pow_pos drop)
  have hbits : roundUnits n shift = (drop - shift) * 2 ^ 52 + t := by
    have hround : roundShift n drop = t := by
      rw [ht]
      exact roundShift_mul t drop
    have hsmall : drop - shift ≤ 2045 := by omega
    have hfinite : (drop - shift) * 2 ^ 52 + t ≤ infinityBits := by
      calc
        (drop - shift) * 2 ^ 52 + t ≤ 2045 * 2 ^ 52 + 2 ^ 53 :=
          Nat.add_le_add (Nat.mul_le_mul_right _ hsmall) htlt.le
        _ = infinityBits := by decide
    simp only [roundUnits, hdrop, hround]
    exact Nat.min_eq_left hfinite
  rw [hbits]
  obtain ⟨hunits, hfinite⟩ := fields_ofNat htlt hlead (by omega : drop - shift < 2046)
  refine ⟨?_, hfinite⟩
  rw [hunits, Nat.mul_assoc, ← Nat.pow_add, ht]
  congr 2
  omega

/-! ## Operations -/

def nan : BitVec 64 := 0x7FF8000000000000

/-- The sign of a product. -/
def productSign (x y : BitVec 64) : Nat := if isNegative x = isNegative y then 0 else 2 ^ 63

/-- The double that is nearest to the product. -/
def mul (x y : BitVec 64) : BitVec 64 :=
  if isNaN x || isNaN y then nan
  else if isInfinite x || isInfinite y then
    if isZero x || isZero y then nan else BitVec.ofNat 64 (productSign x y + infinityBits)
  else BitVec.ofNat 64 (productSign x y + roundUnits (units x * units y) unitExponent)

/-- The greatest and the smallest number of 64 bits stand for what is above and below them, and zero
for what is no number. -/
def toU64 (x : BitVec 64) : UInt64 :=
  if isNaN x || isNegative x then 0
  else UInt64.ofNat (min (units x / 2 ^ unitExponent) (2 ^ 64 - 1))

/-- What is no number stays as it is. -/
def clamp (x low high : BitVec 64) : BitVec 64 :=
  let atLeast := if lt x low then low else x
  if lt high atLeast then high else atLeast

/-- The double without its sign. -/
def abs (x : BitVec 64) : BitVec 64 := x &&& 0x7FFFFFFFFFFFFFFF

/-- The smaller of two doubles, or the one that is a number. -/
def minNum (x y : BitVec 64) : BitVec 64 :=
  if isNaN x then y else if isNaN y then x else if lt y x then y else x

@[simp] theorem abs_abs (x : BitVec 64) : abs (abs x) = abs x := by
  simp [abs, BitVec.and_assoc]

theorem toNat_abs (x : BitVec 64) : (abs x).toNat = x.toNat % 2 ^ 63 := by
  rw [abs, BitVec.toNat_and]
  exact Nat.and_two_pow_sub_one_eq_mod x.toNat 63

theorem isNegative_abs (x : BitVec 64) : isNegative (abs x) = false := by
  have hlt : x.toNat % 2 ^ 63 < 2 ^ 63 := Nat.mod_lt _ (Nat.two_pow_pos 63)
  rw [isNegative, toNat_abs]
  exact decide_eq_false (by omega)

theorem abs_eq_self {x : BitVec 64} (h : isNegative x = false) : abs x = x := by
  have hlt : x.toNat < 2 ^ 63 := by
    simpa [isNegative] using h
  exact BitVec.eq_of_toNat_eq (by rw [toNat_abs, Nat.mod_eq_of_lt hlt])

@[simp] theorem isNaN_abs (x : BitVec 64) : isNaN (abs x) = isNaN x := by
  have hexp : exponent (abs x) = exponent x := by
    rw [exponent, exponent, toNat_abs]
    omega
  have hfrac : fraction (abs x) = fraction x := by
    rw [fraction, fraction, toNat_abs]
    omega
  rw [isNaN, isNaN, hexp, hfrac]

/-- The smaller of two doubles without sign, the second of which is a number. -/
theorem minNum_bounds {x y : BitVec 64} (hx : isNegative x = false) (hy : isNegative y = false)
    (hnan : isNaN y = false) :
    isNegative (minNum x y) = false ∧ le (minNum x y) y = true := by
  have hself : le y y = true := le_iff.2 ⟨hnan, hnan, le_rfl⟩
  unfold minNum
  rw [hnan, if_neg Bool.false_ne_true]
  by_cases hxnan : isNaN x = true
  · rw [if_pos hxnan]
    exact ⟨hy, hself⟩
  · rw [if_neg hxnan]
    by_cases hlt : lt y x = true
    · rw [if_pos hlt]
      exact ⟨hy, hself⟩
    · rw [if_neg hlt]
      refine ⟨hx, le_iff.2 ⟨Bool.eq_false_iff.2 hxnan, hnan, ?_⟩⟩
      by_contra hgt
      exact hlt (lt_iff.2 ⟨hnan, Bool.eq_false_iff.2 hxnan, Int.not_le.1 hgt⟩)

theorem minNum_eq_left {x y : BitVec 64} (h : le x y = true) : minNum x y = x := by
  obtain ⟨hx, hy, horder⟩ := le_iff.1 h
  have hlt : lt y x = false :=
    Bool.eq_false_iff.2 fun hback => absurd (lt_iff.1 hback).2.2 (Int.not_lt.2 horder)
  rw [minNum, hx, hy, hlt, if_neg Bool.false_ne_true, if_neg Bool.false_ne_true,
    if_neg Bool.false_ne_true]

/-! ## Scaling by `2 ^ 64` -/

/-- The double `2 ^ 64`. -/
def twoPow64 : BitVec 64 := 0x43F0000000000000

theorem units_twoPow64 : units twoPow64 = 2 ^ (unitExponent + 64) := by decide +kernel

theorem log2_mul_two_pow_le {n k : Nat} (h : n < 2 ^ k) (j : Nat) : (n * 2 ^ j).log2 ≤ k + j := by
  rcases Nat.eq_zero_or_pos n with rfl | hpos
  · simp
  · have hne : n * 2 ^ j ≠ 0 := Nat.mul_ne_zero (by omega) (Nat.two_pow_pos j).ne'
    have hlt : n * 2 ^ j < 2 ^ (k + j) := by
      rw [Nat.pow_add]
      exact Nat.mul_lt_mul_of_pos_right h (Nat.two_pow_pos j)
    exact ((Nat.log2_lt hne).2 hlt).le

theorem exponent_lt_of_units_lt {x : BitVec 64} (h : units x < 2 ^ unitExponent) : exponent x < 2047 := by
  by_contra hge
  have hlead : 2 ^ 52 ≤ significand x := by
    rw [significand, if_neg (by omega)]
    exact Nat.le_add_right _ _
  have hplace : unitExponent ≤ max 1 (exponent x) - 1 := by
    rw [unitExponent]
    omega
  have hunits : 2 ^ unitExponent ≤ units x := by
    calc
      2 ^ unitExponent ≤ 2 ^ (max 1 (exponent x) - 1) := Nat.pow_le_pow_right (by decide) hplace
      _ ≤ units x := Nat.le_mul_of_pos_left _ (by omega)
  exact absurd h (Nat.not_lt.2 hunits)

/-- Scaling a double below one by `2 ^ 64` is exact. -/
theorem units_mul_twoPow64 {x : BitVec 64} (hsign : isNegative x = false) (h : units x < 2 ^ unitExponent) :
    units (mul x twoPow64) = units x * 2 ^ 64 ∧ isNaN (mul x twoPow64) = false ∧
      isNegative (mul x twoPow64) = false := by
  have hexp := exponent_lt_of_units_lt h
  have hfinite : isNaN x = false ∧ isInfinite x = false := by
    constructor
    · rw [isNaN, decide_eq_false (by omega : ¬ exponent x = 2047), Bool.false_and]
    · rw [isInfinite, decide_eq_false (by omega : ¬ exponent x = 2047), Bool.false_and]
  have hscale : isNaN twoPow64 = false ∧ isInfinite twoPow64 = false ∧
      isNegative twoPow64 = false := by decide
  have hmul : mul x twoPow64 =
      BitVec.ofNat 64 (roundUnits (units x * units twoPow64) unitExponent) := by
    have hpos : productSign x twoPow64 = 0 := by
      rw [productSign, hsign, hscale.2.2, if_pos rfl]
    unfold mul
    rw [hfinite.1, hfinite.2, hscale.1, hscale.2.1, hpos, Bool.or_self,
      if_neg Bool.false_ne_true, if_neg Bool.false_ne_true, Nat.zero_add]
  have hproduct : units x * units twoPow64 =
      significand x * 2 ^ (max 1 (exponent x) - 1 + (unitExponent + 64)) := by
    rw [units_twoPow64, units, Nat.mul_assoc, ← Nat.pow_add]
  have hrange : (units x * units twoPow64).log2 < unitExponent + 2098 := by
    have hlog := log2_mul_two_pow_le h (unitExponent + 64)
    rw [units_twoPow64]
    have hvalue : unitExponent = 1074 := rfl
    omega
  rw [hproduct] at hrange
  obtain ⟨hunits, hexp'⟩ := units_roundUnits (significand_lt x)
    (Nat.le_add_left_of_le (Nat.le_add_right _ _) : unitExponent ≤ _) hrange
  rw [← hproduct, ← hmul] at hunits hexp'
  refine ⟨?_, ?_, ?_⟩
  · have heq : units (mul x twoPow64) * 2 ^ unitExponent =
        units x * 2 ^ 64 * 2 ^ unitExponent := by
      calc
        units (mul x twoPow64) * 2 ^ unitExponent = units x * 2 ^ (unitExponent + 64) := by
          rw [hunits, units_twoPow64]
        _ = units x * (2 ^ 64 * 2 ^ unitExponent) := by rw [← Nat.pow_add, Nat.add_comm]
        _ = units x * 2 ^ 64 * 2 ^ unitExponent := (Nat.mul_assoc _ _ _).symm
    exact Nat.eq_of_mul_eq_mul_right (Nat.two_pow_pos _) heq
  · rw [isNaN, decide_eq_false (by omega : ¬ exponent (mul x twoPow64) = 2047), Bool.false_and]
  · have hbits : roundUnits (units x * units twoPow64) unitExponent ≤ infinityBits := Nat.min_le_right _ _
    have hinf : infinityBits < 2 ^ 63 := by decide
    rw [hmul, isNegative, BitVec.toNat_ofNat]
    exact decide_eq_false (by omega)

/-- A double below one, scaled by `2 ^ 64` and cut down to a whole number. -/
theorem toU64_mul_twoPow64 {x : BitVec 64} (hsign : isNegative x = false)
    (h : units x < 2 ^ unitExponent) :
    (toU64 (mul x twoPow64)).toNat = ⌊value x * 2 ^ 64⌋₊ := by
  obtain ⟨hunits, hnan, hpos⟩ := units_mul_twoPow64 hsign h
  have hlt : units x * 2 ^ 64 / 2 ^ unitExponent < 2 ^ 64 := by
    refine Nat.div_lt_of_lt_mul ?_
    exact Nat.mul_lt_mul_of_pos_right h (Nat.two_pow_pos 64)
  have hfloor : ⌊value x * 2 ^ 64⌋₊ = units x * 2 ^ 64 / 2 ^ unitExponent := by
    have hcast : value x * 2 ^ 64 =
        ((units x * 2 ^ 64 : Nat) : ℚ) / ((2 ^ unitExponent : Nat) : ℚ) := by
      rw [value]
      push_cast
      ring
    rw [hcast, Nat.floor_div_eq_div]
  rw [toU64, hnan, hpos, hunits, hfloor]
  have hmin : min (units x * 2 ^ 64 / 2 ^ unitExponent) (2 ^ 64 - 1) =
      units x * 2 ^ 64 / 2 ^ unitExponent :=
    Nat.min_eq_left (by omega)
  rw [Bool.or_false, if_neg Bool.false_ne_true, hmin]
  exact UInt64.toNat_ofNat_of_lt' hlt

end Binary64
end Lib
end DdTrace
