import Mathlib.Algebra.Ring.Nat
import Mathlib.Tactic.Common

/-!
# Binary64 — double precision floats as bit patterns

A float is its 64 bits: a sign, a biased exponent of 11 bits and a fraction of 52.  Integers are
rounded to floats, ties to even, and floats that are integers are read back.

* `bitsOfNat_mono` — rounding keeps the order;
* `toInt?_ofInt_round` — what comes back from a float is the rounded integer;
* `toInt?_ofInt` — the integers below `2 ^ 53` come through unchanged.
-/

namespace DdTrace
namespace Lib
namespace Binary64

/-! ## Fields -/

def isNegative (x : BitVec 64) : Bool := 2 ^ 63 ≤ x.toNat

/-- The biased exponent. -/
def exponent (x : BitVec 64) : Nat := x.toNat / 2 ^ 52 % 2 ^ 11

def fraction (x : BitVec 64) : Nat := x.toNat % 2 ^ 52

/-- Both zeros are zero. -/
def isZero (x : BitVec 64) : Bool := exponent x = 0 && fraction x = 0

/-- Negative infinity. -/
def negInfinity : BitVec 64 := 0xFFF0000000000000

/-- The fraction with its leading bit, which only the numbers of the smallest exponent lack. -/
def significand (x : BitVec 64) : Nat :=
  if exponent x = 0 then fraction x else 2 ^ 52 + fraction x

/-- The absolute value of a finite float, if it is an integer.  The unit of the significand is
`2 ^ (e - 1075)`, where `e` is the exponent, or one if that is zero. -/
def natAbs? (x : BitVec 64) : Option Nat :=
  let e := max 1 (exponent x)
  if exponent x = 2047 then none
  else if isZero x then some 0
  else if 1075 ≤ e then some (significand x * 2 ^ (e - 1075))
  else if significand x % 2 ^ (1075 - e) = 0 then some (significand x / 2 ^ (1075 - e))
  else none

/-- The value of a finite float, if it is an integer. -/
def toInt? (x : BitVec 64) : Option Int :=
  (natAbs? x).map fun n => if isNegative x then -Int.ofNat n else Int.ofNat n

/-! ## Rounding -/

/-- The quotient by `2 ^ shift`, rounded to nearest, ties to even. -/
def roundShift (n shift : Nat) : Nat :=
  let q := n / 2 ^ shift
  let r := n % 2 ^ shift
  if 2 ^ shift < 2 * r ∨ (2 * r = 2 ^ shift ∧ q % 2 = 1) then q + 1 else q

/-- The bits of a natural number in the range of the format.  A significand that is rounded up to
`2 ^ 53` carries into the exponent. -/
def bitsOfNat (n : Nat) : Nat :=
  if n = 0 then 0
  else
    let significand :=
      if n.log2 ≤ 52 then n * 2 ^ (52 - n.log2) else roundShift n (n.log2 - 52)
    (n.log2 + 1022) * 2 ^ 52 + significand

/-- The float that is nearest to an integer. -/
def ofInt (i : Int) : BitVec 64 :=
  BitVec.ofNat 64 ((if i < 0 then 2 ^ 63 else 0) + bitsOfNat i.natAbs)

/-! ## Rounded numbers -/

/-- The number that the float of a natural number stands for. -/
def roundNat (n : Nat) : Nat :=
  if n.log2 ≤ 52 then n else roundShift n (n.log2 - 52) * 2 ^ (n.log2 - 52)

/-- The significand that a number is rounded to. -/
def significandOfNat (n : Nat) : Nat :=
  if n.log2 ≤ 52 then n * 2 ^ (52 - n.log2) else roundShift n (n.log2 - 52)

theorem bitsOfNat_eq {n : Nat} (hne : n ≠ 0) :
    bitsOfNat n = (n.log2 + 1022) * 2 ^ 52 + significandOfNat n := by
  rw [bitsOfNat, if_neg hne]
  rfl

theorem roundShift_mono {m n : Nat} (shift : Nat) (h : m ≤ n) :
    roundShift m shift ≤ roundShift n shift := by
  have hm := Nat.div_add_mod m (2 ^ shift)
  have hn := Nat.div_add_mod n (2 ^ shift)
  have hq : m / 2 ^ shift ≤ n / 2 ^ shift := Nat.div_le_div_right h
  simp only [roundShift]
  rcases Nat.lt_or_eq_of_le hq with hlt | heq
  · -- rounding up reaches the next quotient at most
    split_ifs <;> omega
  · have hr : m % 2 ^ shift ≤ n % 2 ^ shift := by
      rw [heq] at hm
      omega
    split_ifs with hup hup' <;> omega

/-- A multiple of the unit is not rounded. -/
theorem roundShift_mul (q shift : Nat) : roundShift (q * 2 ^ shift) shift = q := by
  have hpos : 0 < 2 ^ shift := Nat.two_pow_pos shift
  simp [roundShift, Nat.mul_div_cancel _ hpos, Nat.ne_of_lt hpos]

/-- A significand has its leading bit set, unless it was rounded up beyond it. -/
theorem significandOfNat_bounds {n : Nat} (hne : n ≠ 0) :
    2 ^ 52 ≤ significandOfNat n ∧ significandOfNat n ≤ 2 ^ 53 := by
  have hlow : 2 ^ n.log2 ≤ n := Nat.log2_self_le hne
  have hhigh : n < 2 ^ (n.log2 + 1) := Nat.lt_log2_self
  unfold significandOfNat
  split_ifs with hlog
  · have hpow : 2 ^ n.log2 * 2 ^ (52 - n.log2) = 2 ^ 52 := by
      rw [← Nat.pow_add, Nat.add_sub_cancel' hlog]
    constructor
    · calc
        2 ^ 52 = 2 ^ n.log2 * 2 ^ (52 - n.log2) := hpow.symm
        _ ≤ n * 2 ^ (52 - n.log2) := Nat.mul_le_mul_right _ hlow
    · calc
        n * 2 ^ (52 - n.log2) ≤ 2 ^ (n.log2 + 1) * 2 ^ (52 - n.log2) :=
          Nat.mul_le_mul_right _ (Nat.le_of_lt hhigh)
        _ = 2 * (2 ^ n.log2 * 2 ^ (52 - n.log2)) := by rw [Nat.pow_succ', Nat.mul_assoc]
        _ = 2 ^ 53 := by
              rw [hpow]
              decide
  · have hsplit : n.log2 = 52 + (n.log2 - 52) := by omega
    rw [hsplit, Nat.pow_add] at hlow
    rw [hsplit, Nat.add_right_comm, Nat.pow_add] at hhigh
    constructor
    · calc
        2 ^ 52 = roundShift (2 ^ 52 * 2 ^ (n.log2 - 52)) (n.log2 - 52) :=
          (roundShift_mul _ _).symm
        _ ≤ roundShift n (n.log2 - 52) := roundShift_mono _ hlow
    · calc
        roundShift n (n.log2 - 52)
            ≤ roundShift (2 ^ 53 * 2 ^ (n.log2 - 52)) (n.log2 - 52) :=
          roundShift_mono _ (Nat.le_of_lt hhigh)
        _ = 2 ^ 53 := roundShift_mul _ _

theorem significandOfNat_mono {m n : Nat} (hlog : m.log2 = n.log2) (h : m ≤ n) :
    significandOfNat m ≤ significandOfNat n := by
  unfold significandOfNat
  rw [hlog]
  split_ifs with hsmall
  · exact Nat.mul_le_mul_right _ h
  · exact roundShift_mono _ h

/-- A carry of one place does not go past the next higher place. -/
theorem carry_le {a b s t unit : Nat} (h : a < b) (hs : s ≤ 2 * unit) (ht : unit ≤ t) :
    a * unit + s ≤ b * unit + t := by
  calc
    a * unit + s ≤ a * unit + 2 * unit := Nat.add_le_add_left hs _
    _ = (a + 1) * unit + unit := by rw [Nat.two_mul, Nat.succ_mul, Nat.add_assoc]
    _ ≤ b * unit + t := Nat.add_le_add (Nat.mul_le_mul_right _ h) ht

/-- Rounding keeps the order. -/
theorem bitsOfNat_mono {m n : Nat} (h : m ≤ n) : bitsOfNat m ≤ bitsOfNat n := by
  by_cases hm : m = 0
  · rw [hm]
    exact Nat.zero_le _
  · have hn : n ≠ 0 := by omega
    rw [bitsOfNat_eq hm, bitsOfNat_eq hn]
    have hlog : m.log2 ≤ n.log2 :=
      (Nat.le_log2 hn).2 (Nat.le_trans (Nat.log2_self_le hm) h)
    rcases Nat.lt_or_eq_of_le hlog with hlt | heq
    · -- the carry of a significand goes into the next exponent
      have hup := (significandOfNat_bounds hm).2
      have hlow := (significandOfNat_bounds hn).1
      exact carry_le (Nat.add_lt_add_right hlt _) hup hlow
    · rw [heq]
      exact Nat.add_le_add_left (significandOfNat_mono heq h) _

/-- A small number fits into the significand. -/
theorem significandOfNat_lt {n : Nat} (hlog : n.log2 ≤ 52) : significandOfNat n < 2 ^ 53 := by
  have hhigh : n < 2 ^ (n.log2 + 1) := Nat.lt_log2_self
  have hexp : n.log2 + 1 + (52 - n.log2) = 53 := by omega
  rw [significandOfNat, if_pos hlog]
  calc
    n * 2 ^ (52 - n.log2) < 2 ^ (n.log2 + 1) * 2 ^ (52 - n.log2) :=
      Nat.mul_lt_mul_of_pos_right hhigh (Nat.two_pow_pos _)
    _ = 2 ^ 53 := by rw [← Nat.pow_add, hexp]

/-- Rounding does not go beyond a power of two. -/
theorem roundNat_le_two_pow {n k : Nat} (h : n ≤ 2 ^ k) : roundNat n ≤ 2 ^ k := by
  by_cases hsmall : n.log2 ≤ 52
  · rwa [roundNat, if_pos hsmall]
  · have hne : n ≠ 0 := by
      rintro rfl
      exact hsmall (by decide)
    have hlog : n.log2 ≤ k := by
      have hpow : 2 ^ n.log2 ≤ 2 ^ k := Nat.le_trans (Nat.log2_self_le hne) h
      exact (Nat.pow_le_pow_iff_right (by decide)).1 hpow
    -- the power of two is a multiple of the unit
    have hunit : 2 ^ k = 2 ^ (k - (n.log2 - 52)) * 2 ^ (n.log2 - 52) := by
      rw [← Nat.pow_add, Nat.sub_add_cancel (Nat.le_trans (Nat.sub_le _ _) hlog)]
    rw [roundNat, if_neg hsmall]
    rw [hunit] at h ⊢
    calc
      roundShift n (n.log2 - 52) * 2 ^ (n.log2 - 52)
          ≤ roundShift (2 ^ (k - (n.log2 - 52)) * 2 ^ (n.log2 - 52)) (n.log2 - 52) *
            2 ^ (n.log2 - 52) := Nat.mul_le_mul_right _ (roundShift_mono _ h)
      _ = 2 ^ (k - (n.log2 - 52)) * 2 ^ (n.log2 - 52) := by rw [roundShift_mul]

/-- The exponent and the fraction of a number that is rounded. -/
theorem bitsOfNat_fields {n : Nat} (hne : n ≠ 0) (hlog : n.log2 ≤ 1022) :
    ∃ e f, 1023 ≤ e ∧ e < 2047 ∧ f < 2 ^ 52 ∧ bitsOfNat n = e * 2 ^ 52 + f ∧
      (2 ^ 52 + f) * 2 ^ (e - 1075) = roundNat n * 2 ^ (1075 - e) := by
  have hshort : ∀ k ≤ 52, k + 1023 - 1075 = 0 ∧ 1075 - (k + 1023) = 52 - k := by omega
  have hlong : ∀ k, ¬ k ≤ 52 → 1075 - (k + 1023) = 0 ∧ k + 1023 - 1075 = k - 52 := by omega
  rcases significandOfNat_bounds hne with ⟨hlow, hhigh⟩
  have hbits := bitsOfNat_eq hne
  rcases Nat.lt_or_eq_of_le hhigh with hlt | hcarry
  · obtain ⟨f, hf⟩ := Nat.exists_eq_add_of_le hlow
    refine ⟨n.log2 + 1023, f, by omega, by omega, by omega, ?_, ?_⟩
    · rw [hbits, hf]
      omega
    · rw [← hf]
      by_cases hsmall : n.log2 ≤ 52
      · rcases hshort n.log2 hsmall with ⟨hzero, hunit⟩
        rw [significandOfNat, roundNat, if_pos hsmall, if_pos hsmall, hzero, hunit, Nat.pow_zero,
          Nat.mul_one]
      · rcases hlong n.log2 hsmall with ⟨hzero, hunit⟩
        rw [significandOfNat, roundNat, if_neg hsmall, if_neg hsmall, hzero, hunit, Nat.pow_zero,
          Nat.mul_one]
  · -- the significand is rounded up to the next exponent
    have hlarge : ¬ n.log2 ≤ 52 := fun hsmall => absurd hcarry (Nat.ne_of_lt (significandOfNat_lt hsmall))
    refine ⟨n.log2 + 1 + 1023, 0, by omega, by omega, by omega, ?_, ?_⟩
    · rw [hbits, hcarry]
      omega
    · have hnext : ¬ n.log2 + 1 ≤ 52 := fun h => hlarge (Nat.le_of_succ_le h)
      have hsum : 52 + (n.log2 + 1 - 52) = 53 + (n.log2 - 52) := by omega
      rcases hlong (n.log2 + 1) hnext with ⟨hzero, hunit⟩
      rw [significandOfNat, if_neg hlarge] at hcarry
      rw [roundNat, if_neg hlarge, hcarry, hzero, hunit, Nat.pow_zero, Nat.mul_one, Nat.add_zero,
        ← Nat.pow_add, ← Nat.pow_add, hsum]

/-- The sign bit is free. -/
theorem bitsOfNat_lt {n : Nat} (hlog : n.log2 ≤ 1022) : bitsOfNat n < 2 ^ 63 := by
  by_cases hzero : n = 0
  · rw [hzero]
    decide
  · obtain ⟨e, f, -, he, hf, hbits, -⟩ := bitsOfNat_fields hzero hlog
    omega

theorem toNat_ofInt {i : Int} (hlog : i.natAbs.log2 ≤ 1022) :
    (ofInt i).toNat = (if i < 0 then 2 ^ 63 else 0) + bitsOfNat i.natAbs := by
  have hlt := bitsOfNat_lt hlog
  rw [ofInt, BitVec.toNat_ofNat, Nat.mod_eq_of_lt]
  split_ifs <;> omega

theorem isNegative_ofInt {i : Int} (hlog : i.natAbs.log2 ≤ 1022) :
    isNegative (ofInt i) = decide (i < 0) := by
  have hlt := bitsOfNat_lt hlog
  rw [isNegative, toNat_ofInt hlog]
  split_ifs with hneg
  · simp [hneg]
  · simp [hneg]
    omega

/-- The float of an integer in range is that integer, rounded. -/
theorem natAbs?_ofInt {i : Int} (hlog : i.natAbs.log2 ≤ 1022) :
    natAbs? (ofInt i) = some (roundNat i.natAbs) := by
  by_cases hzero : i.natAbs = 0
  · have hi : i = 0 := Int.natAbs_eq_zero.1 hzero
    subst hi
    decide
  · obtain ⟨e, f, hlow, hhigh, hf, hbits, hround⟩ := bitsOfNat_fields hzero hlog
    have hval := toNat_ofInt hlog
    rw [hbits] at hval
    have hexp : exponent (ofInt i) = e := by
      rw [exponent, hval]
      split_ifs <;> omega
    have hfrac : fraction (ofInt i) = f := by
      rw [fraction, hval]
      split_ifs <;> omega
    have hsignificand : significand (ofInt i) = 2 ^ 52 + f := by
      rw [significand, hexp, hfrac, if_neg (by omega)]
    have hmax : max 1 e = e := by omega
    have hnonzero : isZero (ofInt i) = false := by
      have hne : e ≠ 0 := by omega
      simp [isZero, hexp, hne]
    simp only [natAbs?, hsignificand, hexp, hmax, hnonzero]
    rw [if_neg (by omega), if_neg Bool.false_ne_true]
    -- the unit is a number, or the significand a multiple of its inverse
    split_ifs with hunit hdvd
    · have hzero' : 1075 - e = 0 := by omega
      rw [hround, hzero', Nat.pow_zero, Nat.mul_one]
    · have hzero' : e - 1075 = 0 := by omega
      rw [hzero', Nat.pow_zero, Nat.mul_one] at hround
      rw [hround, Nat.mul_div_cancel _ (Nat.two_pow_pos _)]
    · have hzero' : e - 1075 = 0 := by omega
      rw [hzero', Nat.pow_zero, Nat.mul_one] at hround
      rw [hround] at hdvd
      exact absurd (Nat.mul_mod_left _ _) hdvd

/-! ## Round trip -/

/-- The float of an integer in range is read back as the rounded integer. -/
theorem toInt?_ofInt_round {i : Int} (hlog : i.natAbs.log2 ≤ 1022) :
    toInt? (ofInt i) =
      some (if i < 0 then -Int.ofNat (roundNat i.natAbs) else Int.ofNat (roundNat i.natAbs)) := by
  rw [toInt?, natAbs?_ofInt hlog, isNegative_ofInt hlog, Option.map_some]
  by_cases hneg : i < 0
  · rw [if_pos (decide_eq_true hneg), if_pos hneg]
  · rw [if_neg fun hdecide => hneg (of_decide_eq_true hdecide), if_neg hneg]

theorem log2_le_of_lt {n : Nat} (h : n < 2 ^ 53) : n.log2 ≤ 52 := by
  by_cases hzero : n = 0
  · rw [hzero]
    decide
  · exact Nat.le_of_lt_succ ((Nat.log2_lt hzero).2 h)

/-- The integers below `2 ^ 53` are floats. -/
theorem toInt?_ofInt {i : Int} (h : i.natAbs < 2 ^ 53) : toInt? (ofInt i) = some i := by
  have hsmall := log2_le_of_lt h
  have hexact : roundNat i.natAbs = i.natAbs := if_pos hsmall
  rw [toInt?_ofInt_round (Nat.le_trans hsmall (by decide)), hexact, Option.some.injEq,
    Int.ofNat_eq_natCast]
  split_ifs <;> omega

-- a tie goes to the even neighbour, and a carry into the exponent
example : toInt? (ofInt (2 ^ 53 + 1)) = some (2 ^ 53) ∧
    toInt? (ofInt (2 ^ 54 - 1)) = some (2 ^ 54) := by decide

/-! ## Order -/

def isNaN (x : BitVec 64) : Bool := exponent x = 2047 && fraction x ≠ 0

/-- Where a number stands among all of them; both zeros stand at zero. -/
def ordinal (x : BitVec 64) : Int :=
  if isNegative x then -Int.ofNat (x.toNat % 2 ^ 63) else Int.ofNat x.toNat

/-- What is no number is not comparable. -/
def le (x y : BitVec 64) : Bool := !isNaN x && !isNaN y && decide (ordinal x ≤ ordinal y)

def lt (x y : BitVec 64) : Bool := !isNaN x && !isNaN y && decide (ordinal x < ordinal y)

theorem le_eq_false_of_lt {x y : BitVec 64} (h : lt x y = true) : le y x = false := by
  obtain ⟨-, horder⟩ := (Bool.and_eq_true _ _).mp h
  have hlt : ¬ ordinal y ≤ ordinal x := Int.not_le.2 (of_decide_eq_true horder)
  rw [le, decide_eq_false hlt, Bool.and_false]

-- minus zero is zero, and the infinities are the ends
example : le 0 0x8000000000000000 ∧ lt negInfinity 0x8000000000000001 ∧
    lt 0x3FEFFFFFFFFFFFFF 0x3FF0000000000000 := by decide

end Binary64
end Lib
end DdTrace
