import DdTrace.Lib.Numeral
import Mathlib.Data.Nat.Digits.Defs

/-!
# HexValue — the number that hexadecimal digits stand for

The parser of numerals reads from the left with an accumulator.  Here the value of a text is given by
position instead: each digit counts with its power of sixteen.  The main result is
`digitsValue_eq_hexValue`: the parser reads exactly the texts of digits, and reads this value.
-/

namespace DdTrace
namespace Lib
namespace Numeral

/-- A hexadecimal digit, with letters of either case. -/
def isHexDigitAnyCase (c : Char) : Bool :=
  isHexDigit c || (65 ≤ c.toNat && c.toNat ≤ 70)

/-- The number a digit stands for. -/
def hexDigitValue (c : Char) : Nat :=
  if c.toNat ≤ 57 then c.toNat - 48
  else if c.toNat ≤ 70 then c.toNat - 55
  else c.toNat - 87

/-- The number a text of digits stands for. -/
def hexValue (s : Str) : Nat := Nat.ofDigits 16 (s.reverse.map hexDigitValue)

theorem hexValue_cons (c : Char) (s : Str) :
    hexValue (c :: s) = hexDigitValue c * 16 ^ s.length + hexValue s := by
  have hlast : hexValue (c :: s) = hexValue s + 16 ^ s.length * hexDigitValue c := by
    simp [hexValue, Nat.ofDigits_append]
  rw [hlast, Nat.add_comm, Nat.mul_comm]

theorem isHexDigitAnyCase_of_isHexDigit {c : Char} (h : isHexDigit c = true) :
    isHexDigitAnyCase c = true := by
  simp [isHexDigitAnyCase, h]

/-! ## Digits -/

theorem toDigit_eq_hexDigitValue (c : Char) :
    toDigit 16 c = if isHexDigitAnyCase c then some (hexDigitValue c) else none := by
  simp only [toDigit, isHexDigitAnyCase, isHexDigit, hexDigitValue, Bool.or_eq_true,
    Bool.and_eq_true, decide_eq_true_eq]
  -- the decimal digits, then the letters of either case
  split_ifs <;> simp <;> omega

/-- The digit zero is the only one that stands for zero. -/
theorem hexDigitValue_eq_zero {c : Char} (h : isHexDigitAnyCase c = true) :
    hexDigitValue c = 0 ↔ c = '0' := by
  have hcode : '0'.toNat = 48 := rfl
  constructor
  · intro hzero
    simp only [isHexDigitAnyCase, isHexDigit, Bool.or_eq_true, Bool.and_eq_true,
      decide_eq_true_eq] at h
    have hc : c.toNat = '0'.toNat := by
      unfold hexDigitValue at hzero
      split_ifs at hzero <;> omega
    exact Char.toNat_inj.1 hc
  · rintro rfl
    rfl

/-! ## Texts -/

/-- The parser accepts the texts of digits, and reads their value. -/
theorem digitsValue_eq_hexValue (acc : Nat) (s : Str) :
    digitsValue 16 acc s =
      if s.all isHexDigitAnyCase then some (acc * 16 ^ s.length + hexValue s) else none := by
  induction s generalizing acc with
  | nil => simp [digitsValue, hexValue]
  | cons c s ih =>
      cases hc : isHexDigitAnyCase c with
      | false => simp [digitsValue, toDigit_eq_hexDigitValue, hc]
      | true =>
          have hvalue : (acc * 16 + hexDigitValue c) * 16 ^ s.length + hexValue s =
              acc * 16 ^ (s.length + 1) + hexValue (c :: s) := by
            rw [hexValue_cons, Nat.pow_succ', Nat.add_mul, Nat.mul_assoc, Nat.add_assoc]
          simp [digitsValue, toDigit_eq_hexDigitValue, hc, ih, hvalue]

theorem hexValue_lt {s : Str} (h : ∀ c ∈ s, isHexDigitAnyCase c = true) :
    hexValue s < 16 ^ s.length := by
  have hread : digitsValue 16 0 s = some (hexValue s) := by
    simp [digitsValue_eq_hexValue, List.all_eq_true.2 h]
  simpa using digitsValue_lt hread

/-- A text stands for zero if all its digits are zero. -/
theorem hexValue_eq_zero {s : Str} (h : ∀ c ∈ s, isHexDigitAnyCase c = true) :
    hexValue s = 0 ↔ ∀ c ∈ s, c = '0' := by
  induction s with
  | nil => simp [hexValue]
  | cons c s ih =>
      have hc := hexDigitValue_eq_zero (h c (List.mem_cons_self ..))
      have hs := ih fun d hd => h d (List.mem_cons_of_mem _ hd)
      simp [hexValue_cons, hc, hs]

theorem parseUnsigned_hexValue {bound : Nat} {s : Str} (hne : s ≠ [])
    (h : ∀ c ∈ s, isHexDigitAnyCase c = true) (hbound : hexValue s < bound) :
    parseUnsigned 16 bound s = some (hexValue s) := by
  apply parseUnsigned_of_digits hne _ hbound
  simp [digitsValue_eq_hexValue, List.all_eq_true.2 h]

end Numeral
end Lib
end DdTrace
