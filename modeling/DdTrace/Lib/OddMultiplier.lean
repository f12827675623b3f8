import Mathlib.Data.Nat.ModEq
import Mathlib.Data.Nat.Prime.Basic
import Mathlib.Data.Set.Card
import Mathlib.Order.Interval.Finset.Nat

/-!
# OddMultiplier — hashing words by multiplication

Multiplication by an odd word permutes the words of a width.  So the words whose product is at most a
threshold are one more than the threshold, whatever the multiplier.
-/

namespace DdTrace
namespace Lib

section

variable {w : Nat} {k : BitVec w}

theorem bitVec_finite (w : Nat) : Finite (BitVec w) :=
  Finite.of_injective BitVec.toFin fun _ _ => BitVec.eq_of_toFin_eq

theorem mul_injective (hk : k.toNat % 2 = 1) : Function.Injective fun x : BitVec w => x * k := by
  intro x y h
  have hcop : (2 ^ w).gcd k.toNat = 1 :=
    Nat.Coprime.pow_left w (Nat.coprime_two_left.2 (Nat.odd_iff.2 hk))
  have hmod : x.toNat * k.toNat ≡ y.toNat * k.toNat [MOD 2 ^ w] := by
    have hnat : (x * k).toNat = (y * k).toNat := congrArg BitVec.toNat h
    rwa [BitVec.toNat_mul, BitVec.toNat_mul] at hnat
  have hcancel := Nat.ModEq.cancel_right_of_coprime hcop hmod
  refine BitVec.eq_of_toNat_eq ?_
  rwa [Nat.ModEq, Nat.mod_eq_of_lt x.isLt, Nat.mod_eq_of_lt y.isLt] at hcancel

theorem mul_bijective (hk : k.toNat % 2 = 1) : Function.Bijective fun x : BitVec w => x * k := by
  have hfinite := bitVec_finite w
  exact Finite.injective_iff_bijective.1 (mul_injective hk)

theorem ncard_le (t : BitVec w) : {x : BitVec w | x ≤ t}.ncard = t.toNat + 1 := by
  have hinj : Function.Injective (BitVec.toNat : BitVec w → Nat) := fun _ _ => BitVec.eq_of_toNat_eq
  have himage : BitVec.toNat '' {x : BitVec w | x ≤ t} = Set.Iic t.toNat := by
    ext n
    constructor
    · rintro ⟨x, hx, rfl⟩
      exact hx
    · intro hn
      have hlt : n < 2 ^ w := lt_of_le_of_lt hn t.isLt
      refine ⟨BitVec.ofNat w n, ?_, by simp [Nat.mod_eq_of_lt hlt]⟩
      show (BitVec.ofNat w n).toNat ≤ t.toNat
      simpa [Nat.mod_eq_of_lt hlt] using hn
  rw [← Set.ncard_image_of_injective _ hinj, himage, Set.ncard_eq_toFinset_card', Set.toFinset_Iic,
    Nat.card_Iic]

/-- The share of the words that a threshold keeps. -/
theorem ncard_mul_le (hk : k.toNat % 2 = 1) (t : BitVec w) :
    {x : BitVec w | x * k ≤ t}.ncard = t.toNat + 1 := by
  have hbij := mul_bijective hk
  have hrange : {x : BitVec w | x ≤ t} ⊆ Set.range fun x : BitVec w => x * k := fun y _ =>
    hbij.surjective y
  rw [← ncard_le t]
  exact Set.ncard_preimage_of_injective_subset_range hbij.injective hrange

end

end Lib
end DdTrace
