import DdTrace.Lib.Binary64
import DdTrace.Lib.Numeral

/-!
# ShortestDecimal — the decimal that a double is printed as

A double is printed with as few digits as are needed to read it back, and of these decimals as the
nearest one.  For a double that is an integer the digits are filled up with zeros, so that the decimal
is an integer that is rounded to the double and has as many zeros at its end as possible.

`shortest_eq_iff` says that the search of `shortest` finds that integer, and
`displayIntegral_ofInt_iff` which integers are printed as themselves after the way through a double.
-/

namespace DdTrace
namespace Lib
namespace Binary64

variable {v m n : Nat}

/-! ## Reading back -/

/-- A number is read as the double of `v`. -/
def ReadsAs (v m : Nat) : Prop := bitsOfNat m = bitsOfNat v

instance (v m : Nat) : Decidable (ReadsAs v m) :=
  inferInstanceAs (Decidable (bitsOfNat m = bitsOfNat v))

theorem ReadsAs.refl (v : Nat) : ReadsAs v v := rfl

/-- What lies between a double and a number that is read as it, is read as it too. -/
theorem ReadsAs.of_le (h : ReadsAs v m) (hm : m ≤ n) (hv : n ≤ v) : ReadsAs v n :=
  Nat.le_antisymm (bitsOfNat_mono hv) (h ▸ bitsOfNat_mono hm)

theorem ReadsAs.of_ge (h : ReadsAs v m) (hm : n ≤ m) (hv : v ≤ n) : ReadsAs v n :=
  Nat.le_antisymm (h ▸ bitsOfNat_mono hm) (bitsOfNat_mono hv)

theorem eq_zero_of_bitsOfNat (h : bitsOfNat n = 0) : n = 0 := by
  by_contra hne
  have hlow := (significandOfNat_bounds hne).1
  rw [bitsOfNat_eq hne] at h
  have hpos : 0 < significandOfNat n := Nat.lt_of_lt_of_le (Nat.two_pow_pos 52) hlow
  exact absurd (Nat.le_of_add_left_le (Nat.le_of_eq h)) (Nat.not_le_of_lt hpos)

/-- A number that is read as a double has at most one bit more. -/
theorem ReadsAs.log2_le (h : ReadsAs v m) : m.log2 ≤ v.log2 + 1 := by
  by_cases hm : m = 0
  · rw [hm]
    exact Nat.zero_le _
  · have hv : v ≠ 0 := by
      rintro rfl
      exact hm (eq_zero_of_bitsOfNat h)
    have hlow := (significandOfNat_bounds hm).1
    have hhigh := (significandOfNat_bounds hv).2
    rw [ReadsAs, bitsOfNat_eq hm, bitsOfNat_eq hv] at h
    generalize significandOfNat m = s at hlow h
    generalize significandOfNat v = t at hhigh h
    generalize m.log2 = k at h ⊢
    generalize v.log2 = l at h ⊢
    omega

/-! ## Shortest decimals -/

def distance (m n : Nat) : Nat := (m - n) + (n - m)

/-- `n` is the nearer one to `v`, or the larger one of two that are as near. -/
def Nearest (v n m : Nat) : Prop :=
  distance n v < distance m v ∨ (distance n v = distance m v ∧ m ≤ n)

/-- Of the numbers that are read as the double of `v`, none has more zeros at its end than `n`, and of
those with as many `n` is the nearest to `v`. -/
structure IsShortest (v n : Nat) : Prop where
  reads : ReadsAs v n
  zeros : ∃ z, 10 ^ z ∣ n ∧ (∀ m, ReadsAs v m → 10 ^ (z + 1) ∣ m → m = 0) ∧
    ∀ m, ReadsAs v m → 10 ^ z ∣ m → Nearest v n m

/-- The two multiples of a power of ten around `v`, if they are read as it; the nearer one. -/
def shortestAt (v z : Nat) : Option Nat :=
  let low := v / 10 ^ z * 10 ^ z
  let high := low + 10 ^ z
  if ReadsAs v high ∧ (¬ ReadsAs v low ∨ high - v ≤ v - low) then some high
  else if ReadsAs v low then some low
  else none

/-- The search from `z` zeros downwards. -/
def shortestFrom (v : Nat) : Nat → Nat
  | 0 => v
  | z + 1 => (shortestAt v (z + 1)).getD (shortestFrom v z)

/-- The decimal with the fewest digits that is read as `v`. -/
def shortest (v : Nat) : Nat := shortestFrom v v.log2

/-- A multiple of a unit is not between two that follow each other. -/
theorem le_or_le_of_dvd {u : Nat} (h : u ∣ m) : m ≤ v / u * u ∨ v / u * u + u ≤ m := by
  obtain ⟨k, rfl⟩ := h
  rcases Nat.lt_or_ge (v / u) k with hlt | hge
  · right
    calc
      v / u * u + u = (v / u + 1) * u := (Nat.succ_mul _ _).symm
      _ ≤ k * u := Nat.mul_le_mul_right _ hlt
      _ = u * k := Nat.mul_comm _ _
  · left
    rw [Nat.mul_comm u k]
    exact Nat.mul_le_mul_right _ hge

theorem around (v : Nat) {u : Nat} (hu : 0 < u) : v / u * u ≤ v ∧ v < v / u * u + u := by
  have hmod := Nat.mod_lt v hu
  have hsplit := Nat.div_add_mod' v u
  constructor <;> omega

theorem nearest_high {low high : Nat} (hlow : low ≤ v) (hhigh : v < high)
    (hup : ReadsAs v low → high - v ≤ v - low) (hm : ReadsAs v m) (h : m ≤ low ∨ high ≤ m) :
    Nearest v high m := by
  unfold Nearest distance
  rcases h with hle | hge
  · -- what is read from below the lower one makes the lower one read
    have hnear := hup (hm.of_le hle hlow)
    omega
  · omega

theorem nearest_low {low high : Nat} (hlow : low ≤ v) (hhigh : v < high)
    (hdown : ReadsAs v high → v - low < high - v) (hm : ReadsAs v m) (h : m ≤ low ∨ high ≤ m) :
    Nearest v low m := by
  unfold Nearest distance
  rcases h with hle | hge
  · omega
  · have hnear := hdown (hm.of_ge hge (Nat.le_of_lt hhigh))
    omega

/-- What is found with a number of zeros is the best one. -/
theorem shortestAt_some {z : Nat} (h : shortestAt v z = some n) :
    ReadsAs v n ∧ 10 ^ z ∣ n ∧ ∀ m, ReadsAs v m → 10 ^ z ∣ m → Nearest v n m := by
  have hdvd : 10 ^ z ∣ v / 10 ^ z * 10 ^ z := Nat.dvd_mul_left _ _
  rcases around v (Nat.pow_pos (n := z) (by decide : 0 < 10)) with ⟨hlow, hhigh⟩
  simp only [shortestAt] at h
  split_ifs at h with hup hdown
  · cases h
    refine ⟨hup.1, Nat.dvd_add hdvd (Nat.dvd_refl _), ?_⟩
    intro m hm hmultiple
    exact nearest_high hlow hhigh (fun hreads => hup.2.resolve_left (not_not_intro hreads)) hm
      (le_or_le_of_dvd hmultiple)
  · cases h
    refine ⟨hdown, hdvd, ?_⟩
    intro m hm hmultiple
    refine nearest_low hlow hhigh ?_ hm (le_or_le_of_dvd hmultiple)
    intro hreads
    exact Nat.lt_of_not_le fun hle => hup ⟨hreads, .inr hle⟩

/-- If neither multiple is read, none is. -/
theorem shortestAt_none {z : Nat} (h : shortestAt v z = none) (hm : ReadsAs v m) :
    ¬ 10 ^ z ∣ m := by
  intro hmultiple
  rcases around v (Nat.pow_pos (n := z) (by decide : 0 < 10)) with ⟨hlow, hhigh⟩
  simp only [shortestAt] at h
  split_ifs at h with hup hdown
  rcases le_or_le_of_dvd (v := v) hmultiple with hle | hge
  · exact hdown (hm.of_le hle hlow)
  · exact hup ⟨hm.of_ge hge (Nat.le_of_lt hhigh), .inl hdown⟩

/-- The search finds the best decimal, if there is none with more zeros than it starts with. -/
theorem isShortest_shortestFrom {z : Nat}
    (h : ∀ m, ReadsAs v m → 10 ^ (z + 1) ∣ m → m = 0) : IsShortest v (shortestFrom v z) := by
  induction z with
  | zero =>
      refine ⟨.refl v, 0, Nat.one_dvd v, h, ?_⟩
      intro m _ _
      unfold Nearest
      simp only [shortestFrom, distance]
      omega
  | succ z ih =>
      rw [shortestFrom]
      cases hat : shortestAt v (z + 1) with
      | some n =>
          rcases shortestAt_some hat with ⟨hreads, hdvd, hnearest⟩
          exact ⟨hreads, z + 1, hdvd, h, hnearest⟩
      | none =>
          refine ih ?_
          intro m hm hmultiple
          exact absurd hmultiple (shortestAt_none hat hm)

/-- A number that is read as a double has fewer zeros than the double has bits. -/
theorem eq_zero_of_dvd (hm : ReadsAs v m) (h : 10 ^ (v.log2 + 1) ∣ m) : m = 0 := by
  by_contra hne
  have hle : 10 ^ (v.log2 + 1) ≤ m := Nat.le_of_dvd (Nat.pos_of_ne_zero hne) h
  have hlog := hm.log2_le
  have hlt : m < 10 ^ (v.log2 + 1) := by
    calc
      m < 2 ^ (m.log2 + 1) := Nat.lt_log2_self
      _ ≤ 2 ^ (3 * (v.log2 + 1)) := Nat.pow_le_pow_right (by decide) (by omega)
      _ = 8 ^ (v.log2 + 1) := by rw [Nat.pow_mul]
      _ ≤ 10 ^ (v.log2 + 1) := Nat.pow_le_pow_left (by decide) _
  exact absurd hle (Nat.not_le_of_lt hlt)

theorem Nearest.antisymm (h : Nearest v n m) (h' : Nearest v m n) : n = m := by
  rcases h with hlt | ⟨heq, hle⟩
  · rcases h' with hlt' | ⟨heq', -⟩ <;> omega
  · rcases h' with hlt' | ⟨-, hle'⟩ <;> omega

/-- Where zero is read, nothing else is. -/
theorem ReadsAs.eq_of_zero (h : ReadsAs v 0) (hm : ReadsAs v m) : m = 0 :=
  eq_zero_of_bitsOfNat (hm.trans h.symm)

theorem IsShortest.unique (h : IsShortest v n) (h' : IsShortest v m) : n = m := by
  obtain ⟨z, hdvd, hmost, hnearest⟩ := h.zeros
  obtain ⟨z', hdvd', hmost', hnearest'⟩ := h'.zeros
  rcases Nat.lt_trichotomy z z' with hlt | rfl | hgt
  · -- a number with more zeros is zero
    have hzero := hmost m h'.reads (Nat.dvd_trans (Nat.pow_dvd_pow 10 hlt) hdvd')
    subst hzero
    exact h'.reads.eq_of_zero h.reads
  · exact (hnearest m h'.reads hdvd').antisymm (hnearest' n h.reads hdvd)
  · have hzero := hmost' n h.reads (Nat.dvd_trans (Nat.pow_dvd_pow 10 hgt) hdvd)
    subst hzero
    exact (h.reads.eq_of_zero h'.reads).symm

theorem isShortest_shortest (v : Nat) : IsShortest v (shortest v) :=
  isShortest_shortestFrom fun _ hm hmultiple => eq_zero_of_dvd hm hmultiple

/-- The search finds the one decimal that has the most zeros, and of these is the nearest. -/
theorem shortest_eq_iff : shortest v = n ↔ IsShortest v n := by
  constructor
  · rintro rfl
    exact isShortest_shortest v
  · exact (isShortest_shortest v).unique

-- the last three digits of these doubles are not needed
example : shortest (2 ^ 60) = 1152921504606847000 ∧ shortest (2 ^ 63) = 9223372036854776000 := by
  decide

/-! ## Integers -/

/-- An integer is the decimal that its own double is printed as. -/
def IsPrinted (n : Nat) : Prop := IsShortest (roundNat n) n

/-- Below `2 ^ 53` no two integers are read as one double. -/
theorem ReadsAs.eq_of_lt (h : n < 2 ^ 53) (hm : ReadsAs n m) : m = n := by
  have hlt : m < 2 ^ 53 := by
    by_contra hge
    have hfirst : bitsOfNat (2 ^ 53 - 1) < bitsOfNat (2 ^ 53) := by decide
    have hlow : bitsOfNat n ≤ bitsOfNat (2 ^ 53 - 1) := bitsOfNat_mono (Nat.le_pred_of_lt h)
    have hhigh : bitsOfNat (2 ^ 53) ≤ bitsOfNat m := bitsOfNat_mono (Nat.le_of_not_lt hge)
    exact absurd hm (Nat.ne_of_gt (Nat.lt_of_le_of_lt hlow (Nat.lt_of_lt_of_le hfirst hhigh)))
  have hfloat : ofInt m = ofInt n := by
    have hsign : ∀ k : Nat, ¬ (k : Int) < 0 := by omega
    rw [ofInt, ofInt, if_neg (hsign m), if_neg (hsign n), Int.natAbs_natCast, Int.natAbs_natCast, hm]
  have hback := congrArg toInt? hfloat
  rw [toInt?_ofInt (by omega), toInt?_ofInt (by omega), Option.some.injEq] at hback
  exact Int.ofNat_inj.1 hback

/-- So each of them is printed. -/
theorem isPrinted_of_lt (h : n < 2 ^ 53) : IsPrinted n := by
  have hexact : roundNat n = n := if_pos (log2_le_of_lt h)
  have hself := isShortest_shortest n
  rw [hself.reads.eq_of_lt h] at hself
  rwa [IsPrinted, hexact]

/-- How a double is printed: an integer with its shortest digits, anything else by `other`. -/
def displayIntegral (other : BitVec 64 → Str) (x : BitVec 64) : Str :=
  match natAbs? x with
  | some n => (if isNegative x then ['-'] else []) ++ Numeral.decimal (shortest n)
  | none => other x

theorem displayIntegral_ofInt (other : BitVec 64 → Str) {i : Int} (hlog : i.natAbs.log2 ≤ 1022) :
    displayIntegral other (ofInt i) =
      (if i < 0 then ['-'] else []) ++ Numeral.decimal (shortest (roundNat i.natAbs)) := by
  simp only [displayIntegral, natAbs?_ofInt hlog, isNegative_ofInt hlog, decide_eq_true_eq]

theorem displayIntegral_ofInt_iff (other : BitVec 64 → Str) {i : Int}
    (hlog : i.natAbs.log2 ≤ 1022) :
    displayIntegral other (ofInt i) = Numeral.intDecimal i ↔ IsPrinted i.natAbs := by
  rw [displayIntegral_ofInt other hlog, Numeral.intDecimal_eq, IsPrinted, ← shortest_eq_iff]
  constructor
  · intro heq
    exact Numeral.decimal_injective (List.append_cancel_left heq)
  · intro heq
    rw [heq]

end Binary64
end Lib
end DdTrace
