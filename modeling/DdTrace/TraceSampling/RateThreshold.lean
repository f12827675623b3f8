import DdTrace.Lib.Binary64Product
import DdTrace.TraceSampling.RateSampling

/-!
# RateThreshold — the threshold of a rate, computed in doubles

The threshold of a rate is a product of doubles, cut down to a whole number.  No step of it rounds: a
rate between zero and one is scaled by a power of two.  So the share of trace ids that is kept is the
rate itself, to the unit of the hash, and a greater rate keeps every trace that a smaller one keeps.
-/

namespace DdTrace
namespace TraceSampling

open DdTrace.Lib DdTrace.Core

/-- The operations of the standard library. -/
def binary64 : F64Ops :=
  { clamp := Binary64.clamp
    ge := fun x y => Binary64.le y x
    mul := Binary64.mul
    ofU64 := fun n => BitVec.ofNat 64 (Binary64.bitsOfNat n.toNat)
    toU64 := Binary64.toU64 }

/-- The greatest number of 64 bits has no double of its own and is rounded up. -/
theorem ofU64_max : binary64.ofU64 MAX_UINT_64BITS = Binary64.twoPow64 := by decide

namespace RateSampler

variable {rate rate' : F64} {traceId : BitVec 128}

/-- A rate is no number, at one of the ends or beyond them, or between them. -/
theorem rate_cases (rate : F64) :
    Binary64.isNaN rate = true ∨ Binary64.le rate MIN_SAMPLE_RATE = true ∨
      Binary64.le MAX_SAMPLE_RATE rate = true ∨
      (Binary64.lt MIN_SAMPLE_RATE rate = true ∧ Binary64.lt rate MAX_SAMPLE_RATE = true) := by
  by_cases hnan : Binary64.isNaN rate = true
  · exact .inl hnan
  · have hrate : Binary64.isNaN rate = false := Bool.eq_false_iff.2 hnan
    by_cases hmin : Binary64.le rate MIN_SAMPLE_RATE = true
    · exact .inr (.inl hmin)
    · by_cases hmax : Binary64.le MAX_SAMPLE_RATE rate = true
      · exact .inr (.inr (.inl hmax))
      · exact .inr (.inr (.inr
          ⟨Binary64.lt_of_le_eq_false hrate (by decide) (Bool.eq_false_iff.2 hmin),
            Binary64.lt_of_le_eq_false (by decide) hrate (Bool.eq_false_iff.2 hmax)⟩))

/-! ## The sampler of each kind of rate -/

theorem new_of_clamp {clamped : F64}
    (h : Binary64.clamp rate MIN_SAMPLE_RATE MAX_SAMPLE_RATE = clamped) :
    new binary64 rate =
      { sampleRate := clamped, samplingIdThreshold := calculateThreshold binary64 clamped } := by
  subst h
  rfl

theorem threshold_of_lt_max (h : Binary64.le MAX_SAMPLE_RATE rate = false) :
    calculateThreshold binary64 rate = Binary64.toU64 (Binary64.mul rate Binary64.twoPow64) := by
  rw [calculateThreshold, ofU64_max]
  exact if_neg (Bool.eq_false_iff.1 h)

/-- What is no number passes the clamp, and its threshold is zero. -/
theorem new_of_isNaN (h : Binary64.isNaN rate = true) :
    new binary64 rate = { sampleRate := rate, samplingIdThreshold := 0 } := by
  have hle : Binary64.le MAX_SAMPLE_RATE rate = false := by
    simp [Binary64.le, h]
  have hclamp : Binary64.clamp rate MIN_SAMPLE_RATE MAX_SAMPLE_RATE = rate := by
    simp [Binary64.clamp, Binary64.lt, h]
  have hmul : Binary64.mul rate Binary64.twoPow64 = Binary64.nan := by
    simp [Binary64.mul, h]
  rw [new_of_clamp hclamp, threshold_of_lt_max hle, hmul]
  rfl

theorem sample_of_le_min (h : Binary64.le rate MIN_SAMPLE_RATE = true) :
    (new binary64 rate).sample traceId = false := by
  obtain ⟨hnan, -, horder⟩ := Binary64.le_iff.1 h
  have hclamped : Binary64.le (Binary64.clamp rate MIN_SAMPLE_RATE MAX_SAMPLE_RATE)
      MIN_SAMPLE_RATE = true := by
    have hmax : Binary64.lt MAX_SAMPLE_RATE rate = false := by
      refine Bool.eq_false_iff.2 fun hgt => ?_
      have hends : Binary64.ordinal MIN_SAMPLE_RATE < Binary64.ordinal MAX_SAMPLE_RATE := by decide
      have := (Binary64.lt_iff.1 hgt).2.2
      omega
    by_cases hmin : Binary64.lt rate MIN_SAMPLE_RATE = true
    · have heq : Binary64.clamp rate MIN_SAMPLE_RATE MAX_SAMPLE_RATE = MIN_SAMPLE_RATE := by
        simp only [Binary64.clamp, hmin, if_true]
        exact if_neg (by decide)
      rw [heq]
      decide
    · have heq : Binary64.clamp rate MIN_SAMPLE_RATE MAX_SAMPLE_RATE = rate := by
        simp [Binary64.clamp, hmin, hmax]
      rwa [heq]
  rw [new_of_clamp rfl, sample, if_pos hclamped]

theorem sample_of_max_le (h : Binary64.le MAX_SAMPLE_RATE rate = true) :
    (new binary64 rate).sample traceId = true := by
  obtain ⟨-, hnan, horder⟩ := Binary64.le_iff.1 h
  have hends : Binary64.ordinal MIN_SAMPLE_RATE < Binary64.ordinal MAX_SAMPLE_RATE := by decide
  have hmin : Binary64.lt rate MIN_SAMPLE_RATE = false := by
    refine Bool.eq_false_iff.2 fun hlt => ?_
    have := (Binary64.lt_iff.1 hlt).2.2
    omega
  obtain ⟨clamped, hclamp, hle⟩ : ∃ clamped,
      Binary64.clamp rate MIN_SAMPLE_RATE MAX_SAMPLE_RATE = clamped ∧
        Binary64.le MAX_SAMPLE_RATE clamped = true := by
    by_cases hmax : Binary64.lt MAX_SAMPLE_RATE rate = true
    · exact ⟨MAX_SAMPLE_RATE, by simp [Binary64.clamp, hmin, hmax], by decide⟩
    · exact ⟨rate, by simp [Binary64.clamp, hmin, hmax], h⟩
  have hpos : Binary64.le clamped MIN_SAMPLE_RATE = false := by
    refine Bool.eq_false_iff.2 fun hlow => ?_
    have := (Binary64.le_iff.1 hlow).2.2
    have := (Binary64.le_iff.1 hle).2.2
    omega
  rw [new_of_clamp hclamp, sample, hpos, if_neg Bool.false_ne_true, if_pos hle]

/-- Between the ends nothing is clamped and nothing is rounded. -/
theorem new_of_lt (hmin : Binary64.lt MIN_SAMPLE_RATE rate = true)
    (hmax : Binary64.lt rate MAX_SAMPLE_RATE = true) :
    (new binary64 rate).sampleRate = rate ∧
      (new binary64 rate).samplingIdThreshold.toNat = ⌊Binary64.value rate * 2 ^ 64⌋₊ := by
  have hclamp : Binary64.clamp rate MIN_SAMPLE_RATE MAX_SAMPLE_RATE = rate := by
    simp [Binary64.clamp, Binary64.lt_eq_false_of_lt hmin, Binary64.lt_eq_false_of_lt hmax]
  obtain ⟨hsign, hunits⟩ := Binary64.units_lt_of_lt_one hmin hmax
  rw [new_of_clamp hclamp]
  refine ⟨rfl, ?_⟩
  rw [threshold_of_lt_max (Binary64.le_eq_false_of_lt hmax)]
  exact Binary64.toU64_mul_twoPow64 hsign hunits

theorem hashes_of_lt (hmin : Binary64.lt MIN_SAMPLE_RATE rate = true)
    (hmax : Binary64.lt rate MAX_SAMPLE_RATE = true) : (new binary64 rate).Hashes := by
  have heq := (new_of_lt hmin hmax).1
  exact { above_min := by rwa [heq], below_max := by rwa [heq] }

/-! ## The share that is kept -/

/-- How many of the `2 ^ 64` lower halves of a trace id a rate keeps. -/
def keptOf (rate : F64) : Nat :=
  if Binary64.isNaN rate then 1
  else if Binary64.le rate MIN_SAMPLE_RATE then 0
  else if Binary64.le MAX_SAMPLE_RATE rate then 2 ^ 64
  else ⌊Binary64.value rate * 2 ^ 64⌋₊ + 1

/-- What a bound on the hash keeps, whether or not the sampler computes the hash. -/
theorem ncard_keptHalves_of_sample {sampler : RateSampler} {threshold : BitVec 64}
    (h : ∀ traceId : BitVec 128, sampler.sample traceId =
      decide (traceId.setWidth 64 * KNUTH_FACTOR.toBitVec ≤ threshold)) :
    sampler.keptHalves.ncard = threshold.toNat + 1 := by
  have hkept : sampler.keptHalves = { half | half * KNUTH_FACTOR.toBitVec ≤ threshold } := by
    ext half
    constructor
    · intro hkept
      have hwide : (half.setWidth 128).setWidth 64 = half := by simp
      have hsample := hkept (half.setWidth 128) hwide
      rwa [h, decide_eq_true_eq, hwide] at hsample
    · rintro hle traceId rfl
      rw [h]
      exact decide_eq_true hle
  rw [hkept, ncard_mul_le knuthFactor_odd]

theorem ncard_keptHalves_new (rate : F64) :
    (new binary64 rate).keptHalves.ncard = keptOf rate := by
  rcases rate_cases rate with hnan | hmin | hmax | ⟨hmin, hmax⟩
  · -- the threshold is zero, and the comparisons with the ends fail
    have hsample (traceId : BitVec 128) : (new binary64 rate).sample traceId =
        decide (traceId.setWidth 64 * KNUTH_FACTOR.toBitVec ≤ 0) := by
      rw [new_of_isNaN hnan]
      simp [sample, Binary64.le, hnan, UInt64.le_iff_toBitVec_le, UInt64.toBitVec_mul]
    rw [ncard_keptHalves_of_sample hsample, keptOf, if_pos hnan]
    rfl
  · have hnone : (new binary64 rate).keptHalves = ∅ := by
      refine Set.eq_empty_of_forall_notMem fun half hkept => ?_
      have hsample := hkept (half.setWidth 128) (by simp)
      rw [sample_of_le_min hmin] at hsample
      cases hsample
    have hnan := (Binary64.le_iff.1 hmin).1
    rw [hnone, keptOf, hnan, if_neg Bool.false_ne_true, if_pos hmin, Set.ncard_empty]
  · have hsample (traceId : BitVec 128) : (new binary64 rate).sample traceId =
        decide (traceId.setWidth 64 * KNUTH_FACTOR.toBitVec ≤ BitVec.allOnes 64) := by
      rw [sample_of_max_le hmax, decide_eq_true (BitVec.not_lt.1 BitVec.not_allOnes_lt)]
    have hnan := (Binary64.le_iff.1 hmax).2.1
    have hmin : Binary64.le rate MIN_SAMPLE_RATE = false := by
      refine Bool.eq_false_iff.2 fun hlow => ?_
      have hone : Binary64.le MAX_SAMPLE_RATE MIN_SAMPLE_RATE = true :=
        Binary64.le_iff.2 ⟨by decide, by decide,
          (Binary64.le_iff.1 hmax).2.2.trans (Binary64.le_iff.1 hlow).2.2⟩
      exact absurd hone (by decide)
    rw [ncard_keptHalves_of_sample hsample, keptOf, hnan, if_neg Bool.false_ne_true, hmin,
      if_neg Bool.false_ne_true, if_pos hmax, BitVec.toNat_allOnes]
    exact Nat.sub_add_cancel (Nat.two_pow_pos 64)
  · have hthreshold := (new_of_lt hmin hmax).2
    have hnan := (Binary64.lt_iff.1 hmin).2.1
    rw [ncard_keptHalves (hashes_of_lt hmin hmax), hthreshold, keptOf, hnan,
      if_neg Bool.false_ne_true, Binary64.le_eq_false_of_lt hmin, if_neg Bool.false_ne_true,
      Binary64.le_eq_false_of_lt hmax, if_neg Bool.false_ne_true]

/-- A greater rate keeps every trace that a smaller one keeps. -/
theorem sample_new_mono (h : Binary64.le rate rate' = true)
    (hkept : (new binary64 rate).sample traceId = true) :
    (new binary64 rate').sample traceId = true := by
  have horder := (Binary64.le_iff.1 h).2.2
  rcases rate_cases rate with hnan | hmin | hmax | ⟨hmin, hmax⟩
  · rw [(Binary64.le_iff.1 h).1] at hnan
    cases hnan
  · rw [sample_of_le_min hmin] at hkept
    cases hkept
  · refine sample_of_max_le (Binary64.le_iff.2 ⟨by decide, (Binary64.le_iff.1 h).2.1, ?_⟩)
    exact (Binary64.le_iff.1 hmax).2.2.trans horder
  · have hmin' : Binary64.lt MIN_SAMPLE_RATE rate' = true :=
      Binary64.lt_iff.2 ⟨by decide, (Binary64.le_iff.1 h).2.1,
        lt_of_lt_of_le (Binary64.lt_iff.1 hmin).2.2 horder⟩
    by_cases hend : Binary64.le MAX_SAMPLE_RATE rate' = true
    · exact sample_of_max_le hend
    · have hmax' : Binary64.lt rate' MAX_SAMPLE_RATE = true :=
        Binary64.lt_of_le_eq_false (by decide) (Binary64.le_iff.1 h).2.1 (Bool.eq_false_iff.2 hend)
      have hvalue : Binary64.value rate ≤ Binary64.value rate' :=
        Binary64.value_mono (Binary64.units_lt_of_lt_one hmin hmax).1
          (Binary64.units_lt_of_lt_one hmin' hmax').1 h
      have hthreshold : (new binary64 rate).samplingIdThreshold ≤
          (new binary64 rate').samplingIdThreshold := by
        rw [UInt64.le_iff_toNat_le, (new_of_lt hmin hmax).2, (new_of_lt hmin' hmax').2]
        exact Nat.floor_le_floor (by gcongr)
      exact sample_mono (hashes_of_lt hmin hmax) (hashes_of_lt hmin' hmax') hthreshold hkept

/-- For every double as the rate: of the `2 ^ 64` lower halves of a trace id, on which alone the
decision depends, `⌊rate * 2 ^ 64⌋ + 1` are kept where the rate is between zero and one, and a trace
that is kept stays kept when the rate is raised. -/
theorem rate_share (rate : F64) :
    (∀ traceId traceId' : BitVec 128, traceId.setWidth 64 = traceId'.setWidth 64 →
      (new binary64 rate).sample traceId = (new binary64 rate).sample traceId') ∧
    (new binary64 rate).keptHalves.ncard = keptOf rate ∧
    ∀ rate' traceId, Binary64.le rate rate' = true → (new binary64 rate).sample traceId = true →
      (new binary64 rate').sample traceId = true :=
  ⟨fun _ _ hhalf => sample_congr hhalf, ncard_keptHalves_new rate,
    fun _ _ hle hkept => sample_new_mono hle hkept⟩

/-- The rate three tenths, which no double has exactly, beside one half. -/
theorem rate_share_threeTenths :
    (new binary64 0x3FD3333333333333).keptHalves.ncard = 5534023222112865280 + 1 ∧
      ∀ traceId, (new binary64 0x3FD3333333333333).sample traceId = true →
        (new binary64 0x3FE0000000000000).sample traceId = true :=
  ⟨(rate_share 0x3FD3333333333333).2.1.trans (by decide +kernel),
    fun traceId => (rate_share 0x3FD3333333333333).2.2 0x3FE0000000000000 traceId (by decide)⟩

end RateSampler

end TraceSampling
end DdTrace
