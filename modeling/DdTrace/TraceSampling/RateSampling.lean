import DdTrace.Lib.Binary64
import DdTrace.Lib.OddMultiplier
import DdTrace.TraceSampling.SamplingRule

/-!
# RateSampling — which trace ids a rate keeps

The lower half of a trace id is hashed by an odd factor and compared with a threshold.  The hash
permutes the halves, so that exactly the share of the threshold is kept, and samplers with different
thresholds keep sets of ids that are nested.
-/

namespace DdTrace
namespace TraceSampling

open Lib

/-- The factor of the hash. -/
def KNUTH_FACTOR : UInt64 := 1111111111111111111

namespace RateSampler

/-- The trace id is a number of 128 bits, its high byte first. -/
def sample (self : RateSampler) (traceId : BitVec 128) : Bool :=
  if Binary64.le self.sampleRate MIN_SAMPLE_RATE then false
  else if Binary64.le MAX_SAMPLE_RATE self.sampleRate then true
  else
    let traceId64bits : UInt64 := .ofBitVec (traceId.setWidth 64)
    let hashedId := traceId64bits * KNUTH_FACTOR
    hashedId ≤ self.samplingIdThreshold

/-- The rate is strictly between its ends, so that the hash decides. -/
structure Hashes (sampler : RateSampler) : Prop where
  above_min : Binary64.lt MIN_SAMPLE_RATE sampler.sampleRate = true
  below_max : Binary64.lt sampler.sampleRate MAX_SAMPLE_RATE = true

/-- The lower halves whose ids are kept. -/
def keptHalves (self : RateSampler) : Set (BitVec 64) :=
  { half | ∀ traceId : BitVec 128, traceId.setWidth 64 = half → self.sample traceId = true }

section

variable {self other : RateSampler} {traceId traceId' : BitVec 128} {half : BitVec 64}

theorem sample_eq (h : self.Hashes) (traceId : BitVec 128) :
    self.sample traceId =
      decide (traceId.setWidth 64 * KNUTH_FACTOR.toBitVec ≤ self.samplingIdThreshold.toBitVec) := by
  rw [sample, Binary64.le_eq_false_of_lt h.above_min, Binary64.le_eq_false_of_lt h.below_max,
    if_neg Bool.false_ne_true, if_neg Bool.false_ne_true]
  simp only [UInt64.le_iff_toBitVec_le, UInt64.toBitVec_mul]

/-- Only the lower half of a trace id matters. -/
theorem sample_congr (hhalf : traceId.setWidth 64 = traceId'.setWidth 64) :
    self.sample traceId = self.sample traceId' := by
  unfold sample
  rw [hhalf]

/-- A greater threshold keeps every id that a smaller one keeps. -/
theorem sample_mono (h : self.Hashes) (h' : other.Hashes)
    (hle : self.samplingIdThreshold ≤ other.samplingIdThreshold)
    (hkept : self.sample traceId = true) : other.sample traceId = true := by
  rw [sample_eq h, decide_eq_true_eq] at hkept
  rw [sample_eq h', decide_eq_true_eq]
  exact BitVec.le_trans hkept hle

theorem mem_keptHalves (h : self.Hashes) :
    half ∈ self.keptHalves ↔
      half * KNUTH_FACTOR.toBitVec ≤ self.samplingIdThreshold.toBitVec := by
  constructor
  · intro hkept
    have hwide : (half.setWidth 128).setWidth 64 = half := by
      simp
    have hsample := hkept (half.setWidth 128) hwide
    rwa [sample_eq h, decide_eq_true_eq, hwide] at hsample
  · rintro hle traceId rfl
    rw [sample_eq h]
    exact decide_eq_true hle

theorem knuthFactor_odd : KNUTH_FACTOR.toBitVec.toNat % 2 = 1 := by decide

/-- The share of the lower halves that a threshold keeps. -/
theorem ncard_keptHalves (h : self.Hashes) :
    self.keptHalves.ncard = self.samplingIdThreshold.toNat + 1 := by
  have hkept : self.keptHalves =
      { half | half * KNUTH_FACTOR.toBitVec ≤ self.samplingIdThreshold.toBitVec } :=
    Set.ext fun _ => mem_keptHalves h
  rw [hkept, ncard_mul_le knuthFactor_odd]
  rfl

/-- A rate strictly between its ends keeps its share of the trace ids, and different samplers agree
as far as their thresholds do. -/
theorem sample_share (h : self.Hashes) :
    (∀ traceId traceId' : BitVec 128, traceId.setWidth 64 = traceId'.setWidth 64 →
      self.sample traceId = self.sample traceId') ∧
    (∀ other : RateSampler, other.Hashes → self.samplingIdThreshold ≤ other.samplingIdThreshold →
      ∀ traceId, self.sample traceId = true → other.sample traceId = true) ∧
    self.keptHalves.ncard = self.samplingIdThreshold.toNat + 1 ∧
    Function.Bijective fun half : BitVec 64 => half * KNUTH_FACTOR.toBitVec :=
  ⟨fun _ _ hhalf => sample_congr hhalf,
    fun _ h' hle _ hkept => sample_mono h h' hle hkept, ncard_keptHalves h,
    mul_bijective knuthFactor_odd⟩

end

/-- A rate of one half. -/
def halfRate : RateSampler :=
  { sampleRate := 0x3FE0000000000000, samplingIdThreshold := 0x8000000000000000 }

theorem ncard_keptHalves_halfRate : halfRate.keptHalves.ncard = 2 ^ 63 + 1 :=
  (@sample_share halfRate { above_min := by decide, below_max := by decide }).2.2.1

end RateSampler

end TraceSampling
end DdTrace
