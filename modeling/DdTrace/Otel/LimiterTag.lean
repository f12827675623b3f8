import DdTrace.Lib.Prefixes
import DdTrace.Otel.Sampler
import DdTrace.TraceSampling.LimiterRate

/-!
# LimiterTag — the limiter rate that a dropped root span reports

`sampleRoot` asks the limiter about the traces that a rule keeps.  When the limiter drops one, its
effective rate goes into the tag `_dd.limit_psr` through an `i32`, so that every rate below one is
reported as zero.
-/

namespace DdTrace
namespace Otel

open DdTrace.Lib DdTrace.TraceSampling

/-! ## Root spans -/

/-- A root span: when it is sampled, and what the rules and the service rates answer for it. -/
structure RootSpan where
  now : Instant
  matchingRule : Option RuleAnswer
  serviceSampler : Option ServiceAnswer

/-- The limiter is asked about it. -/
def RootSpan.Asks (self : RootSpan) : Bool := self.matchingRule.any (·.sample)

/-- A number as an `i32`: the fraction is dropped, and what is out of range is the nearest end. -/
def asI32 (rate : ℚ) : Int32 :=
  Int32.ofInt (max (-2 ^ 31) (min (2 ^ 31 - 1) (rate.num.tdiv rate.den)))

/-- The answers for a root span, the limiter asked where the source asks it. -/
def rootAnswers (limiter : RateLimiter) (span : RootSpan) : RootAnswers × RateLimiter :=
  let (isAllowed, limiter) :=
    if span.Asks then limiter.isAllowed span.now else (true, limiter)
  ({ matchingRule := span.matchingRule
     isAllowed := isAllowed
     effectiveRate := asI32 limiter.effectiveRate
     serviceSampler := span.serviceSampler }, limiter)

def sampleWithLimiter (limiter : RateLimiter) (span : RootSpan) : DdSamplingResult × RateLimiter :=
  let (answers, limiter) := rootAnswers limiter span
  (DatadogSampler.sampleRoot answers, limiter)

/-- The limiter after some root spans. -/
def limiterAfter (limiter : RateLimiter) (spans : List RootSpan) : RateLimiter :=
  spans.foldl (fun limiter span => (sampleWithLimiter limiter span).2) limiter

/-- When the limiter is asked about root spans. -/
def askedAt (spans : List RootSpan) : List Instant := (spans.filter RootSpan.Asks).map RootSpan.now

theorem limiterAfter_eq (limiter : RateLimiter) (spans : List RootSpan) :
    limiterAfter limiter spans = limiter.serving (askedAt spans) := by
  induction spans generalizing limiter with
  | nil => rfl
  | cons span spans ih =>
      have hrest := ih (sampleWithLimiter limiter span).2
      by_cases hasks : span.Asks = true
      · have hnext : (sampleWithLimiter limiter span).2 = (limiter.isAllowed span.now).2 := by
          simp [sampleWithLimiter, rootAnswers, hasks]
        rw [hnext] at hrest
        simpa [limiterAfter, askedAt, hasks, RateLimiter.serving, hnext] using hrest
      · have hnext : (sampleWithLimiter limiter span).2 = limiter := by
          simp [sampleWithLimiter, rootAnswers, hasks]
        rw [hnext] at hrest
        simpa [limiterAfter, askedAt, hasks, RateLimiter.serving, hnext] using hrest

/-! ## The tag -/

def limitOf (tag : KeyValue) : Option Int64 :=
  if tag.key = "_dd.limit_psr".toList then
    match tag.value with
    | .i64 limit => some limit
    | _ => none
  else none

/-- The tag with the rate of the limiter. -/
def limitPsr (tags : List KeyValue) : Option Int64 := tags.findSome? limitOf

/-- The rule keeps the root span, and the limiter drops it. -/
def DroppedByLimiter (limiter : RateLimiter) (span : RootSpan) : Prop :=
  span.Asks = true ∧ (limiter.isAllowed span.now).1 = false

/-- The tag of a root span is the effective rate of the limiter. -/
def TagIsRate (limiter : RateLimiter) (span : RootSpan) : Prop :=
  (limitPsr (sampleWithLimiter limiter span).1.toDdSamplingTags).map
      (fun limit => (limit.toInt : ℚ)) =
    some (sampleWithLimiter limiter span).2.effectiveRate

theorem asI32_eq_zero {rate : ℚ} (hnonneg : 0 ≤ rate) (hlt : rate < 1) : asI32 rate = 0 := by
  have hzero : rate.num.tdiv rate.den = 0 :=
    Int.tdiv_eq_zero_of_lt (Rat.num_nonneg.2 hnonneg) (Rat.num_lt_denom_iff.2 hlt)
  rw [asI32, hzero]
  decide

theorem limitOf_psr (limit : Int64) :
    limitOf { key := "_dd.limit_psr".toList, value := .i64 limit } = some limit :=
  if_pos rfl

theorem limitPsr_of_rlEffectiveRate {result : DdSamplingResult} {rootInfo : TraceRootSamplingInfo}
    {limit : Int32} (hinfo : result.traceRootInfo = some rootInfo)
    (hlimit : rootInfo.rlEffectiveRate = some limit) :
    limitPsr result.toDdSamplingTags = some limit.toInt64 := by
  rw [DdSamplingResult.toDdSamplingTags, hinfo]
  simp only [hlimit]
  rw [limitPsr, List.append_assoc, List.append_assoc, List.cons_append, List.findSome?_cons,
    limitOf_psr]

theorem rootAnswers_of_asks {limiter : RateLimiter} {span : RootSpan} (h : span.Asks = true) :
    rootAnswers limiter span =
      ({ matchingRule := span.matchingRule
         isAllowed := (limiter.isAllowed span.now).1
         effectiveRate := asI32 (limiter.isAllowed span.now).2.effectiveRate
         serviceSampler := span.serviceSampler }, (limiter.isAllowed span.now).2) := by
  rw [rootAnswers, if_pos h]

/-- A root span that the limiter drops has its effective rate as an `i32`. -/
theorem sampleWithLimiter_of_dropped {limiter : RateLimiter} {span : RootSpan}
    (h : DroppedByLimiter limiter span) :
    (sampleWithLimiter limiter span).2 = (limiter.isAllowed span.now).2 ∧
      limitPsr (sampleWithLimiter limiter span).1.toDdSamplingTags =
        some (asI32 (limiter.isAllowed span.now).2.effectiveRate).toInt64 := by
  obtain ⟨hasks, hdrop⟩ := h
  obtain ⟨rule, hrule, hsample⟩ := (Option.any_eq_true _ _).1 hasks
  rw [sampleWithLimiter, rootAnswers_of_asks hasks]
  refine ⟨rfl, limitPsr_of_rlEffectiveRate rfl ?_⟩
  simp only [hrule, hsample, hdrop]
  rfl

/-- The windows of the limiter after some root spans. -/
def limiterWindows (window : Option Nat) (limiter : RateLimiter) (spans : List RootSpan) :
    List Window :=
  windows (window.getD RateLimiter.DEFAULT_WINDOW_NS) (limiter.served (askedAt spans))

/-- A rate between zero and one that is the rate over the last windows of a history. -/
def EffectiveOver (window : Nat) (history : List (Instant × Bool)) (rate : ℚ) : Prop :=
  0 ≤ rate ∧ rate ≤ 1 ∧ ∃ l, Windowed window history l ∧ rate = reportedRate l

/-- Every root span of a run that the limiter drops reports its effective rate. -/
def ReportsRate (limiter : RateLimiter) : List RootSpan → Prop :=
  AtEach fun first span =>
    DroppedByLimiter (limiterAfter limiter first) span → TagIsRate (limiterAfter limiter first) span

/-- When the limiter drops a root span of a run, it has allowed no request of the current window and
of the one before. -/
def DropsAll (window : Option Nat) (limiter : RateLimiter) : List RootSpan → Prop :=
  AtEach fun first span =>
    DroppedByLimiter (limiterAfter limiter first) span →
      NoneAllowed (limiterWindows window limiter (first ++ [span]))

section Runs

variable {limit : Int} {window : Option Nat} {start : Instant} {spans : List RootSpan}
  {span : RootSpan}

theorem askedAt_snoc (spans : List RootSpan) (span : RootSpan) :
    askedAt (spans ++ [span]) = askedAt spans ++ if span.Asks = true then [span.now] else [] := by
  cases hasks : span.Asks <;> simp [askedAt, hasks]

/-- What a dropped root span reports, and when that is the effective rate. -/
theorem tagIsRate_iff
    (hdrop : DroppedByLimiter (limiterAfter (.new limit window start) spans) span) :
    TagIsRate (limiterAfter (.new limit window start) spans) span ↔
      NoneAllowed (limiterWindows window (.new limit window start) (spans ++ [span])) := by
  have hasked : askedAt (spans ++ [span]) = askedAt spans ++ [span.now] := by
    rw [askedAt_snoc, if_pos hdrop.1]
  have hrate := RateLimiter.effectiveRate_serving limit window start (askedAt (spans ++ [span]))
  rw [hasked, RateLimiter.serving_snoc, ← limiterAfter_eq] at hrate
  have hdenied : ((RateLimiter.new limit window start).serving (askedAt spans)).isAllowed span.now =
      (false, ((limiterAfter (.new limit window start) spans).isAllowed span.now).2) := by
    rw [← limiterAfter_eq]
    exact Prod.ext hdrop.2 rfl
  -- the current window holds the request that was denied
  have hwindows : ∃ current before,
      limiterWindows window (.new limit window start) (spans ++ [span]) = current :: before ∧
        (span.now, false) ∈ current.requests := by
    rw [limiterWindows, hasked, RateLimiter.served_snoc, windows_snoc, hdenied]
    exact exists_addRequest _ _ _
  obtain ⟨current, before, heq, hmem⟩ := hwindows
  have hreported : ((limiterAfter (.new limit window start) spans).isAllowed span.now).2.effectiveRate =
      reportedRate (current :: before) := by
    rw [hrate, ← heq, limiterWindows, hasked]
  have hzero := asI32_eq_zero (reportedRate_mem (current :: before)).1 (reportedRate_lt_one hmem)
  obtain ⟨hnext, htag⟩ := sampleWithLimiter_of_dropped hdrop
  rw [TagIsRate, htag, hnext, hreported, hzero, heq, ← reportedRate_eq_zero_iff]
  simp [eq_comm]

/-- Along every run the effective rate is the rate over the current window and the one before.  The
root spans that the limiter drops report it if and only if it allowed nothing in these windows. -/
theorem reportsRate_iff (limit : Int) (window : Option Nat) (start : Instant) :
    (∀ times, EffectiveOver (window.getD RateLimiter.DEFAULT_WINDOW_NS)
      ((RateLimiter.new limit window start).served times)
      ((RateLimiter.new limit window start).serving times).effectiveRate) ∧
    ∀ spans, ReportsRate (.new limit window start) spans ↔
      DropsAll window (.new limit window start) spans := by
  constructor
  · intro times
    rw [RateLimiter.effectiveRate_serving]
    obtain ⟨hnonneg, hle⟩ := reportedRate_mem
      (windows (window.getD RateLimiter.DEFAULT_WINDOW_NS)
        ((RateLimiter.new limit window start).served times))
    exact ⟨hnonneg, hle, _, windowed_windows _ _, rfl⟩
  · intro spans
    exact forall₃_congr fun first span _ => forall_congr' fun hdrop => tagIsRate_iff hdrop

end Runs

/-- A span that a rule keeps, at the start. -/
def keptSpan : RootSpan :=
  { now := 0
    matchingRule := some { provenance := "local".toList, sampleRate := .one, sample := true }
    serviceSampler := none }

/-- With a limit of one the second of two spans is dropped.  The rate is one half, the tag zero. -/
theorem not_reportsRate_half : ¬ ReportsRate (.new 1 none 0) [keptSpan, keptSpan] := by
  intro h
  have hdrop : DroppedByLimiter (limiterAfter (.new 1 none 0) [keptSpan]) keptSpan :=
    ⟨rfl, by decide +kernel⟩
  have hnone := (tagIsRate_iff hdrop).1 (h [keptSpan] keptSpan (List.prefix_refl _) hdrop)
  exact absurd hnone (by decide +kernel)

end Otel
end DdTrace
