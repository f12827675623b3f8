import DdTrace.TraceSampling.LimiterRate
import DdTrace.TraceSampling.TokenBucket

/-!
# TokenBurst — what the limiter never exceeds

After a pause the limiter can allow twice its limit at once, and so the bound of a token bucket fails.
It fails by no more than that: between two times the limiter never allows more than twice its limit and
what a continuous refill adds in between (`granted_le_twice`), whatever the requests are.

For the time since the last update only the tokens that were in the bucket count.  An update adds at
most a full bucket, and at most the refill since the update before.
-/

namespace DdTrace
namespace TraceSampling

open Lib

namespace RateLimiter

/-! ## The invariant -/

/-- What has been allowed from a time on, together with the tokens that are left. -/
structure Capped (l : List (Instant × Bool)) (limiter : RateLimiter) (seen : Instant) : Prop where
  valid : limiter.Valid
  lastUpdate_le : limiter.inner.lastUpdate ≤ seen
  seen_ge : ∀ x ∈ l, x.1 ≤ seen
  early : ∀ s ≤ limiter.inner.lastUpdate,
    (grantedSince l s + limiter.inner.tokens : ℚ) ≤
      2 * limiter.rateLimit + limiter.refill (limiter.inner.lastUpdate - s)
  late : ∀ s > limiter.inner.lastUpdate,
    (grantedSince l s + limiter.inner.tokens : ℚ) ≤ limiter.rateLimit

theorem capped_new {limit : Int} {window : Nat} (hlimit : 0 < limit) (hwindow : 0 < window)
    (now : Instant) : Capped [] (new limit (some window) now) now := by
  have hvalid := valid_new hlimit hwindow now
  have hpos : (0 : ℚ) ≤ limit := by exact_mod_cast hlimit.le
  refine
    { valid := hvalid
      lastUpdate_le := le_refl now
      seen_ge := by simp
      early := fun s _ => ?_
      late := fun s _ => ?_ }
  · have hrefill := refill_nonneg hvalid (now - s)
    simp only [grantedSince, List.countP_nil, Nat.cast_zero, zero_add, new] at hrefill ⊢
    linarith
  · simp [grantedSince, new]

section Step

variable {l : List (Instant × Bool)} {limiter : RateLimiter} {seen timestamp : Instant}

theorem Capped.seen_ge_snoc (h : Capped l limiter seen) (hle : seen ≤ timestamp) (allowed : Bool) :
    ∀ x ∈ l ++ [(timestamp, allowed)], x.1 ≤ timestamp := by
  intro x hx
  rcases List.mem_append.1 hx with hold | hnew
  · exact (h.seen_ge x hold).trans hle
  · rw [List.mem_singleton.1 hnew]

/-- From a later time on nothing has been allowed. -/
theorem Capped.grantedSince_snoc_of_gt (h : Capped l limiter seen) (hle : seen ≤ timestamp)
    {s : Instant} (hlt : timestamp < s) (allowed : Bool) :
    grantedSince (l ++ [(timestamp, allowed)]) s = 0 :=
  grantedSince_eq_zero (h.seen_ge_snoc hle allowed) hlt

/-- A request that finds a token: one more is allowed, and one token less is left. -/
theorem Capped.take (h : Capped l limiter seen) (hle : seen ≤ timestamp)
    (hpos : 1 ≤ limiter.inner.tokens) :
    Capped (l ++ [(timestamp, true)]) (limiter.withTokens (limiter.inner.tokens - 1)) timestamp := by
  have hgrant : ∀ s ≤ timestamp,
      grantedSince (l ++ [(timestamp, true)]) s = grantedSince l s + 1 := by
    intro s hs
    rw [grantedSince_snoc, if_pos ⟨rfl, hs⟩]
  refine
    { valid := h.valid.take hpos
      lastUpdate_le := h.lastUpdate_le.trans hle
      seen_ge := h.seen_ge_snoc hle true
      early := fun s hs => ?_
      late := fun s hs => ?_ }
  · have hearly := h.early s hs
    have hs' : s ≤ timestamp := (hs.trans h.lastUpdate_le).trans hle
    simp only [withTokens, refill, hgrant s hs'] at hearly ⊢
    push_cast
    linarith
  · simp only [withTokens] at hs ⊢
    push_cast
    by_cases hs' : s ≤ timestamp
    · have hlate := h.late s hs
      rw [hgrant s hs']
      push_cast
      linarith
    · have hmax : (limiter.inner.tokens : ℚ) ≤ limiter.rateLimit := by
        exact_mod_cast h.valid.tokens_le
      rw [h.grantedSince_snoc_of_gt hle (not_le.1 hs')]
      push_cast
      linarith

/-- What an update adds: a full bucket at most, and no more than the refill since the last one. -/
theorem Capped.added_fits (h : Capped l limiter seen) (hle : seen ≤ timestamp)
    (hempty : limiter.inner.tokens = 0) (s : Instant) :
    (grantedSince l s + limiter.added timestamp : ℚ) ≤
      2 * limiter.rateLimit + limiter.refill (timestamp - s) := by
  by_cases hearly : s ≤ limiter.inner.lastUpdate
  · have hbefore := h.early s hearly
    have hadded := limiter.added_le_refill timestamp
    have hsplit := limiter.refill_sub_add hearly (h.lastUpdate_le.trans hle)
    rw [hempty] at hbefore
    push_cast at hbefore
    linarith
  · -- what was allowed since the last update came out of one bucket, and another one is added
    have hbefore := h.late s (not_le.1 hearly)
    have hadded : (limiter.added timestamp : ℚ) ≤ limiter.rateLimit := by
      exact_mod_cast limiter.added_le_limit timestamp
    have hrefill := refill_nonneg h.valid (timestamp - s)
    rw [hempty] at hbefore
    push_cast at hbefore
    linarith

/-- A request that finds the bucket empty. -/
theorem Capped.update (h : Capped l limiter seen) (hle : seen ≤ timestamp)
    (hempty : limiter.inner.tokens = 0) :
    Capped (l ++ [(timestamp, (limiter.isAllowedAt timestamp).1)])
      (limiter.isAllowedAt timestamp).2 timestamp := by
  obtain ⟨allowed, tokens, hanswer, hnonneg, hsum⟩ := exists_updated h.valid hempty timestamp
  have hmax := added_le_limit limiter timestamp
  have hmax' : (limiter.added timestamp : ℚ) ≤ limiter.rateLimit := by exact_mod_cast hmax
  have hsum' : (tokens : ℚ) + (if allowed = true then 1 else 0) = limiter.added timestamp := by
    exact_mod_cast hsum
  rw [hanswer]
  refine
    { valid := by
        refine h.valid.update timestamp hnonneg ?_
        split_ifs at hsum <;> omega
      lastUpdate_le := le_refl timestamp
      seen_ge := h.seen_ge_snoc hle allowed
      early := fun s hs => ?_
      late := fun s hs => ?_ }
  · have hs' : s ≤ timestamp := hs
    show (grantedSince (l ++ [(timestamp, allowed)]) s + tokens : ℚ) ≤
      2 * limiter.rateLimit + limiter.refill (timestamp - s)
    have hfit := h.added_fits hle hempty s
    rw [grantedSince_snoc]
    simp only [hs', and_true]
    push_cast
    linarith
  · show (grantedSince (l ++ [(timestamp, allowed)]) s + tokens : ℚ) ≤ limiter.rateLimit
    rw [h.grantedSince_snoc_of_gt hle hs]
    push_cast
    split_ifs at hsum' <;> linarith

/-- Each request keeps the invariant. -/
theorem Capped.request (h : Capped l limiter seen) (hle : seen ≤ timestamp) :
    Capped (l ++ [(timestamp, (limiter.isAllowedAt timestamp).1)])
      (limiter.isAllowedAt timestamp).2 timestamp := by
  by_cases hpos : 1 ≤ limiter.inner.tokens
  · rw [isAllowedAt_of_pos h.valid hpos]
    exact h.take hle hpos
  · have hnonneg := h.valid.tokens_nonneg
    exact h.update hle (by omega)

theorem Capped.grantedSince_le (h : Capped l limiter seen) {s e : Instant} (he : seen ≤ e) :
    (grantedSince l s : ℚ) ≤ 2 * limiter.rateLimit + limiter.refill (e - s) := by
  have htokens : (0 : ℚ) ≤ limiter.inner.tokens := by exact_mod_cast h.valid.tokens_nonneg
  have hlimit : (0 : ℚ) ≤ limiter.rateLimit := by exact_mod_cast h.valid.limit_pos.le
  by_cases hearly : s ≤ limiter.inner.lastUpdate
  · have hbound := h.early s hearly
    have hsplit := limiter.refill_sub_add hearly (h.lastUpdate_le.trans he)
    have hrefill := refill_nonneg h.valid (e - limiter.inner.lastUpdate)
    linarith
  · have hbound := h.late s (not_le.1 hearly)
    have hrefill := refill_nonneg h.valid (e - s)
    linarith

end Step

/-! ## Runs -/

section Runs

variable {limit : Int} {window : Nat} {now : Instant} {timestamps : List Instant}

theorem capped_after (hlimit : 0 < limit) (hwindow : 0 < window)
    (hsorted : (now :: timestamps).Pairwise (· ≤ ·)) :
    Capped ((new limit (some window) now).history timestamps)
      ((new limit (some window) now).after timestamps) (timestamps.getLast?.getD now) := by
  induction timestamps using List.reverseRecOn with
  | nil => exact capped_new hlimit hwindow now
  | append_singleton timestamps timestamp ih =>
      have hcapped := (ih (sorted_of_snoc hsorted)).request (last_le hsorted)
      rw [history_snoc, after_append]
      simpa [after] using hcapped

theorem refill_after (timestamps : List Instant) (elapsed : Nat) :
    ((new limit (some window) now).after timestamps).refill elapsed =
      limit * (elapsed : ℚ) / window := by
  rw [refill, rateLimit_after, timeWindowNs_after]
  exact div_mul_eq_mul_div _ _ _ |>.trans (congrArg (· / (window : ℚ)) (mul_comm _ _))

/-- Between two times no more is allowed than twice the limit and a continuous refill. -/
theorem granted_le_twice (hlimit : 0 < limit) (hwindow : 0 < window)
    (hsorted : (now :: timestamps).Pairwise (· ≤ ·)) {s e : Nat} (hs : s ≤ e) :
    (granted ((new limit (some window) now).history timestamps) s e : ℚ) ≤
      2 * limit + limit * ((e : ℚ) - s) / window := by
  -- the requests after `e` do not count, so the state that matters is the last one before
  induction timestamps using List.reverseRecOn with
  | nil =>
      have hnonneg : (0 : ℚ) ≤ (e : ℚ) - s := sub_nonneg.2 (by exact_mod_cast hs)
      have hlimit' : (0 : ℚ) ≤ limit := by exact_mod_cast hlimit.le
      have hbound : (0 : ℚ) ≤ 2 * limit + limit * ((e : ℚ) - s) / window := by positivity
      simpa [history, granted] using hbound
  | append_singleton timestamps timestamp ih =>
      by_cases hlater : e < timestamp
      · rw [history_snoc, granted_snoc_of_lt _ hlater]
        exact ih (sorted_of_snoc hsorted)
      · have hcapped := capped_after hlimit hwindow hsorted
        have hseen : (timestamps ++ [timestamp]).getLast?.getD now ≤ e := by simpa using hlater
        rw [granted_eq_grantedSince fun x hx => (hcapped.seen_ge x hx).trans hseen]
        have hbound := hcapped.grantedSince_le (s := s) hseen
        rwa [refill_after, rateLimit_after, Nat.cast_sub hs] at hbound

end Runs

/-! ## Requests that are counted -/

/-- The limiter without what it counts for its rate. -/
def bucket (self : RateLimiter) : RateLimiter :=
  { self with
    inner :=
      { self.inner with
        currentWindowStart := none
        tokensAllowed := 0
        tokensTotal := 0
        prevWindowRate := none } }

theorem bucket_updateRateCounts (self : RateLimiter) (allowed : Bool) (timestamp : Instant) :
    (self.updateRateCounts allowed timestamp).bucket = self.bucket := by
  unfold updateRateCounts bucket
  dsimp only
  cases self.inner.currentWindowStart with
  | none => rfl
  | some windowStart =>
      dsimp only
      split_ifs <;> rfl

/-- What is counted does not matter for an answer. -/
theorem isAllowedAt_bucket (self : RateLimiter) (timestamp : Instant) :
    self.bucket.isAllowedAt timestamp =
      ((self.isAllowedAt timestamp).1, (self.isAllowedAt timestamp).2.bucket) := by
  have hadded : self.bucket.tokensToAdd self.bucket.inner timestamp =
      self.tokensToAdd self.inner timestamp := rfl
  have hreplenish : self.bucket.replenish self.bucket.inner timestamp =
      { self.bucket.inner with
        tokens := (self.replenish self.inner timestamp).tokens
        lastUpdate := timestamp } := by
    simp only [replenish, hadded]
    rfl
  unfold isAllowedAt
  simp only [hreplenish]
  simp only [bucket, replenish]
  split_ifs <;> rfl

theorem isAllowed_bucket (self : RateLimiter) (now : Instant) :
    (self.isAllowed now).1 = (self.bucket.isAllowedAt now).1 ∧
      (self.isAllowed now).2.bucket = (self.bucket.isAllowedAt now).2 := by
  rw [isAllowedAt_bucket]
  exact ⟨rfl, bucket_updateRateCounts _ _ _⟩

/-- The requests that are counted are answered like those that are not. -/
theorem served_eq_history (self : RateLimiter) (times : List Instant) :
    self.served times = self.bucket.history times := by
  induction times generalizing self with
  | nil => rfl
  | cons now times ih =>
      obtain ⟨hanswer, hnext⟩ := self.isAllowed_bucket now
      have hrest := ih (self.isAllowed now).2
      rw [hnext] at hrest
      rw [served, hanswer, hrest]
      rfl

/-- The bound for the requests of the sampler. -/
theorem granted_served_le {limit : Int} {window : Nat} {now : Instant} {times : List Instant}
    (hlimit : 0 < limit) (hwindow : 0 < window) (hsorted : (now :: times).Pairwise (· ≤ ·))
    {s e : Nat} (hs : s ≤ e) :
    (granted ((new limit (some window) now).served times) s e : ℚ) ≤
      2 * limit + limit * ((e : ℚ) - s) / window := by
  rw [served_eq_history]
  exact granted_le_twice hlimit hwindow hsorted hs

/-- Without a limit every request is allowed, with a limit of zero none. -/
theorem isAllowed_of_nonpos {self : RateLimiter} (h : self.rateLimit ≤ 0) (now : Instant) :
    (self.isAllowed now).1 = decide (self.rateLimit < 0) := by
  unfold isAllowed isAllowedAt
  by_cases hzero : self.rateLimit = 0
  · simp [hzero]
  · have hneg : self.rateLimit < 0 := lt_of_le_of_ne h hzero
    simp [hzero, hneg]

theorem rateLimit_isAllowed (self : RateLimiter) (now : Instant) :
    (self.isAllowed now).2.rateLimit = self.rateLimit :=
  rateLimit_isAllowedAt self now

theorem served_of_nonpos {self : RateLimiter} (h : self.rateLimit ≤ 0) (times : List Instant) :
    ∀ request ∈ self.served times, request.2 = decide (self.rateLimit < 0) := by
  induction times generalizing self with
  | nil => simp [served]
  | cons now times ih =>
      intro request hrequest
      have hnext := self.rateLimit_isAllowed now
      rcases List.mem_cons.1 hrequest with rfl | hrest
      · exact isAllowed_of_nonpos h now
      · rw [← hnext]
        exact ih (by rwa [hnext]) request hrest

end RateLimiter

end TraceSampling
end DdTrace
