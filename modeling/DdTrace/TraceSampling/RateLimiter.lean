import Mathlib.Data.Rat.Floor
import Mathlib.Tactic.Linarith

/-!
# RateLimiter — the token bucket of the sampler

The bucket is filled lazily: a request takes a token if there is one, and only a request that finds
the bucket empty adds the tokens for the time since the last time that was done.  A fraction of a
token is dropped.

Rates are exact rationals here.  Timestamps are in nanoseconds, and a duration from a later to an
earlier one is zero.
-/

namespace DdTrace
namespace TraceSampling

/-- A point in time, in nanoseconds. -/
abbrev Instant := Nat

structure RateLimiterState where
  timeWindowNs : Nat
  tokens : Int
  maxTokens : Int
  lastUpdate : Instant
  currentWindowStart : Option Instant
  tokensAllowed : Nat
  tokensTotal : Nat
  prevWindowRate : Option ℚ
  deriving DecidableEq

/-- A limit below zero allows every request, a limit of zero none. -/
structure RateLimiter where
  rateLimit : Int
  inner : RateLimiterState
  deriving DecidableEq

namespace RateLimiter

/-- The default window, one second. -/
def DEFAULT_WINDOW_NS : Nat := 1000000000

def new (rateLimit : Int) (timeWindowNs : Option Nat) (now : Instant) : RateLimiter :=
  { rateLimit := rateLimit
    inner :=
      { timeWindowNs := timeWindowNs.getD DEFAULT_WINDOW_NS
        tokens := rateLimit
        maxTokens := rateLimit
        lastUpdate := now
        currentWindowStart := none
        tokensAllowed := 0
        tokensTotal := 0
        prevWindowRate := none } }

/-! ## Tokens -/

/-- The tokens for the time since the last update; the fraction is dropped. -/
def tokensToAdd (self : RateLimiter) (state : RateLimiterState) (timestamp : Instant) : Int :=
  let elapsed := timestamp - state.lastUpdate
  let tokensToAddPrecise : ℚ := elapsed / state.timeWindowNs * self.rateLimit
  ⌊tokensToAddPrecise⌋

def replenish (self : RateLimiter) (state : RateLimiterState) (timestamp : Instant) :
    RateLimiterState :=
  let tokensToAdd := self.tokensToAdd state timestamp
  let tokens :=
    if tokensToAdd > 0 then
      let tokens := state.tokens + tokensToAdd
      if tokens > state.maxTokens then state.maxTokens else tokens
    else state.tokens
  -- the time counts as used, also if it was not enough for a token
  { state with tokens := tokens, lastUpdate := timestamp }

def isAllowedAt (self : RateLimiter) (timestamp : Instant) : Bool × RateLimiter :=
  if self.rateLimit = 0 then (false, self)
  else if self.rateLimit < 0 then (true, self)
  else
    let state := self.inner
    if state.tokens ≥ 1 then
      (true, { self with inner := { state with tokens := state.tokens - 1 } })
    else
      let state := self.replenish state timestamp
      if state.tokens ≥ 1 then
        (true, { self with inner := { state with tokens := state.tokens - 1 } })
      else (false, { self with inner := state })

/-! ## Rates -/

/-- The share of allowed requests in the current window; without any request it is all of them. -/
def currentWindowRate (_self : RateLimiter) (state : RateLimiterState) : ℚ :=
  if state.tokensTotal = 0 then 1 else state.tokensAllowed / state.tokensTotal

def updateRateCounts (self : RateLimiter) (allowed : Bool) (timestamp : Instant) : RateLimiter :=
  let state := self.inner
  let state :=
    match state.currentWindowStart with
    | none => { state with currentWindowStart := some timestamp }
    | some windowStart =>
        let elapsed := timestamp - windowStart
        -- the nanoseconds as a `u64`
        if elapsed % 2 ^ 64 ≥ state.timeWindowNs then
          { state with
            prevWindowRate := some (self.currentWindowRate state)
            tokensAllowed := 0
            tokensTotal := 0
            currentWindowStart := some timestamp }
        else state
  { self with
    inner :=
      { state with
        tokensAllowed := if allowed then state.tokensAllowed + 1 else state.tokensAllowed
        tokensTotal := state.tokensTotal + 1 } }

def calculateInternalEffectiveRate (_self : RateLimiter) (currentRate : ℚ)
    (prevWindowRate : Option ℚ) : ℚ :=
  match prevWindowRate with
  | some prevRate => (currentRate + prevRate) / 2
  | none => currentRate

/-- The effective rate, between 0 and 1. -/
def effectiveRate (self : RateLimiter) : ℚ :=
  self.calculateInternalEffectiveRate (self.currentWindowRate self.inner) self.inner.prevWindowRate

/-- A request at the time `now`. -/
def isAllowed (self : RateLimiter) (now : Instant) : Bool × RateLimiter :=
  let (allowed, self) := self.isAllowedAt now
  (allowed, self.updateRateCounts allowed now)

/-! ## What never changes -/

@[simp] theorem rateLimit_isAllowedAt (self : RateLimiter) (timestamp : Instant) :
    (self.isAllowedAt timestamp).2.rateLimit = self.rateLimit := by
  unfold isAllowedAt
  dsimp only
  split_ifs <;> rfl

@[simp] theorem timeWindowNs_isAllowedAt (self : RateLimiter) (timestamp : Instant) :
    (self.isAllowedAt timestamp).2.inner.timeWindowNs = self.inner.timeWindowNs := by
  unfold isAllowedAt
  dsimp only
  split_ifs <;> rfl

@[simp] theorem timeWindowNs_updateRateCounts (self : RateLimiter) (allowed : Bool)
    (timestamp : Instant) :
    (self.updateRateCounts allowed timestamp).inner.timeWindowNs = self.inner.timeWindowNs := by
  unfold updateRateCounts
  dsimp only
  cases self.inner.currentWindowStart with
  | none => rfl
  | some windowStart =>
      dsimp only
      split_ifs <;> rfl

@[simp] theorem timeWindowNs_isAllowed (self : RateLimiter) (now : Instant) :
    (self.isAllowed now).2.inner.timeWindowNs = self.inner.timeWindowNs :=
  (timeWindowNs_updateRateCounts _ _ _).trans (timeWindowNs_isAllowedAt self now)

/-! ## Many requests -/

/-- The limiter after `isAllowedAt` at each of the timestamps. -/
def after (self : RateLimiter) (timestamps : List Instant) : RateLimiter :=
  timestamps.foldl (fun self timestamp => (self.isAllowedAt timestamp).2) self

/-- The answers of `isAllowedAt` at each of the timestamps. -/
def answers (self : RateLimiter) : List Instant → List Bool
  | [] => []
  | timestamp :: timestamps =>
      (self.isAllowedAt timestamp).1 :: (self.isAllowedAt timestamp).2.answers timestamps

section

variable (self : RateLimiter) (timestamps more : List Instant)

theorem after_append : self.after (timestamps ++ more) = (self.after timestamps).after more :=
  List.foldl_append

theorem answers_append :
    self.answers (timestamps ++ more) =
      self.answers timestamps ++ (self.after timestamps).answers more := by
  induction timestamps generalizing self with
  | nil => rfl
  | cons timestamp timestamps ih => exact congrArg (_ :: ·) (ih (self.isAllowedAt timestamp).2)

theorem length_answers : (self.answers timestamps).length = timestamps.length := by
  induction timestamps generalizing self with
  | nil => rfl
  | cons timestamp timestamps ih => exact congrArg (· + 1) (ih (self.isAllowedAt timestamp).2)

end

end RateLimiter

end TraceSampling
end DdTrace
