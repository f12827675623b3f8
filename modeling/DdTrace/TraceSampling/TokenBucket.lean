import DdTrace.Lib.Prefixes
import DdTrace.TraceSampling.RateLimiter

/-!
# TokenBucket — how many requests the limiter allows in an interval

A token bucket of size `L` that is filled continuously allows at most `L + L * (e - s) / W` requests
between the times `s` and `e`.  The limiter fills its bucket only when it is empty, and then for the
whole time since the last update, so that time for which the bucket was full counts as well: after a
pause it can allow twice its limit at once.

Beside the limiter the proofs keep a *spare* bucket, which is full at the last update and filled
continuously since.  `bounded_of_fairRun` says that the bound holds as long as no update adds more
tokens than the spare bucket holds, and that it can be broken as soon as one does.
-/

namespace DdTrace
namespace TraceSampling

open Lib

namespace RateLimiter

/-! ## One request -/

/-- A limiter with a positive limit, its bucket between empty and full. -/
structure Valid (limiter : RateLimiter) : Prop where
  limit_pos : 0 < limiter.rateLimit
  window_pos : 0 < limiter.inner.timeWindowNs
  max_eq : limiter.inner.maxTokens = limiter.rateLimit
  tokens_nonneg : 0 ≤ limiter.inner.tokens
  tokens_le : limiter.inner.tokens ≤ limiter.rateLimit

theorem valid_new {limit : Int} {window : Nat} (hlimit : 0 < limit) (hwindow : 0 < window)
    (now : Instant) : (new limit (some window) now).Valid :=
  { limit_pos := hlimit
    window_pos := hwindow
    max_eq := rfl
    tokens_nonneg := hlimit.le
    tokens_le := le_refl limit }

/-- The exact tokens for a duration. -/
def refill (self : RateLimiter) (elapsed : Nat) : ℚ :=
  elapsed / self.inner.timeWindowNs * self.rateLimit

/-- The tokens in an empty bucket after an update. -/
def added (self : RateLimiter) (timestamp : Instant) : Int :=
  min self.rateLimit (self.tokensToAdd self.inner timestamp)

/-- The limiter with so many tokens. -/
def withTokens (self : RateLimiter) (tokens : Int) : RateLimiter :=
  { self with inner := { self.inner with tokens := tokens } }

/-- The limiter after an update. -/
def updated (self : RateLimiter) (tokens : Int) (timestamp : Instant) : RateLimiter :=
  { self with inner := { self.inner with tokens := tokens, lastUpdate := timestamp } }

section Request

variable {self : RateLimiter} {timestamp : Instant}

@[simp] theorem rateLimit_after (self : RateLimiter) (timestamps : List Instant) :
    (self.after timestamps).rateLimit = self.rateLimit := by
  induction timestamps generalizing self with
  | nil => rfl
  | cons timestamp timestamps ih => exact (ih _).trans (rateLimit_isAllowedAt self timestamp)

@[simp] theorem timeWindowNs_after (self : RateLimiter) (timestamps : List Instant) :
    (self.after timestamps).inner.timeWindowNs = self.inner.timeWindowNs := by
  induction timestamps generalizing self with
  | nil => rfl
  | cons timestamp timestamps ih => exact (ih _).trans (timeWindowNs_isAllowedAt self timestamp)

theorem refill_nonneg (h : self.Valid) (elapsed : Nat) : 0 ≤ self.refill elapsed := by
  have hlimit : (0 : ℚ) ≤ self.rateLimit := by exact_mod_cast h.limit_pos.le
  exact mul_nonneg (div_nonneg (Nat.cast_nonneg _) (Nat.cast_nonneg _)) hlimit

theorem refill_add (self : RateLimiter) (d e : Nat) :
    self.refill (d + e) = self.refill d + self.refill e := by
  simp only [refill, Nat.cast_add]
  ring

/-- Time that passes step by step counts as a whole. -/
theorem refill_sub_add (self : RateLimiter) {s t u : Nat} (hst : s ≤ t) (htu : t ≤ u) :
    self.refill (u - s) = self.refill (t - s) + self.refill (u - t) := by
  have hsplit : u - s = (t - s) + (u - t) := by omega
  rw [hsplit, refill_add]

theorem added_nonneg (h : self.Valid) (timestamp : Nat) : 0 ≤ self.added timestamp :=
  le_min h.limit_pos.le (Int.floor_nonneg.2 (refill_nonneg h _))

theorem added_le_limit (self : RateLimiter) (timestamp : Instant) :
    self.added timestamp ≤ self.rateLimit :=
  min_le_left _ _

theorem added_le_refill (self : RateLimiter) (timestamp : Instant) :
    (self.added timestamp : ℚ) ≤ self.refill (timestamp - self.inner.lastUpdate) := by
  have hfloor : (self.tokensToAdd self.inner timestamp : ℚ) ≤
      self.refill (timestamp - self.inner.lastUpdate) := Int.floor_le _
  have hmin : (self.added timestamp : ℚ) ≤ self.tokensToAdd self.inner timestamp := by
    exact_mod_cast min_le_right _ _
  exact hmin.trans hfloor

theorem Valid.take (h : self.Valid) (hpos : 1 ≤ self.inner.tokens) :
    (self.withTokens (self.inner.tokens - 1)).Valid := by
  have hmax := h.tokens_le
  exact
    { limit_pos := h.limit_pos
      window_pos := h.window_pos
      max_eq := h.max_eq
      tokens_nonneg := by
        simp only [withTokens]
        omega
      tokens_le := by
        simp only [withTokens]
        omega }

theorem Valid.update (h : self.Valid) (timestamp : Nat) {tokens : Int} (hnonneg : 0 ≤ tokens)
    (hle : tokens ≤ self.rateLimit) : (self.updated tokens timestamp).Valid :=
  { limit_pos := h.limit_pos
    window_pos := h.window_pos
    max_eq := h.max_eq
    tokens_nonneg := hnonneg
    tokens_le := hle }

/-- A request that finds a token takes it. -/
theorem isAllowedAt_of_pos (h : self.Valid) (hpos : 1 ≤ self.inner.tokens) (timestamp : Nat) :
    self.isAllowedAt timestamp = (true, self.withTokens (self.inner.tokens - 1)) := by
  have hlimit := h.limit_pos
  unfold isAllowedAt
  rw [if_neg (by omega), if_neg (by omega), if_pos hpos]
  rfl

/-- A request that finds the bucket empty fills it, and takes a token if there is one then. -/
theorem isAllowedAt_of_empty (h : self.Valid) (hempty : self.inner.tokens = 0)
    (timestamp : Nat) :
    self.isAllowedAt timestamp =
      (decide (1 ≤ self.added timestamp),
        self.updated
          (if 1 ≤ self.added timestamp then self.added timestamp - 1 else 0) timestamp) := by
  have hlimit := h.limit_pos
  have hnonneg := added_nonneg h timestamp
  have htokens : (self.replenish self.inner timestamp).tokens = self.added timestamp := by
    unfold replenish added
    simp only [hempty, zero_add, h.max_eq]
    split_ifs with hadd hmax
    · exact (min_eq_left hmax.le).symm
    · exact (min_eq_right (not_lt.1 hmax)).symm
    · have hzero : self.tokensToAdd self.inner timestamp = 0 :=
        le_antisymm (not_lt.1 hadd) (Int.floor_nonneg.2 (refill_nonneg h _))
      rw [hzero, min_eq_right hlimit.le]
  have hstate : self.replenish self.inner timestamp =
      { self.inner with tokens := self.added timestamp, lastUpdate := timestamp } := by
    rw [← htokens]
    rfl
  unfold isAllowedAt
  rw [if_neg (by omega), if_neg (by omega)]
  simp only [hempty, hstate]
  rw [if_neg (by omega)]
  by_cases hadded : 1 ≤ self.added timestamp
  · simp [hadded, updated]
  · have hzero : self.added timestamp = 0 := by omega
    simp [hzero, updated]

/-- The tokens that an update adds are in the bucket, or the request took one of them. -/
theorem exists_updated (h : self.Valid) (hempty : self.inner.tokens = 0) (timestamp : Nat) :
    ∃ allowed tokens, self.isAllowedAt timestamp = (allowed, self.updated tokens timestamp) ∧
      0 ≤ tokens ∧ tokens + (if allowed = true then 1 else 0) = self.added timestamp := by
  have hnonneg := added_nonneg h timestamp
  refine ⟨_, _, isAllowedAt_of_empty h hempty timestamp, ?_, ?_⟩
  · split_ifs <;> omega
  · simp only [decide_eq_true_eq]
    split_ifs <;> omega

end Request

/-! ## Counting -/

/-- The requests of a run with their answers. -/
def history (self : RateLimiter) (timestamps : List Instant) : List (Instant × Bool) :=
  timestamps.zip (self.answers timestamps)

theorem history_snoc (self : RateLimiter) (timestamps : List Instant) (timestamp : Instant) :
    self.history (timestamps ++ [timestamp]) =
      self.history timestamps ++ [(timestamp, ((self.after timestamps).isAllowedAt timestamp).1)] := by
  unfold history
  rw [answers_append, List.zip_append (self.length_answers timestamps).symm]
  rfl

/-- The number of requests allowed between two times. -/
def granted (l : List (Instant × Bool)) (s e : Instant) : Nat :=
  l.countP fun x => x.2 && s ≤ x.1 && x.1 ≤ e

/-- The number of requests allowed from a time on. -/
def grantedSince (l : List (Instant × Bool)) (s : Instant) : Nat :=
  l.countP fun x => x.2 && s ≤ x.1

section Counting

variable {l : List (Instant × Bool)} {s e t : Nat}

theorem grantedSince_snoc (l : List (Instant × Bool)) (t : Instant) (allowed : Bool) (s : Instant) :
    grantedSince (l ++ [(t, allowed)]) s =
      grantedSince l s + if allowed = true ∧ s ≤ t then 1 else 0 := by
  simp [grantedSince, List.countP_append]

theorem grantedSince_eq_zero (hseen : ∀ x ∈ l, x.1 ≤ t) (hlt : t < s) : grantedSince l s = 0 := by
  apply List.countP_eq_zero.2
  intro x hx
  have hlt' : x.1 < s := lt_of_le_of_lt (hseen x hx) hlt
  simp [hlt']

/-- Until the last request, from a time on means up to any later time. -/
theorem granted_eq_grantedSince (hseen : ∀ x ∈ l, x.1 ≤ e) : granted l s e = grantedSince l s := by
  apply List.countP_congr
  intro x hx
  simp [hseen x hx]

theorem granted_snoc_of_lt (allowed : Bool) (hlt : e < t) :
    granted (l ++ [(t, allowed)]) s e = granted l s e := by
  simp [granted, List.countP_append, hlt]

end Counting

/-! ## The spare bucket -/

/-- A limiter with the level of a bucket that was full at its last update and that is filled
continuously. -/
structure Spared where
  limiter : RateLimiter
  spare : ℚ
  seen : Instant

namespace Spared

def start (limit : Int) (window : Nat) (now : Instant) : Spared :=
  { limiter := .new limit (some window) now, spare := limit, seen := now }

/-- The level of the spare bucket at a later time. -/
def refilled (self : Spared) (timestamp : Instant) : ℚ :=
  min self.limiter.rateLimit (self.spare + self.limiter.refill (timestamp - self.seen))

/-- A request that leads to an update does not add more tokens than the spare bucket holds. -/
def Fair (self : Spared) (timestamp : Instant) : Prop :=
  1 ≤ self.limiter.inner.tokens ∨ self.limiter.added timestamp ≤ self.refilled timestamp

instance (self : Spared) (timestamp : Instant) : Decidable (self.Fair timestamp) :=
  inferInstanceAs (Decidable (_ ∨ _))

/-- The spare bucket serves the request too; an update fills it first. -/
def request (self : Spared) (timestamp : Instant) : Spared :=
  let (allowed, limiter) := self.limiter.isAllowedAt timestamp
  let spare :=
    if 1 ≤ self.limiter.inner.tokens then self.refilled timestamp else self.limiter.rateLimit
  { limiter := limiter
    spare := if allowed then spare - 1 else spare
    seen := timestamp }

def after (self : Spared) (timestamps : List Instant) : Spared := timestamps.foldl request self

theorem limiter_after (self : Spared) (timestamps : List Instant) :
    (self.after timestamps).limiter = self.limiter.after timestamps := by
  induction timestamps generalizing self with
  | nil => rfl
  | cons timestamp timestamps ih => exact ih (self.request timestamp)

end Spared

/-! ## The invariant -/

/-- What the requests so far leave of the bound: at the last update the tokens in the bucket are
counted in, and since then the spare bucket measures it. -/
structure Tracks (l : List (Instant × Bool)) (state : Spared) : Prop where
  valid : state.limiter.Valid
  lastUpdate_le : state.limiter.inner.lastUpdate ≤ state.seen
  seen_ge : ∀ x ∈ l, x.1 ≤ state.seen
  spare_le : state.spare ≤ state.limiter.rateLimit
  early : ∀ s ≤ state.limiter.inner.lastUpdate,
    (grantedSince l s + state.limiter.inner.tokens : ℚ) ≤
      state.limiter.rateLimit + state.limiter.refill (state.limiter.inner.lastUpdate - s)
  late : ∀ s > state.limiter.inner.lastUpdate,
    (grantedSince l s + state.limiter.inner.tokens : ℚ) ≤ state.limiter.rateLimit
  spare_late : ∀ s > state.limiter.inner.lastUpdate, s ≤ state.seen →
    grantedSince l s + state.spare ≤
      state.limiter.rateLimit + state.limiter.refill (state.seen - s)
  attained : state.spare = state.limiter.rateLimit ∨
    ∃ s ∈ l.map Prod.fst,
      state.limiter.rateLimit + state.limiter.refill (state.seen - s) ≤
        grantedSince l s + state.spare

theorem tracks_start {limit : Int} {window : Nat} (hlimit : 0 < limit) (hwindow : 0 < window)
    (now : Instant) : Tracks [] (.start limit window now) := by
  have hvalid := valid_new hlimit hwindow now
  refine
    { valid := hvalid
      lastUpdate_le := le_refl now
      seen_ge := by simp
      spare_le := le_refl _
      early := fun s _ => ?_
      late := fun s _ => ?_
      spare_late := fun s hlt hle => ?_
      attained := .inl rfl }
  · have hrefill := refill_nonneg hvalid (now - s)
    simpa [grantedSince, Spared.start, new] using hrefill
  · simp [grantedSince, Spared.start, new]
  · exact absurd hle (not_le.2 hlt)

section Step

variable {l : List (Instant × Bool)} {state : Spared} {timestamp : Instant}

/-- What has been granted from a later time on. -/
theorem Tracks.grantedSince_snoc_of_gt (h : Tracks l state) (hle : state.seen ≤ timestamp)
    {s : Instant} (hlt : timestamp < s) (allowed : Bool) :
    grantedSince (l ++ [(timestamp, allowed)]) s = 0 := by
  rw [grantedSince_snoc, if_neg fun hand => absurd hand.2 (not_le.2 hlt),
    grantedSince_eq_zero h.seen_ge (lt_of_le_of_lt hle hlt)]

theorem Tracks.seen_ge_snoc (h : Tracks l state) (hle : state.seen ≤ timestamp) (allowed : Bool) :
    ∀ x ∈ l ++ [(timestamp, allowed)], x.1 ≤ timestamp := by
  intro x hx
  rcases List.mem_append.1 hx with hx | hx
  · exact (h.seen_ge x hx).trans hle
  · rw [List.mem_singleton.1 hx]

theorem Tracks.time_le (h : Tracks l state) {s : Instant} (hs : s ∈ l.map Prod.fst) :
    s ≤ state.seen := by
  obtain ⟨x, hx, rfl⟩ := List.mem_map.1 hs
  exact h.seen_ge x hx

/-- The spare bucket up to a later time. -/
theorem refill_seen (state : Spared) {s : Instant} (hs : s ≤ state.seen)
    (hle : state.seen ≤ timestamp) :
    state.limiter.refill (timestamp - s) =
      state.limiter.refill (state.seen - s) + state.limiter.refill (timestamp - state.seen) :=
  state.limiter.refill_sub_add hs hle

/-- The spare bucket measures the bound after the last update. -/
theorem Tracks.level_le (h : Tracks l state) (hle : state.seen ≤ timestamp) {s : Instant}
    (hlate : state.limiter.inner.lastUpdate < s) :
    grantedSince l s + state.refilled timestamp ≤
      state.limiter.rateLimit + state.limiter.refill (timestamp - s) := by
  by_cases hold : s ≤ state.seen
  · have hspare := h.spare_late s hlate hold
    have hlevel : state.refilled timestamp ≤
        state.spare + state.limiter.refill (timestamp - state.seen) := min_le_right _ _
    rw [refill_seen state hold hle]
    linarith
  · -- nothing has been granted that late
    have hnone : grantedSince l s = 0 := grantedSince_eq_zero h.seen_ge (not_le.1 hold)
    have hlevel : state.refilled timestamp ≤ state.limiter.rateLimit := min_le_left _ _
    have hrefill := refill_nonneg h.valid (timestamp - s)
    rw [hnone]
    push_cast
    linarith

/-- The level of the spare bucket is the bound for some time: for the present one if the bucket is
full, else for the one it had before. -/
theorem Tracks.level_attained (h : Tracks l state) (hle : state.seen ≤ timestamp) :
    ∃ s ≤ timestamp,
      (s = timestamp ∧ state.refilled timestamp = state.limiter.rateLimit ∨ s ∈ l.map Prod.fst) ∧
      state.limiter.rateLimit + state.limiter.refill (timestamp - s) ≤
        grantedSince l s + state.refilled timestamp := by
  by_cases hfull : (state.limiter.rateLimit : ℚ) ≤
      state.spare + state.limiter.refill (timestamp - state.seen)
  · have hlevel : state.refilled timestamp = state.limiter.rateLimit := min_eq_left hfull
    refine ⟨timestamp, le_refl timestamp, .inl ⟨rfl, hlevel⟩, ?_⟩
    have hzero : state.limiter.refill (timestamp - timestamp) = 0 := by simp [refill]
    have hcount : (0 : ℚ) ≤ grantedSince l timestamp := Nat.cast_nonneg _
    rw [hlevel, hzero]
    linarith
  · have hlevel : state.refilled timestamp =
        state.spare + state.limiter.refill (timestamp - state.seen) :=
      min_eq_right (not_le.1 hfull).le
    rcases h.attained with hspare | ⟨s, hmem, hattained⟩
    · have hrefill := refill_nonneg h.valid (timestamp - state.seen)
      exact absurd (by linarith) hfull
    · have hs := h.time_le hmem
      refine ⟨s, hs.trans hle, .inr hmem, ?_⟩
      rw [hlevel, refill_seen state hs hle]
      linarith

/-- Until a fair update, the tokens that it adds fit. -/
theorem Tracks.added_fits (h : Tracks l state) (hle : state.seen ≤ timestamp)
    (hempty : state.limiter.inner.tokens = 0)
    (hfair : (state.limiter.added timestamp : ℚ) ≤ state.refilled timestamp) (s : Instant) :
    (grantedSince l s + state.limiter.added timestamp : ℚ) ≤
      state.limiter.rateLimit + state.limiter.refill (timestamp - s) := by
  by_cases hearly : s ≤ state.limiter.inner.lastUpdate
  · have hbefore := h.early s hearly
    have hadded := state.limiter.added_le_refill timestamp
    have hsplit := state.limiter.refill_sub_add hearly (h.lastUpdate_le.trans hle)
    rw [hempty] at hbefore
    push_cast at hbefore
    linarith
  · have hlevel := h.level_le hle (not_le.1 hearly)
    linarith

/-- A request that finds a token. -/
theorem Tracks.take (h : Tracks l state) (hle : state.seen ≤ timestamp)
    (hpos : 1 ≤ state.limiter.inner.tokens) :
    Tracks (l ++ [(timestamp, (state.limiter.isAllowedAt timestamp).1)])
      (state.request timestamp) := by
  have hrequest : state.request timestamp =
      { limiter := state.limiter.withTokens (state.limiter.inner.tokens - 1)
        spare := state.refilled timestamp - 1
        seen := timestamp } := by
    simp [Spared.request, isAllowedAt_of_pos h.valid hpos, hpos]
  have hgrant : ∀ s ≤ timestamp,
      grantedSince (l ++ [(timestamp, true)]) s = grantedSince l s + 1 := by
    intro s hs
    rw [grantedSince_snoc, if_pos ⟨rfl, hs⟩]
  rw [hrequest, isAllowedAt_of_pos h.valid hpos]
  have htokens : (1 : ℚ) ≤ state.limiter.inner.tokens := by exact_mod_cast hpos
  have hrefilled : state.refilled timestamp ≤ state.limiter.rateLimit := min_le_left _ _
  refine
    { valid := h.valid.take hpos
      lastUpdate_le := h.lastUpdate_le.trans hle
      seen_ge := h.seen_ge_snoc hle true
      spare_le := by
        simp only [withTokens]
        linarith
      early := fun s hs => ?_
      late := fun s hs => ?_
      spare_late := fun s hs hseen => ?_
      attained := .inr ?_ }
  · have hearly := h.early s hs
    have hs' : s ≤ timestamp := (hs.trans h.lastUpdate_le).trans hle
    simp only [withTokens, refill, hgrant s hs'] at hearly ⊢
    push_cast
    linarith
  · simp only [withTokens] at hs ⊢
    push_cast
    by_cases hs' : s ≤ timestamp
    · have hlate := h.late s hs
      rw [hgrant s hs']
      push_cast
      linarith
    · have hmax : (state.limiter.inner.tokens : ℚ) ≤ state.limiter.rateLimit := by
        exact_mod_cast h.valid.tokens_le
      rw [h.grantedSince_snoc_of_gt hle (not_le.1 hs')]
      push_cast
      linarith
  · have hs' : s ≤ timestamp := hseen
    have hlevel := h.level_le hle hs
    show (grantedSince (l ++ [(timestamp, true)]) s : ℚ) + (state.refilled timestamp - 1) ≤
      state.limiter.rateLimit + state.limiter.refill (timestamp - s)
    rw [hgrant s hs']
    push_cast
    linarith
  · obtain ⟨s, hs', hmem, hattained⟩ := h.level_attained hle
    refine ⟨s, ?_, ?_⟩
    · rcases hmem with ⟨rfl, -⟩ | hmem
      · simp
      · simp [hmem]
    · show (state.limiter.rateLimit : ℚ) + state.limiter.refill (timestamp - s) ≤
        (grantedSince (l ++ [(timestamp, true)]) s : ℚ) + (state.refilled timestamp - 1)
      rw [hgrant s hs']
      push_cast
      linarith

/-- A request that leads to a fair update. -/
theorem Tracks.update (h : Tracks l state) (hle : state.seen ≤ timestamp)
    (hempty : state.limiter.inner.tokens = 0)
    (hfair : (state.limiter.added timestamp : ℚ) ≤ state.refilled timestamp) :
    Tracks (l ++ [(timestamp, (state.limiter.isAllowedAt timestamp).1)])
      (state.request timestamp) := by
  obtain ⟨allowed, tokens, hanswer, hnonneg, hsum⟩ := exists_updated h.valid hempty timestamp
  have hrequest : state.request timestamp =
      { limiter := state.limiter.updated tokens timestamp
        spare :=
          if allowed = true then (state.limiter.rateLimit : ℚ) - 1 else state.limiter.rateLimit
        seen := timestamp } := by
    simp [Spared.request, hanswer, hempty]
  have hmax := added_le_limit state.limiter timestamp
  have hmax' : (state.limiter.added timestamp : ℚ) ≤ state.limiter.rateLimit := by
    exact_mod_cast hmax
  have hsum' : (tokens : ℚ) + (if allowed = true then 1 else 0) =
      state.limiter.added timestamp := by
    exact_mod_cast hsum
  rw [hrequest, hanswer]
  refine
    { valid := by
        refine h.valid.update timestamp hnonneg ?_
        split_ifs at hsum <;> omega
      lastUpdate_le := le_refl timestamp
      seen_ge := h.seen_ge_snoc hle allowed
      spare_le := by
        simp only [updated]
        split_ifs <;> linarith
      early := fun s hs => ?_
      late := fun s hs => ?_
      spare_late := fun s hs hseen => absurd hs (not_lt.2 hseen)
      attained := ?_ }
  · have hs' : s ≤ timestamp := hs
    show (grantedSince (l ++ [(timestamp, allowed)]) s + tokens : ℚ) ≤
      state.limiter.rateLimit + state.limiter.refill (timestamp - s)
    have hfit := h.added_fits hle hempty hfair s
    rw [grantedSince_snoc]
    simp only [hs', and_true]
    push_cast
    linarith
  · have hs' : timestamp < s := hs
    show (grantedSince (l ++ [(timestamp, allowed)]) s + tokens : ℚ) ≤ state.limiter.rateLimit
    rw [h.grantedSince_snoc_of_gt hle hs']
    push_cast
    split_ifs at hsum' <;> linarith
  · cases allowed with
    | false => exact .inl rfl
    | true =>
        refine .inr ⟨timestamp, by simp, ?_⟩
        show (state.limiter.rateLimit : ℚ) + state.limiter.refill (timestamp - timestamp) ≤
          (grantedSince (l ++ [(timestamp, true)]) timestamp : ℚ) + (state.limiter.rateLimit - 1)
        have hzero : state.limiter.refill (timestamp - timestamp) = 0 := by simp [refill]
        have hcount : (0 : ℚ) ≤ grantedSince l timestamp := Nat.cast_nonneg _
        rw [grantedSince_snoc, if_pos ⟨rfl, le_refl _⟩, hzero]
        push_cast
        linarith

end Step

/-! ## Runs -/

/-- No update of a run adds more tokens than the spare bucket holds. -/
def FairRun (limit : Int) (window : Nat) (now : Instant) : List Instant → Prop :=
  AtEach fun first timestamp => ((Spared.start limit window now).after first).Fair timestamp

instance (limit : Int) (window : Nat) (now : Instant) (timestamps : List Instant) :
    Decidable (FairRun limit window now timestamps) :=
  inferInstanceAs (Decidable (AtEach _ _))

/-- Between any two timestamps of a run no more requests are allowed than a token bucket allows. -/
def Bounded (limit : Int) (window : Nat) (now : Instant) (timestamps : List Instant) : Prop :=
  ∀ s ∈ timestamps, ∀ e ∈ timestamps, s ≤ e →
    (granted ((new limit (some window) now).history timestamps) s e : ℚ) ≤
      limit + limit * ((e : ℚ) - s) / window

section Runs

variable {limit : Int} {window : Nat} {now timestamp : Instant} {timestamps : List Instant}

theorem Spared.after_snoc (state : Spared) (timestamps : List Instant) (timestamp : Instant) :
    state.after (timestamps ++ [timestamp]) = (state.after timestamps).request timestamp := by
  simp [Spared.after]

theorem Spared.rateLimit_after (timestamps : List Instant) :
    ((Spared.start limit window now).after timestamps).limiter.rateLimit = limit := by
  rw [Spared.limiter_after, RateLimiter.rateLimit_after]
  rfl

theorem Spared.refill_after (timestamps : List Instant) (elapsed : Nat) :
    ((Spared.start limit window now).after timestamps).limiter.refill elapsed =
      limit * (elapsed : ℚ) / window := by
  rw [refill, Spared.rateLimit_after, Spared.limiter_after, timeWindowNs_after]
  exact div_mul_eq_mul_div _ _ _ |>.trans (congrArg (· / (window : ℚ)) (mul_comm _ _))

/-- The spare bucket has seen the last request. -/
theorem Spared.seen_after (timestamps : List Instant) :
    ((Spared.start limit window now).after timestamps).seen = timestamps.getLast?.getD now := by
  induction timestamps using List.reverseRecOn with
  | nil => rfl
  | append_singleton timestamps timestamp _ =>
      rw [Spared.after_snoc]
      simp [Spared.request]

theorem sorted_of_snoc (hsorted : (now :: (timestamps ++ [timestamp])).Pairwise (· ≤ ·)) :
    (now :: timestamps).Pairwise (· ≤ ·) := by
  rw [← List.cons_append, List.pairwise_append] at hsorted
  exact hsorted.1

/-- The next request comes after the last one. -/
theorem last_le (hsorted : (now :: (timestamps ++ [timestamp])).Pairwise (· ≤ ·)) :
    timestamps.getLast?.getD now ≤ timestamp := by
  rw [← List.cons_append, List.pairwise_append] at hsorted
  have hmem : timestamps.getLast?.getD now ∈ now :: timestamps := by
    cases hget : timestamps.getLast? with
    | none => exact List.mem_cons_self ..
    | some t => exact List.mem_cons_of_mem _ (List.mem_of_getLast? hget)
  exact hsorted.2.2 _ hmem timestamp (List.mem_singleton_self _)

theorem Spared.seen_le (hsorted : (now :: (timestamps ++ [timestamp])).Pairwise (· ≤ ·)) :
    ((Spared.start limit window now).after timestamps).seen ≤ timestamp := by
  rw [Spared.seen_after]
  exact last_le hsorted

/-- Along a fair run the invariant holds. -/
theorem tracks_of_fairRun (hlimit : 0 < limit) (hwindow : 0 < window)
    (hsorted : (now :: timestamps).Pairwise (· ≤ ·)) (hfair : FairRun limit window now timestamps) :
    Tracks ((new limit (some window) now).history timestamps)
      ((Spared.start limit window now).after timestamps) := by
  induction timestamps using List.reverseRecOn with
  | nil => exact tracks_start hlimit hwindow now
  | append_singleton timestamps timestamp ih =>
      obtain ⟨hbefore, hlast⟩ := atEach_snoc.1 hfair
      have htracks := ih (sorted_of_snoc hsorted) hbefore
      have hle := @Spared.seen_le limit window now timestamp timestamps hsorted
      have hlimiter : (new limit (some window) now).after timestamps =
          ((Spared.start limit window now).after timestamps).limiter :=
        (Spared.limiter_after (.start limit window now) timestamps).symm
      rw [history_snoc, Spared.after_snoc, hlimiter]
      by_cases hpos : 1 ≤ ((Spared.start limit window now).after timestamps).limiter.inner.tokens
      · exact htracks.take hle hpos
      · have hnonneg := htracks.valid.tokens_nonneg
        exact htracks.update hle (by omega) (hlast.resolve_left hpos)

/-- What the invariant says of the requests from a time on. -/
theorem Tracks.grantedSince_le {l : List (Instant × Bool)} {state : Spared} (h : Tracks l state)
    {s e : Instant} (he : state.seen ≤ e) :
    (grantedSince l s : ℚ) ≤ state.limiter.rateLimit + state.limiter.refill (e - s) := by
  have htokens : (0 : ℚ) ≤ state.limiter.inner.tokens := by exact_mod_cast h.valid.tokens_nonneg
  by_cases hearly : s ≤ state.limiter.inner.lastUpdate
  · have hbound := h.early s hearly
    have hsplit := state.limiter.refill_sub_add hearly (h.lastUpdate_le.trans he)
    have hrefill := refill_nonneg h.valid (e - state.limiter.inner.lastUpdate)
    linarith
  · have hbound := h.late s (not_le.1 hearly)
    have hrefill := refill_nonneg h.valid (e - s)
    linarith

/-- Along a fair run the bound holds, between any two times. -/
theorem granted_le_of_fairRun (hlimit : 0 < limit) (hwindow : 0 < window)
    (hsorted : (now :: timestamps).Pairwise (· ≤ ·)) (hfair : FairRun limit window now timestamps)
    {s e : Nat} (hs : s ≤ e) :
    (granted ((new limit (some window) now).history timestamps) s e : ℚ) ≤
      limit + limit * ((e : ℚ) - s) / window := by
  -- the requests after `e` do not count, so the state that matters is the last one before
  induction timestamps using List.reverseRecOn with
  | nil =>
      have hnonneg : (0 : ℚ) ≤ (e : ℚ) - s := sub_nonneg.2 (by exact_mod_cast hs)
      have hlimit' : (0 : ℚ) ≤ limit := by exact_mod_cast hlimit.le
      have hbound : (0 : ℚ) ≤ limit + limit * ((e : ℚ) - s) / window := by positivity
      simpa [history, granted] using hbound
  | append_singleton timestamps timestamp ih =>
      by_cases hlater : e < timestamp
      · rw [history_snoc, granted_snoc_of_lt _ hlater]
        exact ih (sorted_of_snoc hsorted) (atEach_snoc.1 hfair).1
      · have htracks := tracks_of_fairRun hlimit hwindow hsorted hfair
        have hseen :
            ((Spared.start limit window now).after (timestamps ++ [timestamp])).seen ≤ e := by
          rw [Spared.seen_after]
          simpa using hlater
        rw [granted_eq_grantedSince fun x hx => (htracks.seen_ge x hx).trans hseen]
        have hbound := htracks.grantedSince_le (s := s) hseen
        rwa [Spared.refill_after, Spared.rateLimit_after, Nat.cast_sub hs] at hbound

/-- As many requests as there are tokens are allowed at once. -/
theorem answers_burst {self : RateLimiter} (h : self.Valid) {n : Nat}
    (hn : n ≤ self.inner.tokens) (timestamp : Instant) :
    self.answers (List.replicate n timestamp) = List.replicate n true := by
  induction n generalizing self with
  | zero => rfl
  | succ n ih =>
      push_cast at hn
      have hanswer := isAllowedAt_of_pos h (by omega) timestamp
      have hnext := h.take (by omega)
      rw [List.replicate_succ, List.replicate_succ, answers, hanswer]
      rw [ih hnext (by simp only [withTokens]; omega)]

/-- An unfair update leaves more tokens than the bound has room for. -/
theorem Tracks.exists_excess {l : List (Instant × Bool)} {state : Spared} (h : Tracks l state)
    (hle : state.seen ≤ timestamp) (hunfair : ¬ state.Fair timestamp) :
    state.limiter.inner.tokens = 0 ∧ 1 ≤ state.limiter.added timestamp ∧
      ∃ s ∈ l.map Prod.fst, state.limiter.rateLimit + state.limiter.refill (timestamp - s) <
        grantedSince l s + (state.limiter.added timestamp : ℚ) := by
  obtain ⟨hempty, hexcess⟩ := not_or.1 hunfair
  have hnonneg := h.valid.tokens_nonneg
  have hmax : (state.limiter.added timestamp : ℚ) ≤ state.limiter.rateLimit := by
    exact_mod_cast added_le_limit _ _
  have hmore : state.refilled timestamp < state.limiter.added timestamp := not_le.1 hexcess
  obtain ⟨s, -, hfull | hmem, hattained⟩ := h.level_attained hle
  · -- a full spare bucket holds all that is added
    rw [hfull.2] at hmore
    exact absurd hmax (not_le.2 hmore)
  · have hbound := @grantedSince_le _ _ h s _ hle
    have hpos : (0 : ℚ) < state.limiter.added timestamp := by linarith
    have hone : 0 < state.limiter.added timestamp := by exact_mod_cast hpos
    exact ⟨by omega, by omega, s, hmem, by linarith⟩

/-- Requests at one time find the bucket empty, fill it and empty it again. -/
theorem answers_refilled {self : RateLimiter} (h : self.Valid) (hempty : self.inner.tokens = 0)
    {n : Nat} (hn : (n : Int) + 1 = self.added timestamp) :
    self.answers (List.replicate (n + 1) timestamp) = List.replicate (n + 1) true := by
  have hone : 1 ≤ self.added timestamp := by omega
  have hanswer := isAllowedAt_of_empty h hempty timestamp
  have hmax := added_le_limit self timestamp
  rw [if_pos hone, decide_eq_true hone] at hanswer
  have hnext : (self.updated (self.added timestamp - 1) timestamp).Valid :=
    h.update timestamp (by omega) (by omega)
  have hburst := answers_burst hnext (n := n) (by simp only [updated]; omega) timestamp
  rw [List.replicate_succ, List.replicate_succ, answers, hanswer, hburst]

/-- After a fair run, requests at the time of an unfair update break the bound. -/
theorem exists_burst (hlimit : 0 < limit) (hwindow : 0 < window)
    (hsorted : (now :: (timestamps ++ [timestamp])).Pairwise (· ≤ ·))
    (hfair : FairRun limit window now timestamps)
    (hunfair : ¬ ((Spared.start limit window now).after timestamps).Fair timestamp) :
    ∃ n, ¬ Bounded limit window now (timestamps ++ List.replicate n timestamp) := by
  have htracks := tracks_of_fairRun hlimit hwindow (sorted_of_snoc hsorted) hfair
  have hseen := @Spared.seen_le limit window now timestamp timestamps hsorted
  obtain ⟨hempty, hone, s, hmem, hexcess⟩ := htracks.exists_excess hseen hunfair
  have hvalid := htracks.valid
  have hs : s ≤ timestamp := (htracks.time_le hmem).trans hseen
  rw [Spared.refill_after, Spared.rateLimit_after, Nat.cast_sub hs] at hexcess
  rw [Spared.limiter_after] at hempty hone hexcess hvalid
  -- all that the update adds is taken at once
  obtain ⟨n, hn⟩ : ∃ n : Nat, (n : Int) + 1 =
      (((Spared.start limit window now).limiter.after timestamps).added timestamp) :=
    ⟨(((Spared.start limit window now).limiter.after timestamps).added timestamp - 1).toNat,
      by omega⟩
  refine ⟨n + 1, ?_⟩
  intro hbounded
  have htime : s ∈ timestamps := by
    obtain ⟨x, hx, rfl⟩ := List.mem_map.1 hmem
    exact (List.of_mem_zip hx).1
  have hbound := hbounded s (List.mem_append_left _ htime) timestamp
    (List.mem_append_right _ (by simp)) hs
  have hhistory : (new limit (some window) now).history
        (timestamps ++ List.replicate (n + 1) timestamp) =
      (new limit (some window) now).history timestamps ++
        List.replicate (n + 1) (timestamp, true) := by
    unfold history
    rw [answers_append, List.zip_append (length_answers _ _).symm]
    exact congrArg _ ((congrArg _ (answers_refilled hvalid hempty hn)).trans List.zip_replicate')
  have hcount : granted ((new limit (some window) now).history
      (timestamps ++ List.replicate (n + 1) timestamp)) s timestamp =
      grantedSince ((new limit (some window) now).history timestamps) s + (n + 1) := by
    rw [hhistory, granted, List.countP_append]
    refine congrArg₂ (· + ·) (granted_eq_grantedSince fun x hx => (htracks.seen_ge x hx).trans hseen) ?_
    simp [hs, List.countP_replicate]
  rw [hcount] at hbound
  have hn' : ((n : ℚ) + 1) =
      (((Spared.start limit window now).limiter.after timestamps).added timestamp : ℚ) := by
    exact_mod_cast hn
  push_cast at hbound
  linarith

/-- Along a fair run the bound holds.  It may hold in a run that is not fair as well, but a burst in place
of the rest breaks it. -/
theorem bounded_of_fairRun (hlimit : 0 < limit) (hwindow : 0 < window)
    (hsorted : (now :: timestamps).Pairwise (· ≤ ·)) :
    (FairRun limit window now timestamps → Bounded limit window now timestamps) ∧
      (¬ FairRun limit window now timestamps →
        ∃ first t n, first ++ [t] <+: timestamps ∧
          ¬ Bounded limit window now (first ++ List.replicate n t)) := by
  constructor
  · intro hfair s _ e _ hse
    exact granted_le_of_fairRun hlimit hwindow hsorted hfair hse
  · intro hunfair
    obtain ⟨first, t, hfirst, hfair, hlast⟩ := exists_first_not_atEach hunfair
    have hsub : (now :: (first ++ [t])).Pairwise (· ≤ ·) :=
      hsorted.sublist (hfirst.sublist.cons_cons now)
    obtain ⟨n, hbroken⟩ := exists_burst hlimit hwindow hsub hfair hlast
    exact ⟨first, t, n, hfirst, hbroken⟩

end Runs

/-- One token every ten nanoseconds, and a request every ten nanoseconds. -/
theorem bounded_steady : FairRun 1 10 0 [10, 20] ∧ Bounded 1 10 0 [10, 20] := by
  have hfair : FairRun 1 10 0 [10, 20] := by decide +kernel
  exact ⟨hfair, (bounded_of_fairRun (by decide) (by decide) (by decide)).1 hfair⟩

/-- Of two requests after a pause the first takes the token in the bucket, and the second one for the
time of the pause, for which the bucket was full. -/
theorem not_bounded_after_pause :
    ([0, 10, 10] : List Instant).Pairwise (· ≤ ·) ∧ ¬ Bounded 1 10 0 [10, 10] := by
  refine ⟨by decide, ?_⟩
  intro h
  have hbound := h 10 (by simp) 10 (by simp) (le_refl _)
  have hcount : granted ((new 1 (some 10) 0).history [10, 10]) 10 10 = 2 := by decide +kernel
  rw [hcount] at hbound
  norm_num at hbound

end RateLimiter

end TraceSampling
end DdTrace
