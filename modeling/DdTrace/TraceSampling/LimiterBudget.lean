import DdTrace.TraceSampling.TokenBucket
import Mathlib.Data.List.InsertIdx

/-!
# LimiterBudget — what a rejected request costs

A request that is rejected takes no token, but it is an update: the time since the last one counts as
used, and with it the fraction of a token that was not enough.  Requests that come close together can
so keep the bucket empty for good.

The proofs follow the last update at the time of the latest allowed request.  `sparesBudget_of_lossless`
says that rejected requests cost nothing as long as every update adds the tokens for the time since
that one, and that as soon as an update adds fewer, some requests that may come at its time tell them
apart from no requests at all.
-/

namespace DdTrace
namespace TraceSampling

open Lib

namespace RateLimiter

/-! ## The latest allowed request -/

/-- A limiter with the time of its last update as of the latest allowed request. -/
structure Dated where
  limiter : RateLimiter
  since : Instant

namespace Dated

def start (limit : Int) (window : Nat) (now : Instant) : Dated :=
  { limiter := .new limit (some window) now, since := now }

/-- The tokens for all the time that no allowed request has used. -/
def due (self : Dated) (timestamp : Instant) : Int :=
  min self.limiter.rateLimit ⌊self.limiter.refill (timestamp - self.since)⌋

/-- A request that leads to an update adds all the tokens that are due. -/
def Lossless (self : Dated) (timestamp : Instant) : Prop :=
  1 ≤ self.limiter.inner.tokens ∨ self.limiter.added timestamp = self.due timestamp

instance (self : Dated) (timestamp : Instant) : Decidable (self.Lossless timestamp) :=
  inferInstanceAs (Decidable (_ ∨ _))

def request (self : Dated) (timestamp : Instant) : Dated :=
  let (allowed, limiter) := self.limiter.isAllowedAt timestamp
  { limiter := limiter, since := if allowed then limiter.inner.lastUpdate else self.since }

def after (self : Dated) (timestamps : List Instant) : Dated := timestamps.foldl request self

theorem limiter_after (self : Dated) (timestamps : List Instant) :
    (self.after timestamps).limiter = self.limiter.after timestamps := by
  induction timestamps generalizing self with
  | nil => rfl
  | cons timestamp timestamps ih => exact ih (self.request timestamp)

theorem after_snoc (self : Dated) (timestamps : List Instant) (timestamp : Instant) :
    self.after (timestamps ++ [timestamp]) = (self.after timestamps).request timestamp := by
  simp [after]

end Dated

/-- Every update of a run adds all the tokens that are due. -/
def LosslessRun (limit : Int) (window : Nat) (now : Instant) : List Instant → Prop :=
  AtEach fun first timestamp => ((Dated.start limit window now).after first).Lossless timestamp

instance (limit : Int) (window : Nat) (now : Instant) (timestamps : List Instant) :
    Decidable (LosslessRun limit window now timestamps) :=
  inferInstanceAs (Decidable (AtEach _ _))

/-! ## Rejected requests -/

/-- Without any of its rejected requests, a run gives all the others the same answer. -/
def DeletesRejected (self : RateLimiter) (timestamps : List Instant) : Prop :=
  ∀ i, (self.answers timestamps)[i]? = some false →
    self.answers (timestamps.eraseIdx i) = (self.answers timestamps).eraseIdx i

/-- A request that comes at least the time of one token after every allowed one is allowed. -/
def AllowsRested (self : RateLimiter) : List Instant → Prop :=
  AtEach fun first timestamp =>
    (∀ x ∈ self.history first, x.2 = true →
      (self.inner.timeWindowNs : ℚ) / self.rateLimit ≤ (timestamp : ℚ) - x.1) →
    ((self.after first).isAllowedAt timestamp).1 = true

/-- Rejected requests cost nothing. -/
structure SparesBudget (self : RateLimiter) (timestamps : List Instant) : Prop where
  deletes : self.DeletesRejected timestamps
  allows : self.AllowsRested timestamps

/-- The allowed requests of a run. -/
def allowedOnly (self : RateLimiter) (timestamps : List Instant) : List Instant :=
  ((self.history timestamps).filter Prod.snd).map Prod.fst

section Step

variable {self : RateLimiter} {timestamp next : Nat}

/-- A rejected request found the bucket empty, and no token to add. -/
theorem isAllowedAt_of_rejected (h : self.Valid)
    (hreject : (self.isAllowedAt timestamp).1 = false) :
    self.inner.tokens = 0 ∧ self.isAllowedAt timestamp = (false, self.updated 0 timestamp) := by
  have hnonneg := h.tokens_nonneg
  have hempty : self.inner.tokens = 0 := by
    by_contra hne
    rw [isAllowedAt_of_pos h (by omega)] at hreject
    exact Bool.noConfusion hreject
  have hanswer := isAllowedAt_of_empty h hempty timestamp
  have hnone : ¬ 1 ≤ self.added timestamp := by
    rw [hanswer] at hreject
    exact of_decide_eq_false hreject
  refine ⟨hempty, ?_⟩
  rw [hanswer, if_neg hnone, decide_eq_false hnone]

/-- More time means more tokens. -/
theorem floor_refill_mono (h : self.Valid) {d e : Nat} (hle : d ≤ e) :
    ⌊self.refill d⌋ ≤ ⌊self.refill e⌋ := by
  obtain ⟨more, rfl⟩ := Nat.exists_eq_add_of_le hle
  have hmore := refill_nonneg h more
  refine Int.floor_le_floor ?_
  rw [refill_add]
  linarith

theorem added_eq (self : RateLimiter) (timestamp : Instant) :
    self.added timestamp =
      min self.rateLimit ⌊self.refill (timestamp - self.inner.lastUpdate)⌋ :=
  rfl

end Step

/-! ## The invariant -/

/-- What holds of a limiter and the last update at its latest allowed request, after the requests of
a history. -/
structure Dates (l : List (Instant × Bool)) (seen : Nat) (state : Dated) : Prop where
  valid : state.limiter.Valid
  since_le : state.since ≤ state.limiter.inner.lastUpdate
  lastUpdate_le : state.limiter.inner.lastUpdate ≤ seen
  fresh : 1 ≤ state.limiter.inner.tokens → state.since = state.limiter.inner.lastUpdate
  recent : 1 ≤ state.limiter.inner.tokens ∨ ∃ x ∈ l, x.2 = true ∧ state.since ≤ x.1

theorem dates_start {limit : Int} {window : Nat} (hlimit : 0 < limit) (hwindow : 0 < window)
    (now : Instant) : Dates [] now (.start limit window now) :=
  { valid := valid_new hlimit hwindow now
    since_le := le_refl now
    lastUpdate_le := le_refl now
    fresh := fun _ => rfl
    recent := .inl hlimit }

namespace Dates

variable {l : List (Instant × Bool)} {seen timestamp next : Nat} {state : Dated}

/-- A request that finds a token. -/
theorem take (h : Dates l seen state) (hle : seen ≤ timestamp)
    (hpos : 1 ≤ state.limiter.inner.tokens) :
    Dates (l ++ [(timestamp, (state.limiter.isAllowedAt timestamp).1)]) timestamp
      (state.request timestamp) := by
  have hrequest : state.request timestamp =
      { limiter := state.limiter.withTokens (state.limiter.inner.tokens - 1)
        since := state.limiter.inner.lastUpdate } := by
    simp [Dated.request, isAllowedAt_of_pos h.valid hpos, withTokens]
  rw [hrequest, isAllowedAt_of_pos h.valid hpos]
  exact
    { valid := h.valid.take hpos
      since_le := le_refl _
      lastUpdate_le := h.lastUpdate_le.trans hle
      fresh := fun _ => rfl
      recent := .inr ⟨(timestamp, true), by simp, rfl, h.lastUpdate_le.trans hle⟩ }

/-- A request that leads to an update. -/
theorem update (h : Dates l seen state) (hle : seen ≤ timestamp)
    (hempty : state.limiter.inner.tokens = 0) :
    Dates (l ++ [(timestamp, (state.limiter.isAllowedAt timestamp).1)]) timestamp
      (state.request timestamp) := by
  obtain ⟨allowed, tokens, hanswer, htokens, hsum⟩ :=
    exists_updated h.valid hempty timestamp
  have hmax := added_le_limit state.limiter timestamp
  have hvalid : (state.limiter.updated tokens timestamp).Valid := by
    refine h.valid.update timestamp htokens ?_
    split_ifs at hsum <;> omega
  have hrequest : state.request timestamp =
      { limiter := state.limiter.updated tokens timestamp
        since := if allowed then timestamp else state.since } := by
    simp [Dated.request, hanswer, updated]
  rw [hrequest, hanswer]
  cases allowed with
  | true =>
      exact
        { valid := hvalid
          since_le := le_refl _
          lastUpdate_le := le_refl _
          fresh := fun _ => rfl
          recent := .inr ⟨(timestamp, true), by simp, rfl, le_refl _⟩ }
  | false =>
      -- nothing was added, so no request but an allowed one has used the time
      have hzero : tokens = 0 := by
        obtain ⟨-, hrejected⟩ := isAllowedAt_of_rejected h.valid (congrArg Prod.fst hanswer)
        have hsame := congrArg (fun x => x.2.inner.tokens) (hanswer.symm.trans hrejected)
        exact hsame
      exact
        { valid := hvalid
          since_le := h.since_le.trans (h.lastUpdate_le.trans hle)
          lastUpdate_le := le_refl _
          fresh := fun hone => absurd hone (by simp [updated, hzero])
          recent := by
            obtain ⟨x, hx, hrecent⟩ := h.recent.resolve_left (by omega)
            exact .inr ⟨x, List.mem_append_left _ hx, hrecent⟩ }

theorem request (h : Dates l seen state) (hle : seen ≤ timestamp) :
    Dates (l ++ [(timestamp, (state.limiter.isAllowedAt timestamp).1)]) timestamp
      (state.request timestamp) := by
  have hnonneg := h.valid.tokens_nonneg
  by_cases hpos : 1 ≤ state.limiter.inner.tokens
  · exact h.take hle hpos
  · exact h.update hle (by omega)

/-- The time since the latest allowed request is at least that since the last update. -/
theorem added_le_due (h : Dates l seen state) (timestamp : Nat) :
    state.limiter.added timestamp ≤ state.due timestamp := by
  rw [added_eq, Dated.due]
  exact min_le_min_left _ (floor_refill_mono h.valid (Nat.sub_le_sub_left h.since_le timestamp))

/-- If the request after a rejected one is answered without loss, the rejected one makes no
difference to it. -/
theorem isAllowedAt_of_rejected (h : Dates l seen state) (hle : seen ≤ timestamp)
    (hreject : (state.limiter.isAllowedAt timestamp).1 = false)
    (hlossless : (state.request timestamp).Lossless next) :
    (state.limiter.isAllowedAt timestamp).2.isAllowedAt next =
      state.limiter.isAllowedAt next := by
  obtain ⟨hempty, hanswer⟩ := RateLimiter.isAllowedAt_of_rejected h.valid hreject
  have hupdated : (state.limiter.updated 0 timestamp).Valid :=
    h.valid.update timestamp (le_refl 0) h.valid.limit_pos.le
  have hdue : (state.limiter.updated 0 timestamp).added next = state.due next := by
    rw [Dated.request, hanswer] at hlossless
    exact hlossless.resolve_left (by simp [updated])
  have hmore : (state.limiter.updated 0 timestamp).added next ≤ state.limiter.added next := by
    rw [added_eq, added_eq]
    exact min_le_min_left _
      (floor_refill_mono h.valid (Nat.sub_le_sub_left (h.lastUpdate_le.trans hle) next))
  have hsame : (state.limiter.updated 0 timestamp).added next = state.limiter.added next :=
    le_antisymm hmore (hdue ▸ h.added_le_due next)
  rw [hanswer, isAllowedAt_of_empty hupdated rfl, isAllowedAt_of_empty h.valid hempty, hsame]
  rfl

/-- A request that is answered without loss is allowed if the time of a token has passed since every
allowed one. -/
theorem allowed_of_rested (h : Dates l seen state) (hle : seen ≤ timestamp)
    (hlossless : state.Lossless timestamp)
    (hrested : ∀ x ∈ l, x.2 = true →
      (state.limiter.inner.timeWindowNs : ℚ) / state.limiter.rateLimit ≤ (timestamp : ℚ) - x.1) :
    (state.limiter.isAllowedAt timestamp).1 = true := by
  have hnonneg := h.valid.tokens_nonneg
  by_cases hpos : 1 ≤ state.limiter.inner.tokens
  · rw [isAllowedAt_of_pos h.valid hpos]
  · have hdue := hlossless.resolve_left hpos
    obtain ⟨x, hx, hallowed, hsince⟩ := h.recent.resolve_left hpos
    have hlimit : (0 : ℚ) < state.limiter.rateLimit := by exact_mod_cast h.valid.limit_pos
    have hwindow : (0 : ℚ) < state.limiter.inner.timeWindowNs := by
      exact_mod_cast h.valid.window_pos
    have hsince' : (state.since : ℚ) ≤ x.1 := by exact_mod_cast hsince
    have hlong : (state.limiter.inner.timeWindowNs : ℚ) / state.limiter.rateLimit ≤
        (timestamp : ℚ) - state.since := (hrested x hx hallowed).trans (by linarith)
    have hseen : state.since ≤ timestamp := (h.since_le.trans h.lastUpdate_le).trans hle
    have hrefill : (1 : ℚ) ≤ state.limiter.refill (timestamp - state.since) := by
      rw [refill, Nat.cast_sub hseen, div_mul_eq_mul_div, le_div_iff₀ hwindow, one_mul]
      exact (div_le_iff₀ hlimit).1 hlong
    have hone : 1 ≤ state.limiter.added timestamp := by
      rw [hdue]
      exact le_min h.valid.limit_pos (Int.le_floor.2 (by exact_mod_cast hrefill))
    rw [isAllowedAt_of_empty h.valid (by omega)]
    exact decide_eq_true hone

end Dates

/-! ## The run without its rejected requests -/

/-- The limiter as if no request had been rejected. -/
def Dated.kept (self : Dated) : RateLimiter :=
  { self.limiter with inner := { self.limiter.inner with lastUpdate := self.since } }

section Kept

variable {l : List (Instant × Bool)} {seen timestamp : Nat} {state : Dated}

theorem Dates.valid_kept (h : Dates l seen state) : state.kept.Valid :=
  { limit_pos := h.valid.limit_pos
    window_pos := h.valid.window_pos
    max_eq := h.valid.max_eq
    tokens_nonneg := h.valid.tokens_nonneg
    tokens_le := h.valid.tokens_le }

/-- A request that is allowed without loss is allowed without the rejected ones too. -/
theorem Dates.kept_of_allowed (h : Dates l seen state) (hlossless : state.Lossless timestamp)
    (hallowed : (state.limiter.isAllowedAt timestamp).1 = true) :
    (state.kept.isAllowedAt timestamp).2 = (state.request timestamp).kept := by
  have hnonneg := h.valid.tokens_nonneg
  by_cases hpos : 1 ≤ state.limiter.inner.tokens
  · have hkept : 1 ≤ state.kept.inner.tokens := hpos
    rw [isAllowedAt_of_pos h.valid_kept hkept, Dated.request,
      isAllowedAt_of_pos h.valid hpos]
    simp [Dated.kept, withTokens, h.fresh hpos]
  · have hempty : state.limiter.inner.tokens = 0 := by omega
    have hkept : state.kept.inner.tokens = 0 := hempty
    have hadded : state.kept.added timestamp = state.limiter.added timestamp :=
      (hlossless.resolve_left hpos).symm
    rw [isAllowedAt_of_empty h.valid hempty] at hallowed
    rw [isAllowedAt_of_empty h.valid_kept hkept, Dated.request,
      isAllowedAt_of_empty h.valid hempty, hadded]
    simp [Dated.kept, updated, of_decide_eq_true hallowed]

theorem Dates.kept_of_rejected (h : Dates l seen state)
    (hreject : (state.limiter.isAllowedAt timestamp).1 = false) :
    (state.request timestamp).kept = state.kept := by
  obtain ⟨hempty, hanswer⟩ := RateLimiter.isAllowedAt_of_rejected h.valid hreject
  rw [Dated.request, hanswer]
  simp [Dated.kept, updated, hempty]

end Kept

theorem allowedOnly_snoc (self : RateLimiter) (timestamps : List Instant) (timestamp : Instant) :
    self.allowedOnly (timestamps ++ [timestamp]) =
      self.allowedOnly timestamps ++
        if ((self.after timestamps).isAllowedAt timestamp).1 = true then [timestamp] else [] := by
  unfold allowedOnly
  rw [history_snoc, List.filter_append, List.map_append]
  cases ((self.after timestamps).isAllowedAt timestamp).1 <;> rfl

section Runs

variable {limit : Int} {window : Nat} {now timestamp : Nat} {timestamps : List Instant}

theorem Dated.limiter_start_after (timestamps : List Instant) :
    ((Dated.start limit window now).after timestamps).limiter =
      (new limit (some window) now).after timestamps :=
  (Dated.start limit window now).limiter_after timestamps

/-- Along a run the invariant holds. -/
theorem dates_of_sorted (hlimit : 0 < limit) (hwindow : 0 < window)
    (hsorted : (now :: timestamps).Pairwise (· ≤ ·)) :
    Dates ((new limit (some window) now).history timestamps) (timestamps.getLast?.getD now)
      ((Dated.start limit window now).after timestamps) := by
  induction timestamps using List.reverseRecOn with
  | nil => exact dates_start hlimit hwindow now
  | append_singleton timestamps timestamp ih =>
      have hdates := ih (sorted_of_snoc hsorted)
      have hrequest := hdates.request (last_le hsorted)
      rw [Dated.limiter_start_after] at hrequest
      rw [history_snoc, Dated.after_snoc]
      simpa using hrequest

/-- Along a lossless run the limiter is the one that the allowed requests alone would leave, but for
the last update. -/
theorem after_allowedOnly (hlimit : 0 < limit) (hwindow : 0 < window)
    (hsorted : (now :: timestamps).Pairwise (· ≤ ·))
    (hlossless : LosslessRun limit window now timestamps) :
    (new limit (some window) now).after ((new limit (some window) now).allowedOnly timestamps) =
      ((Dated.start limit window now).after timestamps).kept := by
  induction timestamps using List.reverseRecOn with
  | nil => rfl
  | append_singleton timestamps timestamp ih =>
      have hdates := dates_of_sorted hlimit hwindow (sorted_of_snoc hsorted)
      obtain ⟨hbefore, hlast⟩ := atEach_snoc.1 hlossless
      have hkept := ih (sorted_of_snoc hsorted) hbefore
      rw [allowedOnly_snoc, after_append, hkept, Dated.after_snoc, ← Dated.limiter_start_after]
      cases hanswer :
          (((Dated.start limit window now).after timestamps).limiter.isAllowedAt timestamp).1 with
      | true => exact hdates.kept_of_allowed hlast hanswer
      | false => exact (hdates.kept_of_rejected hanswer).symm

/-- Requests at the time of the last update are allowed as long as there are tokens. -/
theorem count_answers_le {self : RateLimiter} (h : self.Valid)
    (hupdate : self.inner.lastUpdate = timestamp) (n : Nat) :
    ((self.answers (List.replicate n timestamp)).count true : Int) ≤ self.inner.tokens := by
  induction n generalizing self with
  | zero => exact h.tokens_nonneg
  | succ n ih =>
      have hnonneg := h.tokens_nonneg
      rw [List.replicate_succ, answers, List.count_cons]
      by_cases hpos : 1 ≤ self.inner.tokens
      · have hrest := ih (h.take hpos) hupdate
        rw [isAllowedAt_of_pos h hpos]
        simp only [withTokens] at hrest ⊢
        push_cast
        simp only [beq_self_eq_true, if_true]
        omega
      · have hempty : self.inner.tokens = 0 := by omega
        have hadded : self.added timestamp = 0 := by
          have hzero : self.refill (timestamp - self.inner.lastUpdate) = 0 := by
            simp [refill, hupdate]
          rw [added_eq, hzero, Int.floor_zero, min_eq_right h.limit_pos.le]
        have hrest := ih (h.update timestamp (le_refl 0) h.limit_pos.le) rfl
        rw [isAllowedAt_of_empty h hempty, hadded]
        simpa [hempty, updated] using hrest

/-- Requests at one time that find the bucket empty share what the first of them adds. -/
theorem count_answers_refilled {self : RateLimiter} (h : self.Valid)
    (hempty : self.inner.tokens = 0) (n : Nat) :
    ((self.answers (List.replicate n timestamp)).count true : Int) ≤ self.added timestamp := by
  have hnonneg := added_nonneg h timestamp
  have hmax := added_le_limit self timestamp
  cases n with
  | zero => exact hnonneg
  | succ n =>
      rw [List.replicate_succ, answers, List.count_cons, isAllowedAt_of_empty h hempty]
      by_cases hone : 1 ≤ self.added timestamp
      · have hvalid : (self.updated (self.added timestamp - 1) timestamp).Valid :=
          h.update timestamp (by omega) (by omega)
        have hrest := count_answers_le hvalid rfl n
        simp only [updated, if_pos hone, decide_eq_true hone] at hrest ⊢
        simp only [beq_self_eq_true, if_true]
        push_cast
        omega
      · have hrest := count_answers_le (h.update timestamp (le_refl 0) h.limit_pos.le) rfl n
        simp only [updated, if_neg hone, decide_eq_false hone] at hrest ⊢
        simpa using hrest.trans hnonneg

/-- A request that makes no difference to those after it can be deleted. -/
theorem answers_eraseIdx {self : RateLimiter} {first rest : List Instant}
    (h : ((self.after first).isAllowedAt timestamp).2.answers rest =
      (self.after first).answers rest) :
    self.answers ((first ++ timestamp :: rest).eraseIdx first.length) =
      (self.answers (first ++ timestamp :: rest)).eraseIdx first.length := by
  have hlength := length_answers self first
  calc
    self.answers ((first ++ timestamp :: rest).eraseIdx first.length)
        = self.answers (first ++ rest) := by
          simp [List.eraseIdx_append_of_length_le]
    _ = self.answers first ++ ((self.after first).isAllowedAt timestamp).2.answers rest := by
          rw [answers_append, h]
    _ = (self.answers (first ++ timestamp :: rest)).eraseIdx first.length := by
          rw [answers_append, List.eraseIdx_append_of_length_le hlength.le, hlength, Nat.sub_self,
            answers, List.eraseIdx_zero, List.tail_cons]

/-- Along a lossless run rejected requests make no difference. -/
theorem deletesRejected_of_lossless (hlimit : 0 < limit) (hwindow : 0 < window)
    (hsorted : (now :: timestamps).Pairwise (· ≤ ·))
    (hlossless : LosslessRun limit window now timestamps) :
    (new limit (some window) now).DeletesRejected timestamps := by
  intro i hreject
  have hi : i < timestamps.length := by
    rw [← length_answers (new limit (some window) now)]
    exact (List.getElem?_eq_some_iff.1 hreject).1
  obtain ⟨first, t, rest, rfl, rfl⟩ : ∃ first t rest,
      timestamps = first ++ t :: rest ∧ i = first.length :=
    ⟨timestamps.take i, timestamps[i], timestamps.drop (i + 1),
      by simp, by simp [hi.le]⟩
  have hlength := length_answers (new limit (some window) now) first
  have hfirst : (now :: (first ++ [t])).Pairwise (· ≤ ·) :=
    hsorted.sublist (by simp)
  have hdates := dates_of_sorted hlimit hwindow (sorted_of_snoc hfirst)
  rw [answers_append, List.getElem?_append_right hlength.le, hlength, Nat.sub_self] at hreject
  have hanswer : (((new limit (some window) now).after first).isAllowedAt t).1 = false := by
    simpa [answers] using hreject
  apply answers_eraseIdx
  cases rest with
  | nil => rfl
  | cons next rest =>
      -- only the next request can be answered differently, and it is not
      have hnext : ((Dated.start limit window now).after (first ++ [t])).Lossless next :=
        hlossless (first ++ [t]) next (by simp)
      rw [Dated.after_snoc] at hnext
      rw [← Dated.limiter_start_after] at hanswer ⊢
      rw [answers, answers, hdates.isAllowedAt_of_rejected (last_le hfirst) hanswer hnext]

theorem allowsRested_of_lossless (hlimit : 0 < limit) (hwindow : 0 < window)
    (hsorted : (now :: timestamps).Pairwise (· ≤ ·))
    (hlossless : LosslessRun limit window now timestamps) :
    (new limit (some window) now).AllowsRested timestamps := by
  intro first t hfirst hrested
  have hsub : (now :: (first ++ [t])).Pairwise (· ≤ ·) :=
    hsorted.sublist (hfirst.sublist.cons_cons now)
  have hdates := dates_of_sorted hlimit hwindow (sorted_of_snoc hsub)
  have hallowed := hdates.allowed_of_rested (last_le hsub) (hlossless first t hfirst)
  rw [Dated.limiter_start_after, rateLimit_after, timeWindowNs_after] at hallowed
  exact hallowed hrested

/-- An update that adds less than is due is told apart from one after the allowed requests alone. -/
theorem exists_lost (hlimit : 0 < limit) (hwindow : 0 < window)
    (hsorted : (now :: timestamps).Pairwise (· ≤ ·))
    (hlossless : LosslessRun limit window now timestamps)
    (hlost : ¬ ((Dated.start limit window now).after timestamps).Lossless timestamp) :
    ∃ n, ((new limit (some window) now).after timestamps).answers (List.replicate n timestamp) ≠
      ((new limit (some window) now).after
        ((new limit (some window) now).allowedOnly timestamps)).answers
          (List.replicate n timestamp) := by
  have hdates := dates_of_sorted hlimit hwindow hsorted
  rw [after_allowedOnly hlimit hwindow hsorted hlossless, ← Dated.limiter_start_after]
  revert hdates hlost
  generalize (Dated.start limit window now).after timestamps = state
  intro hlost hdates
  obtain ⟨hempty, hne⟩ := not_or.1 hlost
  have hnonneg := hdates.valid.tokens_nonneg
  have hadded := added_nonneg hdates.valid timestamp
  have hless : state.limiter.added timestamp < state.due timestamp :=
    lt_of_le_of_ne (hdates.added_le_due timestamp) hne
  obtain ⟨n, hn⟩ : ∃ n : Nat, (n : Int) + 1 = state.kept.added timestamp :=
    ⟨(state.due timestamp - 1).toNat, by
      have hdue : state.kept.added timestamp = state.due timestamp := rfl
      omega⟩
  refine ⟨n + 1, ?_⟩
  intro hsame
  -- all that are due are allowed without the rejected requests, but no more than are added with them
  have hkept : state.kept.inner.tokens = 0 := by
    show state.limiter.inner.tokens = 0
    omega
  rw [answers_refilled hdates.valid_kept hkept hn] at hsame
  have hcount := @count_answers_refilled timestamp _ hdates.valid (by omega) (n + 1)
  rw [hsame, List.count_replicate_self] at hcount
  have hdue : state.kept.added timestamp = state.due timestamp := rfl
  push_cast at hcount
  omega

/-- Along a lossless run rejected requests cost nothing.  In a run that is not lossless they may still
cost nothing, but a burst in place of the rest tells them apart from none. -/
theorem sparesBudget_of_lossless (hlimit : 0 < limit) (hwindow : 0 < window)
    (hsorted : (now :: timestamps).Pairwise (· ≤ ·)) :
    (LosslessRun limit window now timestamps →
      (new limit (some window) now).SparesBudget timestamps) ∧
    (¬ LosslessRun limit window now timestamps → ∃ first t n, first ++ [t] <+: timestamps ∧
      ((new limit (some window) now).after first).answers (List.replicate n t) ≠
        ((new limit (some window) now).after
          ((new limit (some window) now).allowedOnly first)).answers (List.replicate n t)) := by
  constructor
  · intro hlossless
    exact
      { deletes := deletesRejected_of_lossless hlimit hwindow hsorted hlossless
        allows := allowsRested_of_lossless hlimit hwindow hsorted hlossless }
  · intro hlossy
    obtain ⟨first, t, hfirst, hlossless, hlast⟩ := exists_first_not_atEach hlossy
    have hsub : (now :: (first ++ [t])).Pairwise (· ≤ ·) :=
      hsorted.sublist (hfirst.sublist.cons_cons now)
    obtain ⟨n, hn⟩ := exists_lost hlimit hwindow (sorted_of_snoc hsub) hlossless hlast
    exact ⟨first, t, n, hfirst, hn⟩

end Runs

/-- One token every ten nanoseconds.  The request at fifteen is rejected, and the next one comes ten
nanoseconds later. -/
theorem sparesBudget_rested :
    (new 1 (some 10) 0).answers [0, 10, 15, 25] = [true, true, false, true] ∧
      (new 1 (some 10) 0).SparesBudget [0, 10, 15, 25] :=
  ⟨by decide +kernel,
    (sparesBudget_of_lossless (by decide) (by decide) (by decide)).1 (by decide +kernel)⟩

/-- A request half way to the next token is rejected, and so is the one that would have got it. -/
theorem not_sparesBudget_halfway :
    ([0, 0, 5, 10] : List Instant).Pairwise (· ≤ ·) ∧
      ¬ (new 1 (some 10) 0).DeletesRejected [0, 5, 10] ∧
      ¬ (new 1 (some 10) 0).AllowsRested [0, 5, 10] := by
  refine ⟨by decide, fun hdeletes => ?_, fun hallows => ?_⟩
  · have hsame := hdeletes 1 (by decide +kernel)
    exact absurd hsame (by decide +kernel)
  · have hlast := hallows [0, 5] 10 (by decide)
    have hrested : ∀ x ∈ (new 1 (some 10) 0).history [0, 5], x.2 = true →
        (((new 1 (some 10) 0).inner.timeWindowNs : ℚ) / ((new 1 (some 10) 0).rateLimit : ℚ) ≤
          ((10 : Instant) : ℚ) - x.1) := by
      decide +kernel
    exact absurd (hlast hrested) (by decide +kernel)

end RateLimiter

end TraceSampling
end DdTrace
