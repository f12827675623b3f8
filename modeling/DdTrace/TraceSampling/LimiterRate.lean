import DdTrace.TraceSampling.RateLimiter
import Mathlib.Data.List.Count
import Mathlib.Data.List.Induction

/-!
# LimiterRate — the windows of the limiter and its effective rate

The limiter keeps the counts of one window and the rate of the one before.  Over the history of all
requests these are windows in a sense of their own (`windows`): each begins with a request, and ends
with the first request that comes at least the length of a window later.
-/

namespace DdTrace
namespace TraceSampling

/-! ## Windows -/

/-- The requests of one window with their answers. -/
structure Window where
  first : Instant × Bool
  rest : List (Instant × Bool)
  deriving DecidableEq

namespace Window

def start (self : Window) : Instant := self.first.1

def requests (self : Window) : List (Instant × Bool) := self.first :: self.rest

def push (self : Window) (request : Instant × Bool) : Window :=
  { self with rest := self.rest ++ [request] }

def allowed (self : Window) : Nat := self.requests.countP Prod.snd

/-- The share of allowed requests. -/
def rate (self : Window) : ℚ := self.allowed / self.requests.length

/-- The time since the beginning of the window, as the limiter measures it. -/
def elapsed (self : Window) (timestamp : Instant) : Nat := (timestamp - self.start) % 2 ^ 64

variable (self : Window) (request : Instant × Bool)

@[simp] theorem start_push : (self.push request).start = self.start := rfl

@[simp] theorem requests_push : (self.push request).requests = self.requests ++ [request] := rfl

theorem length_push : (self.push request).requests.length = self.requests.length + 1 := by
  simp

theorem allowed_push :
    (self.push request).allowed = self.allowed + if request.2 = true then 1 else 0 := by
  simp [allowed, List.countP_append, List.countP_singleton]

theorem length_pos : 0 < self.requests.length := Nat.succ_pos _

theorem allowed_le_length : self.allowed ≤ self.requests.length := List.countP_le_length

theorem rate_nonneg : 0 ≤ self.rate := div_nonneg (Nat.cast_nonneg _) (Nat.cast_nonneg _)

theorem rate_le_one : self.rate ≤ 1 := by
  have hpos : (0 : ℚ) < self.requests.length := by exact_mod_cast self.length_pos
  have hle : (self.allowed : ℚ) ≤ self.requests.length := by exact_mod_cast self.allowed_le_length
  exact (div_le_one hpos).2 hle

/-- A window with a rejected request. -/
theorem rate_lt_one {self : Window} {timestamp : Instant}
    (h : (timestamp, false) ∈ self.requests) : self.rate < 1 := by
  have hpos : (0 : ℚ) < self.requests.length := by exact_mod_cast self.length_pos
  have hlt : self.allowed < self.requests.length := by
    apply lt_of_le_of_ne self.allowed_le_length
    intro hall
    exact absurd (List.countP_eq_length.1 hall _ h) (by simp)
  exact (div_lt_one hpos).2 (by exact_mod_cast hlt)

theorem rate_eq_zero_iff {self : Window} : self.rate = 0 ↔ ∀ x ∈ self.requests, x.2 = false := by
  have hne : (self.requests.length : ℚ) ≠ 0 := by exact_mod_cast self.length_pos.ne'
  unfold rate
  rw [div_eq_zero_iff, or_iff_left hne, Nat.cast_eq_zero, allowed, List.countP_eq_zero]
  simp

end Window

/-- The windows of a history, the current one first. -/
def addRequest (window : Nat) (windows : List Window) (request : Instant × Bool) : List Window :=
  match windows with
  | [] => [{ first := request, rest := [] }]
  | current :: before =>
      if current.elapsed request.1 ≥ window then { first := request, rest := [] } :: windows
      else current.push request :: before

def windows (window : Nat) (history : List (Instant × Bool)) : List Window :=
  history.foldl (addRequest window) []

theorem windows_snoc (window : Nat) (history : List (Instant × Bool)) (request : Instant × Bool) :
    windows window (history ++ [request]) = addRequest window (windows window history) request := by
  simp [windows]

/-- What makes a list of windows the windows of a history: together they hold its requests in order,
each holds only requests from before its end, and each begins after the end of the one before. -/
structure Windowed (window : Nat) (history : List (Instant × Bool)) (l : List Window) : Prop where
  requests : l.reverse.flatMap Window.requests = history
  within : ∀ w ∈ l, ∀ x ∈ w.rest, w.elapsed x.1 < window
  apart : l.IsChain fun w before => window ≤ before.elapsed w.start

section

variable {window : Nat} {history : List (Instant × Bool)} {current : Window} {before : List Window}

theorem Windowed.opened (h : Windowed window history (current :: before)) {request : Instant × Bool}
    (hlapsed : window ≤ current.elapsed request.1) :
    Windowed window (history ++ [request])
      ({ first := request, rest := [] } :: current :: before) :=
  { requests := by
      rw [List.reverse_cons, List.flatMap_append, h.requests]
      simp [Window.requests]
    within := by
      intro w hw x hx
      rcases List.mem_cons.1 hw with rfl | hw
      · exact absurd hx List.not_mem_nil
      · exact h.within w hw x hx
    apart := List.isChain_cons_cons.2 ⟨hlapsed, h.apart⟩ }

theorem Windowed.pushed (h : Windowed window history (current :: before)) {request : Instant × Bool}
    (hopen : current.elapsed request.1 < window) :
    Windowed window (history ++ [request]) (current.push request :: before) :=
  { requests := by
      rw [← h.requests]
      simp [List.flatMap_append]
    within := by
      intro w hw x hx
      rcases List.mem_cons.1 hw with rfl | hw
      · rcases List.mem_append.1 hx with hx | hx
        · exact h.within current (List.mem_cons_self ..) x hx
        · rw [List.mem_singleton.1 hx]
          exact hopen
      · exact h.within w (List.mem_cons_of_mem _ hw) x hx
    apart := by
      cases before with
      | nil => exact .singleton _
      | cons previous before =>
          obtain ⟨hstart, hbefore⟩ := List.isChain_cons_cons.1 h.apart
          exact List.isChain_cons_cons.2 ⟨hstart, hbefore⟩ }

theorem Windowed.add {l : List Window} (h : Windowed window history l) (request : Instant × Bool) :
    Windowed window (history ++ [request]) (addRequest window l request) := by
  cases l with
  | nil =>
      have hnone : history = [] := h.requests.symm
      exact
        { requests := by simp [addRequest, hnone, Window.requests]
          within := by simp [addRequest]
          apart := by simp [addRequest] }
  | cons current before =>
      by_cases hlapsed : window ≤ current.elapsed request.1
      · rw [addRequest, if_pos hlapsed]
        exact h.opened hlapsed
      · rw [addRequest, if_neg hlapsed]
        exact h.pushed (not_le.1 hlapsed)

end

theorem windowed_windows (window : Nat) (history : List (Instant × Bool)) :
    Windowed window history (windows window history) := by
  induction history using List.reverseRecOn with
  | nil => exact { requests := rfl, within := by simp [windows], apart := .nil }
  | append_singleton history request ih =>
      rw [windows_snoc]
      exact ih.add request

/-- The rate over the current window and the one before. -/
def reportedRate : List Window → ℚ
  | [] => 1
  | [current] => current.rate
  | current :: previous :: _ => (current.rate + previous.rate) / 2

theorem reportedRate_mem (l : List Window) : 0 ≤ reportedRate l ∧ reportedRate l ≤ 1 := by
  rcases l with _ | ⟨current, _ | ⟨previous, before⟩⟩
  · simp [reportedRate]
  · exact ⟨current.rate_nonneg, current.rate_le_one⟩
  · have hcurrent := current.rate_nonneg
    have hprevious := previous.rate_nonneg
    have hcurrent' := current.rate_le_one
    have hprevious' := previous.rate_le_one
    simp only [reportedRate]
    constructor <;> linarith

/-- None of the requests of the current window and of the one before was allowed. -/
def NoneAllowed (l : List Window) : Prop :=
  ∀ w ∈ l.take 2, ∀ x ∈ w.requests, x.2 = false

instance (l : List Window) : Decidable (NoneAllowed l) :=
  inferInstanceAs (Decidable (∀ w ∈ l.take 2, ∀ x ∈ w.requests, x.2 = false))

theorem reportedRate_eq_zero_iff {current : Window} {before : List Window} :
    reportedRate (current :: before) = 0 ↔ NoneAllowed (current :: before) := by
  cases before with
  | nil => simp [reportedRate, NoneAllowed, Window.rate_eq_zero_iff]
  | cons previous before =>
      have hcurrent := current.rate_nonneg
      have hprevious := previous.rate_nonneg
      have hboth :
          (current.rate + previous.rate) / 2 = 0 ↔ current.rate = 0 ∧ previous.rate = 0 := by
        constructor
        · intro h
          constructor <;> linarith
        · rintro ⟨h, h'⟩
          linarith
      simp [reportedRate, NoneAllowed, hboth, Window.rate_eq_zero_iff]

theorem reportedRate_lt_one {current : Window} {before : List Window} {timestamp : Instant}
    (h : (timestamp, false) ∈ current.requests) : reportedRate (current :: before) < 1 := by
  have hlt := Window.rate_lt_one h
  cases before with
  | nil => exact hlt
  | cons previous before =>
      have hprevious := previous.rate_le_one
      simp only [reportedRate]
      linarith

/-- The request that was added is in the current window. -/
theorem exists_addRequest (window : Nat) (l : List Window) (request : Instant × Bool) :
    ∃ current before, addRequest window l request = current :: before ∧
      request ∈ current.requests := by
  cases l with
  | nil => exact ⟨_, _, rfl, by simp [Window.requests]⟩
  | cons current before =>
      unfold addRequest
      dsimp only
      split_ifs
      · exact ⟨_, _, rfl, by simp [Window.requests]⟩
      · exact ⟨_, _, rfl, by simp⟩

/-! ## The counts of the limiter -/

/-- What the limiter keeps of the windows so far. -/
structure Counts (l : List Window) (state : RateLimiterState) : Prop where
  start : state.currentWindowStart = l.head?.map Window.start
  total : state.tokensTotal = (l.head?.map fun w => w.requests.length).getD 0
  allowed : state.tokensAllowed = (l.head?.map Window.allowed).getD 0
  previous : state.prevWindowRate = l.tail.head?.map Window.rate

namespace RateLimiter

/-- A request takes tokens and leaves the counts. -/
theorem counts_isAllowedAt {self : RateLimiter} {l : List Window} (h : Counts l self.inner)
    (timestamp : Instant) : Counts l (self.isAllowedAt timestamp).2.inner := by
  unfold isAllowedAt
  dsimp only
  split_ifs <;> exact { h with }

theorem currentWindowRate_eq (self : RateLimiter) {state : RateLimiterState} {current : Window}
    {before : List Window} (h : Counts (current :: before) state) :
    self.currentWindowRate state = current.rate := by
  have htotal : state.tokensTotal = current.requests.length := h.total
  have hallowed : state.tokensAllowed = current.allowed := h.allowed
  rw [currentWindowRate, htotal, hallowed, if_neg current.length_pos.ne']
  rfl

section

variable {self : RateLimiter} {current : Window} {before : List Window} {timestamp : Instant}

/-- The first request opens a window. -/
theorem counts_first (h : Counts [] self.inner) (allowed : Bool) (timestamp : Instant) :
    Counts [{ first := (timestamp, allowed), rest := [] }]
      (self.updateRateCounts allowed timestamp).inner := by
  have hstart : self.inner.currentWindowStart = none := h.start
  have htotal : self.inner.tokensTotal = 0 := h.total
  have hallowed : self.inner.tokensAllowed = 0 := h.allowed
  simp only [updateRateCounts, hstart]
  exact
    { start := rfl
      total := by simp [htotal, Window.requests]
      allowed := by cases allowed <;> simp [hallowed, Window.allowed, Window.requests]
      previous := h.previous }

/-- A request after the end of the window opens the next one. -/
theorem counts_opened (h : Counts (current :: before) self.inner) (allowed : Bool)
    (hended : self.inner.timeWindowNs ≤ (timestamp - current.start) % 2 ^ 64) :
    Counts ({ first := (timestamp, allowed), rest := [] } :: current :: before)
      (self.updateRateCounts allowed timestamp).inner := by
  have hstart : self.inner.currentWindowStart = some current.start := h.start
  have hrate := currentWindowRate_eq self h
  simp only [updateRateCounts, hstart, ge_iff_le, if_pos hended]
  exact
    { start := rfl
      total := rfl
      allowed := by cases allowed <;> rfl
      previous := congrArg some hrate }

/-- Any other request counts for the current window. -/
theorem counts_pushed (h : Counts (current :: before) self.inner) (allowed : Bool)
    (hopen : ¬ self.inner.timeWindowNs ≤ (timestamp - current.start) % 2 ^ 64) :
    Counts (current.push (timestamp, allowed) :: before)
      (self.updateRateCounts allowed timestamp).inner := by
  have hstart : self.inner.currentWindowStart = some current.start := h.start
  have htotal : self.inner.tokensTotal = current.requests.length := h.total
  have hallowed : self.inner.tokensAllowed = current.allowed := h.allowed
  simp only [updateRateCounts, hstart, ge_iff_le, if_neg hopen]
  exact
    { start := rfl
      total := by
        show self.inner.tokensTotal + 1 = _
        rw [htotal]
        exact (current.length_push _).symm
      allowed := by
        show (if allowed = true then _ else _) = _
        rw [hallowed]
        refine Eq.trans ?_ (current.allowed_push (timestamp, allowed)).symm
        cases allowed <;> rfl
      previous := h.previous }

end

theorem counts_updateRateCounts {self : RateLimiter} {l : List Window} (h : Counts l self.inner)
    (allowed : Bool) (timestamp : Instant) :
    Counts (addRequest self.inner.timeWindowNs l (timestamp, allowed))
      (self.updateRateCounts allowed timestamp).inner := by
  cases l with
  | nil => exact counts_first h allowed timestamp
  | cons current before =>
      by_cases hended : self.inner.timeWindowNs ≤ (timestamp - current.start) % 2 ^ 64
      · have hadd : addRequest self.inner.timeWindowNs (current :: before) (timestamp, allowed) =
            { first := (timestamp, allowed), rest := [] } :: current :: before := if_pos hended
        rw [hadd]
        exact counts_opened h allowed hended
      · have hadd : addRequest self.inner.timeWindowNs (current :: before) (timestamp, allowed) =
            current.push (timestamp, allowed) :: before := if_neg hended
        rw [hadd]
        exact counts_pushed h allowed hended

theorem effectiveRate_eq {self : RateLimiter} {l : List Window} (h : Counts l self.inner) :
    self.effectiveRate = reportedRate l := by
  have hprevious := h.previous
  rcases l with _ | ⟨current, _ | ⟨previous, before⟩⟩
  · have htotal : self.inner.tokensTotal = 0 := h.total
    simp [effectiveRate, calculateInternalEffectiveRate, currentWindowRate, reportedRate,
      hprevious, htotal]
  · simp [effectiveRate, calculateInternalEffectiveRate, currentWindowRate_eq self h, reportedRate,
      hprevious]
  · simp [effectiveRate, calculateInternalEffectiveRate, currentWindowRate_eq self h, reportedRate,
      hprevious]

/-! ## Runs -/

/-- The limiter after a request at each of the times. -/
def serving (self : RateLimiter) (times : List Instant) : RateLimiter :=
  times.foldl (fun self now => (self.isAllowed now).2) self

/-- The requests with their answers. -/
def served (self : RateLimiter) : List Instant → List (Instant × Bool)
  | [] => []
  | now :: times => (now, (self.isAllowed now).1) :: (self.isAllowed now).2.served times

theorem serving_snoc (self : RateLimiter) (times : List Instant) (now : Instant) :
    self.serving (times ++ [now]) = ((self.serving times).isAllowed now).2 := by
  simp [serving]

theorem served_snoc (self : RateLimiter) (times : List Instant) (now : Instant) :
    self.served (times ++ [now]) =
      self.served times ++ [(now, ((self.serving times).isAllowed now).1)] := by
  induction times generalizing self with
  | nil => rfl
  | cons first times ih => exact congrArg (_ :: ·) (ih (self.isAllowed first).2)

theorem timeWindowNs_serving (self : RateLimiter) (times : List Instant) :
    (self.serving times).inner.timeWindowNs = self.inner.timeWindowNs := by
  induction times generalizing self with
  | nil => rfl
  | cons now times ih => exact (ih _).trans (timeWindowNs_isAllowed self now)

theorem counts_isAllowed {self : RateLimiter} {l : List Window} (h : Counts l self.inner)
    (now : Instant) :
    Counts (addRequest self.inner.timeWindowNs l (now, (self.isAllowed now).1))
      (self.isAllowed now).2.inner := by
  have hcounts := counts_updateRateCounts (counts_isAllowedAt h now) (self.isAllowedAt now).1 now
  rwa [timeWindowNs_isAllowedAt] at hcounts

/-- After any requests the counts are those of the windows of their history. -/
theorem counts_serving (self : RateLimiter) (hnew : Counts [] self.inner) (times : List Instant) :
    Counts (windows self.inner.timeWindowNs (self.served times)) (self.serving times).inner := by
  induction times using List.reverseRecOn with
  | nil => exact hnew
  | append_singleton times now ih =>
      rw [served_snoc, windows_snoc, serving_snoc, ← timeWindowNs_serving self times]
      rw [← timeWindowNs_serving self times] at ih
      exact counts_isAllowed ih now

theorem counts_new (limit : Int) (window : Option Nat) (now : Instant) :
    Counts [] (new limit window now).inner :=
  { start := rfl, total := rfl, allowed := rfl, previous := rfl }

/-- The effective rate is the rate over the current window and the one before. -/
theorem effectiveRate_serving (limit : Int) (window : Option Nat) (start : Instant)
    (times : List Instant) :
    ((new limit window start).serving times).effectiveRate =
      reportedRate
        (windows (window.getD DEFAULT_WINDOW_NS) ((new limit window start).served times)) :=
  effectiveRate_eq (counts_serving _ (counts_new limit window start) times)

end RateLimiter

end TraceSampling
end DdTrace
