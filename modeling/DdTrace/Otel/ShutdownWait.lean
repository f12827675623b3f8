import DdTrace.Otel.SpanExporter

/-!
# ShutdownWait — waiting for the exporter to shut down

`waitShutdownDone` waits on the condition variable of the channel until `has_shutdown` is set.  What a
wait reports is up to the operating system and the other threads, so a call is run on a schedule: what
the lock showed at first, and what each wait reports.  The result keeps, beside what is returned, the
values of `has_shutdown` that were read and the waits that were made.

The caller maps each error to an action, one of which joins the worker.  `respectsTimeout_iff` says on
which schedules the two together do what they are for: those on which no wait ends by timeout.
-/

namespace DdTrace
namespace Otel

open Lib

/-- Durations and instants are in nanoseconds. -/
abbrev Duration := Nat

/-- A lock or a wait reports that another thread panicked while it held the lock. -/
inductive PoisonError
  | poisoned
  deriving DecidableEq

/-- What a wait reports, once the lock is taken back. -/
structure Wake where
  timedOut : Bool
  hasShutdown : Bool
  /-- The clock after the wait. -/
  now : Nat
  deriving DecidableEq

abbrev WaitResult := Except PoisonError Wake

/-! ## Sender -/

/-- What a call returned, and what it did until then. -/
structure Waited where
  result : Except SenderError Unit
  /-- The values of `has_shutdown` that the loop read. -/
  observed : List Bool
  /-- The waits, each with the time it asked for. -/
  waits : List (Duration × WaitResult)

namespace Waited

/-- A read of the flag that goes on with the call. -/
def reading (hasShutdown : Bool) (waited : Waited) : Waited :=
  { waited with observed := hasShutdown :: waited.observed }

/-- A wait that goes on with the call. -/
def waiting (leftover : Duration) (wait : WaitResult) (waited : Waited) : Waited :=
  { waited with waits := (leftover, wait) :: waited.waits }

def returning (result : Except SenderError Unit) : Waited :=
  { result := result
    observed := []
    waits := [] }

end Waited

namespace Sender

/-- The loop, from a test of the flag on; `none` while the call still waits. -/
def waitLoop (deadline : Nat) (leftover : Duration) (hasShutdown : Bool)
    (schedule : List WaitResult) : Option Waited :=
  if hasShutdown then some ((Waited.returning (.ok ())).reading hasShutdown)
  else
    match schedule with
    | [] => none
    | .error e :: _ =>
        -- a poisoned wait is reported as a passed deadline, and below the other way round
        some (((Waited.returning (.error .timedOut)).waiting leftover (.error e)).reading hasShutdown)
    | .ok wake :: schedule =>
        let waited :=
          if wake.timedOut then some (Waited.returning (.error .mutexPoisoned))
          -- the time that is left is zero past the deadline
          else waitLoop deadline (deadline - wake.now) wake.hasShutdown schedule
        waited.map fun waited => (waited.waiting leftover (.ok wake)).reading hasShutdown

/-- `lock` is the flag that the lock showed at first, `start` the clock at that time. -/
def waitShutdownDone (timeout : Duration) (start : Nat) (lock : Except PoisonError Bool)
    (schedule : List WaitResult) : Option Waited :=
  if timeout = 0 then some (Waited.returning (.error .timedOut))
  else
    match lock with
    | .error _ => some (Waited.returning (.error .mutexPoisoned))
    | .ok hasShutdown => waitLoop (start + timeout) timeout hasShutdown schedule

end Sender

/-! ## DatadogExporter -/

inductive OTelSdkError
  | alreadyShutdown
  | timeout (timeout : Duration)
  | internalFailure (message : String)
  deriving DecidableEq

/-- How the worker thread ended. -/
inductive WorkerExit
  | ok
  /-- A panic, with its message if that is a string. -/
  | panicked (message : Option String)
  /-- The trace exporter did not shut down in time. -/
  | shutdownTimedOut (timeout : Duration)
  /-- Any other error, with its text. -/
  | failed (text : String)
  deriving DecidableEq

/-- The join handle of the worker, until it is taken; it gives what the thread returns. -/
structure TraceExporterHandle where
  /-- The lock around the handle is poisoned. -/
  poisoned : Bool
  handle : Option WorkerExit
  deriving DecidableEq

/-- What a call returned, the handle it left and whether it joined the worker. -/
structure Joined where
  result : Except OTelSdkError Unit
  traceExporter : TraceExporterHandle
  joined : Bool

namespace DatadogExporter

def joinResult : WorkerExit → Except OTelSdkError Unit
  | .ok => .ok ()
  | .panicked (some panic) =>
      .error (.internalFailure ("DatadogExporter.join: worker panicked: " ++ panic))
  | .panicked none =>
      .error (.internalFailure "DatadogExporter.join: worker panicked: error message unknown")
  | .shutdownTimedOut t => .error (.timeout t)
  | .failed e =>
      .error (.internalFailure ("DatadogExporter.join: worker exited with error: " ++ e))

/-- The handle is taken, and then the call blocks until the worker has ended. -/
def join (traceExporter : TraceExporterHandle) : Joined :=
  if traceExporter.poisoned then
    { result := .error
        (.internalFailure "DatadogExporter.join: can't access worker task join handle")
      traceExporter := traceExporter
      joined := false }
  else
    match traceExporter.handle with
    | none =>
        { result := .error .alreadyShutdown
          traceExporter := traceExporter
          joined := false }
    | some worker =>
        { result := joinResult worker
          traceExporter := { traceExporter with handle := none }
          joined := true }

/-- An outcome that has nothing to do with the handle. -/
def withoutJoin (traceExporter : TraceExporterHandle) (error : OTelSdkError) : Joined :=
  { result := .error error
    traceExporter := traceExporter
    joined := false }

/-- What is done about the result of `wait_shutdown_done`. -/
def waitForShutdown (timeout : Duration) (traceExporter : TraceExporterHandle)
    (waited : Except SenderError Unit) : Joined :=
  match waited with
  | .error .alreadyShutdown =>
      let joined := join traceExporter
      match joined.result with
      | .error _ => joined
      | .ok () =>
          { joined with
            result := .error (.internalFailure
              "DatadogExporter.wait_for_shutdown: trace exporter has already shutdown") }
  | .error .timedOut => withoutJoin traceExporter (.timeout timeout)
  | .error (.batchFull _) =>
      withoutJoin traceExporter (.internalFailure
        "DatadogExporter.wait_for_shutdown: unexpected error waiting for shutdown")
  | .ok () => join traceExporter
  -- a lock that is poisoned is taken for a worker that has panicked
  | .error .mutexPoisoned => join traceExporter

end DatadogExporter

/-! ## The waits of a call -/

namespace WaitResult

def endsByTimeout : WaitResult → Bool
  | .error _ => false
  | .ok wake => wake.timedOut

/-- The call goes on after any other wait. -/
def settles : WaitResult → Bool
  | .error _ => true
  | .ok wake => wake.timedOut || wake.hasShutdown

end WaitResult

/-- The waits that a call makes on a schedule: those up to the first that settles it.  There are none
if the lock is poisoned or shows the flag. -/
def waitsMade : Except PoisonError Bool → List WaitResult → List WaitResult
  | .ok false, wait :: schedule =>
      if wait.settles then [wait] else wait :: waitsMade (.ok false) schedule
  | _, _ => []

/-- What a call that got the lock returned, against the waits that it made. -/
structure Settled (hasShutdown : Bool) (schedule : List WaitResult) (waited : Waited) : Prop where
  made : waited.waits.map Prod.snd = waitsMade (.ok hasShutdown) schedule
  observed : waited.result = .ok () ↔ true ∈ waited.observed
  signalled : waited.result = .ok () → hasShutdown = true ∨
    ∃ wake, .ok wake ∈ waitsMade (.ok hasShutdown) schedule ∧ wake.hasShutdown = true
  timedOut : waited.result = .error .timedOut ↔
    .error .poisoned ∈ waitsMade (.ok hasShutdown) schedule
  mutexPoisoned : waited.result = .error .mutexPoisoned ↔
    ∃ wait ∈ waitsMade (.ok hasShutdown) schedule, wait.endsByTimeout = true
  result : waited.result = .ok () ∨ waited.result = .error .timedOut ∨
    waited.result = .error .mutexPoisoned

namespace Settled

/-- The flag is set: there is nothing to wait for. -/
theorem flag (schedule : List WaitResult) :
    Settled true schedule ((Waited.returning (.ok ())).reading true) := by
  constructor <;> simp [Waited.returning, Waited.reading, waitsMade]

/-- The wait reports poison, and that is returned as a timeout. -/
theorem poison (leftover : Duration) (e : PoisonError) (schedule : List WaitResult) :
    Settled false (.error e :: schedule)
      (((Waited.returning (.error .timedOut)).waiting leftover (.error e)).reading false) := by
  cases e
  constructor <;>
    simp [Waited.returning, Waited.reading, Waited.waiting, waitsMade, WaitResult.settles,
      WaitResult.endsByTimeout]

/-- The wait ends by timeout, and that is returned as poison. -/
theorem timeout (leftover : Duration) {wake : Wake} (h : wake.timedOut = true)
    (schedule : List WaitResult) :
    Settled false (.ok wake :: schedule)
      (((Waited.returning (.error .mutexPoisoned)).waiting leftover (.ok wake)).reading false) := by
  constructor <;>
    simp [Waited.returning, Waited.reading, Waited.waiting, waitsMade, WaitResult.settles,
      WaitResult.endsByTimeout, h]

theorem waitsMade_woken {wake : Wake} (h : wake.timedOut = false) (schedule : List WaitResult) :
    waitsMade (.ok false) (.ok wake :: schedule) =
      .ok wake :: waitsMade (.ok wake.hasShutdown) schedule := by
  cases hflag : wake.hasShutdown with
  | true => simp [waitsMade, WaitResult.settles, h, hflag]
  | false => simp [waitsMade, WaitResult.settles, h, hflag]

/-- The wait ends with a notification, or for no reason: the loop goes on with the flag it shows. -/
theorem woken (leftover : Duration) {wake : Wake} (htimeout : wake.timedOut = false)
    {schedule : List WaitResult} {waited : Waited}
    (h : Settled wake.hasShutdown schedule waited) :
    Settled false (.ok wake :: schedule)
      ((waited.waiting leftover (.ok wake)).reading false) := by
  have hmade := waitsMade_woken htimeout schedule
  refine ⟨?_, ?_, ?_, ?_, ?_, h.result⟩
  · rw [hmade, ← h.made]
    rfl
  · simpa [Waited.reading, Waited.waiting] using h.observed
  · intro hok
    rw [hmade]
    rcases h.signalled hok with hflag | ⟨later, hlater, hflag⟩
    · exact .inr ⟨wake, List.mem_cons_self .., hflag⟩
    · exact .inr ⟨later, List.mem_cons_of_mem _ hlater, hflag⟩
  · rw [hmade]
    simpa [Waited.reading, Waited.waiting] using h.timedOut
  · rw [hmade]
    simpa [Waited.reading, Waited.waiting, WaitResult.endsByTimeout, htimeout] using h.mutexPoisoned

end Settled

namespace Sender

theorem settled_waitLoop {deadline leftover : Nat} {hasShutdown : Bool}
    {schedule : List WaitResult} {waited : Waited}
    (h : waitLoop deadline leftover hasShutdown schedule = some waited) :
    Settled hasShutdown schedule waited := by
  induction schedule generalizing leftover hasShutdown waited with
  | nil =>
      cases hasShutdown with
      | true =>
          cases h
          exact .flag []
      | false => cases h
  | cons wait schedule ih =>
      cases hasShutdown with
      | true =>
          unfold waitLoop at h
          rw [if_pos rfl, Option.some.injEq] at h
          rw [← h]
          exact .flag _
      | false =>
          cases wait with
          | error e =>
              cases h
              exact .poison leftover e schedule
          | ok wake =>
              cases htimeout : wake.timedOut with
              | true =>
                  simp only [waitLoop, htimeout, Bool.false_eq_true, if_false, if_true,
                    Option.map_some, Option.some.injEq] at h
                  rw [← h]
                  exact .timeout leftover htimeout schedule
              | false =>
                  simp only [waitLoop, htimeout, Bool.false_eq_true, if_false,
                    Option.map_eq_some_iff] at h
                  obtain ⟨later, hlater, rfl⟩ := h
                  exact .woken leftover htimeout (ih hlater)

/-- A call returns when a wait ends by timeout. -/
theorem exists_waitLoop {deadline leftover : Nat} {hasShutdown : Bool}
    {schedule : List WaitResult} {wait : WaitResult}
    (hmade : wait ∈ waitsMade (.ok hasShutdown) schedule) (htimeout : wait.endsByTimeout = true) :
    ∃ waited, waitLoop deadline leftover hasShutdown schedule = some waited := by
  induction schedule generalizing leftover hasShutdown with
  | nil => cases hasShutdown <;> simp [waitsMade] at hmade
  | cons first schedule ih =>
      cases hasShutdown with
      | true => simp [waitsMade] at hmade
      | false =>
          cases first with
          | error e => exact ⟨_, rfl⟩
          | ok wake =>
              cases hwake : wake.timedOut with
              | true => exact ⟨_, by simp [waitLoop, hwake]; rfl⟩
              | false =>
                  rw [Settled.waitsMade_woken hwake] at hmade
                  rcases List.mem_cons.1 hmade with rfl | hmade
                  · simp [WaitResult.endsByTimeout, hwake] at htimeout
                  · obtain ⟨waited, hwaited⟩ := @ih (deadline - wake.now) _ hmade
                    exact ⟨_, by simp [waitLoop, hwake, hwaited]; rfl⟩

end Sender

/-! ## The timeout is respected -/

/-- What the two functions are for, on one schedule. -/
structure RespectsTimeout (timeout : Duration) (start : Nat) (lock : Except PoisonError Bool)
    (schedule : List WaitResult) (traceExporter : TraceExporterHandle) (waited : Waited) :
    Prop where
  /-- The flag was observed if and only if that is what is returned. -/
  ok : waited.result = .ok () ↔ true ∈ waited.observed
  timedOut : ∀ leftover wake, (leftover, .ok wake) ∈ waited.waits → wake.timedOut = true →
    wake.hasShutdown = false → waited.result = .error .timedOut
  mutexPoisoned : waited.result = .error .mutexPoisoned →
    lock = .error .poisoned ∨ ∃ leftover, (leftover, .error .poisoned) ∈ waited.waits
  /-- The worker is joined after it has signalled, or if a lock is poisoned. -/
  joins : (DatadogExporter.waitForShutdown timeout traceExporter waited.result).joined = true →
    lock = .ok true ∨ (∃ leftover wake, (leftover, .ok wake) ∈ waited.waits ∧
      wake.hasShutdown = true) ∨
    lock = .error .poisoned ∨ ∃ leftover, (leftover, .error .poisoned) ∈ waited.waits
  timeout : ∀ leftover wake, (leftover, .ok wake) ∈ waited.waits → wake.timedOut = true →
    wake.hasShutdown = false →
      (DatadogExporter.waitForShutdown timeout traceExporter waited.result).result =
        .error (.timeout timeout)

/-- The waits of a call that got the lock are those of the schedule. -/
theorem Settled.mem_made {hasShutdown : Bool} {schedule : List WaitResult} {waited : Waited}
    (h : Settled hasShutdown schedule waited) {wait : WaitResult} :
    wait ∈ waitsMade (.ok hasShutdown) schedule ↔ ∃ leftover, (leftover, wait) ∈ waited.waits := by
  rw [← h.made, List.mem_map]
  constructor
  · rintro ⟨⟨leftover, _⟩, hmem, rfl⟩
    exact ⟨leftover, hmem⟩
  · rintro ⟨leftover, hmem⟩
    exact ⟨_, hmem, rfl⟩

/-- A call joins only if it was told so, or that the lock is poisoned. -/
theorem joined_waitForShutdown {timeout : Duration} {traceExporter : TraceExporterHandle}
    {hasShutdown : Bool} {schedule : List WaitResult} {waited : Waited}
    (h : Settled hasShutdown schedule waited)
    (hjoined : (DatadogExporter.waitForShutdown timeout traceExporter waited.result).joined =
      true) :
    waited.result = .ok () ∨ waited.result = .error .mutexPoisoned := by
  rcases h.result with hresult | hresult | hresult
  · exact .inl hresult
  · rw [hresult] at hjoined
    cases hjoined
  · exact .inr hresult

/-- If no wait ends by timeout, a call that got the lock does what it should. -/
theorem Settled.respectsTimeout {timeout : Duration} {start : Nat} {hasShutdown : Bool}
    {schedule : List WaitResult} {waited : Waited} (h : Settled hasShutdown schedule waited)
    (hnone : ∀ wait ∈ waitsMade (.ok hasShutdown) schedule, wait.endsByTimeout = false)
    (traceExporter : TraceExporterHandle) :
    RespectsTimeout timeout start (.ok hasShutdown) schedule traceExporter waited := by
  have hwake : ∀ leftover wake, (leftover, .ok wake) ∈ waited.waits → wake.timedOut ≠ true := by
    intro leftover wake hmem htimeout
    have hfalse := hnone (.ok wake) (h.mem_made.2 ⟨leftover, hmem⟩)
    rw [WaitResult.endsByTimeout, htimeout] at hfalse
    cases hfalse
  have hpoisoned : waited.result ≠ .error .mutexPoisoned := by
    intro hresult
    obtain ⟨wait, hmade, htimeout⟩ := h.mutexPoisoned.1 hresult
    rw [hnone wait hmade] at htimeout
    cases htimeout
  refine ⟨h.observed, ?_, ?_, ?_, ?_⟩
  · intro leftover wake hmem htimeout
    exact absurd htimeout (hwake leftover wake hmem)
  · intro hresult
    exact absurd hresult hpoisoned
  · intro hjoined
    rcases joined_waitForShutdown h hjoined with hok | hresult
    · rcases h.signalled hok with hflag | ⟨wake, hmade, hflag⟩
      · exact .inl (by rw [hflag])
      · obtain ⟨leftover, hmem⟩ := h.mem_made.1 hmade
        exact .inr (.inl ⟨leftover, wake, hmem, hflag⟩)
    · exact absurd hresult hpoisoned
  · intro leftover wake hmem htimeout
    exact absurd htimeout (hwake leftover wake hmem)

/-- For every positive timeout and every schedule: whenever the call returns, it respects its timeout,
if and only if no wait that it makes ends by timeout. -/
theorem respectsTimeout_iff (timeout : Duration) (htimeout : 0 < timeout) (start : Nat)
    (lock : Except PoisonError Bool) (schedule : List WaitResult)
    (traceExporter : TraceExporterHandle) :
    (∀ waited, Sender.waitShutdownDone timeout start lock schedule = some waited →
      RespectsTimeout timeout start lock schedule traceExporter waited) ↔
      ∀ wait ∈ waitsMade lock schedule, wait.endsByTimeout = false := by
  have hpos : timeout ≠ 0 := Nat.ne_of_gt htimeout
  cases lock with
  | error e =>
      cases e
      constructor
      · intro _ wait hmade
        simp [waitsMade] at hmade
      · intro _ waited hwaited
        simp only [Sender.waitShutdownDone, if_neg hpos, Option.some.injEq] at hwaited
        rw [← hwaited]
        constructor <;> simp [Waited.returning]
  | ok hasShutdown =>
      simp only [Sender.waitShutdownDone, if_neg hpos]
      constructor
      · intro hrespects wait hmade
        cases hends : wait.endsByTimeout with
        | false => rfl
        | true =>
            -- the call returns poison, though nothing is poisoned
            obtain ⟨waited, hwaited⟩ := @Sender.exists_waitLoop (start + timeout) timeout _ _ _
              hmade hends
            have hsettled := Sender.settled_waitLoop hwaited
            have hresult := hsettled.mutexPoisoned.2 ⟨wait, hmade, hends⟩
            rcases (hrespects waited hwaited).mutexPoisoned hresult with hlock | hpoison
            · cases hlock
            · have htimedOut := hsettled.timedOut.2 (hsettled.mem_made.2 hpoison)
              rw [hresult] at htimedOut
              cases htimedOut
      · intro hnone waited hwaited
        exact (Sender.settled_waitLoop hwaited).respectsTimeout hnone traceExporter

/-- The worker signals while the call waits. -/
theorem respectsTimeout_signalled :
    ∃ waited, Sender.waitShutdownDone 1 0 (.ok false)
        [.ok { timedOut := false, hasShutdown := true, now := 1 }] = some waited ∧
      RespectsTimeout 1 0 (.ok false) [.ok { timedOut := false, hasShutdown := true, now := 1 }]
        { poisoned := false, handle := some .ok } waited := by
  refine ⟨_, rfl, (respectsTimeout_iff 1 (by decide) 0 _ _ _).2 ?_ _ rfl⟩
  intro wait hmade
  have hwait : wait = .ok { timedOut := false, hasShutdown := true, now := 1 } := by
    simpa [waitsMade, WaitResult.settles] using hmade
  rw [hwait]
  rfl

/-- The deadline passes while the worker is still busy: the call joins it nevertheless. -/
theorem joins_after_timeout :
    ∃ waited, Sender.waitShutdownDone 1 0 (.ok false)
        [.ok { timedOut := true, hasShutdown := false, now := 1 }] = some waited ∧
      waited.result = .error .mutexPoisoned ∧
      (DatadogExporter.waitForShutdown 1 { poisoned := false, handle := some .ok }
        waited.result).joined = true ∧
      ¬ RespectsTimeout 1 0 (.ok false) [.ok { timedOut := true, hasShutdown := false, now := 1 }]
        { poisoned := false, handle := some .ok } waited := by
  refine ⟨_, rfl, rfl, rfl, ?_⟩
  intro h
  rcases h.mutexPoisoned rfl with hlock | ⟨leftover, hmem⟩
  · cases hlock
  · simp [Waited.returning, Waited.waiting, Waited.reading] at hmem

end Otel
end DdTrace
