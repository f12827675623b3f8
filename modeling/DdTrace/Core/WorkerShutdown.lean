import DdTrace.Lib.Machine

/-!
# WorkerShutdown — waiting for a worker thread to finish

A `WorkerHandle` holds the join handle of a thread behind a lock, and the flag that the thread sets
when it has finished.  `wait_for_shutdown` takes the handle out, waits for the flag, and joins the
thread.  The lock is released while it waits, so a call is a sequence of steps, with the steps of the
worker in between; calls follow one another.

A call that gives up has lost the handle, and the next one finds none and reports a clean shutdown.
`retriable_iff` says on which runs that does not show: those in which no call gives up.
-/

namespace DdTrace
namespace Core

open Lib

inductive WorkerError
  | shutdownTimedOut
  | handleMutexPoisoned
  | workerPanicked (message : String)
  deriving DecidableEq

/-- How a thread ends.  A panic has a message if its payload is a string. -/
inductive ThreadEnd
  | returned
  | panicked (message : Option String)
  deriving DecidableEq

/-- Joining gives how the thread ends. -/
structure JoinHandle where
  outcome : ThreadEnd
  deriving DecidableEq

namespace JoinHandle

def join (handle : JoinHandle) : Except WorkerError Unit :=
  match handle.outcome with
  | .returned => .ok ()
  | .panicked (some message) => .error (.workerPanicked message)
  | .panicked none => .error (.workerPanicked "unknown panic type")

theorem join_ne_timedOut (handle : JoinHandle) : handle.join ≠ .error .shutdownTimedOut := by
  unfold join
  split <;> simp

end JoinHandle

/-- The handle with its two locks. -/
structure WorkerHandle where
  joinHandle : Option JoinHandle
  handlePoisoned : Bool
  shutdownFinished : Bool
  signalerPoisoned : Bool
  deriving DecidableEq

def WorkerHandle.new (handle : JoinHandle) : WorkerHandle :=
  { joinHandle := some handle
    handlePoisoned := false
    shutdownFinished := false
    signalerPoisoned := false }

/-- Where the current call of `wait_for_shutdown` is. -/
inductive WaitState
  | idle
  /-- It took the handle and waits for the flag. -/
  | waiting (handle : JoinHandle) (timeout : Nat)
  /-- It blocks until the thread has ended. -/
  | joining (handle : JoinHandle)
  deriving DecidableEq

/-- What a call returned, and what there was to see. -/
structure Returned where
  result : Except WorkerError Unit
  /-- The flag when the call returned. -/
  signalled : Bool
  /-- The handle that the call found, and the one that it left. -/
  found : Option JoinHandle
  left : Option JoinHandle
  joined : Bool

inductive ShutdownEvent
  | waitForShutdown (timeout : Nat)
  | signalShutdown
  /-- The wait of the current call finds the flag. -/
  | wake
  /-- The time of the current call is up, and the flag is not set. -/
  | deadline
  /-- The thread that the current call joins has ended. -/
  | threadEnd

inductive ShutdownOutput
  | returned (call : Returned)
  | silent

structure WorkerShutdown where
  worker : WorkerHandle
  call : WaitState

namespace WorkerShutdown

def start (handle : JoinHandle) : WorkerShutdown :=
  { worker := .new handle
    call := .idle }

/-- The end of a call. -/
def finish (self : WorkerShutdown) (result : Except WorkerError Unit) (found : Option JoinHandle)
    (joined : Bool) : WorkerShutdown × ShutdownOutput :=
  ({ self with call := .idle },
    .returned
      { result := result
        signalled := self.worker.shutdownFinished
        found := found
        left := self.worker.joinHandle
        joined := joined })

/-- A call up to its wait: `take()` leaves no handle behind. -/
def waitForShutdown (self : WorkerShutdown) (timeout : Nat) : WorkerShutdown × ShutdownOutput :=
  if self.worker.handlePoisoned then
    self.finish (.error .handleMutexPoisoned) self.worker.joinHandle false
  else
    match self.worker.joinHandle with
    | none => self.finish (.ok ()) none false
    | some handle =>
        ({ self with
            worker := { self.worker with joinHandle := none }
            call := .waiting handle timeout }, .silent)

/-- The calls, one after the other, and the worker. -/
def machine : Machine WorkerShutdown ShutdownEvent ShutdownOutput :=
  fun self event =>
    match event with
    | .waitForShutdown timeout =>
        match self.call with
        | .idle => some (self.waitForShutdown timeout)
        | _ => none
    | .signalShutdown =>
        if self.worker.signalerPoisoned then none
        else some ({ self with worker := { self.worker with shutdownFinished := true } }, .silent)
    | .wake =>
        match self.call with
        | .waiting handle _ =>
            -- a poisoned lock counts as the end of the wait
            if self.worker.signalerPoisoned || self.worker.shutdownFinished then
              some ({ self with call := .joining handle }, .silent)
            else none
        | _ => none
    | .deadline =>
        match self.call with
        | .waiting handle _ =>
            if self.worker.signalerPoisoned || self.worker.shutdownFinished then none
            else some (self.finish (.error .shutdownTimedOut) (some handle) false)
        | _ => none
    | .threadEnd =>
        match self.call with
        | .joining handle => some (self.finish handle.join (some handle) true)
        | _ => none

/-- What an event does, and when it can happen. -/
inductive Steps (s : WorkerShutdown) : ShutdownEvent → WorkerShutdown → ShutdownOutput → Prop
  | call (timeout : Nat) {u : WorkerShutdown} {o : ShutdownOutput} :
      s.call = .idle → s.waitForShutdown timeout = (u, o) → Steps s (.waitForShutdown timeout) u o
  | signal :
      Steps s .signalShutdown { s with worker := { s.worker with shutdownFinished := true } } .silent
  | wake (taken : JoinHandle) (timeout : Nat) :
      s.call = .waiting taken timeout →
        (s.worker.signalerPoisoned || s.worker.shutdownFinished) = true →
          Steps s .wake { s with call := .joining taken } .silent
  | deadline (taken : JoinHandle) (timeout : Nat) {u : WorkerShutdown} {o : ShutdownOutput} :
      s.call = .waiting taken timeout →
        s.finish (.error .shutdownTimedOut) (some taken) false = (u, o) → Steps s .deadline u o
  | threadEnd (taken : JoinHandle) {u : WorkerShutdown} {o : ShutdownOutput} :
      s.call = .joining taken → s.finish taken.join (some taken) true = (u, o) →
        Steps s .threadEnd u o

theorem steps_of_machine {s u : WorkerShutdown} {e : ShutdownEvent} {o : ShutdownOutput}
    (h : machine s e = some (u, o)) : Steps s e u o := by
  cases e with
  | waitForShutdown timeout =>
      simp only [machine] at h
      split at h
      · rename_i hidle
        exact .call timeout hidle (Option.some.inj h)
      · cases h
  | signalShutdown =>
      simp only [machine] at h
      split at h
      · cases h
      · cases h
        exact .signal
  | wake =>
      simp only [machine] at h
      split at h
      · rename_i taken timeout hcall
        split at h
        · rename_i hflag
          cases h
          exact .wake taken timeout hcall hflag
        · cases h
      · cases h
  | deadline =>
      simp only [machine] at h
      split at h
      · rename_i taken timeout hcall
        split at h
        · cases h
        · exact .deadline taken timeout hcall (Option.some.inj h)
      · cases h
  | threadEnd =>
      simp only [machine] at h
      split at h
      · rename_i taken hcall
        exact .threadEnd taken hcall (Option.some.inj h)
      · cases h

/-! ## The law of the calls -/

def returns : ShutdownEvent × ShutdownOutput → List Returned
  | (_, .returned call) => [call]
  | _ => []

/-- A timed-out shutdown can be retried. -/
structure Retriable (calls : List Returned) : Prop where
  /-- A clean shutdown is reported only after the worker has signalled. -/
  signalled : ∀ call ∈ calls, call.result = .ok () → call.signalled = true
  kept : ∀ call ∈ calls, call.result = .error .shutdownTimedOut → call.left = call.found
  /-- Once a call did not time out, the worker was joined, by one call. -/
  joinedOnce : (∃ call ∈ calls, call.result ≠ .error .shutdownTimedOut) →
    (calls.filter fun call => call.joined).length = 1

/-- Whether the handle is still there, taken by the current call, or used up. -/
inductive Holds (handle : JoinHandle) (s : WorkerShutdown) (calls : List Returned) : Prop
  | idle :
      s.call = .idle → s.worker.joinHandle = some handle → calls = [] → Holds handle s calls
  | waiting (timeout : Nat) :
      s.call = .waiting handle timeout → s.worker.joinHandle = none → calls = [] →
        Holds handle s calls
  | joining :
      s.call = .joining handle → s.worker.joinHandle = none → s.worker.shutdownFinished = true →
        calls = [] → Holds handle s calls
  | done :
      s.call = .idle → s.worker.joinHandle = none → s.worker.shutdownFinished = true →
        (calls.filter fun call => call.joined).length = 1 → Holds handle s calls

/-- What is known along a run in which no call gives up. -/
structure Unhurried (handle : JoinHandle) (s : WorkerShutdown) (calls : List Returned) : Prop where
  sound : s.worker.handlePoisoned = false ∧ s.worker.signalerPoisoned = false
  holds : Holds handle s calls
  signalled : ∀ call ∈ calls, call.signalled = true
  noTimeout : ∀ call ∈ calls, call.result ≠ .error .shutdownTimedOut

theorem Unhurried.start (handle : JoinHandle) : Unhurried handle (start handle) [] :=
  ⟨⟨rfl, rfl⟩, .idle rfl rfl rfl, by simp, by simp⟩

theorem Unhurried.retriable {handle : JoinHandle} {s : WorkerShutdown} {calls : List Returned}
    (h : Unhurried handle s calls) : Retriable calls := by
  refine ⟨fun call hcall _ => h.signalled call hcall, ?_, ?_⟩
  · intro call hcall htimeout
    exact absurd htimeout (h.noTimeout call hcall)
  · rintro ⟨call, hcall, -⟩
    cases h.holds with
    | done _ _ _ hjoined => exact hjoined
    | idle _ _ hnone => exact absurd hcall (by simp [hnone])
    | waiting _ _ _ hnone => exact absurd hcall (by simp [hnone])
    | joining _ _ _ hnone => exact absurd hcall (by simp [hnone])

/-- A call that starts: it takes the handle, or finds that it was used up. -/
theorem Unhurried.call {handle : JoinHandle} {s u : WorkerShutdown} {calls : List Returned}
    {o : ShutdownOutput} {timeout : Nat} (h : Unhurried handle s calls) (hidle : s.call = .idle)
    (hstep : s.waitForShutdown timeout = (u, o)) :
    Unhurried handle u (calls ++ returns (.waitForShutdown timeout, o)) := by
  unfold waitForShutdown at hstep
  rw [h.sound.1, if_neg Bool.false_ne_true] at hstep
  cases h.holds with
  | idle _ hhandle hnone =>
      rw [hhandle] at hstep
      cases hstep
      exact ⟨h.sound, .waiting timeout rfl rfl (by simp [hnone, returns]), by simp [hnone, returns],
        by simp [hnone, returns]⟩
  | waiting _ hcall => exact absurd (hcall.symm.trans hidle) (by simp)
  | joining hcall => exact absurd (hcall.symm.trans hidle) (by simp)
  | done _ hhandle hfinished hjoined =>
      rw [hhandle] at hstep
      cases hstep
      refine ⟨h.sound, .done rfl hhandle hfinished ?_, ?_, ?_⟩
      · simpa [returns] using hjoined
      · intro call hcall
        rcases List.mem_append.1 hcall with hcall | hcall
        · exact h.signalled call hcall
        · rw [List.mem_singleton.1 hcall]
          exact hfinished
      · intro call hcall
        rcases List.mem_append.1 hcall with hcall | hcall
        · exact h.noTimeout call hcall
        · rw [List.mem_singleton.1 hcall]
          simp

/-- The worker signals. -/
theorem Unhurried.signal {handle : JoinHandle} {s : WorkerShutdown} {calls : List Returned}
    (h : Unhurried handle s calls) :
    Unhurried handle { s with worker := { s.worker with shutdownFinished := true } } calls := by
  refine ⟨h.sound, ?_, h.signalled, h.noTimeout⟩
  cases h.holds with
  | idle hcall hhandle hnone => exact .idle hcall hhandle hnone
  | waiting timeout hcall hhandle hnone => exact .waiting timeout hcall hhandle hnone
  | joining hcall hhandle _ hnone => exact .joining hcall hhandle rfl hnone
  | done hcall hhandle _ hjoined => exact .done hcall hhandle rfl hjoined

/-- The worker is joined after it has signalled. -/
theorem Unhurried.join {handle : JoinHandle} {s : WorkerShutdown} {calls : List Returned}
    {taken : JoinHandle} (h : Unhurried handle s calls) (hcall : s.call = .joining taken) :
    Unhurried handle (s.finish taken.join (some taken) true).1
      (calls ++ returns (.threadEnd, (s.finish taken.join (some taken) true).2)) := by
  cases h.holds with
  | joining _ hhandle hfinished hnone =>
      have hne := taken.join_ne_timedOut
      refine ⟨h.sound, .done rfl hhandle hfinished ?_, ?_, ?_⟩
      · simp [hnone, returns, finish]
      · simpa [returns, finish, hnone] using hfinished
      · simpa [returns, finish, hnone] using hne
  | idle hidle => exact absurd (hidle.symm.trans hcall) (by simp)
  | waiting _ hwaiting => exact absurd (hwaiting.symm.trans hcall) (by simp)
  | done hidle => exact absurd (hidle.symm.trans hcall) (by simp)

/-- The wait finds the flag: the call goes on to join. -/
theorem Unhurried.wake {handle taken : JoinHandle} {s : WorkerShutdown} {calls : List Returned}
    {timeout : Nat} (h : Unhurried handle s calls) (hcall : s.call = .waiting taken timeout)
    (hfinished : s.worker.shutdownFinished = true) :
    Unhurried handle { s with call := .joining taken } calls := by
  refine ⟨h.sound, ?_, h.signalled, h.noTimeout⟩
  cases h.holds with
  | waiting _ hwaiting hhandle hnone =>
      have htaken : handle = taken := by
        rw [hwaiting] at hcall
        cases hcall
        rfl
      rw [← htaken]
      exact .joining rfl hhandle hfinished hnone
  | idle hidle => exact absurd (hidle.symm.trans hcall) (by simp)
  | joining hjoining => exact absurd (hjoining.symm.trans hcall) (by simp)
  | done hidle => exact absurd (hidle.symm.trans hcall) (by simp)

theorem Unhurried.step {handle : JoinHandle} {s u : WorkerShutdown} {calls : List Returned}
    {e : ShutdownEvent} {o : ShutdownOutput} (h : Unhurried handle s calls) (he : e ≠ .deadline)
    (hstep : machine s e = some (u, o)) : Unhurried handle u (calls ++ returns (e, o)) := by
  cases steps_of_machine hstep with
  | call timeout hidle hcall => exact h.call hidle hcall
  | signal => simpa [returns] using h.signal
  | wake taken timeout hcall hflag =>
      rw [h.sound.2, Bool.false_or] at hflag
      simpa [returns] using h.wake hcall hflag
  | deadline => exact absurd rfl he
  | threadEnd taken hcall hfinish =>
      have hjoin := h.join hcall
      rw [hfinish] at hjoin
      exact hjoin

/-- A call in progress has taken the handle. -/
def Taken (s : WorkerShutdown) : Prop := s.call ≠ .idle → s.worker.joinHandle = none

theorem taken_of_idle {s : WorkerShutdown} (h : s.call = .idle) : Taken s := by
  intro hne
  exact absurd h hne

theorem Taken.step {s u : WorkerShutdown} {e : ShutdownEvent} {o : ShutdownOutput} (h : Taken s)
    (hstep : machine s e = some (u, o)) : Taken u := by
  cases steps_of_machine hstep with
  | call timeout hidle hcall =>
      unfold waitForShutdown at hcall
      split at hcall
      · cases hcall
        exact taken_of_idle rfl
      · split at hcall
        · cases hcall
          exact taken_of_idle rfl
        · -- the only call that goes on takes the handle
          cases hcall
          intro _
          rfl
  | signal => exact h
  | wake taken timeout hcall _ =>
      intro _
      exact h (by simp [hcall])
  | deadline taken timeout hcall hfinish =>
      cases hfinish
      exact taken_of_idle rfl
  | threadEnd taken hcall hfinish =>
      cases hfinish
      exact taken_of_idle rfl

/-- A call that gives up has found a handle, and leaves none. -/
theorem Taken.deadline {s u : WorkerShutdown} {o : ShutdownOutput} (h : Taken s)
    (hstep : machine s .deadline = some (u, o)) :
    ∃ call taken, o = .returned call ∧ call.result = .error .shutdownTimedOut ∧
      call.found = some taken ∧ call.left = none := by
  cases steps_of_machine hstep with
  | deadline taken timeout hcall hfinish =>
      have hnone : s.worker.joinHandle = none := h (by simp [hcall])
      cases hfinish
      exact ⟨_, taken, rfl, rfl, rfl, hnone⟩

/-- A run in which a call gives up has lost the handle there. -/
theorem exists_lost {handle : JoinHandle} {l : List (ShutdownEvent × ShutdownOutput)}
    {s : WorkerShutdown} (h : Machine.Run machine (start handle) l s)
    (hdeadline : ∃ x ∈ l, x.1 = .deadline) :
    ∃ call ∈ l.flatMap returns, call.result = .error .shutdownTimedOut ∧ call.left ≠ call.found := by
  induction h with
  | start => simp at hdeadline
  | @step l t u e o hrun hstep ih =>
      rw [List.flatMap_append]
      by_cases hearlier : ∃ x ∈ l, x.1 = .deadline
      · obtain ⟨call, hcall, hlost⟩ := ih hearlier
        exact ⟨call, List.mem_append_left _ hcall, hlost⟩
      · have he : e = .deadline := by
          obtain ⟨x, hx, hxe⟩ := hdeadline
          rcases List.mem_append.1 hx with hx | hx
          · exact absurd ⟨x, hx, hxe⟩ hearlier
          · rw [List.mem_singleton.1 hx] at hxe
            exact hxe
        have htaken : Taken t :=
          hrun.preserves (I := Taken) (fun h hstep => h.step hstep) (taken_of_idle rfl)
        rw [he] at hstep
        obtain ⟨call, taken, rfl, hresult, hfound, hleft⟩ := htaken.deadline hstep
        refine ⟨call, List.mem_append_right _ (by simp [returns]), hresult, ?_⟩
        rw [hfound, hleft]
        simp

/-- For every order of calls, signals and timeouts, with no lock poisoned: a shutdown that timed out
can be retried, and `Ok` means that the worker has signalled, if and only if no call times out. -/
theorem retriable_iff (handle : JoinHandle) {l : List (ShutdownEvent × ShutdownOutput)}
    {s : WorkerShutdown} (h : Machine.Run machine (start handle) l s) :
    Retriable (l.flatMap returns) ↔ ∀ x ∈ l, x.1 ≠ .deadline := by
  constructor
  · intro hretriable x hx hdeadline
    obtain ⟨call, hcall, hresult, hlost⟩ := exists_lost h ⟨x, hx, hdeadline⟩
    exact hlost (hretriable.kept call hcall hresult)
  · intro hnone
    have hunhurried : Unhurried handle s (l.flatMap returns) := by
      -- the condition on the whole run is one on each step of it
      induction h with
      | start => exact .start handle
      | @step l t u e o _ hstep ih =>
          have hearlier := ih fun x hx => hnone x (List.mem_append_left _ hx)
          have he : e ≠ .deadline := hnone (e, o) (List.mem_append_right _ (by simp))
          simpa using hearlier.step he hstep
    exact hunhurried.retriable

/-- The worker signals while the call waits, and is joined. -/
theorem retriable_patientRun :
    ∃ l s, Machine.Run machine (start { outcome := .returned }) l s ∧
      l.map Prod.fst = [.waitForShutdown 1, .signalShutdown, .wake, .threadEnd,
        .waitForShutdown 1] ∧ Retriable (l.flatMap returns) := by
  have hrun := Machine.run_of_exec (m := machine) (s := start { outcome := .returned })
    [.waitForShutdown 1, .signalShutdown, .wake, .threadEnd, .waitForShutdown 1] rfl
  refine ⟨_, _, hrun, rfl, (retriable_iff _ hrun).2 ?_⟩
  simp

/-- A first call gives up; the second one reports a clean shutdown, though the worker still runs. -/
theorem second_call_ok_unsignalled :
    ∃ l s, Machine.Run machine (start { outcome := .returned }) l s ∧
      (l.flatMap returns).map (fun call => (call.result, call.signalled, call.joined)) =
        [(.error .shutdownTimedOut, false, false), (.ok (), false, false)] ∧
      ¬ Retriable (l.flatMap returns) := by
  have hrun := Machine.run_of_exec (m := machine) (s := start { outcome := .returned })
    [.waitForShutdown 1, .deadline, .waitForShutdown 1] rfl
  refine ⟨_, _, hrun, rfl, ?_⟩
  intro hretriable
  have hsignalled := hretriable.signalled
    { result := .ok (), signalled := false, found := none, left := none, joined := false }
    (by simp [returns, start, WorkerHandle.new]) rfl
  cases hsignalled

end WorkerShutdown

end Core
end DdTrace
