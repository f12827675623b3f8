import DdTrace.Otel.ExporterRuns

/-!
# QueueInvariant — the counter, the limit and the wake-up of the queue

The counter of the batch is updated beside the list of chunks, the limit is checked before a chunk is
added and the flush threshold after it.  `QueueInvariant` says how the three stay together; it holds
in every state that the senders, the metrics fetcher and the worker can reach.

A worker that waits is woken by the condition variable.  The machine `watched` keeps a flag beside the
channel: whether `notify_all` was called since the worker went to wait.  A worker is never left
waiting for something that is there without having been notified (`queue_invariant`).
-/

namespace DdTrace
namespace Otel

open Lib

variable {R : Type*}

/-! ## The batch -/

namespace Batch

/-- The number of spans in the chunk that was added last. -/
def lastLength (self : Batch) : Nat := self.chunks.getLast?.elim 0 List.length

/-- The counter is right, and only the last chunk goes over the limit. -/
structure WellKept (batch : Batch) (maxBufferedSpans : Nat) : Prop where
  limit : batch.maxBufferedSpans = maxBufferedSpans
  counted : batch.spanCount = (batch.chunks.map List.length).sum
  bounded : batch.spanCount - batch.lastLength ≤ maxBufferedSpans

theorem WellKept.new (maxBufferedSpans : Nat) :
    (Batch.new maxBufferedSpans).WellKept maxBufferedSpans :=
  ⟨rfl, rfl, Nat.zero_le _⟩

theorem WellKept.export {batch : Batch} {maxBufferedSpans : Nat}
    (h : batch.WellKept maxBufferedSpans) : batch.exportChunks.2.WellKept maxBufferedSpans :=
  ⟨h.limit, rfl, Nat.zero_le _⟩

theorem WellKept.add {batch batch' : Batch} {maxBufferedSpans : Nat} {chunk : TraceChunk}
    (h : batch.WellKept maxBufferedSpans) (hadd : batch.addTraceChunk chunk = .ok batch') :
    batch'.WellKept maxBufferedSpans := by
  unfold addTraceChunk at hadd
  split at hadd
  · cases hadd
  · rename_i hroom
    split at hadd
    · -- an empty chunk is not queued
      cases hadd
      exact h
    · cases hadd
      have hlimit := h.limit
      refine ⟨hlimit, ?_, ?_⟩
      · simp [h.counted]
      · -- without the new chunk there are as many spans as before, which passed the check
        have hlast : lastLength
            { batch with
              chunks := batch.chunks ++ [chunk]
              spanCount := batch.spanCount + chunk.length } = chunk.length := by
          simp [lastLength]
        rw [hlast]
        simp only [Nat.add_sub_cancel]
        exact hlimit ▸ Nat.le_of_not_lt hroom

end Batch

/-! ## The shared state -/

/-- How the counter, the limit and the flag of the queue stay together. -/
structure QueueInvariant (tx : Sender) (maxBufferedSpans : Nat) (state : SharedState R) : Prop where
  batch : state.batch.WellKept maxBufferedSpans
  flushed : tx.flushTriggerNumberOfSpans < state.batch.spanCount → state.flushNeeded = true

/-- Something that the worker has to attend to. -/
def SharedState.pending (state : SharedState R) : Bool :=
  state.setResource.isSome || state.shutdownNeeded || state.flushNeeded

namespace QueueInvariant

variable {tx : Sender} {maxBufferedSpans : Nat} {state state' : SharedState R}

theorem new : QueueInvariant tx maxBufferedSpans (SharedState.new maxBufferedSpans : SharedState R) :=
  ⟨.new maxBufferedSpans, fun h => absurd h (Nat.not_lt_zero _)⟩

/-- A section that leaves the batch alone and does not take the flag back. -/
theorem keep (h : QueueInvariant tx maxBufferedSpans state) (hbatch : state'.batch = state.batch)
    (hflush : state.flushNeeded = true → state'.flushNeeded = true) :
    QueueInvariant tx maxBufferedSpans state' := by
  refine ⟨hbatch ▸ h.batch, ?_⟩
  intro hover
  rw [hbatch] at hover
  exact hflush (h.flushed hover)

/-- A section that takes the whole batch. -/
theorem take (h : QueueInvariant tx maxBufferedSpans state)
    (hbatch : state'.batch = state.batch.exportChunks.2) :
    QueueInvariant tx maxBufferedSpans state' := by
  refine ⟨hbatch ▸ h.batch.export, ?_⟩
  intro hover
  rw [hbatch] at hover
  exact absurd hover (Nat.not_lt_zero _)

theorem getRunningState (h : QueueInvariant tx maxBufferedSpans state)
    {act : SharedState R → Except SenderError Unit × SharedState R}
    (hact : QueueInvariant tx maxBufferedSpans (act state).2) :
    QueueInvariant tx maxBufferedSpans (Sender.getRunningState state act).2 := by
  unfold Sender.getRunningState
  split
  · exact h
  · exact hact

/-- The threshold is checked after a chunk was added. -/
theorem addTraceChunk (h : QueueInvariant tx maxBufferedSpans state) (chunk : TraceChunk) :
    QueueInvariant tx maxBufferedSpans (tx.addTraceChunk chunk state).2 := by
  apply h.getRunningState
  cases hadd : state.batch.addTraceChunk chunk with
  | error e => exact h.keep rfl id
  | ok batch =>
      refine ⟨h.batch.add hadd, ?_⟩
      intro hover
      have hdecide : decide (batch.spanCount > tx.flushTriggerNumberOfSpans) = true :=
        decide_eq_true hover
      simp [hdecide]

end QueueInvariant

/-! ## The passes of the worker -/

/-- What a pass through the loop of `receive` does, in the order of its checks. -/
inductive Receiver.Passes (state : SharedState R) : Option (Received R) × SharedState R → Prop
  | resource (resource : R) :
      state.setResource = some resource →
        Passes state (some (.setResource resource, []), { state with setResource := none })
  | shutdown :
      state.shutdownNeeded = true →
        Passes state
          (some (.shutdown, state.batch.chunks), { state with batch := state.batch.exportChunks.2 })
  | flush :
      state.flushNeeded = true →
        Passes state
          (some (.flushTraceChunks, state.batch.chunks),
            { state with flushNeeded := false, batch := state.batch.exportChunks.2 })
  | timeout :
      Passes state
        (some (.flushTraceChunksWithTimeout, state.batch.chunks),
          { state with batch := state.batch.exportChunks.2 })
  | wait :
      state.pending = false → Passes state (none, state)

theorem Receiver.passes_pass (deadlinePassed : Bool) (state : SharedState R) :
    Passes state (pass deadlinePassed state) := by
  rcases state with ⟨flushNeeded, shutdownNeeded, hasShutdown, batch, resource | _, metrics⟩
  · simp only [pass]
    split_ifs with hshutdown hflush hdeadline
    · exact .shutdown hshutdown
    · exact .flush hflush
    · exact .timeout
    · exact .wait (by simp [SharedState.pending, hshutdown, hflush])
  · exact .resource _ rfl

theorem Receiver.passes_wake (timedOut deadlinePassed : Bool) (state : SharedState R) :
    Passes state (wake timedOut deadlinePassed state) := by
  cases timedOut with
  | true => exact .timeout
  | false => exact passes_pass deadlinePassed state

theorem QueueInvariant.pass {tx : Sender} {maxBufferedSpans : Nat} {state : SharedState R}
    {cs : Option (Received R) × SharedState R} (h : QueueInvariant tx maxBufferedSpans state)
    (hpass : Receiver.Passes state cs) : QueueInvariant tx maxBufferedSpans cs.2 := by
  cases hpass with
  | resource => exact h.keep rfl id
  | shutdown => exact h.take rfl
  | flush => exact h.take rfl
  | timeout => exact h.take rfl
  | wait => exact h

/-! ## The condition variable -/

namespace Channel

/-- Whether the critical section of an event ends with `notify_all`. -/
def notifies (tx : Sender) (state : SharedState R) : ChannelEvent R → Bool
  | .addTraceChunk chunk =>
      match tx.addTraceChunk chunk state with
      | (.ok (), state) => state.batch.spanCount > tx.flushTriggerNumberOfSpans
      | (.error _, _) => false
  | .setResource _ => !state.hasShutdown
  | .triggerFlush => !state.hasShutdown
  | .triggerShutdown => !state.hasShutdown
  | .drop => true
  | _ => false

/-- The channel, and whether there was a notification since the worker went to wait last. -/
def watched (tx : Sender) : Machine (Channel R × Bool) (ChannelEvent R) (ChannelOutput R) :=
  fun (self, notified) event =>
    (machine tx self event).map fun (next, output) =>
      match event with
      | .receive _ => ((next, false), output)
      | .wake _ _ => ((next, false), output)
      | _ => ((next, notified || notifies tx self.state event), output)

/-- The flag beside the channel does not change what the channel does. -/
theorem exists_watched {tx : Sender} {s t : Channel R} {notified : Bool}
    {l : List (ChannelEvent R × ChannelOutput R)} (h : Machine.Run (machine tx) s l t) :
    ∃ notified', Machine.Run (watched tx) (s, notified) l (t, notified') := by
  induction h with
  | start => exact ⟨notified, .start⟩
  | @step l t u e o _ hstep ih =>
      obtain ⟨notified', hrun⟩ := ih
      have hwatched : ∃ notified'', watched tx (t, notified') e = some ((u, notified''), o) := by
        simp only [watched, hstep, Option.map_some]
        cases e <;> exact ⟨_, rfl⟩
      obtain ⟨notified'', hwatched⟩ := hwatched
      exact ⟨notified'', hrun.step hwatched⟩

/-- A worker that waits for something that is there was notified. -/
def Woken (s : Channel R × Bool) : Prop :=
  s.1.worker = .waiting → s.1.state.pending = true → s.2 = true

/-- A step that brings in nothing to attend to. -/
theorem Woken.keep {s u : Channel R} {notified : Bool} (h : Woken (s, notified))
    (hworker : u.worker = s.worker) (hpending : u.state.pending = s.state.pending) (more : Bool) :
    Woken (u, notified || more) := by
  intro huworker hupending
  have hnotified : notified = true := h (hworker ▸ huworker) (hpending ▸ hupending)
  simp [hnotified]

/-- A section that a sender is refused, or that notifies. -/
theorem Woken.getRunningState {s : Channel R} {notified : Bool}
    {act : SharedState R → Except SenderError Unit × SharedState R} (h : Woken (s, notified)) :
    Woken ((s.send (Sender.getRunningState s.state act)).1,
      notified || !s.state.hasShutdown) := by
  cases hshut : s.state.hasShutdown with
  | true =>
      refine Woken.keep h ?_ ?_ _
      · rfl
      · simp [send, Sender.getRunningState, hshut]
  | false =>
      intro _ _
      simp

/-- A chunk is something to attend to if it reaches the threshold; then the sender notifies. -/
theorem pending_addTraceChunk (tx : Sender) (chunk : TraceChunk) (state : SharedState R) :
    (tx.addTraceChunk chunk state).2.pending =
      (state.pending || notifies tx state (.addTraceChunk chunk)) := by
  unfold notifies Sender.addTraceChunk Sender.getRunningState
  cases hshut : state.hasShutdown with
  | true => simp
  | false =>
      cases hadd : state.batch.addTraceChunk chunk with
      | error e => simp [hadd, SharedState.pending]
      | ok batch => simp [hadd, SharedState.pending, Bool.or_assoc]

theorem Woken.addTraceChunk {tx : Sender} {s : Channel R} {notified : Bool}
    (h : Woken (s, notified)) (chunk : TraceChunk) :
    Woken ((s.send (tx.addTraceChunk chunk s.state)).1,
      notified || notifies tx s.state (.addTraceChunk chunk)) := by
  have hpending := pending_addTraceChunk tx chunk s.state
  cases hnotifies : notifies tx s.state (.addTraceChunk chunk) with
  | true =>
      intro _ _
      simp
  | false =>
      rw [hnotifies, Bool.or_false] at hpending
      have hworker : (s.send (tx.addTraceChunk chunk s.state)).1.worker = s.worker := rfl
      exact h.keep hworker hpending _

/-- A pass that waits has found nothing to attend to. -/
theorem Woken.recv {s : Channel R} {cs : Option (Received R) × SharedState R}
    (h : Receiver.Passes s.state cs) : Woken ((s.recv cs).1, false) := by
  intro hworker hpending
  cases h with
  | wait hnone =>
      exact absurd hpending (by simp [Channel.recv, hnone])
  | _ => cases hworker

theorem Woken.step {tx : Sender} {s u : Channel R × Bool} {e : ChannelEvent R}
    {o : ChannelOutput R} (h : Woken s) (hstep : watched tx s e = some (u, o)) : Woken u := by
  obtain ⟨s, notified⟩ := s
  obtain ⟨⟨next, output⟩, hmachine, heq⟩ := Option.map_eq_some_iff.1 hstep
  cases steps_of_machine hmachine with
  | addTraceChunk chunk =>
      cases heq
      exact h.addTraceChunk chunk
  | setResource resource =>
      cases heq
      exact h.getRunningState
  | triggerFlush =>
      cases heq
      exact h.getRunningState
  | triggerShutdown =>
      cases heq
      exact h.getRunningState
  | getMetrics =>
      cases heq
      exact h.keep rfl rfl _
  | receive deadlinePassed _ =>
      cases heq
      exact .recv (Receiver.passes_pass _ _)
  | wake timedOut deadlinePassed _ =>
      cases heq
      exact .recv (Receiver.passes_wake _ _ _)
  | handle message data _ =>
      -- the worker goes on, and does not wait
      cases heq
      intro hworker
      cases message <;> cases hworker
  | drop _ =>
      cases heq
      intro hworker
      cases hworker

/-! ## Steps and runs -/

theorem invariant_step {tx : Sender} {maxBufferedSpans : Nat} {s u : Channel R}
    {e : ChannelEvent R} {o : ChannelOutput R}
    (h : QueueInvariant tx maxBufferedSpans s.state) (hstep : machine tx s e = some (u, o)) :
    QueueInvariant tx maxBufferedSpans u.state := by
  cases steps_of_machine hstep with
  | addTraceChunk chunk => exact h.addTraceChunk chunk
  | setResource resource => exact h.getRunningState (h.keep rfl id)
  | triggerFlush => exact h.getRunningState (h.keep rfl fun _ => rfl)
  | triggerShutdown => exact h.getRunningState (h.keep rfl id)
  | getMetrics => exact h.keep rfl id
  | receive deadlinePassed _ => exact h.pass (Receiver.passes_pass _ _)
  | wake timedOut deadlinePassed _ => exact h.pass (Receiver.passes_wake _ _ _)
  | handle message data _ => exact h.keep rfl id
  | drop _ => exact h.keep rfl id

/-- The senders do not take the flag back. -/
theorem flushNeeded_getRunningState {state : SharedState R}
    {act : SharedState R → Except SenderError Unit × SharedState R}
    (hact : (act state).2.flushNeeded = true) (h : state.flushNeeded = true) :
    (Sender.getRunningState state act).2.flushNeeded = true := by
  unfold Sender.getRunningState
  split
  · exact h
  · exact hact

theorem flushNeeded_addTraceChunk (tx : Sender) (chunk : TraceChunk) {state : SharedState R}
    (h : state.flushNeeded = true) : (tx.addTraceChunk chunk state).2.flushNeeded = true := by
  refine flushNeeded_getRunningState ?_ h
  cases state.batch.addTraceChunk chunk with
  | error e => exact h
  | ok batch => simp [h]

/-- A step is a pass of the worker, or has nothing to do with `receive` and leaves the flag set. -/
theorem pass_or_keep {tx : Sender} {s u : Channel R} {e : ChannelEvent R} {o : ChannelOutput R}
    (hstep : machine tx s e = some (u, o)) :
    (∃ cs, (u, o) = s.recv cs ∧ Receiver.Passes s.state cs) ∨
      (s.state.flushNeeded = true → u.state.flushNeeded = true) ∧ o ≠ .received none := by
  cases steps_of_machine hstep with
  | addTraceChunk chunk => exact .inr ⟨flushNeeded_addTraceChunk tx chunk, by simp [send]⟩
  | setResource resource => exact .inr ⟨fun h => flushNeeded_getRunningState h h, by simp [send]⟩
  | triggerFlush => exact .inr ⟨fun h => flushNeeded_getRunningState rfl h, by simp [send]⟩
  | triggerShutdown => exact .inr ⟨fun h => flushNeeded_getRunningState h h, by simp [send]⟩
  | getMetrics => exact .inr ⟨id, by simp⟩
  | receive deadlinePassed _ => exact .inl ⟨_, rfl, Receiver.passes_pass deadlinePassed _⟩
  | wake timedOut deadlinePassed _ =>
      exact .inl ⟨_, rfl, Receiver.passes_wake timedOut deadlinePassed _⟩
  | handle message data _ =>
      refine .inr ⟨id, ?_⟩
      simp only [handle]
      split <;> simp
  | drop _ => exact .inr ⟨id, by simp⟩

/-- The flag is taken back only by the pass that returns the whole batch. -/
theorem flush_taken_back {tx : Sender} {s u : Channel R} {e : ChannelEvent R} {o : ChannelOutput R}
    (hstep : machine tx s e = some (u, o)) (hflush : s.state.flushNeeded = true)
    (htaken : u.state.flushNeeded = false) :
    o = .received (some (.flushTraceChunks, s.state.batch.chunks)) ∧ u.state.batch.chunks = [] := by
  rcases pass_or_keep hstep with ⟨cs, heq, hpass⟩ | ⟨hkeep, -⟩
  · simp only [recv, Prod.mk.injEq] at heq
    obtain ⟨rfl, rfl⟩ := heq
    cases hpass with
    | flush => exact ⟨rfl, rfl⟩
    | _ =>
        -- the other passes leave the flag as it is
        rw [hflush] at htaken
        cases htaken
  · rw [hkeep hflush] at htaken
    cases htaken

/-- `receive` waits only if there is nothing to attend to. -/
theorem pending_of_wait {tx : Sender} {s u : Channel R} {e : ChannelEvent R}
    (hstep : machine tx s e = some (u, .received none)) : s.state.pending = false := by
  rcases pass_or_keep hstep with ⟨cs, heq, hpass⟩ | ⟨-, hne⟩
  · simp only [recv, Prod.mk.injEq, ChannelOutput.received.injEq] at heq
    obtain ⟨-, hnone⟩ := heq
    cases hpass with
    | wait h => exact h
    | _ => cases hnone
  · exact absurd rfl hne

/-- In every state that can be reached, the counter is right, only the last chunk goes over the limit
and the threshold sets the flag, which is taken back only with the batch; `receive` does not go to
wait while there is something to attend to, and where it waits it was notified of it. -/
theorem queue_invariant (tx : Sender) {maxNumberOfSpans : Nat} {otelResource : R}
    {l : List (ChannelEvent R × ChannelOutput R)} {s : Channel R}
    (h : Machine.Run (machine tx) (init maxNumberOfSpans otelResource) l s) :
    s.state.batch.spanCount = (s.state.batch.chunks.map List.length).sum ∧
    s.state.batch.spanCount - s.state.batch.lastLength ≤ maxNumberOfSpans ∧
    (s.state.batch.spanCount > tx.flushTriggerNumberOfSpans → s.state.flushNeeded = true) ∧
    (∀ e u o, machine tx s e = some (u, o) → s.state.flushNeeded = true →
      u.state.flushNeeded = false →
        o = .received (some (.flushTraceChunks, s.state.batch.chunks)) ∧
          u.state.batch.chunks = []) ∧
    (∀ e u, machine tx s e = some (u, .received none) → s.state.pending = false) ∧
    ∃ notified,
      Machine.Run (watched tx) (init maxNumberOfSpans otelResource, false) l (s, notified) ∧
        (s.worker = .waiting → s.state.pending = true → notified = true) := by
  have hinvariant : QueueInvariant tx maxNumberOfSpans s.state :=
    h.preserves (I := fun s => QueueInvariant tx maxNumberOfSpans s.state)
      (fun h hstep => invariant_step h hstep) .new
  obtain ⟨notified, hwatched⟩ := @exists_watched _ _ _ _ false _ h
  have hwoken : Woken (s, notified) := by
    refine hwatched.preserves (I := Woken) (fun h hstep => h.step hstep) ?_
    intro hworker
    cases hworker
  exact ⟨hinvariant.batch.counted, hinvariant.batch.bounded, hinvariant.flushed,
    fun e u o hstep hflush htaken => flush_taken_back hstep hflush htaken,
    fun e u hstep => pending_of_wait hstep, notified, hwatched, hwoken⟩

/-- A chunk over the threshold, while the worker waits. -/
def wokenRun : List (ChannelEvent Unit) :=
  [.receive false, .addTraceChunk [.ofIds 1 1, .ofIds 1 2]]

theorem queue_invariant_wokenRun :
    ∃ l s, Machine.Run (machine { flushTriggerNumberOfSpans := 1 }) (init 1 ()) l s ∧
      l.map Prod.fst = wokenRun ∧ s.state.batch.spanCount = 2 ∧ s.state.flushNeeded = true := by
  have hrun := Machine.run_of_exec (m := machine { flushTriggerNumberOfSpans := 1 })
    (s := init 1 ()) wokenRun rfl
  have hspans : ∀ s : Channel Unit, s.state.batch.spanCount = 2 → s.state.batch.spanCount > 1 := by
    intro s hs
    rw [hs]
    decide
  exact ⟨_, _, hrun, rfl, rfl, (queue_invariant _ hrun).2.2.1 (hspans _ rfl)⟩

end Channel

end Otel
end DdTrace
