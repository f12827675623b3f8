import DdTrace.Otel.SpanExporter

/-!
# ExporterRuns — what goes into the queue comes out of it

Two laws about the runs of the channel:

* the chunks that the senders were told are accepted are those that `receive` returned followed by
  those still in the batch, in order; and every span offered to the running queue is counted once,
  as queued or as dropped (`queue_conservation`);
* when the receiver is gone, all accepted chunks were returned exactly if none was offered after
  `receive` delivered the shutdown (`all_returned_iff`).
-/

namespace DdTrace
namespace Otel

open Lib

variable {R : Type*}

/-! ## What an event brings in and takes out -/

namespace Channel

/-- The chunk that a sender was told is accepted, unless it is empty. -/
def accepted : ChannelEvent R × ChannelOutput R → List TraceChunk
  | (.addTraceChunk chunk, .sent (.ok ())) => if chunk.isEmpty then [] else [chunk]
  | _ => []

/-- The chunks that `receive` returned. -/
def returned : ChannelEvent R × ChannelOutput R → List TraceChunk
  | (_, .received (some (_, chunks))) => chunks
  | _ => []

/-- The spans offered while the queue was running. -/
def offered : ChannelEvent R × ChannelOutput R → Nat
  | (.addTraceChunk _, .sent (.error .alreadyShutdown)) => 0
  | (.addTraceChunk chunk, _) => chunk.length
  | _ => 0

/-- The spans in the metrics that were drained. -/
def drained : ChannelEvent R × ChannelOutput R → Nat
  | (_, .metrics metrics) => metrics.spansQueued + metrics.spansDroppedFullBuffer
  | _ => 0

theorem accepted_of_ne {e : ChannelEvent R} {o : ChannelOutput R}
    (h : ∀ chunk, e ≠ .addTraceChunk chunk) : accepted (e, o) = [] := by
  cases e with
  | addTraceChunk chunk => exact absurd rfl (h chunk)
  | _ => rfl

theorem offered_of_ne {e : ChannelEvent R} {o : ChannelOutput R}
    (h : ∀ chunk, e ≠ .addTraceChunk chunk) : offered (e, o) = 0 := by
  cases e with
  | addTraceChunk chunk => exact absurd rfl (h chunk)
  | _ => rfl

/-- The spans in the metrics that were not drained yet. -/
def counted (self : Channel R) : Nat :=
  self.state.metrics.spansQueued + self.state.metrics.spansDroppedFullBuffer

end Channel

/-! ## What each critical section does -/

/-- The three outcomes of offering a chunk: the receiver is gone, the batch is full, or the chunk is
accepted. -/
theorem Sender.addTraceChunk_cases (tx : Sender) (chunk : TraceChunk) (state : SharedState R) :
    (state.hasShutdown = true ∧ tx.addTraceChunk chunk state = (.error .alreadyShutdown, state)) ∨
    (state.hasShutdown = false ∧ state.batch.maxBufferedSpans < state.batch.spanCount ∧
      ∃ state', tx.addTraceChunk chunk state =
          (.error (.batchFull { spansDropped := chunk.length }), state') ∧
        state'.batch = state.batch ∧ state'.hasShutdown = state.hasShutdown ∧
        state'.metrics.spansQueued = state.metrics.spansQueued ∧
        state'.metrics.spansDroppedFullBuffer =
          state.metrics.spansDroppedFullBuffer + chunk.length) ∨
    (state.hasShutdown = false ∧ state.batch.spanCount ≤ state.batch.maxBufferedSpans ∧
      ∃ state', tx.addTraceChunk chunk state = (.ok (), state') ∧
        state'.batch.chunks = state.batch.chunks ++ (if chunk.isEmpty then [] else [chunk]) ∧
        state'.batch.spanCount = state.batch.spanCount + chunk.length ∧
        state'.hasShutdown = state.hasShutdown ∧
        state'.metrics.spansQueued = state.metrics.spansQueued + chunk.length ∧
        state'.metrics.spansDroppedFullBuffer = state.metrics.spansDroppedFullBuffer) := by
  cases hshut : state.hasShutdown with
  | true =>
      refine .inl ⟨rfl, ?_⟩
      simp [Sender.addTraceChunk, Sender.getRunningState, hshut]
  | false =>
      by_cases hfull : state.batch.maxBufferedSpans < state.batch.spanCount
      · refine .inr (.inl ⟨rfl, hfull, ?_⟩)
        simp [Sender.addTraceChunk, Sender.getRunningState, hshut, Batch.addTraceChunk, hfull]
      · refine .inr (.inr ⟨rfl, Nat.le_of_not_lt hfull, ?_⟩)
        -- an empty chunk is accepted but not queued
        cases chunk with
        | nil =>
            simp [Sender.addTraceChunk, Sender.getRunningState, hshut, Batch.addTraceChunk, hfull]
        | cons span rest =>
            simp [Sender.addTraceChunk, Sender.getRunningState, hshut, Batch.addTraceChunk, hfull]

/-- What the other sections of the senders leave alone. -/
def SameQueue (state state' : SharedState R) : Prop :=
  state'.batch = state.batch ∧ state'.metrics = state.metrics ∧
    state'.hasShutdown = state.hasShutdown

theorem Sender.sameQueue_getRunningState (state : SharedState R)
    {act : SharedState R → Except SenderError Unit × SharedState R}
    (h : SameQueue state (act state).2) : SameQueue state (getRunningState state act).2 := by
  unfold getRunningState
  split
  · exact ⟨rfl, rfl, rfl⟩
  · exact h

/-- The worker's passes take the whole batch, or nothing. -/
def Takes (state : SharedState R) (result : Option (Received R)) (state' : SharedState R) : Prop :=
  state'.metrics = state.metrics ∧ state'.hasShutdown = state.hasShutdown ∧
    ((∃ message, result = some (message, state.batch.chunks) ∧
        state'.batch = state.batch.exportChunks.2) ∨
      (state'.batch = state.batch ∧ (result = none ∨
        ∃ resource, result = some (.setResource resource, []))))

theorem Receiver.takes_pass (deadlinePassed : Bool) (state : SharedState R) :
    Takes state (pass deadlinePassed state).1 (pass deadlinePassed state).2 := by
  unfold pass
  cases hres : state.setResource with
  -- a resource is returned on its own, with the batch left in place
  | some resource => exact ⟨rfl, rfl, .inr ⟨rfl, .inr ⟨resource, rfl⟩⟩⟩
  | none =>
      simp only
      split_ifs
      · exact ⟨rfl, rfl, .inl ⟨.shutdown, rfl, rfl⟩⟩
      · exact ⟨rfl, rfl, .inl ⟨.flushTraceChunks, rfl, rfl⟩⟩
      · exact ⟨rfl, rfl, .inl ⟨.flushTraceChunksWithTimeout, rfl, rfl⟩⟩
      · exact ⟨rfl, rfl, .inr ⟨rfl, .inl rfl⟩⟩

theorem Receiver.takes_wake (timedOut deadlinePassed : Bool) (state : SharedState R) :
    Takes state (wake timedOut deadlinePassed state).1 (wake timedOut deadlinePassed state).2 := by
  unfold wake
  split
  · exact ⟨rfl, rfl, .inl ⟨.flushTraceChunksWithTimeout, rfl, rfl⟩⟩
  · exact takes_pass deadlinePassed state

namespace Channel

/-- The moves of the channel, by what they do to the queue. -/
inductive Moves (tx : Sender) (s : Channel R) :
    ChannelEvent R → Channel R → ChannelOutput R → Prop
  /-- A sender offers a chunk. -/
  | offer (chunk : TraceChunk) :
      Moves tx s (.addTraceChunk chunk) (s.send (tx.addTraceChunk chunk s.state)).1
        (s.send (tx.addTraceChunk chunk s.state)).2
  /-- A sender sets something else. -/
  | signal {e : ChannelEvent R} (cs : Except SenderError Unit × SharedState R) :
      (∀ chunk, e ≠ .addTraceChunk chunk) → SameQueue s.state cs.2 →
        Moves tx s e (s.send cs).1 (s.send cs).2
  | drain :
      Moves tx s .getMetrics { s with state := { s.state with metrics := .default } }
        (.metrics s.state.metrics)
  /-- The worker makes a pass through the loop of `receive`. -/
  | recv {e : ChannelEvent R} (cs : Option (Received R) × SharedState R) :
      (∀ chunk, e ≠ .addTraceChunk chunk) → (s.worker = .receiving ∨ s.worker = .waiting) →
        Takes s.state cs.1 cs.2 → Moves tx s e (s.recv cs).1 (s.recv cs).2
  | handle (message : TraceExporterMessage R) (data : List TraceChunk) :
      s.worker = .received message data →
        Moves tx s .handle (s.handle message data).1 (s.handle message data).2
  | drop :
      s.worker = .exiting →
        Moves tx s .drop { s with state := Receiver.shutdownDone s.state, worker := .dropped }
          .silent

theorem moves_of_machine {tx : Sender} {s u : Channel R} {e : ChannelEvent R} {o : ChannelOutput R}
    (h : machine tx s e = some (u, o)) : Moves tx s e u o := by
  cases steps_of_machine h with
  | addTraceChunk chunk => exact .offer chunk
  | setResource resource =>
      refine .signal _ (fun chunk => by simp) ?_
      exact Sender.sameQueue_getRunningState _ ⟨rfl, rfl, rfl⟩
  | triggerFlush =>
      refine .signal _ (fun chunk => by simp) ?_
      exact Sender.sameQueue_getRunningState _ ⟨rfl, rfl, rfl⟩
  | triggerShutdown =>
      refine .signal _ (fun chunk => by simp) ?_
      exact Sender.sameQueue_getRunningState _ ⟨rfl, rfl, rfl⟩
  | getMetrics => exact .drain
  | receive deadlinePassed hworker =>
      exact .recv _ (fun chunk => by simp) (.inl hworker) (Receiver.takes_pass _ _)
  | wake timedOut deadlinePassed hworker =>
      exact .recv _ (fun chunk => by simp) (.inr hworker) (Receiver.takes_wake _ _ _)
  | handle message data hworker => exact .handle message data hworker
  | drop hworker => exact .drop hworker

/-! ## Conservation -/

/-- What was in the batch, and what was accepted, is what was returned and what is in it now. -/
theorem chunks_step {tx : Sender} {s u : Channel R} {e : ChannelEvent R} {o : ChannelOutput R}
    (h : machine tx s e = some (u, o)) :
    s.state.batch.chunks ++ accepted (e, o) = returned (e, o) ++ u.state.batch.chunks := by
  cases moves_of_machine h with
  | offer chunk =>
      rcases tx.addTraceChunk_cases chunk s.state with
        ⟨-, hadd⟩ | ⟨-, -, state', hadd, hbatch, -⟩ | ⟨-, -, state', hadd, hchunks, -⟩
      · -- the first two are answered with an error, and nothing is accepted
        simp [send, hadd, accepted, returned]
      · simp [send, hadd, accepted, returned, hbatch]
      · simp [send, hadd, accepted, returned, hchunks]
  | signal cs hne hsame =>
      rw [accepted_of_ne hne]
      simp [send, returned, hsame.1]
  | drain => simp [accepted, returned]
  | recv cs hne _ htakes =>
      rw [accepted_of_ne hne]
      rcases htakes with ⟨-, -, ⟨message, hres, hbatch⟩ | ⟨hbatch, hres | ⟨resource, hres⟩⟩⟩
      · -- the whole batch moves from the queue to the worker
        simp [recv, returned, hres, hbatch, Batch.exportChunks]
      · simp [recv, returned, hres, hbatch]
      · simp [recv, returned, hres, hbatch]
  | handle message data _ =>
      -- the data left the queue when it was received
      simp only [handle]
      split <;> simp [accepted, returned]
  | drop _ => simp [accepted, returned, Receiver.shutdownDone]

/-- What was counted, and what was offered, is what was drained and what is counted now. -/
theorem counted_step {tx : Sender} {s u : Channel R} {e : ChannelEvent R} {o : ChannelOutput R}
    (h : machine tx s e = some (u, o)) :
    s.counted + offered (e, o) = drained (e, o) + u.counted := by
  cases moves_of_machine h with
  | offer chunk =>
      rcases tx.addTraceChunk_cases chunk s.state with
        ⟨-, hadd⟩ | ⟨-, -, state', hadd, -, -, hqueued, hdropped⟩ |
        ⟨-, -, state', hadd, -, -, -, hqueued, hdropped⟩
      · -- after the shutdown nothing is offered
        simp [send, hadd, offered, drained, counted]
      · -- a full batch counts the spans as dropped, the other case as queued
        simp only [send, hadd, offered, drained, counted, hqueued, hdropped]
        omega
      · simp only [send, hadd, offered, drained, counted, hqueued, hdropped]
        omega
  | signal cs hne hsame =>
      rw [offered_of_ne hne]
      simp [send, drained, counted, hsame.2.1]
  | drain => simp [offered, drained, counted, QueueMetrics.default]
  | recv cs hne _ htakes =>
      rw [offered_of_ne hne]
      simp [recv, drained, counted, htakes.1]
  | handle message data _ =>
      simp only [handle]
      split <;> simp [offered, drained, counted]
  | drop _ => simp [offered, drained, counted, Receiver.shutdownDone]

/-- A chunk that is rejected leaves the batch as it was. -/
theorem batch_of_rejected {tx : Sender} {s u : Channel R} {chunk : TraceChunk} {err : SenderError}
    (h : machine tx s (.addTraceChunk chunk) = some (u, .sent (.error err))) :
    u.state.batch = s.state.batch := by
  simp only [machine, send, Option.some.injEq, Prod.mk.injEq, ChannelOutput.sent.injEq] at h
  rcases h with ⟨rfl, hresult⟩
  rcases tx.addTraceChunk_cases chunk s.state with
    ⟨-, hadd⟩ | ⟨-, -, state', hadd, hbatch, -⟩ | ⟨-, -, state', hadd, -⟩
  · simp [hadd]
  · simp [hadd, hbatch]
  · rw [hadd] at hresult
    cases hresult

/-- In every run, the accepted chunks are the returned chunks followed by those in the batch, a
rejected chunk changes nothing in the batch, and the offered spans are all counted. -/
theorem queue_conservation (tx : Sender) {maxNumberOfSpans : Nat} {otelResource : R}
    {l : List (ChannelEvent R × ChannelOutput R)} {s : Channel R}
    (h : Machine.Run (machine tx) (init maxNumberOfSpans otelResource) l s) :
    l.flatMap accepted = l.flatMap returned ++ s.state.batch.chunks ∧
    (∀ chunk err u, machine tx s (.addTraceChunk chunk) = some (u, .sent (.error err)) →
      u.state.batch = s.state.batch) ∧
    (l.map drained).sum + s.counted = (l.map offered).sum := by
  refine ⟨?_, ?_, ?_⟩
  · -- in order: the batch is a queue between the accepted and the returned chunks
    have hsequence := h.sequence (fun s => s.state.batch.chunks) accepted returned chunks_step
    simpa [init, SharedState.new, Batch.new] using hsequence
  · intro chunk err u hstep
    exact batch_of_rejected hstep
  · have hledger := h.ledger counted offered drained counted_step
    simpa [init, counted, SharedState.new, QueueMetrics.default] using hledger.symm

/-- Three chunks of which the last finds the batch full, a flush, and a drain. -/
def flushRun : List (ChannelEvent Unit) :=
  [.addTraceChunk [.ofIds 1 1], .addTraceChunk [.ofIds 1 2], .addTraceChunk [.ofIds 1 3],
    .receive false, .handle, .addTraceChunk [.ofIds 1 4], .getMetrics]

theorem queue_conservation_flushRun :
    ∃ s : Channel Unit, s.state.batch.chunks = [[.ofIds 1 4]] ∧
      [[SpanData.ofIds 1 1], [.ofIds 1 2], [.ofIds 1 4]] =
        [[.ofIds 1 1], [.ofIds 1 2]] ++ s.state.batch.chunks ∧
      4 + s.counted = 4 := by
  have hrun := Machine.run_of_exec (m := machine { flushTriggerNumberOfSpans := 1 })
    (s := init 1 ()) flushRun rfl
  have hconserved := queue_conservation _ hrun
  exact ⟨_, rfl, hconserved.1, hconserved.2.2⟩

/-! ## Shutdown -/

/-- `receive` delivered the shutdown, and the receiver is not dropped yet. -/
def closing : WorkerState R → Bool
  | .received .shutdown _ => true
  | .exiting => true
  | _ => false

def isDropped : WorkerState R → Bool
  | .dropped => true
  | _ => false

/-- Nothing is offered after `receive` delivered the shutdown and before the receiver is dropped. -/
def NotLate (s : Channel R) (e : ChannelEvent R) : Prop :=
  match e with
  | .addTraceChunk chunk => closing s.worker = true → chunk = []
  | _ => True

instance (s : Channel R) (e : ChannelEvent R) : Decidable (NotLate s e) := by
  unfold NotLate
  split <;> infer_instance

theorem notLate_of_ne {s : Channel R} {e : ChannelEvent R}
    (h : ∀ chunk, e ≠ .addTraceChunk chunk) : NotLate s e := by
  cases e with
  | addTraceChunk chunk => exact absurd rfl (h chunk)
  | _ => trivial

/-- The span count is that of the queued chunks, and the queue is shut down with its receiver. -/
structure Coherent (s : Channel R) : Prop where
  spanCount : s.state.batch.spanCount = (s.state.batch.chunks.map List.length).sum
  hasShutdown : s.state.hasShutdown = isDropped s.worker

theorem Coherent.step {tx : Sender} {s u : Channel R} {e : ChannelEvent R} {o : ChannelOutput R}
    (hs : Coherent s) (h : machine tx s e = some (u, o)) : Coherent u := by
  rcases hs with ⟨hcount, hshut⟩
  cases moves_of_machine h with
  | offer chunk =>
      rcases tx.addTraceChunk_cases chunk s.state with
        ⟨-, hadd⟩ | ⟨-, -, state', hadd, hbatch, hshut', -⟩ |
        ⟨-, -, state', hadd, hchunks, hcount', hshut', -⟩
      · exact ⟨by simpa [send, hadd] using hcount, by simpa [send, hadd] using hshut⟩
      · exact ⟨by simpa [send, hadd, hbatch] using hcount, by simpa [send, hadd, hshut'] using hshut⟩
      · refine ⟨?_, by simpa [send, hadd, hshut'] using hshut⟩
        simp only [send, hadd, hcount', hchunks, hcount]
        -- an empty chunk is not queued and adds nothing to the count
        cases chunk <;> simp
  | signal cs _ hsame =>
      exact ⟨by simpa [send, hsame.1] using hcount, by simpa [send, hsame.2.2] using hshut⟩
  | drain => exact ⟨hcount, hshut⟩
  | recv cs _ hworker htakes =>
      rcases htakes with ⟨-, hshut', htakes⟩
      refine ⟨?_, ?_⟩
      · rcases htakes with ⟨message, -, hbatch⟩ | ⟨hbatch, -⟩
        · simp [recv, hbatch, Batch.exportChunks]
        · simpa [recv, hbatch] using hcount
      · -- only a worker in its loop receives
        have hlive : isDropped s.worker = false := by
          rcases hworker with hw | hw <;> simp [hw, isDropped]
        simp only [recv, hshut', hshut, hlive]
        cases cs.1 <;> rfl
  | handle message data hworker =>
      -- the worker goes back to its loop or leaves it, but the receiver is still there
      refine ⟨hcount, ?_⟩
      rw [hworker] at hshut
      simp only [handle, hshut, isDropped]
      cases message <;> rfl
  | drop _ => exact ⟨hcount, rfl⟩

theorem coherent_of_run {tx : Sender} {maxNumberOfSpans : Nat} {otelResource : R}
    {l : List (ChannelEvent R × ChannelOutput R)} {s : Channel R}
    (h : Machine.Run (machine tx) (init maxNumberOfSpans otelResource) l s) : Coherent s :=
  h.preserves (I := Coherent) Coherent.step ⟨rfl, rfl⟩

/-- The loop of the worker is over, or its last pass is. -/
def Over (s : Channel R) : Prop := closing s.worker = true ∨ isDropped s.worker = true

/-- Until `receive` delivers the shutdown nothing is late; from then on the batch is empty exactly
as long as nothing was late. -/
def Settled (onTime : Prop) (s : Channel R) : Prop :=
  (Over s → (s.state.batch.chunks = [] ↔ onTime)) ∧ (¬ Over s → onTime)

theorem Settled.offer {tx : Sender} {s : Channel R} {chunk : TraceChunk} {onTime : Prop}
    (hs : Coherent s) (h : Settled onTime s) :
    Settled (onTime ∧ NotLate s (.addTraceChunk chunk))
      (s.send (tx.addTraceChunk chunk s.state)).1 := by
  rcases tx.addTraceChunk_cases chunk s.state with
    ⟨hshut, hadd⟩ | ⟨hshut, hfull, state', hadd, hbatch, -⟩ | ⟨hshut, -, state', hadd, hchunks, -⟩
  · -- the receiver is gone
    have hdropped : isDropped s.worker = true := by rw [← hs.hasShutdown, hshut]
    have hnotLate : NotLate s (.addTraceChunk chunk) := by
      intro hclosing
      cases hw : s.worker <;> simp [hw, isDropped, closing] at hdropped hclosing
    simpa [hadd, send, hnotLate] using h
  · -- the batch is full, so it is not empty
    have hchunks : s.state.batch.chunks ≠ [] := by
      intro hempty
      have hzero := hs.spanCount
      simp only [hempty, List.map_nil, List.sum_nil] at hzero
      omega
    refine ⟨?_, ?_⟩
    · intro hover
      have hbefore := h.1 hover
      simpa [hadd, send, hbatch, hchunks] using fun htime => absurd (hbefore.2 htime) hchunks
    · intro hover
      exact ⟨h.2 hover, fun hclosing => absurd (.inl hclosing) hover⟩
  · -- the chunk is accepted; after the delivery of the shutdown nobody takes it any more
    refine ⟨?_, ?_⟩
    · intro hover
      have hclosing : closing s.worker = true := by
        rcases hover with hclosing | hdropped
        · exact hclosing
        · have hlive := hs.hasShutdown
          rw [hshut] at hlive
          exact absurd (hlive.trans hdropped) (by simp)
      have hbefore := h.1 hover
      cases chunk with
      | nil =>
          -- an empty chunk is not late
          simpa [hadd, send, hchunks, NotLate] using hbefore
      | cons span rest => simp [hadd, send, hchunks, NotLate, hclosing]
    · intro hover
      exact ⟨h.2 hover, fun hclosing => absurd (.inl hclosing) hover⟩

theorem Settled.step {tx : Sender} {s u : Channel R} {e : ChannelEvent R} {o : ChannelOutput R}
    {onTime : Prop} (hs : Coherent s) (h : Settled onTime s) (hstep : machine tx s e = some (u, o)) :
    Settled (onTime ∧ NotLate s e) u := by
  cases moves_of_machine hstep with
  | offer chunk => exact Settled.offer hs h
  | signal cs hne hsame =>
      have hnotLate : NotLate s e := notLate_of_ne hne
      simpa [Settled, Over, send, hsame.1, hnotLate] using h
  | drain =>
      have hnotLate : NotLate s (.getMetrics) := trivial
      simpa [Settled, Over, hnotLate] using h
  | recv cs hne hworker htakes =>
      have hnotLate : NotLate s e := notLate_of_ne hne
      have hlive : ¬ Over s := by
        rcases hworker with hw | hw <;> simp [Over, hw, closing, isDropped]
      refine ⟨?_, fun _ => ⟨h.2 hlive, hnotLate⟩⟩
      intro hover
      -- the shutdown was delivered, together with the whole batch
      rcases htakes with ⟨-, -, ⟨message, hres, hbatch⟩ | ⟨hbatch, hres | ⟨resource, hres⟩⟩⟩
      · simp [recv, hbatch, Batch.exportChunks, h.2 hlive, hnotLate]
      · simp [Over, recv, hres, closing, isDropped] at hover
      · simp [Over, recv, hres, closing, isDropped] at hover
  | handle message data hworker =>
      have hnotLate : NotLate s (.handle) := trivial
      -- `closing` holds before and after for the shutdown, and at neither time for the others
      cases message with
      | shutdown => simpa [Settled, Over, handle, hworker, closing, isDropped, hnotLate] using h
      | _ => simpa [Settled, Over, handle, hworker, closing, isDropped, hnotLate] using h
  | drop hworker =>
      have hnotLate : NotLate s (.drop) := trivial
      simpa [Settled, Over, hworker, closing, isDropped, hnotLate, Receiver.shutdownDone] using h

theorem settled_of_run {tx : Sender} {maxNumberOfSpans : Nat} {otelResource : R}
    {l : List (ChannelEvent R × ChannelOutput R)} {s : Channel R}
    (h : Machine.Run (machine tx) (init maxNumberOfSpans otelResource) l s) :
    Settled (Machine.Run (Machine.guard (machine tx) NotLate)
      (init maxNumberOfSpans otelResource) l s) s := by
  refine h.invariant (I := fun l s => Settled (Machine.Run (Machine.guard (machine tx) NotLate)
    (init maxNumberOfSpans otelResource) l s) s) ?_ ?_
  · refine ⟨?_, fun _ => .start⟩
    intro hover
    simp [Over, init, closing, isDropped] at hover
  · -- the run meets the condition exactly if the run before did and the event does
    intro l s u e o hrun hsettled hstep
    rw [hrun.guard_snoc hstep]
    exact hsettled.step (coherent_of_run hrun) hstep

/-- When the receiver is dropped, all accepted chunks were returned, in order, exactly if nothing
was offered after `receive` delivered the shutdown. -/
theorem all_returned_iff (tx : Sender) {maxNumberOfSpans : Nat} {otelResource : R}
    {l : List (ChannelEvent R × ChannelOutput R)} {s : Channel R}
    (h : Machine.Run (machine tx) (init maxNumberOfSpans otelResource) l s)
    (hdropped : isDropped s.worker = true) :
    l.flatMap accepted = l.flatMap returned ↔
      Machine.Run (Machine.guard (machine tx) NotLate) (init maxNumberOfSpans otelResource) l s := by
  have hsequence := h.sequence (fun s => s.state.batch.chunks) accepted returned chunks_step
  have haccepted : l.flatMap accepted = l.flatMap returned ++ s.state.batch.chunks := by
    simpa [init, SharedState.new, Batch.new] using hsequence
  -- what is left in the batch is the difference of the two sides
  rw [← (settled_of_run h).1 (.inr hdropped), haccepted]
  exact List.append_right_eq_self

/-- A chunk, the shutdown, and the end of the worker. -/
def shutdownRun : List (ChannelEvent Unit) :=
  [.addTraceChunk [.ofIds 1 1], .triggerShutdown, .receive false, .handle, .drop]

theorem all_returned_shutdownRun :
    ∃ l s, Machine.Run (machine { flushTriggerNumberOfSpans := 1 }) (init 1 ()) l s ∧
      l.map Prod.fst = shutdownRun ∧ l.flatMap accepted = l.flatMap returned := by
  have hrun := Machine.run_of_exec (m := machine { flushTriggerNumberOfSpans := 1 })
    (s := init 1 ()) shutdownRun rfl
  refine ⟨_, _, hrun, rfl, (all_returned_iff _ hrun rfl).2 ?_⟩
  exact Machine.run_of_exec shutdownRun rfl

/-- A chunk that is accepted while the worker exports the last batch is never returned. -/
theorem accepted_not_returned :
    ∃ l s, Machine.Run (machine { flushTriggerNumberOfSpans := 1 }) (init 1 ()) l s ∧
      isDropped s.worker = true ∧ l.flatMap accepted = [[SpanData.ofIds 1 1]] ∧
      l.flatMap returned = [] := by
  have hrun := Machine.run_of_exec (m := machine { flushTriggerNumberOfSpans := 1 })
    (s := init 1 ())
    [.triggerShutdown, .receive false, .addTraceChunk [.ofIds 1 1], .handle, .drop] rfl
  exact ⟨_, _, hrun, rfl, rfl, rfl⟩

end Channel

end Otel
end DdTrace
