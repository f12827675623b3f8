import DdTrace.Lib.Machine
import DdTrace.Otel.Api

/-!
# SpanExporter — the queue between the senders and the exporter worker

Senders put trace chunks into a batch behind a lock; the worker takes the batch out when it is asked
to flush, when the queue shuts down, or when it waited long enough.  Whoever holds the lock acts on
the `SharedState` alone, so a run of the system is a sequence of such critical sections, of any
sender, of the metrics fetcher or of the worker, in any order.

`receive` releases the lock while it waits, so it is cut there: `receive` is its first pass through
the loop, and each `wake` is one more, after a notification, a spurious wake up or a timeout.
Whether the deadline has passed is up to the clock: it is part of the event.

The resource that spans are mapped with is an arbitrary type `R`.
-/

namespace DdTrace
namespace Otel

open Lib

abbrev TraceChunk := List SpanData

/-- The added spans will be dropped. -/
structure BatchFullError where
  spansDropped : Nat
  deriving DecidableEq, Repr

inductive SenderError
  | alreadyShutdown
  | timedOut
  | mutexPoisoned
  | batchFull (e : BatchFullError)
  deriving DecidableEq, Repr

structure QueueMetrics where
  spansDroppedFullBuffer : Nat
  spansQueued : Nat
  deriving DecidableEq, Repr

def QueueMetrics.default : QueueMetrics :=
  { spansDroppedFullBuffer := 0
    spansQueued := 0 }

/-! ## Batch -/

structure Batch where
  chunks : List TraceChunk
  spanCount : Nat
  maxBufferedSpans : Nat
  deriving DecidableEq

namespace Batch

def new (maxBufferedSpans : Nat) : Batch :=
  { chunks := []
    spanCount := 0
    maxBufferedSpans := maxBufferedSpans }

def addTraceChunk (self : Batch) (chunk : TraceChunk) : Except BatchFullError Batch :=
  if self.spanCount > self.maxBufferedSpans then .error { spansDropped := chunk.length }
  else if chunk.isEmpty then .ok self
  else
    .ok
      { self with
        chunks := self.chunks ++ [chunk]
        spanCount := self.spanCount + chunk.length }

/-- `export`: take the trace chunks and reset the batch. -/
def exportChunks (self : Batch) : List TraceChunk × Batch :=
  (self.chunks, { self with chunks := [], spanCount := 0 })

end Batch

/-! ## Shared state -/

structure SharedState (R : Type*) where
  flushNeeded : Bool
  shutdownNeeded : Bool
  hasShutdown : Bool
  batch : Batch
  setResource : Option R
  metrics : QueueMetrics

inductive TraceExporterMessage (R : Type*)
  | flushTraceChunks
  | flushTraceChunksWithTimeout
  | setResource (resource : R)
  | shutdown

variable {R : Type*}

/-- The state of a new channel. -/
def SharedState.new (maxNumberOfSpans : Nat) : SharedState R :=
  { flushNeeded := false
    shutdownNeeded := false
    hasShutdown := false
    batch := .new maxNumberOfSpans
    setResource := none
    metrics := .default }

namespace QueueMetricsFetcher

def getMetrics (state : SharedState R) : QueueMetrics × SharedState R :=
  (state.metrics, { state with metrics := .default })

end QueueMetricsFetcher

/-! ## Sender -/

structure Sender where
  flushTriggerNumberOfSpans : Nat

namespace Sender

/-- Act on the state unless the receiver is gone. -/
def getRunningState (state : SharedState R)
    (act : SharedState R → Except SenderError Unit × SharedState R) :
    Except SenderError Unit × SharedState R :=
  if state.hasShutdown then (.error .alreadyShutdown, state) else act state

def addTraceChunk (self : Sender) (chunk : TraceChunk) (state : SharedState R) :
    Except SenderError Unit × SharedState R :=
  getRunningState state fun state =>
    match state.batch.addTraceChunk chunk with
    | .error e =>
        (.error (.batchFull e),
          { state with
            metrics :=
              { state.metrics with
                spansDroppedFullBuffer :=
                  state.metrics.spansDroppedFullBuffer + e.spansDropped } })
    | .ok batch =>
        (.ok (),
          { state with
            batch := batch
            metrics :=
              { state.metrics with spansQueued := state.metrics.spansQueued + chunk.length }
            flushNeeded :=
              state.flushNeeded || decide (batch.spanCount > self.flushTriggerNumberOfSpans) })

def setResource (resource : R) (state : SharedState R) : Except SenderError Unit × SharedState R :=
  getRunningState state fun state => (.ok (), { state with setResource := some resource })

def triggerFlush (state : SharedState R) : Except SenderError Unit × SharedState R :=
  getRunningState state fun state => (.ok (), { state with flushNeeded := true })

/-- Also what happens when a sender is dropped. -/
def triggerShutdown (state : SharedState R) : Except SenderError Unit × SharedState R :=
  getRunningState state fun state => (.ok (), { state with shutdownNeeded := true })

end Sender

/-! ## Receiver -/

/-- A message together with the chunks that were taken out of the batch. -/
abbrev Received (R : Type*) := TraceExporterMessage R × List TraceChunk

namespace Receiver

/-- The lock was taken back after a timeout: whatever is in the batch is flushed. -/
def flushOnTimeout (state : SharedState R) : Received R × SharedState R :=
  let (chunks, batch) := state.batch.exportChunks
  ((.flushTraceChunksWithTimeout, chunks), { state with batch := batch })

/-- One pass through the loop of `receive`: what it returns, or nothing if it waits. -/
def pass (deadlinePassed : Bool) (state : SharedState R) :
    Option (Received R) × SharedState R :=
  match state.setResource with
  | some resource => (some (.setResource resource, []), { state with setResource := none })
  | none =>
      if state.shutdownNeeded then
        let (chunks, batch) := state.batch.exportChunks
        (some (.shutdown, chunks), { state with batch := batch })
      else if state.flushNeeded then
        let (chunks, batch) := state.batch.exportChunks
        (some (.flushTraceChunks, chunks), { state with flushNeeded := false, batch := batch })
      else if deadlinePassed then
        let (received, state) := flushOnTimeout state
        (some received, state)
      else (none, state)

/-- The wait is over: a timeout flushes at once, anything else makes another pass. -/
def wake (timedOut deadlinePassed : Bool) (state : SharedState R) :
    Option (Received R) × SharedState R :=
  if timedOut then
    let (received, state) := flushOnTimeout state
    (some received, state)
  else pass deadlinePassed state

def shutdownDone (state : SharedState R) : SharedState R := { state with hasShutdown := true }

end Receiver

/-! ## Worker -/

/-- Where the worker is in its loop. -/
inductive WorkerState (R : Type*)
  /-- About to call `receive`. -/
  | receiving
  /-- In `receive`, waiting for a notification. -/
  | waiting
  /-- `receive` returned. -/
  | received (message : TraceExporterMessage R) (data : List TraceChunk)
  /-- The loop is over, and the trace exporter is shut down. -/
  | exiting
  /-- The receiver was dropped. -/
  | dropped

structure Channel (R : Type*) where
  state : SharedState R
  worker : WorkerState R
  /-- The resource that the worker maps chunks with. -/
  otelResource : R

/-- A critical section of a sender, of the metrics fetcher or of the worker; the worker also has
steps of its own. -/
inductive ChannelEvent (R : Type*)
  | addTraceChunk (chunk : TraceChunk)
  | setResource (resource : R)
  | triggerFlush
  | triggerShutdown
  | getMetrics
  | receive (deadlinePassed : Bool)
  | wake (timedOut deadlinePassed : Bool)
  | handle
  | drop

inductive ChannelOutput (R : Type*)
  | sent (result : Except SenderError Unit)
  | metrics (metrics : QueueMetrics)
  /-- What `receive` returned, if it did not wait. -/
  | received (result : Option (Received R))
  /-- The resource and the chunks of an export. -/
  | exported (resource : R) (chunks : List TraceChunk)
  | silent

namespace Channel

def init (maxNumberOfSpans : Nat) (otelResource : R) : Channel R :=
  { state := .new maxNumberOfSpans
    worker := .receiving
    otelResource := otelResource }

/-- A critical section of a sender. -/
def send (self : Channel R) (cs : Except SenderError Unit × SharedState R) :
    Channel R × ChannelOutput R :=
  ({ self with state := cs.2 }, .sent cs.1)

/-- A pass of the worker through the loop of `receive`. -/
def recv (self : Channel R) (cs : Option (Received R) × SharedState R) :
    Channel R × ChannelOutput R :=
  ({ self with
      state := cs.2
      worker :=
        match cs.1 with
        | some (message, data) => .received message data
        | none => .waiting },
    .received cs.1)

/-- The body of the loop of `run`: the data is exported, then the message is handled. -/
def handle (self : Channel R) (message : TraceExporterMessage R) (data : List TraceChunk) :
    Channel R × ChannelOutput R :=
  ({ self with
      worker := match message with
        | .shutdown => .exiting
        | _ => .receiving
      otelResource := match message with
        | .setResource resource => resource
        | _ => self.otelResource },
    if data.isEmpty then .silent else .exported self.otelResource data)

/-- The senders, the metrics fetcher and the worker, in any order. -/
def machine (tx : Sender) : Machine (Channel R) (ChannelEvent R) (ChannelOutput R) :=
  fun self event =>
    match event with
    | .addTraceChunk chunk => some (self.send (tx.addTraceChunk chunk self.state))
    | .setResource resource => some (self.send (Sender.setResource resource self.state))
    | .triggerFlush => some (self.send (Sender.triggerFlush self.state))
    | .triggerShutdown => some (self.send (Sender.triggerShutdown self.state))
    | .getMetrics =>
        let (metrics, state) := QueueMetricsFetcher.getMetrics self.state
        some ({ self with state := state }, .metrics metrics)
    | .receive deadlinePassed =>
        match self.worker with
        | .receiving => some (self.recv (Receiver.pass deadlinePassed self.state))
        | _ => none
    | .wake timedOut deadlinePassed =>
        match self.worker with
        | .waiting => some (self.recv (Receiver.wake timedOut deadlinePassed self.state))
        | _ => none
    | .handle =>
        match self.worker with
        | .received message data => some (self.handle message data)
        | _ => none
    | .drop =>
        match self.worker with
        | .exiting =>
            some ({ self with
                state := Receiver.shutdownDone self.state
                worker := .dropped }, .silent)
        | _ => none

/-- What an event does, and when it can happen. -/
inductive Steps (tx : Sender) (s : Channel R) :
    ChannelEvent R → Channel R → ChannelOutput R → Prop
  | addTraceChunk (chunk : TraceChunk) :
      Steps tx s (.addTraceChunk chunk) (s.send (tx.addTraceChunk chunk s.state)).1
        (s.send (tx.addTraceChunk chunk s.state)).2
  | setResource (resource : R) :
      Steps tx s (.setResource resource) (s.send (Sender.setResource resource s.state)).1
        (s.send (Sender.setResource resource s.state)).2
  | triggerFlush :
      Steps tx s .triggerFlush (s.send (Sender.triggerFlush s.state)).1
        (s.send (Sender.triggerFlush s.state)).2
  | triggerShutdown :
      Steps tx s .triggerShutdown (s.send (Sender.triggerShutdown s.state)).1
        (s.send (Sender.triggerShutdown s.state)).2
  | getMetrics :
      Steps tx s .getMetrics { s with state := (QueueMetricsFetcher.getMetrics s.state).2 }
        (.metrics (QueueMetricsFetcher.getMetrics s.state).1)
  | receive (deadlinePassed : Bool) :
      s.worker = .receiving →
        Steps tx s (.receive deadlinePassed) (s.recv (Receiver.pass deadlinePassed s.state)).1
          (s.recv (Receiver.pass deadlinePassed s.state)).2
  | wake (timedOut deadlinePassed : Bool) :
      s.worker = .waiting →
        Steps tx s (.wake timedOut deadlinePassed)
          (s.recv (Receiver.wake timedOut deadlinePassed s.state)).1
          (s.recv (Receiver.wake timedOut deadlinePassed s.state)).2
  | handle (message : TraceExporterMessage R) (data : List TraceChunk) :
      s.worker = .received message data →
        Steps tx s .handle (s.handle message data).1 (s.handle message data).2
  | drop :
      s.worker = .exiting →
        Steps tx s .drop { s with state := Receiver.shutdownDone s.state, worker := .dropped }
          .silent

theorem steps_of_machine {tx : Sender} {s u : Channel R} {e : ChannelEvent R} {o : ChannelOutput R}
    (h : machine tx s e = some (u, o)) : Steps tx s e u o := by
  cases e with
  | addTraceChunk chunk =>
      cases h
      exact .addTraceChunk chunk
  | setResource resource =>
      cases h
      exact .setResource resource
  | triggerFlush =>
      cases h
      exact .triggerFlush
  | triggerShutdown =>
      cases h
      exact .triggerShutdown
  | getMetrics =>
      cases h
      exact .getMetrics
  | receive deadlinePassed =>
      simp only [machine] at h
      split at h
      · rename_i hworker
        cases h
        exact .receive deadlinePassed hworker
      · cases h
  | wake timedOut deadlinePassed =>
      simp only [machine] at h
      split at h
      · rename_i hworker
        cases h
        exact .wake timedOut deadlinePassed hworker
      · cases h
  | handle =>
      simp only [machine] at h
      split at h
      · rename_i message data hworker
        cases h
        exact .handle message data hworker
      · cases h
  | drop =>
      simp only [machine] at h
      split at h
      · rename_i hworker
        cases h
        exact .drop hworker
      · cases h

end Channel

end Otel
end DdTrace
