import DdTrace.Otel.SpanExporter

/-!
# ResourceChange — the resource that a batch is mapped with

A sender leaves a new resource in a slot of its own; `receive` hands it over in a message before
anything else, so that a flush or a shutdown finds the worker with the resource that was set last.
A wait that ends by a timeout does not look at the slot: the batch it returns overtakes a resource
that was set while the worker waited.

This module contains:

* `Resources` — the resource that was set last, now and when `receive` last returned;
* `MappedRight` — each batch of a history is mapped with the resource that was set before it was
  delivered;
* `mappedRight_iff` — the runs of which that is true.
-/

namespace DdTrace
namespace Otel

open Lib

variable {R : Type*}

namespace Channel

/-! ## What a history says about the resource -/

structure Resources (R : Type*) where
  /-- The resource of the last `setResource` that succeeded. -/
  lastSet : R
  /-- The same, at the time when `receive` last returned. -/
  atDelivery : R

namespace Resources

def init (otelResource : R) : Resources R :=
  { lastSet := otelResource
    atDelivery := otelResource }

def record (self : Resources R) : ChannelEvent R × ChannelOutput R → Resources R
  | (.setResource resource, .sent (.ok ())) => { self with lastSet := resource }
  | (_, .received (some _)) => { self with atDelivery := self.lastSet }
  | _ => self

@[simp] theorem record_received_some (self : Resources R) (e : ChannelEvent R)
    (received : Received R) :
    self.record (e, .received (some received)) = { self with atDelivery := self.lastSet } := by
  cases e <;> rfl

@[simp] theorem record_received_none (self : Resources R) (e : ChannelEvent R) :
    self.record (e, .received none) = self := by
  cases e <;> rfl

/-- The resources after a history. -/
def after (self : Resources R) (l : List (ChannelEvent R × ChannelOutput R)) : Resources R :=
  l.foldl record self

@[simp] theorem after_append_singleton (self : Resources R)
    (l : List (ChannelEvent R × ChannelOutput R)) (x : ChannelEvent R × ChannelOutput R) :
    self.after (l ++ [x]) = (self.after l).record x := by
  simp [after]

end Resources

/-- A step that exports a batch maps it with the resource that was set last when the batch was
delivered. -/
def ExportsRight (resources : Resources R) : ChannelOutput R → Prop
  | .exported resource _ => resource = resources.atDelivery
  | _ => True

/-- All exports of a history are right. -/
def MappedRight (resources : Resources R) : List (ChannelEvent R × ChannelOutput R) → Prop
  | [] => True
  | x :: l => ExportsRight resources x.2 ∧ MappedRight (resources.record x) l

theorem mappedRight_append_singleton (resources : Resources R)
    (l : List (ChannelEvent R × ChannelOutput R)) (x : ChannelEvent R × ChannelOutput R) :
    MappedRight resources (l ++ [x]) ↔
      MappedRight resources l ∧ ExportsRight (resources.after l) x.2 := by
  induction l generalizing resources with
  | nil => simp [MappedRight, Resources.after]
  | cons y l ih =>
      simp only [List.cons_append, MappedRight, ih, and_assoc]
      rfl

/-! ## The resource on its way to the worker -/

/-- The resource that the worker will map with once it has seen all that was set: the one in the
slot, else the one in the message it is about to handle, else its own. -/
def incoming (s : Channel R) : R :=
  s.state.setResource.getD
    (match s.worker with
    | .received (.setResource resource) _ => resource
    | _ => s.otelResource)

/-- The batch that the worker is about to export will be mapped right. -/
def WillMapRight (resources : Resources R) (s : Channel R) : Prop :=
  match s.worker with
  | .received _ (_ :: _) => s.otelResource = resources.atDelivery
  | _ => True

/-- No wait ends by a timeout, with spans in the batch, while another resource is in the slot. -/
def NotOvertaking (s : Channel R) : ChannelEvent R → Prop
  | .wake true _ =>
      s.state.batch.chunks = [] ∨ s.state.setResource.getD s.otelResource = s.otelResource
  | _ => True

instance [DecidableEq R] (s : Channel R) : (e : ChannelEvent R) → Decidable (NotOvertaking s e)
  | .wake true _ =>
      decidable_of_iff (s.state.batch.chunks.isEmpty = true ∨
        s.state.setResource.getD s.otelResource = s.otelResource) (or_congr_left List.isEmpty_iff)
  | .wake false _ | .addTraceChunk _ | .setResource _ | .triggerFlush | .triggerShutdown
  | .getMetrics | .receive _ | .handle | .drop => .isTrue trivial

/-- What a sender does that does not set the resource. -/
theorem setResource_addTraceChunk (tx : Sender) (chunk : TraceChunk) (state : SharedState R) :
    (tx.addTraceChunk chunk state).2.setResource = state.setResource := by
  unfold Sender.addTraceChunk Sender.getRunningState
  split
  · rfl
  · simp only
    split <;> rfl

theorem setResource_getRunningState (state : SharedState R)
    {act : SharedState R → Except SenderError Unit × SharedState R}
    (h : (act state).2.setResource = state.setResource) :
    (Sender.getRunningState state act).2.setResource = state.setResource := by
  unfold Sender.getRunningState
  split
  · rfl
  · exact h

/-! ## What a step does -/

/-- A history, of which `right` says that its exports are right and `onTime` that nothing was
overtaken in it, and the state it leads to. -/
structure Tracks (resources : Resources R) (right onTime : Prop) (s : Channel R) : Prop where
  lastSet : resources.lastSet = incoming s
  right_iff : right ∧ WillMapRight resources s ↔ onTime

variable {resources : Resources R} {right onTime : Prop} {s u : Channel R} {e : ChannelEvent R}
  {o : ChannelOutput R}

theorem Tracks.next (h : Tracks resources right onTime s)
    (hlast : (resources.record (e, o)).lastSet = incoming u)
    (hiff : ExportsRight resources o ∧ WillMapRight (resources.record (e, o)) u ↔
      WillMapRight resources s ∧ NotOvertaking s e) :
    Tracks (resources.record (e, o)) (right ∧ ExportsRight resources o)
      (onTime ∧ NotOvertaking s e) u := by
  refine ⟨hlast, ?_⟩
  rw [and_assoc, hiff, ← and_assoc, h.right_iff]

/-- A step that neither sets nor moves a resource. -/
theorem Tracks.quiet (h : Tracks resources right onTime s)
    (hrecord : resources.record (e, o) = resources) (hexports : ExportsRight resources o)
    (hnot : NotOvertaking s e) (hincoming : incoming u = incoming s)
    (hwill : WillMapRight resources u ↔ WillMapRight resources s) :
    Tracks (resources.record (e, o)) (right ∧ ExportsRight resources o)
      (onTime ∧ NotOvertaking s e) u := by
  apply h.next
  · rw [hrecord, h.lastSet, hincoming]
  · rw [hrecord, hwill, and_iff_right hexports, and_iff_left hnot]

/-- A section of a sender that keeps the slot. -/
theorem Tracks.send (h : Tracks resources right onTime s)
    (cs : Except SenderError Unit × SharedState R)
    (hslot : cs.2.setResource = s.state.setResource)
    (hrecord : resources.record (e, .sent cs.1) = resources) (hnot : NotOvertaking s e) :
    Tracks (resources.record (e, (s.send cs).2)) (right ∧ ExportsRight resources (s.send cs).2)
      (onTime ∧ NotOvertaking s e) (s.send cs).1 := by
  refine h.quiet hrecord trivial hnot ?_ Iff.rfl
  simp only [incoming, Channel.send, hslot]

/-- The resource is put into the slot, unless the receiver is gone. -/
theorem Tracks.setResource (h : Tracks resources right onTime s) (resource : R) :
    Tracks (resources.record (.setResource resource, (s.send (Sender.setResource resource s.state)).2))
      (right ∧ ExportsRight resources (s.send (Sender.setResource resource s.state)).2)
      (onTime ∧ NotOvertaking s (.setResource resource))
      (s.send (Sender.setResource resource s.state)).1 := by
  unfold Sender.setResource Sender.getRunningState
  split
  · exact h.send _ rfl rfl trivial
  · -- the new resource is the last one that was set, and the one that is on its way
    apply h.next
    · rfl
    · exact ⟨fun hafter => ⟨hafter.2, trivial⟩, fun hbefore => ⟨trivial, hbefore.1⟩⟩

/-- The worker is in its loop and not about to handle a message. -/
def Listening (s : Channel R) : Prop := s.worker = .receiving ∨ s.worker = .waiting

theorem Listening.incoming (hs : Listening s) :
    s.incoming = s.state.setResource.getD s.otelResource := by
  rcases hs with hworker | hworker <;> simp only [Channel.incoming, hworker]

theorem Listening.willMapRight (hs : Listening s) : WillMapRight resources s := by
  rcases hs with hworker | hworker <;> simp only [WillMapRight, hworker]

/-- A pass of the worker that ends in a wait. -/
theorem Tracks.wait (h : Tracks resources right onTime s) (hs : Listening s)
    {state : SharedState R} (hslot : state.setResource = s.state.setResource)
    (hnot : NotOvertaking s e) :
    Tracks (resources.record (e, (s.recv (none, state)).2))
      (right ∧ ExportsRight resources (s.recv (none, state)).2) (onTime ∧ NotOvertaking s e)
      (s.recv (none, state)).1 := by
  refine h.quiet (resources.record_received_none e) trivial hnot ?_
    (iff_of_true trivial hs.willMapRight)
  rw [hs.incoming, ← hslot]
  rfl

/-- A pass that takes the resource out of the slot. -/
theorem Tracks.take (h : Tracks resources right onTime s) (hs : Listening s) {resource : R}
    (hslot : s.state.setResource = some resource) {state : SharedState R}
    (hempty : state.setResource = none)
    (hnot : NotOvertaking s e) :
    Tracks (resources.record (e, (s.recv (some (.setResource resource, []), state)).2))
      (right ∧ ExportsRight resources (s.recv (some (.setResource resource, []), state)).2)
      (onTime ∧ NotOvertaking s e) (s.recv (some (.setResource resource, []), state)).1 := by
  apply h.next
  · have hlast : resources.lastSet = resource := by
      rw [h.lastSet, hs.incoming, hslot]
      rfl
    simp only [Channel.recv, Resources.record_received_some, hlast, Channel.incoming, hempty]
    rfl
  · exact iff_of_true ⟨trivial, trivial⟩ ⟨hs.willMapRight, hnot⟩

/-- A pass that delivers a batch: it is mapped right unless it overtakes what is in the slot. -/
theorem Tracks.deliver (h : Tracks resources right onTime s) (hs : Listening s)
    {message : TraceExporterMessage R} (hmessage : ∀ resource, message ≠ .setResource resource)
    (data : List TraceChunk) {state : SharedState R}
    (hslot : state.setResource = s.state.setResource)
    (hnot : NotOvertaking s e ↔
      data = [] ∨ s.state.setResource.getD s.otelResource = s.otelResource) :
    Tracks (resources.record (e, (s.recv (some (message, data), state)).2))
      (right ∧ ExportsRight resources (s.recv (some (message, data), state)).2)
      (onTime ∧ NotOvertaking s e) (s.recv (some (message, data), state)).1 := by
  have hlast : resources.lastSet = s.state.setResource.getD s.otelResource := by
    rw [h.lastSet, hs.incoming]
  apply h.next
  · simp only [Channel.recv, Resources.record_received_some, hlast, Channel.incoming, hslot]
    cases message with
    | setResource resource => exact absurd rfl (hmessage resource)
    | _ => rfl
  · rw [and_iff_right hs.willMapRight, hnot]
    simp only [Channel.recv, Resources.record_received_some, hlast, WillMapRight, ExportsRight, true_and]
    cases data with
    | nil => simp
    | cons chunk rest => simp [eq_comm]

/-- A pass through the loop of `receive`: the slot is looked at before anything is delivered. -/
theorem Tracks.pass (h : Tracks resources right onTime s) (hs : Listening s)
    (deadlinePassed : Bool) (hnot : NotOvertaking s e) :
    Tracks (resources.record (e, (s.recv (Receiver.pass deadlinePassed s.state)).2))
      (right ∧ ExportsRight resources (s.recv (Receiver.pass deadlinePassed s.state)).2)
      (onTime ∧ NotOvertaking s e) (s.recv (Receiver.pass deadlinePassed s.state)).1 := by
  unfold Receiver.pass
  cases hslot : s.state.setResource with
  | some resource => exact h.take hs hslot rfl hnot
  | none =>
      -- with an empty slot nothing can be overtaken
      have hright : ∀ data : List TraceChunk, NotOvertaking s e ↔
          data = [] ∨ s.state.setResource.getD s.otelResource = s.otelResource := by
        intro data
        rw [hslot]
        exact iff_of_true hnot (.inr rfl)
      simp only
      split_ifs
      · exact h.deliver hs (fun resource => by simp) _ hslot.symm (hright _)
      · exact h.deliver hs (fun resource => by simp) _ hslot.symm (hright _)
      · exact h.deliver hs (fun resource => by simp) _ rfl (hright _)
      · exact h.wait hs rfl hnot

/-- The worker exports what it received, then handles the message. -/
theorem Tracks.handle (h : Tracks resources right onTime s)
    {message : TraceExporterMessage R} {data : List TraceChunk}
    (hworker : s.worker = .received message data) :
    Tracks (resources.record (.handle, (s.handle message data).2))
      (right ∧ ExportsRight resources (s.handle message data).2) (onTime ∧ NotOvertaking s .handle)
      (s.handle message data).1 := by
  have hrecord : resources.record (.handle, (s.handle message data).2) = resources := by
    cases data <;> rfl
  have hafter : WillMapRight resources (s.handle message data).1 := by
    cases message <;> trivial
  have hexports : ExportsRight resources (s.handle message data).2 ↔ WillMapRight resources s := by
    simp only [WillMapRight, hworker]
    cases data <;> rfl
  apply h.next
  · rw [hrecord, h.lastSet]
    simp only [Channel.incoming, Channel.handle, hworker]
    cases message <;> rfl
  · rw [hrecord, and_iff_left hafter, hexports]
    exact (and_iff_left trivial).symm

theorem Tracks.step {tx : Sender} (h : Tracks resources right onTime s)
    (hstep : machine tx s e = some (u, o)) :
    Tracks (resources.record (e, o)) (right ∧ ExportsRight resources o)
      (onTime ∧ NotOvertaking s e) u := by
  cases steps_of_machine hstep with
  | addTraceChunk chunk => exact h.send _ (setResource_addTraceChunk tx chunk s.state) rfl trivial
  | setResource resource => exact h.setResource resource
  | triggerFlush => exact h.send _ (setResource_getRunningState _ rfl) rfl trivial
  | triggerShutdown => exact h.send _ (setResource_getRunningState _ rfl) rfl trivial
  | getMetrics => exact h.quiet rfl trivial trivial rfl Iff.rfl
  | receive deadlinePassed hworker => exact h.pass (.inl hworker) deadlinePassed trivial
  | wake timedOut deadlinePassed hworker =>
      cases timedOut with
      | true =>
          -- the batch is returned whatever is in the slot
          exact h.deliver (.inr hworker) (fun resource => by simp) _ rfl Iff.rfl
      | false => exact h.pass (.inr hworker) deadlinePassed trivial
  | handle message data hworker => exact h.handle hworker
  | drop hworker =>
      refine h.quiet rfl trivial trivial ?_ ?_
      · simp [Channel.incoming, hworker, Receiver.shutdownDone]
      · simp [WillMapRight, hworker]

/-! ## Runs -/

variable [DecidableEq R]

theorem tracks_of_run {tx : Sender} {maxNumberOfSpans : Nat} {otelResource : R}
    {l : List (ChannelEvent R × ChannelOutput R)} {s : Channel R}
    (h : Machine.Run (machine tx) (init maxNumberOfSpans otelResource) l s) :
    Tracks ((Resources.init otelResource).after l) (MappedRight (.init otelResource) l)
      (Machine.Run (Machine.guard (machine tx) NotOvertaking)
        (init maxNumberOfSpans otelResource) l s) s := by
  refine h.invariant (I := fun l s => Tracks ((Resources.init otelResource).after l)
    (MappedRight (.init otelResource) l)
    (Machine.Run (Machine.guard (machine tx) NotOvertaking)
      (init maxNumberOfSpans otelResource) l s) s) ?_ ?_
  · exact ⟨rfl, iff_of_true ⟨trivial, trivial⟩ .start⟩
  · intro l s u e o hrun htracks hstep
    rw [hrun.guard_snoc hstep, mappedRight_append_singleton, Resources.after_append_singleton]
    exact htracks.step hstep

/-- If no wait ends by a timeout while another resource is in the slot, each batch that the worker
exports is mapped with the resource of the last `setResource` that succeeded before the `receive`
that delivered the batch returned; and once the worker has handled what it received, this is true of
no other run. -/
theorem mappedRight_iff (tx : Sender) {maxNumberOfSpans : Nat} {otelResource : R}
    {l : List (ChannelEvent R × ChannelOutput R)} {s : Channel R}
    (h : Machine.Run (machine tx) (init maxNumberOfSpans otelResource) l s) :
    (Machine.Run (Machine.guard (machine tx) NotOvertaking)
        (init maxNumberOfSpans otelResource) l s → MappedRight (.init otelResource) l) ∧
    ((∀ message data, s.worker ≠ .received message data) →
      (MappedRight (.init otelResource) l ↔
        Machine.Run (Machine.guard (machine tx) NotOvertaking)
          (init maxNumberOfSpans otelResource) l s)) := by
  have htracks := tracks_of_run h
  constructor
  · intro honTime
    exact (htracks.right_iff.2 honTime).1
  · intro hhandled
    have hwill : WillMapRight ((Resources.init otelResource).after l) s := by
      unfold WillMapRight
      split
      · rename_i hworker
        exact absurd hworker (hhandled _ _)
      · trivial
    rw [← htracks.right_iff, and_iff_left hwill]

/-- A resource, a chunk and a flush while the worker waits. -/
theorem mappedRight_flush :
    ∃ l s, Machine.Run (machine { flushTriggerNumberOfSpans := 1 }) (init 9 0) l s ∧
      MappedRight (.init 0) l ∧
      l.getLast? = some (.handle, .exported 1 [[SpanData.ofIds 1 1]]) := by
  let events : List (ChannelEvent Nat) :=
    [.receive false, .addTraceChunk [.ofIds 1 1], .setResource 1, .triggerFlush, .wake false false,
      .handle, .receive false, .handle]
  have hrun := Machine.run_of_exec (m := machine { flushTriggerNumberOfSpans := 1 })
    (s := init 9 0) events rfl
  have honTime := Machine.run_of_exec
    (m := Machine.guard (machine { flushTriggerNumberOfSpans := 1 }) NotOvertaking)
    (s := init 9 0) events rfl
  exact ⟨_, _, hrun, (mappedRight_iff _ hrun).1 honTime, rfl⟩

/-- The worker waits, a chunk and a resource come, and the wait ends by the timeout. -/
theorem timeout_overtakes :
    ∃ l s, Machine.Run (machine { flushTriggerNumberOfSpans := 1 }) (init 9 0) l s ∧
      ¬ MappedRight (.init 0) l := by
  have hrun := Machine.run_of_exec (m := machine { flushTriggerNumberOfSpans := 1 })
    (s := init 9 0) [.receive false, .setResource 1, .addTraceChunk [.ofIds 1 1], .wake true true,
      .handle] rfl
  refine ⟨_, _, hrun, ?_⟩
  -- the chunk is exported with the initial resource
  intro hright
  have hsame : 0 = 1 := hright.2.2.2.2.1
  cases hsame

end Channel

end Otel
end DdTrace
