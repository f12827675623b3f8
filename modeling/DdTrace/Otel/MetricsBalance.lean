import DdTrace.Otel.RegistryMetrics

/-!
# MetricsBalance — the metrics against the entries

The segments that were created and not closed should be the live entries, and the spans that were
created and not finished should be the open spans of the live entries.  A local root that is
registered while its trace has no entry breaks both: it makes an entry with one open span, and no
counter moves.

This module contains:

* `Book` — what is known about a run that the registry does not keep;
* `segments_balance` and `spans_balance` — the two balances, with the uncounted local roots in them;
* `metrics_balance` — the runs in which the metrics balance.
-/

namespace DdTrace
namespace Otel

open DdTrace.Lib DdTrace.Core

/-! ## One entry -/

namespace Entry

/-- The local roots that an operation registers without an entry; they are not counted. -/
def uncountedRoots (entry : Option Trace) : EntryOp → Nat
  | .registerLocalRootSpan _ => if entry.isSome then 0 else 1
  | _ => 0

/-- The registrations that count for an entry: the one that makes it, and each `registerSpan`. -/
def registrations (entry : Option Trace) : EntryOp → Nat
  | .registerLocalRootTracePropagationData _ => if entry.isSome then 0 else 1
  | .registerLocalRootSpan _ => if entry.isSome then 0 else 1
  | .registerSpan _ _ => 1
  | .finishSpan _ => 0

/-- The spans that an operation finishes on a live entry. -/
def finishes (entry : Option Trace) : EntryOp → Nat
  | .finishSpan _ => if entry.isSome then 1 else 0
  | _ => 0

variable (config : Config) (entry : Option Trace) (op : EntryOp)

/-- Segments are created and closed as the entry comes and goes. -/
theorem segments_step :
    entry.elim 0 (fun _ => 1) + ((counts config entry op).traceSegmentsCreated +
        uncountedRoots entry op) =
      (counts config entry op).traceSegmentsClosed +
        (step config entry op).2.elim 0 (fun _ => 1) := by
  cases op with
  | registerLocalRootTracePropagationData propagationData =>
      cases entry with
      | none => rfl
      | some trace =>
          simp only [step]
          split <;> rfl
  | registerLocalRootSpan rootSpanId =>
      cases entry with
      | none => rfl
      | some trace =>
          simp only [step]
          split <;> rfl
  | registerSpan spanId propagationData =>
      cases entry with
      | none => rfl
      | some trace => rfl
  | finishSpan spanData =>
      cases entry with
      | none => rfl
      | some trace =>
          -- flushed, closed, or waiting
          simp only [step, counts]
          split_ifs <;> rfl

/-- Each registration that counts is in the metrics, up to the uncounted local roots. -/
theorem registrations_eq :
    registrations entry op = (counts config entry op).spansCreated + uncountedRoots entry op := by
  cases entry with
  | none => cases op <;> rfl
  | some trace =>
      cases op with
      | registerLocalRootTracePropagationData propagationData => rfl
      | registerLocalRootSpan rootSpanId => rfl
      | registerSpan spanId propagationData => rfl
      | finishSpan spanData =>
          simp only [counts]
          split_ifs <;> rfl

/-- The open span count goes up with the registrations and down with the finishes, unless it is
zero already when a span finishes. -/
theorem openSpanCount_step (hopen : finishes entry op ≤ entry.elim 0 Trace.openSpanCount) :
    entry.elim 0 Trace.openSpanCount + registrations entry op =
      finishes entry op + (step config entry op).2.elim 0 Trace.openSpanCount := by
  cases op with
  | registerLocalRootTracePropagationData propagationData =>
      cases entry with
      | none => rfl
      | some trace =>
          simp only [step]
          split <;> simp [registrations, finishes]
  | registerLocalRootSpan rootSpanId =>
      cases entry with
      | none => rfl
      | some trace =>
          simp only [step]
          split <;> simp [registrations, finishes]
  | registerSpan spanId propagationData =>
      cases entry with
      | none => rfl
      | some trace => simp [step, registrations, finishes]
  | finishSpan spanData =>
      cases entry with
      | none => rfl
      | some trace =>
          have hpos : 1 ≤ trace.openSpanCount := hopen
          have hrecorded : trace.openSpanCount =
              1 + (trace.recordFinished spanData).openSpanCount :=
            (Nat.add_sub_of_le hpos).symm
          -- flushed, closed, or waiting
          simp only [step]
          split_ifs with hflush hlast
          · exact hrecorded
          · exact hrecorded.trans (congrArg (1 + ·) hlast)
          · exact hrecorded

end Entry

/-! ## The registry in shards -/

namespace TraceRegistry

/-- A quantity summed over all entries of all shards. -/
def sumBy {M : Type*} [AddCommMonoid M] (f : Trace → M) (self : TraceRegistry) : M :=
  ∑ shardIdx, HashMap.sumBy f (self.inner shardIdx).registry

/-- The number of entries. -/
def liveEntries (self : TraceRegistry) : Nat :=
  ∑ shardIdx, (self.inner shardIdx).registry.keys.length

/-- The sum of the open span counts of the entries. -/
def openSpans (self : TraceRegistry) : Nat := self.sumBy Trace.openSpanCount

theorem sumBy_new {M : Type*} [AddCommMonoid M] (f : Trace → M) (config : Config)
    (hasher : TraceId → Nat) : (new config hasher).sumBy f = 0 :=
  Finset.sum_const_zero

theorem liveEntries_eq (self : TraceRegistry) : self.liveEntries = self.sumBy fun _ => 1 := by
  simp [liveEntries, sumBy, HashMap.length_keys_eq_sumBy]

variable (self : TraceRegistry) (c : RegistryCall)

theorem sumBy_call {M : Type*} [AddCommMonoid M] (f : Trace → M) {inn out : M}
    (h : (self.trace c.traceId).elim 0 f + inn =
      out + (Entry.step (self.configOf c.traceId) (self.trace c.traceId) c.op).2.elim 0 f) :
    self.sumBy f + inn = out + (self.call c).2.sumBy f :=
  sum_update_balance (fun shard => HashMap.sumBy f shard.registry) self.inner
    (self.getShard c.traceId) _ ((self.inner (self.getShard c.traceId)).sumBy_balance c f h)

/-- A drain does not touch the entries. -/
theorem sumBy_drain {M : Type*} [AddCommMonoid M] (f : Trace → M)
    (shardIdx : Fin TRACE_REGISTRY_SHARDS) : (self.drain shardIdx).2.sumBy f = self.sumBy f := by
  have hsame : HashMap.sumBy f (self.inner shardIdx).registry + 0 =
      0 + HashMap.sumBy f (self.inner shardIdx).getMetrics.2.registry :=
    (add_zero _).trans (zero_add _).symm
  have hsum : self.sumBy f + 0 = 0 + (self.drain shardIdx).2.sumBy f :=
    sum_update_balance (fun shard => HashMap.sumBy f shard.registry) self.inner shardIdx _ hsame
  simpa using hsum.symm

end TraceRegistry

/-! ## The registry with its book -/

namespace MetricsBalance

open TraceRegistry

/-- What is known about a run beside the registry. -/
structure Book where
  /-- The local roots that were registered while their trace had no entry. -/
  uncountedRoots : Nat
  /-- The spans that were finished on a live entry. -/
  finishedOnEntries : Nat
  /-- For the live entry of each trace, the registrations that count. -/
  registrations : TraceId → Nat
  /-- For the live entry of each trace, the spans that were finished on it. -/
  finishes : TraceId → Nat

structure BookedRegistry where
  registry : TraceRegistry
  book : Book

def init (config : Config) (hasher : TraceId → Nat) : BookedRegistry :=
  { registry := .new config hasher
    book :=
      { uncountedRoots := 0
        finishedOnEntries := 0
        registrations := fun _ => 0
        finishes := fun _ => 0 } }

/-- The book after a call on `entry` that left the entry `after`; a count starts again when the
entry is gone. -/
def Book.record (book : Book) (c : RegistryCall) (entry after : Option Trace) : Book :=
  let registrations := book.registrations c.traceId + Entry.registrations entry c.op
  let finishes := book.finishes c.traceId + Entry.finishes entry c.op
  { uncountedRoots := book.uncountedRoots + Entry.uncountedRoots entry c.op
    finishedOnEntries := book.finishedOnEntries + Entry.finishes entry c.op
    registrations := Function.update book.registrations c.traceId
      (if after.isSome then registrations else 0)
    finishes := Function.update book.finishes c.traceId (if after.isSome then finishes else 0) }

/-- The registry in shards, with its book. -/
def booked : Machine BookedRegistry Event Output := fun s event =>
  (machine s.registry event).map fun (registry, output) =>
    let book :=
      match event with
      | .request (.call c) =>
          s.book.record c (s.registry.trace c.traceId) (registry.trace c.traceId)
      | _ => s.book
    ({ registry := registry, book := book }, output)

/-- All metrics of a run: those that were drained and those that are in the shards. -/
def totals (l : List (Event × Output)) (s : BookedRegistry) : TraceRegistryMetrics :=
  drainedMetrics l + s.registry.shardMetrics

theorem totals_init (config : Config) (hasher : TraceId → Nat) :
    totals [] (init config hasher) = 0 := by
  have hzero : (TraceRegistry.new config hasher).shardMetrics = 0 := Finset.sum_const_zero
  rw [totals, drainedMetrics_nil, zero_add]
  exact hzero

/-- What a step of the registry with its book is: a call, or a step that touches no entry and moves
no metric out of the totals. -/
theorem booked_cases {l : List (Event × Output)} {s s' : BookedRegistry} {event : Event}
    {output : Output} (h : booked s event = some (s', output)) :
    (∃ c, event = .request (.call c) ∧ s'.registry = (s.registry.call c).2 ∧
      s'.book =
        s.book.record c (s.registry.trace c.traceId) ((s.registry.call c).2.trace c.traceId) ∧
      totals (l ++ [(event, output)]) s' = totals l s +
        Entry.counts (s.registry.configOf c.traceId) (s.registry.trace c.traceId) c.op) ∨
    ((∀ c, event ≠ .request (.call c)) ∧ (∀ t, s'.registry.trace t = s.registry.trace t) ∧
      (∀ f : Trace → Nat, s'.registry.sumBy f = s.registry.sumBy f) ∧
      s'.book = s.book ∧ totals (l ++ [(event, output)]) s' = totals l s) := by
  cases event with
  | drain shardIdx =>
      cases h
      refine .inr ⟨?_, fun t => trace_drain _ shardIdx t, fun f => sumBy_drain _ f shardIdx, rfl, ?_⟩
      · intro c hc
        cases hc
      · calc
          totals (l ++ [(.drain shardIdx, .drained (s.registry.drain shardIdx).1)])
                { registry := (s.registry.drain shardIdx).2, book := s.book }
              = drainedMetrics l +
                  ((s.registry.drain shardIdx).1 + (s.registry.drain shardIdx).2.shardMetrics) := by
                rw [totals, drainedMetrics_append, add_assoc]
                rfl
          _ = totals l s := by
                rw [← shardMetrics_drain, totals]
  | request r =>
      cases r with
      | call c =>
          cases h
          refine .inl ⟨c, rfl, handle_call _ c, ?_, ?_⟩
          · simp only [handle_call]
          · simp only [totals, drainedMetrics_append, handle_call, shardMetrics_call, ← add_assoc]
            rfl
      | getTracePropagationData traceId =>
          cases h
          refine .inr ⟨?_, fun t => rfl, fun f => rfl, rfl, ?_⟩
          · intro c hc
            cases hc
          · simp only [totals, drainedMetrics_append]
            rfl
      | getLocalRootSpanId traceId =>
          cases h
          refine .inr ⟨?_, fun t => rfl, fun f => rfl, rfl, ?_⟩
          · intro c hc
            cases hc
          · simp only [totals, drainedMetrics_append]
            rfl

/-! ## The balances -/

variable {config : Config} {hasher : TraceId → Nat} {l : List (Event × Output)}
  {s : BookedRegistry}

/-- The segments that were created, and the uncounted local roots, are the segments that were closed
and the live entries. -/
theorem segments_balance (h : Machine.Run booked (init config hasher) l s) :
    (totals l s).traceSegmentsCreated + s.book.uncountedRoots =
      (totals l s).traceSegmentsClosed + s.registry.liveEntries := by
  refine h.invariant (I := fun l s =>
    (totals l s).traceSegmentsCreated + s.book.uncountedRoots =
      (totals l s).traceSegmentsClosed + s.registry.liveEntries) ?_ ?_
  · rw [totals_init, liveEntries_eq]
    exact (sumBy_new (fun _ => (1 : Nat)) config hasher).symm
  · intro l s s' event output _ hI hstep
    simp only [liveEntries_eq] at hI ⊢
    rcases booked_cases (l := l) hstep with
      ⟨c, -, hregistry, hbook, htotals⟩ | ⟨-, -, hsum, hbook, htotals⟩
    · -- the entry of the call keeps the balance, the others stay
      have hentry := sumBy_call s.registry c (fun _ => (1 : Nat))
        (Entry.segments_step (s.registry.configOf c.traceId) (s.registry.trace c.traceId) c.op)
      rw [htotals, hregistry, hbook]
      simp only [TraceRegistryMetrics.traceSegmentsCreated_add,
        TraceRegistryMetrics.traceSegmentsClosed_add, Book.record]
      omega
    · rw [htotals, hsum, hbook, hI]

/-- A span finishes on an entry only as often as registrations of the entry were counted. -/
def FinishesCounted (s : BookedRegistry) : Event → Prop
  | .request (.call ⟨t, .finishSpan _⟩) =>
      (s.registry.trace t).isSome → s.book.finishes t < s.book.registrations t
  | _ => True

/-- A local root is registered only while its trace has an entry. -/
def RootsReserved (s : BookedRegistry) : Event → Prop
  | .request (.call ⟨t, .registerLocalRootSpan _⟩) => (s.registry.trace t).isSome
  | _ => True

instance (s : BookedRegistry) (event : Event) : Decidable (FinishesCounted s event) := by
  unfold FinishesCounted
  split <;> infer_instance

instance (s : BookedRegistry) (event : Event) : Decidable (RootsReserved s event) := by
  unfold RootsReserved
  split <;> infer_instance

/-- The open span count of the live entry of a trace, against the book. -/
def Counted (s : BookedRegistry) (t : TraceId) : Prop :=
  (s.registry.trace t).elim 0 Trace.openSpanCount + s.book.finishes t = s.book.registrations t

/-- A span that finishes on a counted entry is an open one. -/
theorem Counted.finishes_le {c : RegistryCall} (h : Counted s c.traceId)
    (hfinish : FinishesCounted s (.request (.call c))) :
    Entry.finishes (s.registry.trace c.traceId) c.op ≤
      (s.registry.trace c.traceId).elim 0 Trace.openSpanCount := by
  rcases c with ⟨t, op⟩
  cases op with
  | registerLocalRootTracePropagationData propagationData => exact Nat.zero_le _
  | registerLocalRootSpan rootSpanId => exact Nat.zero_le _
  | registerSpan spanId propagationData => exact Nat.zero_le _
  | finishSpan spanData =>
      cases hentry : s.registry.trace t with
      | none => exact Nat.zero_le _
      | some trace =>
          have hless : s.book.finishes t < s.book.registrations t := hfinish (by simp [hentry])
          have hcount : trace.openSpanCount + s.book.finishes t = s.book.registrations t := by
            simpa [Counted, hentry] using h
          change 1 ≤ trace.openSpanCount
          omega

/-- A call keeps the count of its entry, and of all others. -/
theorem Counted.call {s' : BookedRegistry} {c : RegistryCall} (hcounted : ∀ t, Counted s t)
    (hfinish : FinishesCounted s (.request (.call c)))
    (hregistry : s'.registry = (s.registry.call c).2)
    (hbook : s'.book =
      s.book.record c (s.registry.trace c.traceId) ((s.registry.call c).2.trace c.traceId))
    (t : TraceId) : Counted s' t := by
  unfold Counted
  rw [hregistry, hbook]
  by_cases ht : t = c.traceId
  · subst ht
    have hbefore : _ + _ = _ := hcounted c.traceId
    have hentry := Entry.openSpanCount_step (s.registry.configOf c.traceId)
      (s.registry.trace c.traceId) c.op ((hcounted c.traceId).finishes_le hfinish)
    have hafter : (s.registry.call c).2.trace c.traceId =
        (Entry.step (s.registry.configOf c.traceId) (s.registry.trace c.traceId) c.op).2 := by
      rw [trace_call, if_pos rfl]
      rfl
    simp only [Book.record, Function.update_self, hafter]
    -- the counts start again when the entry is gone
    cases hgone : (Entry.step (s.registry.configOf c.traceId)
        (s.registry.trace c.traceId) c.op).2 with
    | none => rfl
    | some trace =>
        simp only [hgone, Option.elim_some, Option.isSome_some, if_true] at hentry ⊢
        omega
  · have hother : (s.registry.call c).2.trace t = s.registry.trace t := by
      rw [trace_call, if_neg ht]
    simpa [Counted, Book.record, Function.update_of_ne ht, hother] using hcounted t

/-- The spans that were created, and the uncounted local roots, are the spans that were finished on
live entries and the open spans. -/
theorem spans_balance
    (h : Machine.Run (Machine.guard booked FinishesCounted) (init config hasher) l s) :
    (totals l s).spansCreated + s.book.uncountedRoots =
      s.book.finishedOnEntries + s.registry.openSpans := by
  have hall : (∀ t, Counted s t) ∧ (totals l s).spansCreated + s.book.uncountedRoots =
      s.book.finishedOnEntries + s.registry.openSpans := by
    refine h.invariant (I := fun l s => (∀ t, Counted s t) ∧
      (totals l s).spansCreated + s.book.uncountedRoots =
        s.book.finishedOnEntries + s.registry.openSpans) ?_ ?_
    · refine ⟨fun t => rfl, ?_⟩
      rw [totals_init]
      exact (sumBy_new Trace.openSpanCount config hasher).symm
    · intro l s s' event output _ hI hguard
      rcases hI with ⟨hcounted, hI⟩
      rcases Machine.guard_eq_some.1 hguard with ⟨hfinish, hstep⟩
      rcases booked_cases (l := l) hstep with
        ⟨c, rfl, hregistry, hbook, htotals⟩ | ⟨-, htrace, hsum, hbook, htotals⟩
      · have hentry := Entry.openSpanCount_step (s.registry.configOf c.traceId) _ c.op
          ((hcounted c.traceId).finishes_le hfinish)
        refine ⟨Counted.call hcounted hfinish hregistry hbook, ?_⟩
        have hsum := sumBy_call s.registry c Trace.openSpanCount hentry
        have hregistrations := Entry.registrations_eq (s.registry.configOf c.traceId)
          (s.registry.trace c.traceId) c.op
        rw [htotals, hregistry, hbook]
        simp only [TraceRegistryMetrics.spansCreated_add, Book.record, openSpans] at hI ⊢
        omega
      · refine ⟨?_, ?_⟩
        · intro t
          simpa [Counted, htrace, hbook] using hcounted t
        · rw [htotals, openSpans, hsum, hbook]
          exact hI
  exact hall.2

/-- The uncounted local roots of a run are those that a run without them does not have. -/
theorem rootsReserved_iff (h : Machine.Run booked (init config hasher) l s) :
    Machine.Run (Machine.guard booked RootsReserved) (init config hasher) l s ↔
      s.book.uncountedRoots = 0 := by
  induction h with
  | start => exact ⟨fun _ => rfl, fun _ => .start⟩
  | @step l s s' event output hrun hstep ih =>
      rw [hrun.guard_snoc hstep, ih]
      rcases booked_cases (l := l) hstep with ⟨c, rfl, -, hbook, -⟩ | ⟨hother, -, -, hbook, -⟩
      · have hroots : RootsReserved s (.request (.call c)) ↔
            Entry.uncountedRoots (s.registry.trace c.traceId) c.op = 0 := by
          rcases c with ⟨t, op⟩
          cases op with
          | registerLocalRootSpan rootSpanId =>
              cases hentry : s.registry.trace t with
              | none => simp [RootsReserved, Entry.uncountedRoots, hentry]
              | some trace => simp [RootsReserved, Entry.uncountedRoots, hentry]
          | registerLocalRootTracePropagationData propagationData =>
              exact iff_of_true trivial rfl
          | registerSpan spanId propagationData => exact iff_of_true trivial rfl
          | finishSpan spanData => exact iff_of_true trivial rfl
        rw [hroots, hbook]
        exact Nat.add_eq_zero_iff.symm
      · have hmeets : RootsReserved s event := by
          unfold RootsReserved
          split
          · exact absurd rfl (hother _)
          · trivial
        rw [hbook]
        exact and_iff_left hmeets

/-- The metrics balance, over drained and current values, in exactly the runs in which no local root
is registered while its trace has no entry: the segments for every run, the spans for the runs in
which no entry receives more finishes than registrations of it were counted. -/
theorem metrics_balance (config : Config) (hasher : TraceId → Nat) (l : List (Event × Output))
    (s : BookedRegistry) (h : Machine.Run booked (init config hasher) l s) :
    (((totals l s).traceSegmentsCreated : Int) - (totals l s).traceSegmentsClosed =
        s.registry.liveEntries ↔
      Machine.Run (Machine.guard booked RootsReserved) (init config hasher) l s) ∧
    (Machine.Run (Machine.guard booked FinishesCounted) (init config hasher) l s →
      (((totals l s).spansCreated : Int) - s.book.finishedOnEntries = s.registry.openSpans ↔
        Machine.Run (Machine.guard booked RootsReserved) (init config hasher) l s)) := by
  constructor
  · have hsegments := segments_balance h
    rw [rootsReserved_iff h]
    omega
  · intro hcounted
    have hspans := spans_balance hcounted
    rw [rootsReserved_iff h]
    omega

/-- A root and its child, with a drain in between. -/
theorem metrics_balance_rootAndChild :
    ∃ l s, Machine.Run booked (init defaultConfig BitVec.toNat) l s ∧
      ((totals l s).traceSegmentsCreated : Int) - (totals l s).traceSegmentsClosed =
        s.registry.liveEntries ∧
      ((totals l s).spansCreated : Int) - s.book.finishedOnEntries = s.registry.openSpans := by
  let events : List Event :=
    [.request (.call ⟨7, .registerLocalRootTracePropagationData emptyPropagationData⟩),
      .request (.call ⟨7, .registerLocalRootSpan 1⟩),
      .drain ⟨7, by decide⟩,
      .request (.call ⟨7, .registerSpan 2 emptyPropagationData⟩),
      .request (.call ⟨7, .finishSpan (.ofIds 7 2)⟩)]
  have hrun := Machine.run_of_exec (m := booked) (s := init defaultConfig BitVec.toNat) events rfl
  have hreserved := Machine.run_of_exec (m := Machine.guard booked RootsReserved)
    (s := init defaultConfig BitVec.toNat) events rfl
  have hcounted := Machine.run_of_exec (m := Machine.guard booked FinishesCounted)
    (s := init defaultConfig BitVec.toNat) events rfl
  have hbalance := metrics_balance defaultConfig BitVec.toNat _ _ hrun
  exact ⟨_, _, hrun, hbalance.1.2 hreserved, (hbalance.2 hcounted).2 hreserved⟩

/-- One local root without propagation data: a live entry with an open span, and no counter moved. -/
theorem local_root_not_counted :
    ∃ l s, Machine.Run (Machine.guard booked FinishesCounted) (init defaultConfig BitVec.toNat) l s ∧
      ((totals l s).traceSegmentsCreated : Int) - (totals l s).traceSegmentsClosed ≠
        s.registry.liveEntries ∧
      ((totals l s).spansCreated : Int) - s.book.finishedOnEntries ≠ s.registry.openSpans := by
  have hrun := Machine.run_of_exec (m := Machine.guard booked FinishesCounted)
    (s := init defaultConfig BitVec.toNat) [.request (.call ⟨7, .registerLocalRootSpan 1⟩)] rfl
  exact ⟨_, _, hrun, by decide, by decide⟩

end MetricsBalance

end Otel
end DdTrace
