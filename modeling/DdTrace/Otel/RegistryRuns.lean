import Mathlib.Data.Finset.Card
import Mathlib.Logic.Function.Basic
import DdTrace.Otel.Registry

/-!
# RegistryRuns — open spans and the life time of an entry

An entry should live exactly as long as its trace has open spans.  To say so, the registry runs
beside a `SpanBook` for each trace, which knows the spans that were started and those that are not
finished yet.  The machine `tracked` allows the calls that the sampler and the span processor make:
span ids are distinct, and a span finishes once, after it started.

This module contains:

* `tracked_invariant` — the rule for a property of an entry and its book;
* `OpenCount` — the counting invariant, and that no entry is removed early while every local root
  finds its slot free;
* `EntryLife` — the invariant of traces with one local root, and which traces leave an entry behind.
-/

namespace DdTrace
namespace Otel

open DdTrace.Lib DdTrace.Core

/-- What is known about the spans of one trace. -/
structure SpanBook where
  /-- A slot was reserved for a local root. -/
  reserved : Bool
  /-- A local root was registered. -/
  rooted : Bool
  started : Finset SpanId
  unfinished : Finset SpanId
  /-- The unfinished spans that were started on the live entry. -/
  onEntry : Finset SpanId
  finishes : Nat

namespace SpanBook

def empty : SpanBook :=
  { reserved := false
    rooted := false
    started := ∅
    unfinished := ∅
    onEntry := ∅
    finishes := 0 }

/-- Span ids are distinct, and a span finishes once, after it started. -/
def Allows (book : SpanBook) : EntryOp → Prop
  | .registerLocalRootTracePropagationData _ => True
  | .registerLocalRootSpan rootSpanId => rootSpanId ∉ book.started
  | .registerSpan spanId _ => spanId ∉ book.started
  | .finishSpan spanData => spanData.spanContext.spanId ∈ book.unfinished

instance (book : SpanBook) : (op : EntryOp) → Decidable (book.Allows op)
  | .registerLocalRootTracePropagationData _ => inferInstanceAs (Decidable True)
  | .registerLocalRootSpan rootSpanId => inferInstanceAs (Decidable (rootSpanId ∉ book.started))
  | .registerSpan spanId _ => inferInstanceAs (Decidable (spanId ∉ book.started))
  | .finishSpan spanData =>
      inferInstanceAs (Decidable (spanData.spanContext.spanId ∈ book.unfinished))

def start (book : SpanBook) (spanId : SpanId) : SpanBook :=
  { book with
    started := insert spanId book.started
    unfinished := insert spanId book.unfinished
    onEntry := insert spanId book.onEntry }

def record (book : SpanBook) : EntryOp → SpanBook
  | .registerLocalRootTracePropagationData _ => { book with reserved := true }
  | .registerLocalRootSpan rootSpanId => { book.start rootSpanId with rooted := true }
  | .registerSpan spanId _ => book.start spanId
  | .finishSpan spanData =>
      { book with
        unfinished := book.unfinished.erase spanData.spanContext.spanId
        onEntry := book.onEntry.erase spanData.spanContext.spanId
        finishes := book.finishes + 1 }

/-- The book beside the entry that a call left: no span is on an entry that is gone. -/
def beside (book : SpanBook) : Option Trace → SpanBook
  | some _ => book
  | none => { book with onEntry := ∅ }

@[simp] theorem beside_some (book : SpanBook) (trace : Trace) : book.beside (some trace) = book :=
  rfl

end SpanBook

/-! ## The tracked registry -/

structure TrackedRegistry where
  inner : InnerTraceRegistry
  book : TraceId → SpanBook

namespace TrackedRegistry

def init (config : Config) : TrackedRegistry :=
  { inner := .new config
    book := fun _ => .empty }

/-- The entry of a trace. -/
def entry (s : TrackedRegistry) (t : TraceId) : Option Trace := s.inner.registry.lookup t

/-- The tracked registry after a call. -/
def call (s : TrackedRegistry) (c : RegistryCall) : TrackedRegistry :=
  let inner := (s.inner.call c).2
  let book := ((s.book c.traceId).record c.op).beside (inner.registry.lookup c.traceId)
  { inner := inner
    book := Function.update s.book c.traceId book }

/-- The calls of the sampler and of the span processor, beside their books. -/
def tracked : Machine TrackedRegistry RegistryCall (Option Trace) := fun s c =>
  if (s.book c.traceId).Allows c.op then some (s.call c, (s.inner.call c).1) else none

theorem tracked_eq_some {s s' : TrackedRegistry} {c : RegistryCall} {chunk : Option Trace}
    (h : tracked s c = some (s', chunk)) :
    (s.book c.traceId).Allows c.op ∧ s' = s.call c ∧ chunk = (s.inner.call c).1 := by
  unfold tracked at h
  split at h
  · rename_i hallow
    cases h
    exact ⟨hallow, rfl, rfl⟩
  · cases h

theorem entry_call (s : TrackedRegistry) (c : RegistryCall) (t : TraceId) :
    (s.call c).entry t =
      if t = c.traceId then (Entry.step s.inner.config (s.entry t) c.op).2 else s.entry t :=
  s.inner.lookup_call c t

theorem book_call (s : TrackedRegistry) (c : RegistryCall) (t : TraceId) :
    (s.call c).book t =
      if t = c.traceId then ((s.book t).record c.op).beside ((s.call c).entry t) else s.book t := by
  by_cases ht : t = c.traceId
  · subst ht
    simp [call, entry]
  · simp [call, ht]

/-- A condition on a call that speaks of the entry and the book of its trace only. -/
abbrev Rule := Option Trace → SpanBook → EntryOp → Prop

/-- The calls that meet a rule. -/
def Rule.Meets (rule : Rule) (s : TrackedRegistry) (c : RegistryCall) : Prop :=
  rule (s.entry c.traceId) (s.book c.traceId) c.op

instance (rule : Rule) [∀ entry book op, Decidable (rule entry book op)] (s : TrackedRegistry)
    (c : RegistryCall) : Decidable (rule.Meets s c) :=
  inferInstanceAs (Decidable (rule (s.entry c.traceId) (s.book c.traceId) c.op))

/-- The tracked registry under a rule. -/
def under (rule : Rule) [∀ entry book op, Decidable (rule entry book op)] :
    Machine TrackedRegistry RegistryCall (Option Trace) :=
  Machine.guard tracked rule.Meets

variable {rule : Rule} [∀ entry book op, Decidable (rule entry book op)]

theorem under_eq_some {s s' : TrackedRegistry} {c : RegistryCall} {chunk : Option Trace}
    (h : under rule s c = some (s', chunk)) :
    rule.Meets s c ∧ (s.book c.traceId).Allows c.op ∧ s' = s.call c := by
  rcases Machine.guard_eq_some.1 h with ⟨hmeets, hstep⟩
  rcases tracked_eq_some hstep with ⟨hallow, hcall, -⟩
  exact ⟨hmeets, hallow, hcall⟩

/-- A property of an entry and its book that the empty trace has, and that every allowed operation
keeps, holds of all traces along every run. -/
theorem tracked_invariant {config : Config} {I : Option Trace → SpanBook → Prop}
    (start : I none .empty)
    (step : ∀ entry book op, I entry book → rule entry book op → book.Allows op →
      I (Entry.step config entry op).2
        ((book.record op).beside (Entry.step config entry op).2))
    {l : List (RegistryCall × Option Trace)} {s : TrackedRegistry}
    (h : Machine.Run (under rule) (init config) l s) :
    s.inner.config = config ∧ ∀ t, I (s.entry t) (s.book t) := by
  refine h.invariant (I := fun _ s => s.inner.config = config ∧ ∀ t, I (s.entry t) (s.book t))
    ⟨rfl, fun _ => start⟩ ?_
  intro _ s _ c _ _ hI hstep
  rcases hI with ⟨hconfig, hI⟩
  rcases under_eq_some hstep with ⟨hmeets, hallow, rfl⟩
  refine ⟨by simpa [call] using hconfig, ?_⟩
  intro t
  by_cases ht : t = c.traceId
  · subst ht
    have hentry := step _ _ _ (hI c.traceId) hmeets hallow
    simpa [book_call, entry_call, hconfig] using hentry
  · -- the other traces are not touched
    simpa [book_call, entry_call, ht] using hI t

/-- A trace that no call of a run names has an empty book. -/
theorem book_eq_empty {config : Config} {l : List (RegistryCall × Option Trace)}
    {s : TrackedRegistry} (h : Machine.Run (under rule) (init config) l s) {t : TraceId} :
    (∀ x ∈ l, x.1.traceId ≠ t) → s.book t = .empty := by
  refine h.invariant (I := fun l s => (∀ x ∈ l, x.1.traceId ≠ t) → s.book t = .empty)
    (fun _ => rfl) ?_
  intro _ s _ c _ _ hI hstep hne
  rcases under_eq_some hstep with ⟨-, -, rfl⟩
  have hc : t ≠ c.traceId := fun ht => hne _ (List.mem_append_right _ (.head _)) ht.symm
  rw [book_call, if_neg hc]
  exact hI fun x hx => hne x (List.mem_append_left _ hx)

end TrackedRegistry

/-! ## What finishing a span does to an entry -/

namespace Trace

theorem length_recordFinished (trace : Trace) (spanData : SpanData) :
    (trace.recordFinished spanData).finishedSpans.length = trace.finishedSpans.length + 1 := by
  unfold recordFinished
  cases trace.finishedSpans with
  | nil => rfl
  | cons first rest =>
      simp only
      split <;> simp

@[simp] theorem openSpanCount_recordFinished (trace : Trace) (spanData : SpanData) :
    (trace.recordFinished spanData).openSpanCount = trace.openSpanCount - 1 :=
  rfl

end Trace

/-- The three ways a live entry takes a finished span: its spans are flushed, it is removed, or it
waits. -/
theorem Entry.finishSpan_cases (config : Config) (trace : Trace) (spanData : SpanData) :
    (InnerTraceRegistry.partialFlush config (trace.recordFinished spanData) = true ∧
      (Entry.step config (some trace) (.finishSpan spanData)).2 =
        some { trace.recordFinished spanData with finishedSpans := [] }) ∨
    (InnerTraceRegistry.partialFlush config (trace.recordFinished spanData) = false ∧
      trace.openSpanCount - 1 = 0 ∧
      (Entry.step config (some trace) (.finishSpan spanData)).2 = none) ∨
    (InnerTraceRegistry.partialFlush config (trace.recordFinished spanData) = false ∧
      trace.openSpanCount - 1 ≠ 0 ∧
      (Entry.step config (some trace) (.finishSpan spanData)).2 =
        some (trace.recordFinished spanData)) := by
  by_cases hflush : InnerTraceRegistry.partialFlush config (trace.recordFinished spanData) = true
  · exact .inl ⟨hflush, by simp [Entry.step, hflush]⟩
  · by_cases hopen : trace.openSpanCount - 1 = 0
    · exact .inr (.inl ⟨by simpa using hflush, hopen, by simp [Entry.step, hflush, hopen]⟩)
    · exact .inr (.inr ⟨by simpa using hflush, hopen, by simp [Entry.step, hflush, hopen]⟩)

/-! ## Counting the open spans -/

namespace OpenCount

open TrackedRegistry

/-- The spans that `onStart` registers have a valid context, hence an id that is not zero. -/
def FromOnStart : Rule := fun _ _ op =>
  match op with
  | .registerLocalRootSpan rootSpanId => rootSpanId ≠ 0
  | .registerSpan spanId _ => spanId ≠ 0
  | _ => True

/-- A local root is registered on a live entry only while the entry has no local root. -/
def RootSlotFree : Rule := fun entry _ op =>
  match entry, op with
  | some trace, .registerLocalRootSpan _ => trace.localRootSpanId = 0
  | _, _ => True

instance (entry : Option Trace) (book : SpanBook) (op : EntryOp) :
    Decidable (FromOnStart entry book op) := by
  unfold FromOnStart
  split <;> infer_instance

instance (entry : Option Trace) (book : SpanBook) (op : EntryOp) :
    Decidable (RootSlotFree entry book op) := by
  unfold RootSlotFree
  split <;> infer_instance

/-- Both rules. -/
def WithRootSlotFree : Rule := fun entry book op =>
  FromOnStart entry book op ∧ RootSlotFree entry book op

instance (entry : Option Trace) (book : SpanBook) (op : EntryOp) :
    Decidable (WithRootSlotFree entry book op) :=
  inferInstanceAs (Decidable (_ ∧ _))

/-- The slot of a local root that was reserved but not taken yet. -/
def freeSlot (trace : Trace) : Nat := if trace.localRootSpanId = 0 then 1 else 0

/-- The open span count is the number of unfinished spans, and of the slot that is reserved. -/
def Counted : Option Trace → SpanBook → Prop
  | none, book => book.unfinished = ∅ ∧ book.onEntry = ∅
  | some trace, book =>
      trace.openSpanCount = book.unfinished.card + freeSlot trace ∧
        book.onEntry = book.unfinished ∧ book.unfinished ⊆ book.started

/-- A span that starts on a live entry is counted. -/
theorem Counted.start {trace trace' : Trace} {book : SpanBook} {spanId : SpanId}
    (h : Counted (some trace) book) (hnew : spanId ∉ book.started)
    (hcount : trace'.openSpanCount + freeSlot trace =
      trace.openSpanCount + 1 + freeSlot trace') :
    Counted (some trace') (book.start spanId) := by
  rcases h with ⟨hopen, hon, hsub⟩
  -- the id is new, so there is one more unfinished span
  have hfresh : spanId ∉ book.unfinished := fun hmem => hnew (hsub hmem)
  refine ⟨?_, ?_, ?_⟩
  · have hcard : (insert spanId book.unfinished).card = book.unfinished.card + 1 :=
      Finset.card_insert_of_notMem hfresh
    simp only [SpanBook.start, hcard]
    omega
  · simp [SpanBook.start, hon]
  · simpa [SpanBook.start] using Finset.insert_subset_insert spanId hsub

/-- The first span of a new entry is counted. -/
theorem Counted.first {trace : Trace} {book : SpanBook} {spanId : SpanId}
    (h : Counted none book) (hcount : trace.openSpanCount = 1 + freeSlot trace) :
    Counted (some trace) (book.start spanId) := by
  rcases h with ⟨hunfinished, hon⟩
  refine ⟨?_, ?_, ?_⟩
  · simpa [SpanBook.start, hunfinished] using hcount
  · simp [SpanBook.start, hunfinished, hon]
  · simp [SpanBook.start, hunfinished]

/-- Removing an entry is not early: the span that finishes is the only unfinished one. -/
theorem Counted.erase_of_last {trace : Trace} {book : SpanBook} {spanId : SpanId}
    (h : Counted (some trace) book) (hmem : spanId ∈ book.unfinished)
    (hlast : trace.openSpanCount - 1 = 0) : book.unfinished.erase spanId = ∅ := by
  have hcard : (book.unfinished.erase spanId).card = book.unfinished.card - 1 :=
    Finset.card_erase_of_mem hmem
  -- a slot that is still reserved would keep the count above one
  have hopen := h.1
  have hzero : (book.unfinished.erase spanId).card = 0 := by omega
  exact Finset.card_eq_zero.1 hzero

/-- A span that finishes and leaves the entry live is counted down. -/
theorem Counted.finish {trace trace' : Trace} {book : SpanBook} {spanId : SpanId}
    (h : Counted (some trace) book) (hmem : spanId ∈ book.unfinished)
    (hcount : trace'.openSpanCount = trace.openSpanCount - 1)
    (hroot : trace'.localRootSpanId = trace.localRootSpanId) (finishes : Nat) :
    Counted (some trace')
      { book with
        unfinished := book.unfinished.erase spanId
        onEntry := book.onEntry.erase spanId
        finishes := finishes } := by
  rcases h with ⟨hopen, hon, hsub⟩
  have hcard : (book.unfinished.erase spanId).card = book.unfinished.card - 1 :=
    Finset.card_erase_of_mem hmem
  -- the count does not saturate at zero
  have hpos : 0 < book.unfinished.card := Finset.card_pos.2 ⟨spanId, hmem⟩
  refine ⟨?_, ?_, ?_⟩
  · simp only [hcount, hcard, hopen, freeSlot, hroot]
    omega
  · simp [hon]
  · exact (Finset.erase_subset _ _).trans hsub

theorem Counted.step (config : Config) (entry : Option Trace) (book : SpanBook) (op : EntryOp)
    (h : Counted entry book) (hrule : WithRootSlotFree entry book op) (hallow : book.Allows op) :
    Counted (Entry.step config entry op).2
      ((book.record op).beside (Entry.step config entry op).2) := by
  rcases hrule with ⟨hvalid, hslot⟩
  cases op with
  | registerLocalRootTracePropagationData propagationData =>
      cases entry with
      | none =>
          -- the count of the new entry is the reserved slot
          rcases h with ⟨hunfinished, hon⟩
          refine ⟨?_, ?_, ?_⟩
          · simp [SpanBook.beside, SpanBook.record, Entry.step, freeSlot, hunfinished]
          · simp [SpanBook.beside, SpanBook.record, Entry.step, hunfinished, hon]
          · simp [SpanBook.beside, SpanBook.record, Entry.step, hunfinished]
      | some trace =>
          by_cases hp : trace.propagationData.samplingDecision.priority.isSome = true
          · simpa [Entry.step, hp, SpanBook.record, Counted] using h
          · simpa [Entry.step, hp, SpanBook.record, Counted, freeSlot] using h
  | registerLocalRootSpan rootSpanId =>
      have hid : rootSpanId ≠ 0 := hvalid
      cases entry with
      | none =>
          -- the root comes without a reservation and makes the entry
          apply Counted.first h
          simp only [freeSlot, if_neg hid]
      | some trace =>
          -- the slot is free, so the root takes it over
          have hfree : trace.localRootSpanId = 0 := hslot
          have hstep : (Entry.step config (some trace) (.registerLocalRootSpan rootSpanId)).2 =
              some { trace with localRootSpanId := rootSpanId } := by
            simp only [Entry.step, if_pos hfree]
          rw [hstep]
          apply Counted.start h hallow
          simp only [freeSlot, if_pos hfree, if_neg hid]
  | registerSpan spanId propagationData =>
      have hid : spanId ≠ 0 := hvalid
      cases entry with
      | none =>
          -- the first child makes an entry and stands in for the root
          apply Counted.first h
          simp only [freeSlot, if_neg hid]
      | some trace =>
          apply Counted.start h hallow
          simp only [freeSlot]
  | finishSpan spanData =>
      cases entry with
      | none =>
          -- nothing is unfinished when the entry is gone
          have hmem : spanData.spanContext.spanId ∈ book.unfinished := hallow
          rw [h.1] at hmem
          exact absurd hmem (Finset.notMem_empty _)
      | some trace =>
          rcases Entry.finishSpan_cases config trace spanData with
            ⟨-, hstep⟩ | ⟨-, hlast, hstep⟩ | ⟨-, -, hstep⟩
          · -- a flush empties the list of finished spans, the count goes down as without one
            rw [hstep]
            exact Counted.finish h hallow (trace.openSpanCount_recordFinished spanData) rfl _
          · rw [hstep]
            exact ⟨Counted.erase_of_last h hallow hlast, rfl⟩
          · rw [hstep]
            exact Counted.finish h hallow (trace.openSpanCount_recordFinished spanData) rfl _

/-- Only the finish of the last unfinished span removes an entry. -/
theorem Counted.onEntry_of_removed {config : Config} {trace : Trace} {book : SpanBook}
    {op : EntryOp} (h : Counted (some trace) book) (hallow : book.Allows op)
    (hgone : (Entry.step config (some trace) op).2 = none) : (book.record op).onEntry = ∅ := by
  cases op with
  | registerLocalRootTracePropagationData propagationData =>
      by_cases hp : trace.propagationData.samplingDecision.priority.isSome = true
      · simp [Entry.step, hp] at hgone
      · simp [Entry.step, hp] at hgone
  | registerLocalRootSpan rootSpanId =>
      simp only [Entry.step] at hgone
      split at hgone
      · cases hgone
      · cases hgone
  | registerSpan spanId propagationData => cases hgone
  | finishSpan spanData =>
      rcases Entry.finishSpan_cases config trace spanData with
        ⟨-, hstep⟩ | ⟨-, hlast, -⟩ | ⟨-, -, hstep⟩
      · rw [hstep] at hgone
        cases hgone
      · -- the count is that of the unfinished spans, so no other one is left
        have hlastSpan := Counted.erase_of_last h hallow hlast
        simpa [SpanBook.record, h.2.1] using hlastSpan
      · rw [hstep] at hgone
        cases hgone

/-- A call that removes the entry of its trace while a span started on it is unfinished. -/
def RemovesEarly (s : TrackedRegistry) (c : RegistryCall) : Prop :=
  (s.entry c.traceId).isSome = true ∧ (s.call c).entry c.traceId = none ∧
    ((s.book c.traceId).record c.op).onEntry ≠ ∅

/-- While every local root finds its slot free, no call of any run removes an entry early. -/
theorem not_removesEarly {config : Config} {l : List (RegistryCall × Option Trace)}
    {s s' : TrackedRegistry} {c : RegistryCall} {chunk : Option Trace}
    (h : Machine.Run (under WithRootSlotFree) (init config) l s)
    (hstep : under WithRootSlotFree s c = some (s', chunk)) : ¬ RemovesEarly s c := by
  -- the counting invariant, before the call and for its trace
  have hcounted := (tracked_invariant (I := Counted) ⟨rfl, rfl⟩ (Counted.step config) h).2 c.traceId
  rcases under_eq_some hstep with ⟨-, hallow, -⟩
  intro hearly
  rcases hearly with ⟨hlive, hgone, hopen⟩
  rcases Option.isSome_iff_exists.1 hlive with ⟨trace, hentry⟩
  rw [entry_call, if_pos rfl, hentry] at hgone
  rw [hentry] at hcounted
  exact hopen (hcounted.onEntry_of_removed hallow hgone)

/-- Two requests of one remote trace: a slot is reserved for each, but the second is on the entry of
the first and its root is not counted, so the entry goes with the first root. -/
def twoRoots : List RegistryCall :=
  [⟨7, .registerLocalRootTracePropagationData emptyPropagationData⟩,
    ⟨7, .registerLocalRootSpan 1⟩,
    ⟨7, .registerLocalRootTracePropagationData emptyPropagationData⟩,
    ⟨7, .registerLocalRootSpan 2⟩]

/-- A root with a child, the child finished. -/
def rootAndChild : List RegistryCall :=
  [⟨7, .registerLocalRootTracePropagationData emptyPropagationData⟩,
    ⟨7, .registerSpan 2 emptyPropagationData⟩,
    ⟨7, .registerLocalRootSpan 1⟩,
    ⟨7, .finishSpan (.ofIds 7 2)⟩]

theorem not_removesEarly_rootAndChild :
    ∃ s : TrackedRegistry, (s.call ⟨7, .finishSpan (.ofIds 7 1)⟩).entry 7 = none ∧
      ¬ RemovesEarly s ⟨7, .finishSpan (.ofIds 7 1)⟩ :=
  ⟨_, rfl, not_removesEarly (Machine.run_of_exec (s := init defaultConfig) rootAndChild rfl) rfl⟩

theorem removesEarly_twoRoots :
    ∃ l s, Machine.Run (under FromOnStart) (init defaultConfig) l s ∧
      (under FromOnStart s ⟨7, .finishSpan (.ofIds 7 1)⟩).isSome = true ∧
      RemovesEarly s ⟨7, .finishSpan (.ofIds 7 1)⟩ := by
  refine ⟨_, _, Machine.run_of_exec twoRoots rfl, rfl, rfl, rfl, ?_⟩
  decide

end OpenCount

/-! ## The life of an entry with one local root -/

namespace EntryLife

open TrackedRegistry

/-- The spans that the trace waits for: the unfinished ones, and the local root for which a slot is
reserved. -/
def openSpans (book : SpanBook) : Nat :=
  book.unfinished.card + (book.reserved && !book.rooted).toNat

/-- Nothing is known about the trace yet. -/
def Unseen (book : SpanBook) : Prop :=
  book.reserved = false ∧ book.rooted = false ∧ book.started = ∅

instance (book : SpanBook) : Decidable (Unseen book) :=
  inferInstanceAs (Decidable (_ ∧ _))

/-- A trace has at most one local root, for which a slot is reserved before anything else; its
children are registered while it is open, or the first of them opens it. -/
def OneRoot : Rule := fun _ book op =>
  match op with
  | .registerLocalRootTracePropagationData _ => Unseen book
  | .registerLocalRootSpan _ => (book.reserved && !book.rooted) = true
  | .registerSpan _ _ => 0 < openSpans book ∨ Unseen book
  | .finishSpan _ => True

instance (entry : Option Trace) (book : SpanBook) (op : EntryOp) :
    Decidable (OneRoot entry book op) := by
  unfold OneRoot
  split <;> infer_instance

/-- Whether the `n`-th finished span of a trace is flushed without waiting for the open ones. -/
def FlushesAt (config : Config) (n : Nat) : Prop :=
  config.tracePartialFlushEnabled ∧ n % max config.tracePartialFlushMinSpans 1 = 0

instance (config : Config) (n : Nat) : Decidable (FlushesAt config n) :=
  inferInstanceAs (Decidable (_ ∧ _))

/-- How many of the finished spans of a trace wait in its entry. -/
def waiting (config : Config) (finishes : Nat) : Nat :=
  if config.tracePartialFlushEnabled then finishes % max config.tracePartialFlushMinSpans 1
  else finishes

/-- An open trace has an entry that counts its open spans.  A closed one has none, unless its last
span was flushed without waiting. -/
structure Follows (config : Config) (entry : Option Trace) (book : SpanBook) : Prop where
  subset : book.unfinished ⊆ book.started
  unseen : Unseen book → entry = none ∧ book.finishes = 0
  isOpen : 0 < openSpans book → ∃ trace, entry = some trace ∧
    trace.openSpanCount = openSpans book ∧
    trace.finishedSpans.length = waiting config book.finishes
  closed : openSpans book = 0 →
    (entry = none ↔ (0 < book.finishes → ¬ FlushesAt config book.finishes))

/-- The next residue is zero or one more. -/
theorem succ_mod (n : Nat) {m : Nat} (hm : 0 < m) :
    (n + 1) % m = if n % m + 1 = m then 0 else n % m + 1 := by
  have hdiv : m * (n / m) + n % m = n := Nat.div_add_mod n m
  have hlt : n % m < m := Nat.mod_lt n hm
  split
  · -- a full round of `m`
    rename_i hlast
    have hsucc : n + 1 = m * (n / m + 1) := by
      rw [Nat.mul_add, Nat.mul_one]
      omega
    rw [hsucc, Nat.mul_mod_right]
  · rename_i hmore
    have hsucc : n + 1 = (n % m + 1) + m * (n / m) := by omega
    rw [hsucc, Nat.add_mul_mod_self_left, Nat.mod_eq_of_lt]
    omega

/-- An entry flushes its spans with every `max minSpans 1`-th finished span. -/
theorem partialFlush_iff {config : Config} {trace : Trace} {n : Nat}
    (h : trace.finishedSpans.length = waiting config n + 1) :
    InnerTraceRegistry.partialFlush config trace = true ↔ FlushesAt config (n + 1) := by
  -- a threshold of zero works as a threshold of one
  have hpos : 0 < max config.tracePartialFlushMinSpans 1 := by omega
  have hlt : n % max config.tracePartialFlushMinSpans 1 < max config.tracePartialFlushMinSpans 1 :=
    Nat.mod_lt _ hpos
  have hsucc := succ_mod n hpos
  cases hen : config.tracePartialFlushEnabled with
  | false => simp [InnerTraceRegistry.partialFlush, FlushesAt, hen]
  | true =>
      simp only [waiting, hen, if_true] at h
      simp only [InnerTraceRegistry.partialFlush, FlushesAt, hen, Bool.true_and, decide_eq_true_eq,
        true_and, h, hsucc]
      split <;> omega

/-- What waits after a span finished. -/
theorem waiting_succ (config : Config) (n : Nat) :
    waiting config (n + 1) = if FlushesAt config (n + 1) then 0 else waiting config n + 1 := by
  have hpos : 0 < max config.tracePartialFlushMinSpans 1 := by omega
  have hsucc := succ_mod n hpos
  cases hen : config.tracePartialFlushEnabled with
  | false => simp [waiting, FlushesAt, hen]
  | true =>
      simp only [waiting, FlushesAt, hen, if_true, true_and, hsucc]
      split <;> simp

theorem openSpans_start {book : SpanBook} {spanId : SpanId} (hnew : spanId ∉ book.started)
    (hsub : book.unfinished ⊆ book.started) :
    openSpans (book.start spanId) = openSpans book + 1 := by
  have hfresh : spanId ∉ book.unfinished := fun hmem => hnew (hsub hmem)
  simp only [openSpans, SpanBook.start, Finset.card_insert_of_notMem hfresh]
  omega

theorem openSpans_finish {book : SpanBook} {spanData : SpanData}
    (hallow : book.Allows (.finishSpan spanData)) :
    openSpans (book.record (.finishSpan spanData)) = openSpans book - 1 := by
  have hmem : spanData.spanContext.spanId ∈ book.unfinished := hallow
  have hpos : 0 < book.unfinished.card := Finset.card_pos.2 ⟨_, hmem⟩
  simp only [openSpans, SpanBook.record, Finset.card_erase_of_mem hmem]
  omega

theorem Follows.unfinished_of_unseen {config : Config} {entry : Option Trace} {book : SpanBook}
    (h : Follows config entry book) (hunseen : Unseen book) : book.unfinished = ∅ :=
  Finset.subset_empty.1 (hunseen.2.2 ▸ h.subset)

/-- An operation that leaves the trace open keeps the invariant if it keeps the counts. -/
theorem Follows.of_open {config : Config} {trace : Trace} {book : SpanBook}
    (hsub : book.unfinished ⊆ book.started) (hseen : ¬ Unseen book) (hopen : 0 < openSpans book)
    (hcount : trace.openSpanCount = openSpans book)
    (hwaiting : trace.finishedSpans.length = waiting config book.finishes) :
    Follows config (some trace) book := by
  refine ⟨hsub, ?_, ?_, ?_⟩
  · intro hunseen
    exact absurd hunseen hseen
  · intro _
    exact ⟨trace, rfl, hcount, hwaiting⟩
  · intro hclosed
    omega

/-- An operation that closes the trace must leave an entry exactly if its spans are flushed. -/
theorem Follows.of_closed {config : Config} {entry : Option Trace} {book : SpanBook}
    (hsub : book.unfinished ⊆ book.started) (hseen : ¬ Unseen book) (hclosed : openSpans book = 0)
    (hentry : entry = none ↔ (0 < book.finishes → ¬ FlushesAt config book.finishes)) :
    Follows config entry book := by
  refine ⟨hsub, ?_, ?_, ?_⟩
  · intro hunseen
    exact absurd hunseen hseen
  · intro hopen
    omega
  · intro _
    exact hentry

/-- With the span there is one more that waits; the flush and the count are asked after that. -/
theorem Follows.finish {config : Config} {entry : Option Trace} {book : SpanBook}
    {spanData : SpanData} (h : Follows config entry book)
    (hmem : spanData.spanContext.spanId ∈ book.unfinished) :
    Follows config (Entry.step config entry (.finishSpan spanData)).2
      ((book.record (.finishSpan spanData)).beside
        (Entry.step config entry (.finishSpan spanData)).2) := by
  have hpos : 0 < book.unfinished.card := Finset.card_pos.2 ⟨_, hmem⟩
  have hopen : 0 < openSpans book := Nat.lt_of_lt_of_le hpos (Nat.le_add_right _ _)
  have hless : openSpans (book.record (.finishSpan spanData)) = openSpans book - 1 :=
    openSpans_finish hmem
  have hseen : ¬ Unseen (book.record (.finishSpan spanData)) := by
    rintro ⟨-, -, hnone⟩
    have hstarted : spanData.spanContext.spanId ∈ book.started := h.subset hmem
    simp [SpanBook.record] at hnone
    simp [hnone] at hstarted
  rcases h.isOpen hopen with ⟨trace, rfl, hcount, hwaiting⟩
  have hlength : (trace.recordFinished spanData).finishedSpans.length =
      waiting config book.finishes + 1 := by
    rw [Trace.length_recordFinished, hwaiting]
  have hflush := partialFlush_iff hlength
  have hwait := waiting_succ config book.finishes
  have hsub : (book.record (.finishSpan spanData)).unfinished ⊆ book.started :=
    (Finset.erase_subset _ _).trans h.subset
  rcases Entry.finishSpan_cases config trace spanData with
    ⟨hflushed, hstep⟩ | ⟨hflushed, hlast, hstep⟩ | ⟨hflushed, hmore, hstep⟩
  · -- the spans are flushed, and the entry stays even if no span is open any more
    have hflushes : FlushesAt config (book.finishes + 1) := hflush.1 hflushed
    rw [hstep]
    by_cases hlast : openSpans book - 1 = 0
    · apply Follows.of_closed hsub hseen (hless.trans hlast)
      simpa [SpanBook.record] using hflushes
    · apply Follows.of_open hsub hseen
      · omega
      · simp [hcount, hless]
      · simp [SpanBook.record, hwait, hflushes]
  · -- the last open span, and not flushed: the entry goes
    have hflushes : ¬ FlushesAt config (book.finishes + 1) := by simp [← hflush, hflushed]
    rw [hstep]
    refine Follows.of_closed hsub hseen ?_ ?_
    · exact hless.trans (hcount ▸ hlast)
    · simpa [SpanBook.beside, SpanBook.record] using hflushes
  · have hflushes : ¬ FlushesAt config (book.finishes + 1) := by simp [← hflush, hflushed]
    rw [hstep]
    apply Follows.of_open hsub hseen
    · omega
    · simp [hcount, hless]
    · simp [SpanBook.record, hwait, hflushes, hlength]

theorem Follows.step {config : Config} (entry : Option Trace) (book : SpanBook) (op : EntryOp)
    (h : Follows config entry book) (hrule : OneRoot entry book op) (hallow : book.Allows op) :
    Follows config (Entry.step config entry op).2
      ((book.record op).beside (Entry.step config entry op).2) := by
  cases op with
  | registerLocalRootTracePropagationData propagationData =>
      -- nothing is known of the trace: its entry is new, and counts the reserved slot
      have hunseen : Unseen book := hrule
      rcases h.unseen hunseen with ⟨rfl, hfinishes⟩
      have hopen : openSpans { book with reserved := true } = 1 := by
        simp [openSpans, hunseen.2.1, h.unfinished_of_unseen hunseen]
      change Follows config (some ⟨0, [], 1, propagationData⟩) { book with reserved := true }
      apply Follows.of_open
      · exact h.subset
      · simp [Unseen]
      · simp [hopen]
      · exact hopen.symm
      · simp [hfinishes, waiting]
  | registerLocalRootSpan rootSpanId =>
      -- the entry was made when the slot was reserved, and already counts the root
      have hpending : (book.reserved && !book.rooted) = true := hrule
      have hopen : 0 < openSpans book := by simp [openSpans, hpending]
      have hsame : openSpans (book.record (.registerLocalRootSpan rootSpanId)) =
          openSpans book := by
        have hcard : (insert rootSpanId book.unfinished).card = book.unfinished.card + 1 :=
          Finset.card_insert_of_notMem fun hmem => hallow (h.subset hmem)
        simp [openSpans, SpanBook.record, SpanBook.start, hpending, hcard]
      rcases h.isOpen hopen with ⟨trace, rfl, hcount, hwaiting⟩
      have hentry : ∃ trace', (Entry.step config (some trace)
          (.registerLocalRootSpan rootSpanId)).2 = some trace' ∧
          trace'.openSpanCount = trace.openSpanCount ∧
          trace'.finishedSpans = trace.finishedSpans := by
        simp only [Entry.step]
        split
        · exact ⟨_, rfl, rfl, rfl⟩
        · exact ⟨_, rfl, rfl, rfl⟩
      rcases hentry with ⟨trace', hstep, hcount', hspans'⟩
      rw [hstep]
      apply Follows.of_open
      · exact Finset.insert_subset_insert rootSpanId h.subset
      · simp [Unseen, SpanBook.record]
      · simpa [hsame] using hopen
      · simpa [hsame, hcount'] using hcount
      · simpa [hspans', SpanBook.record, SpanBook.start] using hwaiting
  | registerSpan spanId propagationData =>
      have hmore : openSpans (book.start spanId) = openSpans book + 1 :=
        openSpans_start hallow h.subset
      have hopened : ∃ trace', (Entry.step config entry
          (.registerSpan spanId propagationData)).2 = some trace' ∧
          trace'.openSpanCount = openSpans book + 1 ∧
          trace'.finishedSpans.length = waiting config book.finishes := by
        -- the child joins an open trace, or opens it
        rcases hrule with hopen | hunseen
        · rcases h.isOpen hopen with ⟨trace, rfl, hcount, hwaiting⟩
          exact ⟨_, rfl, by simp [hcount], hwaiting⟩
        · rcases h.unseen hunseen with ⟨rfl, hfinishes⟩
          refine ⟨_, rfl, ?_, ?_⟩
          · simp [openSpans, hunseen.1, h.unfinished_of_unseen hunseen]
          · simp [hfinishes, waiting]
      rcases hopened with ⟨trace', hstep, hcount, hwaiting⟩
      rw [hstep]
      apply Follows.of_open
      · exact Finset.insert_subset_insert spanId h.subset
      · simp [Unseen, SpanBook.record, SpanBook.start]
      · change 0 < openSpans (book.start spanId)
        omega
      · exact hcount.trans hmore.symm
      · exact hwaiting
  | finishSpan spanData => exact h.finish hallow

theorem Follows.init (config : Config) : Follows config none .empty := by
  refine ⟨?_, ?_, ?_, ?_⟩
  · exact Finset.Subset.refl _
  · intro _
    exact ⟨rfl, rfl⟩
  · intro hopen
    simp [openSpans, SpanBook.empty] at hopen
  · intro _
    simp [SpanBook.empty]

theorem follows_of_run {config : Config} {l : List (RegistryCall × Option Trace)}
    {s : TrackedRegistry} (h : Machine.Run (under OneRoot) (init config) l s) (t : TraceId) :
    Follows config (s.entry t) (s.book t) :=
  (tracked_invariant (.init config) Follows.step h).2 t

theorem openSpans_call {s : TrackedRegistry} {t : TraceId} {spanData : SpanData}
    (hallow : (s.book t).Allows (.finishSpan spanData)) :
    openSpans ((s.call ⟨t, .finishSpan spanData⟩).book t) = openSpans (s.book t) - 1 := by
  rw [book_call, if_pos rfl]
  cases (s.call ⟨t, .finishSpan spanData⟩).entry t with
  | none => exact openSpans_finish hallow
  | some trace => exact openSpans_finish hallow

/-- When a span finishes that is the only open one of its trace, its entry is removed exactly if the
span is not flushed without waiting; and once all spans of a run are finished, the registry is empty
exactly if this is so for every trace of the run. -/
theorem entry_removed_iff {config : Config} {l : List (RegistryCall × Option Trace)}
    {s : TrackedRegistry} (h : Machine.Run (under OneRoot) (init config) l s) :
    (∀ t spanData s' chunk, under OneRoot s ⟨t, .finishSpan spanData⟩ = some (s', chunk) →
      openSpans (s.book t) = 1 →
      ((s.entry t).isSome = true ∧ s'.entry t = none ↔
        ¬ FlushesAt config ((s.book t).finishes + 1))) ∧
    ((∀ t, openSpans (s.book t) = 0) →
      (s.inner.registry = ∅ ↔
        ∀ t, 0 < (s.book t).finishes → ¬ FlushesAt config (s.book t).finishes)) := by
  constructor
  · -- the invariant before the finish gives the live entry, the one after it says when it is gone
    intro t spanData s' chunk hstep hlast
    have hbefore := follows_of_run h t
    have hafter := follows_of_run (h.step hstep) t
    rcases under_eq_some hstep with ⟨-, hallow, rfl⟩
    have hclosed : openSpans ((s.call ⟨t, .finishSpan spanData⟩).book t) = 0 := by
      rw [openSpans_call hallow, hlast]
    have hfinishes : ((s.call ⟨t, .finishSpan spanData⟩).book t).finishes =
        (s.book t).finishes + 1 := by
      rw [book_call, if_pos rfl]
      cases (s.call ⟨t, .finishSpan spanData⟩).entry t with
      | none => rfl
      | some trace => rfl
    rcases hbefore.isOpen (by omega) with ⟨trace, hentry, -, -⟩
    rw [hafter.closed hclosed, hfinishes, hentry]
    simp
  · -- all traces are closed, so the invariant decides about each entry
    intro hclosed
    have hentries : ∀ t, s.inner.registry.lookup t = none ↔
        (0 < (s.book t).finishes → ¬ FlushesAt config (s.book t).finishes) :=
      fun t => (follows_of_run h t).closed (hclosed t)
    constructor
    · intro hempty t
      refine (hentries t).1 ?_
      rw [hempty]
      rfl
    · intro hnone
      exact HashMap.eq_empty_of_lookup fun t => (hentries t).2 (hnone t)

theorem entry_removed_rootAndChild :
    ∃ s : TrackedRegistry, (s.entry 7).isSome = true ∧
      (s.call ⟨7, .finishSpan (.ofIds 7 1)⟩).entry 7 = none := by
  have hrun := Machine.run_of_exec (m := under OneRoot) (s := init defaultConfig)
    OpenCount.rootAndChild rfl
  refine ⟨_, ((entry_removed_iff hrun).1 7 (.ofIds 7 1) _ _ rfl ?_).2 ?_⟩
  · decide
  · decide

/-- With partial flushing from two spans on, the entry of a root and its child stays. -/
theorem entry_left_behind :
    ∃ l s, Machine.Run (under OneRoot)
        (init { defaultConfig with
          tracePartialFlushEnabled := true
          tracePartialFlushMinSpans := 2 }) l s ∧
      (∀ t, openSpans (s.book t) = 0) ∧ s.inner.registry ≠ ∅ := by
  have hrun := Machine.run_of_exec (m := under OneRoot)
    (s := init { defaultConfig with
      tracePartialFlushEnabled := true
      tracePartialFlushMinSpans := 2 })
    (OpenCount.rootAndChild ++ [⟨7, .finishSpan (.ofIds 7 1)⟩]) rfl
  refine ⟨_, _, hrun, ?_, ?_⟩
  · -- the other traces have no spans at all
    intro t
    by_cases ht : t = 7
    · subst ht
      rfl
    · rw [book_eq_empty hrun]
      · rfl
      · simpa using fun h => ht (Eq.symm h)
  · intro hempty
    have hlive := congrArg (fun entries => (AList.lookup (7 : TraceId) entries).isSome) hempty
    exact Bool.noConfusion hlive

end EntryLife

end Otel
end DdTrace
