import Mathlib.Data.Finset.Card
import DdTrace.Core.Config
import DdTrace.Lib.Machine

/-!
# ExtraServices — the services that are found at run time

A name that is seen for the first time goes into a queue, and into the set of the names that were sent
there.  Who asks for the services drains the queue into a third set, which is kept at 64 names: where it
grows beyond that, one of its names is removed, any one, as the set has no order.

Both calls hold the lock of the queue while they use it, and a name is looked up and sent under one lock,
so a run is a list of calls.  `extra_services` says what the answers contain, after any calls and
whatever is removed.
-/

namespace DdTrace
namespace Core

open Lib

structure ExtraServicesTracker where
  extraServices : Finset Str
  extraServicesSent : Finset Str
  extraServicesQueue : Option (List Str)

namespace ExtraServicesTracker

def new : ExtraServicesTracker :=
  { extraServices := ∅
    extraServicesSent := ∅
    extraServicesQueue := some [] }

def addExtraService (serviceName mainService : Str) (self : ExtraServicesTracker) :
    ExtraServicesTracker :=
  if serviceName = mainService then self
  -- a name is sent once, and remembered after it has left the queue
  else if serviceName ∈ self.extraServicesSent then self
  else
    { self with
      extraServicesQueue := self.extraServicesQueue.map (· ++ [serviceName])
      extraServicesSent := insert serviceName self.extraServicesSent }

/-- The loop over the queue.  The names in `removed` are those that the set gives to be removed, one
each time there are too many; `none` if it could not have given them. -/
def drain : List Str → List Str → Finset Str → Option (Finset Str)
  | [], [], services => some services
  | [], _ :: _, _ => none
  | service :: queue, removed, services =>
      let services := insert service services
      if 64 < services.card then
        match removed with
        | [] => none
        | toRemove :: removed =>
            if toRemove ∈ services then drain queue removed (services.erase toRemove) else none
      else drain queue removed services

def getExtraServices (removed : List Str) (self : ExtraServicesTracker) :
    Option (ExtraServicesTracker × Finset Str) :=
  match self.extraServicesQueue with
  | none => if removed.isEmpty then some (self, self.extraServices) else none
  | some queue =>
      (drain queue removed self.extraServices).map fun services =>
        ({ self with extraServices := services, extraServicesQueue := some [] }, services)

end ExtraServicesTracker

/-! ## Runs -/

inductive ExtraServicesCall
  | addExtraService (serviceName : Str)
  | getExtraServices (removed : List Str)

/-- What a call puts into the queue, or the services that it returns. -/
inductive ExtraServicesReturn
  | queued (names : List Str)
  | services (services : Finset Str)

namespace ExtraServicesTracker

/-- What stands in a queue behind what stood there before. -/
def queuedSince (before after : ExtraServicesTracker) : List Str :=
  (after.extraServicesQueue.getD []).drop (before.extraServicesQueue.getD []).length

/-- Calls with a fixed main service. -/
def machine (mainService : Str) :
    Machine ExtraServicesTracker ExtraServicesCall ExtraServicesReturn := fun self call =>
  match call with
  | .addExtraService serviceName =>
      let after := self.addExtraService serviceName mainService
      some (after, .queued (queuedSince self after))
  | .getExtraServices removed =>
      (self.getExtraServices removed).map fun (after, services) => (after, .services services)

end ExtraServicesTracker

/-- The history of a tracker. -/
abbrev ExtraServicesHistory := List (ExtraServicesCall × ExtraServicesReturn)

namespace ExtraServicesHistory

/-- The names that were passed to `addExtraService`. -/
def added (l : ExtraServicesHistory) : List Str :=
  l.filterMap fun step =>
    match step.1 with
    | .addExtraService serviceName => some serviceName
    | .getExtraServices _ => none

/-- The names that were put into the queue, in order. -/
def queued (l : ExtraServicesHistory) : List Str :=
  l.flatMap fun step =>
    match step.2 with
    | .queued names => names
    | .services _ => []

/-- The added names that are not that of the main service. -/
def others (mainService : Str) (l : ExtraServicesHistory) : Finset Str :=
  l.added.toFinset.erase mainService

variable {mainService serviceName : Str} {l : ExtraServicesHistory}

theorem others_add_main (answer : ExtraServicesReturn) :
    others mainService (l ++ [(.addExtraService mainService, answer)]) = others mainService l := by
  simp [others, added, List.toFinset_append, Finset.union_comm, Finset.erase_insert_eq_erase]

theorem others_add (h : serviceName ≠ mainService) (answer : ExtraServicesReturn) :
    others mainService (l ++ [(.addExtraService serviceName, answer)]) =
      insert serviceName (others mainService l) := by
  simp [others, added, List.toFinset_append, Finset.union_comm, Finset.erase_insert_of_ne h]

theorem others_get (removed : List Str) (answer : ExtraServicesReturn) :
    others mainService (l ++ [(.getExtraServices removed, answer)]) = others mainService l := by
  simp [others, added]

theorem queued_append (call : ExtraServicesCall) (names : List Str) :
    queued (l ++ [(call, .queued names)]) = queued l ++ names := by
  simp [queued]

theorem queued_services (call : ExtraServicesCall) (services : Finset Str) :
    queued (l ++ [(call, .services services)]) = queued l := by
  simp [queued]

end ExtraServicesHistory

namespace ExtraServicesTracker

/-! ## Draining the queue -/

section Drain

variable {queue removed : List Str} {services drained : Finset Str}

/-- One pass of the loop: the name is kept, or some name is removed for it. -/
theorem drain_cases {service : Str}
    (h : drain (service :: queue) removed services = some drained) :
    ((insert service services).card ≤ 64 ∧
        drain queue removed (insert service services) = some drained) ∨
      (64 < (insert service services).card ∧
        ∃ toRemove rest, removed = toRemove :: rest ∧ toRemove ∈ insert service services ∧
          drain queue rest ((insert service services).erase toRemove) = some drained) := by
  simp only [drain] at h
  split at h
  · rename_i hmany
    cases removed with
    | nil => cases h
    | cons toRemove rest =>
        simp only at h
        split at h
        · rename_i hmem
          exact .inr ⟨hmany, toRemove, rest, rfl, hmem, h⟩
        · cases h
  · rename_i hfew
    exact .inl ⟨Nat.le_of_not_lt hfew, h⟩

theorem union_toFinset_cons (service : Str) :
    services ∪ (service :: queue).toFinset = insert service services ∪ queue.toFinset := by
  rw [List.toFinset_cons, Finset.union_insert, Finset.insert_union]

/-- Nothing comes out that was not there, or in the queue. -/
theorem drain_subset (h : drain queue removed services = some drained) :
    drained ⊆ services ∪ queue.toFinset := by
  induction queue generalizing removed services with
  | nil =>
      cases removed with
      | nil =>
          cases h
          exact Finset.subset_union_left
      | cons toRemove rest => cases h
  | cons service queue ih =>
      rw [union_toFinset_cons]
      rcases drain_cases h with ⟨-, hrest⟩ | ⟨-, toRemove, rest, -, -, hrest⟩
      · exact ih hrest
      · exact (ih hrest).trans (Finset.union_subset_union_left (Finset.erase_subset _ _))

/-- The limit is kept. -/
theorem card_drain_le (h : drain queue removed services = some drained)
    (hservices : services.card ≤ 64) : drained.card ≤ 64 := by
  induction queue generalizing removed services with
  | nil =>
      cases removed with
      | nil =>
          cases h
          exact hservices
      | cons toRemove rest => cases h
  | cons service queue ih =>
      rcases drain_cases h with ⟨hfew, hrest⟩ | ⟨-, toRemove, rest, -, hmem, hrest⟩
      · exact ih hrest hfew
      · -- the name that is removed makes room for the one that came in
        refine ih hrest ?_
        have hinsert := Finset.card_insert_le service services
        rw [Finset.card_erase_of_mem hmem]
        omega

/-- As long as the limit allows it, everything is kept. -/
theorem drain_eq_union (h : drain queue removed services = some drained)
    (hfew : (services ∪ queue.toFinset).card ≤ 64) : drained = services ∪ queue.toFinset := by
  induction queue generalizing removed services with
  | nil =>
      cases removed with
      | nil =>
          cases h
          simp
      | cons toRemove rest => cases h
  | cons service queue ih =>
      rw [union_toFinset_cons] at hfew ⊢
      rcases drain_cases h with ⟨-, hrest⟩ | ⟨hmany, -⟩
      · exact ih hrest hfew
      · -- a removal needs more names than there are
        have hsubset : insert service services ⊆ insert service services ∪ queue.toFinset :=
          Finset.subset_union_left
        exact absurd ((Finset.card_le_card hsubset).trans hfew) (Nat.not_le_of_lt hmany)

/-- Whatever is in the set, there is something to remove. -/
theorem exists_drain (queue : List Str) (services : Finset Str) :
    ∃ removed drained, drain queue removed services = some drained := by
  induction queue generalizing services with
  | nil => exact ⟨[], services, rfl⟩
  | cons service queue ih =>
      by_cases hmany : 64 < (insert service services).card
      · have hmem : service ∈ insert service services := Finset.mem_insert_self _ _
        obtain ⟨removed, drained, hrest⟩ := ih ((insert service services).erase service)
        refine ⟨service :: removed, drained, ?_⟩
        simp only [drain, if_pos hmany, if_pos hmem]
        exact hrest
      · obtain ⟨removed, drained, hrest⟩ := ih (insert service services)
        refine ⟨removed, drained, ?_⟩
        simp only [drain, if_neg hmany]
        exact hrest

/-- A call returns in every state. -/
theorem exists_getExtraServices (self : ExtraServicesTracker) :
    ∃ removed after services, self.getExtraServices removed = some (after, services) := by
  cases hqueue : self.extraServicesQueue with
  | none => exact ⟨[], self, self.extraServices, by simp [getExtraServices, hqueue]⟩
  | some queue =>
      obtain ⟨removed, drained, hdrain⟩ := exists_drain queue self.extraServices
      refine ⟨removed, { self with extraServices := drained, extraServicesQueue := some [] },
        drained, ?_⟩
      simp [getExtraServices, hqueue, hdrain]

end Drain

/-! ## The invariant -/

/-- The three collections after a history: all the other names were sent, each of them once; what is in
the queue or in the set was sent, and nothing is lost while the limit allows it. -/
structure Tracks (mainService : Str) (l : ExtraServicesHistory) (tracker : ExtraServicesTracker) :
    Prop where
  sent : tracker.extraServicesSent = l.others mainService
  queued : l.queued.toFinset = tracker.extraServicesSent
  once : l.queued.Nodup
  pending : ∃ queue, tracker.extraServicesQueue = some queue ∧
    tracker.extraServices ∪ queue.toFinset ⊆ tracker.extraServicesSent ∧
    (tracker.extraServicesSent.card ≤ 64 →
      tracker.extraServices ∪ queue.toFinset = tracker.extraServicesSent)
  limit : tracker.extraServices.card ≤ 64

section Steps

open ExtraServicesHistory

variable {mainService : Str} {l : ExtraServicesHistory} {self after : ExtraServicesTracker}

theorem tracks_new (mainService : Str) : Tracks mainService [] new :=
  { sent := by rfl
    queued := rfl
    once := List.nodup_nil
    pending := ⟨[], rfl, by simp [new], fun _ => by simp [new]⟩
    limit := by simp [new] }

theorem queuedSince_self : queuedSince self self = [] := by
  simp [queuedSince]

/-- The main service, or a name that was sent before, changes nothing. -/
theorem Tracks.add_known (h : Tracks mainService l self) {serviceName : Str}
    (hknown : serviceName = mainService ∨ serviceName ∈ self.extraServicesSent) :
    Tracks mainService (l ++ [(.addExtraService serviceName, .queued [])]) self := by
  have hothers : others mainService (l ++ [(.addExtraService serviceName, .queued [])]) =
      others mainService l := by
    by_cases hmain : serviceName = mainService
    · subst hmain
      exact others_add_main _
    · have hsent := hknown.resolve_left hmain
      rw [others_add hmain]
      exact Finset.insert_eq_self.2 (h.sent ▸ hsent)
  exact
    { sent := h.sent.trans hothers.symm
      queued := by
        rw [queued_append, List.append_nil]
        exact h.queued
      once := by
        rw [queued_append, List.append_nil]
        exact h.once
      pending := h.pending
      limit := h.limit }

/-- A new name is sent, and waits in the queue. -/
theorem Tracks.add_new (h : Tracks mainService l self) {serviceName : Str}
    (hmain : serviceName ≠ mainService) (hnew : serviceName ∉ self.extraServicesSent) :
    Tracks mainService (l ++ [(.addExtraService serviceName, .queued [serviceName])])
      { self with
        extraServicesQueue := self.extraServicesQueue.map (· ++ [serviceName])
        extraServicesSent := insert serviceName self.extraServicesSent } := by
  obtain ⟨queue, hqueue, hsubset, hall⟩ := h.pending
  have hunion : self.extraServices ∪ (queue ++ [serviceName]).toFinset =
      insert serviceName (self.extraServices ∪ queue.toFinset) := by
    rw [List.toFinset_append, ← Finset.union_assoc, Finset.union_comm]
    rfl
  refine
    { sent := ?_
      queued := ?_
      once := ?_
      pending := ⟨queue ++ [serviceName], by simp [hqueue], ?_, ?_⟩
      limit := h.limit }
  · rw [others_add hmain, h.sent]
  · rw [queued_append, List.toFinset_append, h.queued, Finset.union_comm]
    rfl
  · -- a name that was queued before was sent
    rw [queued_append]
    refine List.Nodup.append h.once (List.nodup_singleton _) ?_
    intro name hname hlast
    apply hnew
    rw [← h.queued, ← List.mem_singleton.1 hlast]
    exact List.mem_toFinset.2 hname
  · rw [hunion]
    exact Finset.insert_subset_insert _ hsubset
  · intro hfew
    have hbefore : self.extraServicesSent.card ≤ 64 :=
      (Finset.card_le_card (Finset.subset_insert _ _)).trans hfew
    rw [hunion, hall hbefore]

theorem Tracks.get (h : Tracks mainService l self) {removed : List Str} {services : Finset Str}
    (hget : self.getExtraServices removed = some (after, services)) :
    Tracks mainService (l ++ [(.getExtraServices removed, .services services)]) after ∧
      after.extraServices = services ∧ after.extraServicesQueue = some [] := by
  obtain ⟨queue, hqueue, hsubset, hall⟩ := h.pending
  simp only [getExtraServices, hqueue, Option.map_eq_some_iff, Prod.mk.injEq] at hget
  obtain ⟨drained, hdrain, rfl, rfl⟩ := hget
  refine ⟨?_, rfl, rfl⟩
  exact
    { sent := h.sent.trans (others_get removed _).symm
      queued := by
        rw [queued_services]
        exact h.queued
      once := by
        rw [queued_services]
        exact h.once
      pending := by
        refine ⟨[], rfl, ?_, ?_⟩
        · simpa using (drain_subset hdrain).trans hsubset
        · -- what was waiting in the queue is in the set now
          intro hfew
          have hkept := drain_eq_union hdrain (by rwa [hall hfew])
          simpa [hkept] using hall hfew
      limit := card_drain_le hdrain h.limit }

/-- Every call keeps the invariant. -/
theorem Tracks.step (h : Tracks mainService l self) {call : ExtraServicesCall}
    {answer : ExtraServicesReturn} (hstep : machine mainService self call = some (after, answer)) :
    Tracks mainService (l ++ [(call, answer)]) after := by
  cases call with
  | addExtraService serviceName =>
      simp only [machine, Option.some.injEq, Prod.mk.injEq] at hstep
      obtain ⟨rfl, rfl⟩ := hstep
      unfold addExtraService
      split_ifs with hmain hsent
      · rw [queuedSince_self]
        exact h.add_known (.inl hmain)
      · rw [queuedSince_self]
        exact h.add_known (.inr hsent)
      · -- only a name that is new reaches the queue
        obtain ⟨queue, hqueue, -⟩ := h.pending
        have hqueued : queuedSince self
            { self with
              extraServicesQueue := self.extraServicesQueue.map (· ++ [serviceName])
              extraServicesSent := insert serviceName self.extraServicesSent } =
            [serviceName] := by
          simp [queuedSince, hqueue]
        rw [hqueued]
        exact h.add_new hmain hsent
  | getExtraServices removed =>
      simp only [machine, Option.map_eq_some_iff, Prod.mk.injEq] at hstep
      obtain ⟨⟨tracker, services⟩, hget, rfl, rfl⟩ := hstep
      exact (h.get hget).1

theorem tracks_of_run (hrun : Machine.Run (machine mainService) new l self) :
    Tracks mainService l self :=
  hrun.invariant (tracks_new mainService) fun _ h hstep => h.step hstep

end Steps

/-! ## The answers -/

/-- An answer after a history: at most 64 names, all of them added and other than the main service;
and all that there are, as long as there are no more than 64. -/
structure Answers (mainService : Str) (before : ExtraServicesHistory) (services : Finset Str) :
    Prop where
  limit : services.card ≤ 64
  added : ∀ name ∈ services, name ∈ before.added ∧ name ≠ mainService
  complete : (before.others mainService).card ≤ 64 → services = before.others mainService

/-- What is known of the tracker is known of its next answer. -/
theorem Tracks.answers {mainService : Str} {l : ExtraServicesHistory}
    {self after : ExtraServicesTracker} (h : Tracks mainService l self) {removed : List Str}
    {services : Finset Str} (hget : self.getExtraServices removed = some (after, services)) :
    Answers mainService l services := by
  obtain ⟨hafter, rfl, hempty⟩ := h.get hget
  obtain ⟨queue, hqueue, hsubset, hall⟩ := hafter.pending
  have hdrained : queue = [] := Option.some.inj (hqueue.symm.trans hempty)
  have hsent : after.extraServicesSent = l.others mainService :=
    hafter.sent.trans (ExtraServicesHistory.others_get removed _)
  simp only [hdrained, List.toFinset_nil, Finset.union_empty, hsent] at hsubset hall
  refine ⟨hafter.limit, ?_, hall⟩
  intro name hname
  have hother := hsubset hname
  rw [ExtraServicesHistory.others, Finset.mem_erase, List.mem_toFinset] at hother
  exact ⟨hother.2, hother.1⟩

/-- For every interleaving of calls with a fixed main service, whatever is removed: no name is queued
twice, and each answer is one of those that are expected after the calls before it. -/
theorem extra_services {mainService : Str} {l : ExtraServicesHistory}
    {self : ExtraServicesTracker} (hrun : Machine.Run (machine mainService) new l self) :
    l.queued.Nodup ∧
      ∀ before removed services rest,
        l = before ++ (.getExtraServices removed, .services services) :: rest →
          Answers mainService before services := by
  refine ⟨(tracks_of_run hrun).once, ?_⟩
  intro before removed services rest hl
  subst hl
  -- the answer was given in the state after the calls before it
  rw [List.append_cons] at hrun
  obtain ⟨after, hfirst, -⟩ := hrun.split
  obtain ⟨tracker, hbefore, hstep⟩ := Machine.Run.snoc_iff.1 hfirst
  simp only [machine, Option.map_eq_some_iff, Prod.mk.injEq] at hstep
  obtain ⟨⟨tracker', services'⟩, hget, -, hanswer⟩ := hstep
  cases hanswer
  exact (tracks_of_run hbefore).answers hget

/-- Two services are found between two questions. -/
def exampleCalls : List ExtraServicesCall :=
  [.addExtraService "a".toList, .getExtraServices [], .addExtraService "main".toList,
    .addExtraService "b".toList, .addExtraService "a".toList, .getExtraServices []]

theorem extra_services_exampleCalls :
    ∃ l : ExtraServicesHistory, ∃ self, Machine.Run (machine "main".toList) new l self ∧
      l.queued = ["a".toList, "b".toList] ∧ l.queued.Nodup := by
  have hexec : (Machine.exec (machine "main".toList) new exampleCalls).map
      (fun result => ExtraServicesHistory.queued result.2) = some ["a".toList, "b".toList] := by
    decide
  obtain ⟨⟨self, l⟩, hresult, hqueued⟩ := Option.map_eq_some_iff.1 hexec
  have hrun := Machine.run_of_exec exampleCalls hresult
  exact ⟨l, self, hrun, hqueued, (extra_services hrun).1⟩

end ExtraServicesTracker

end Core
end DdTrace
