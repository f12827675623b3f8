import Mathlib.Algebra.BigOperators.Group.List.Basic
import Mathlib.Algebra.FreeMonoid.Basic
import Mathlib.Data.List.Induction
import Mathlib.Tactic.Common

/-!
# Machine — runs of a state machine, with their history

A machine says what an event does in a state: the next state together with an output, or nothing
when the event cannot happen there.  A *run* records, event by event, the output beside it, so that
laws about a whole history ("what went in is what came out plus what is still held") are statements
about one list.

This module contains:

* `Machine.Run` — the runs from a state, grown at the end, and their composition;
* `Machine.Run.invariant` — the induction rule for a property of history and state;
* `Machine.Run.simulation` — the rule that carries runs of one machine over to another;
* `Machine.guard` — the machine whose events are restricted to those that meet a condition;
* `Machine.Run.ledger` — the conservation rule, over any additive monoid.
-/

namespace DdTrace
namespace Lib

/-- What an event does in a state; `none` where the event cannot happen. -/
abbrev Machine (σ ε ω : Type*) := σ → ε → Option (σ × ω)

namespace Machine

variable {σ ε ω : Type*} {m : Machine σ ε ω} {s t u : σ} {l l₁ l₂ : List (ε × ω)}

/-! ## Runs -/

/-- `Run m s l t`: the events of `l` lead from `s` to `t` with the outputs recorded beside them. -/
inductive Run (m : Machine σ ε ω) (s : σ) : List (ε × ω) → σ → Prop
  | start : Run m s [] s
  | step {l : List (ε × ω)} {t u : σ} {e : ε} {o : ω} :
      Run m s l t → m t e = some (u, o) → Run m s (l ++ [(e, o)]) u

/-- A property of history and state that holds at the start and survives each step holds
along every run. -/
theorem Run.invariant {I : List (ε × ω) → σ → Prop} (start : I [] s)
    (step : ∀ {l t u e o}, Run m s l t → I l t → m t e = some (u, o) → I (l ++ [(e, o)]) u) :
    Run m s l t → I l t := by
  intro h
  induction h with
  | start => exact start
  | step hrun hstep ih => exact step hrun ih hstep

/-- The rule for a property of the state alone. -/
theorem Run.preserves {I : σ → Prop} (step : ∀ {t u e o}, I t → m t e = some (u, o) → I u) :
    Run m s l t → I s → I t := by
  intro h hs
  exact h.invariant (I := fun _ t => I t) hs (fun _ hI hstep => step hI hstep)

theorem Run.append (h₁ : Run m s l₁ t) (h₂ : Run m t l₂ u) : Run m s (l₁ ++ l₂) u := by
  induction h₂ with
  | start => simpa using h₁
  | step _ hstep ih =>
      rw [← List.append_assoc]
      exact ih.step hstep

/-- A run that consists of one step. -/
theorem Run.single {e : ε} {o : ω} (h : m s e = some (t, o)) : Run m s [(e, o)] t := by
  simpa using Run.start.step h

/-- A run that ends with a step, taken apart. -/
theorem Run.snoc_iff {e : ε} {o : ω} :
    Run m s (l ++ [(e, o)]) u ↔ ∃ t, Run m s l t ∧ m t e = some (u, o) := by
  constructor
  · intro h
    generalize hl : l ++ [(e, o)] = l' at h
    cases h with
    | start => simp at hl
    | step hrun hstep =>
        rcases List.append_inj' hl rfl with ⟨rfl, hx⟩
        cases hx
        exact ⟨_, hrun, hstep⟩
  · intro h
    rcases h with ⟨t, hrun, hstep⟩
    exact hrun.step hstep

/-- Each entry of a history is a step. -/
theorem Run.mem_step (h : Run m s l t) {x : ε × ω} (hx : x ∈ l) :
    ∃ before after, m before x.1 = some (after, x.2) := by
  induction h with
  | start => cases hx
  | @step l before after e o _ hstep ih =>
      rcases List.mem_append.1 hx with hold | hnew
      · exact ih hold
      · cases List.mem_singleton.1 hnew
        exact ⟨before, after, hstep⟩

/-- A run passes through a state after each part of its history. -/
theorem Run.split (h : Run m s (l₁ ++ l₂) u) : ∃ t, Run m s l₁ t ∧ Run m t l₂ u := by
  induction l₂ using List.reverseRecOn generalizing u with
  | nil => exact ⟨u, by simpa using h, .start⟩
  | append_singleton l₂ x ih =>
      rw [← List.append_assoc] at h
      rcases Run.snoc_iff.1 h with ⟨t', hrun, hstep⟩
      rcases ih hrun with ⟨t, hfirst, hrest⟩
      exact ⟨t, hfirst, hrest.step hstep⟩

/-- The history of a run determines the state it leads to. -/
theorem Run.det (h : Run m s l t) (h' : Run m s l u) : t = u := by
  induction h generalizing u with
  | start =>
      generalize hl : ([] : List (ε × ω)) = l' at h'
      cases h' with
      | start => rfl
      | step _ _ => simp at hl
  | step _ hstep ih =>
      rcases Run.snoc_iff.1 h' with ⟨t', hrun', hstep'⟩
      rw [ih hrun', hstep'] at hstep
      cases hstep
      rfl

/-! ## Simulation -/

/-- The simulation rule.  A relation between the history and state of one machine and the state of
another that holds at the start, and that each step of the first keeps by some steps of the second
(none, for an event that the second does not have), relates the ends of runs.  The history of the
second is the image of the history of the first, its outputs included. -/
theorem Run.simulation {σ' ε' ω' : Type*} {n : Machine σ' ε' ω'} {r : σ'}
    {R : List (ε × ω) → σ → σ' → Prop} (f : ε × ω → List (ε' × ω')) (start : R [] s r)
    (step : ∀ {l t t' u e o}, R l t t' → m t e = some (u, o) →
      ∃ u', Run n t' (f (e, o)) u' ∧ R (l ++ [(e, o)]) u u')
    (h : Run m s l t) : ∃ t', Run n r (l.flatMap f) t' ∧ R l t t' := by
  induction h with
  | start => exact ⟨r, .start, start⟩
  | step _ hstep ih =>
      rcases ih with ⟨t', hrun', hR⟩
      rcases step hR hstep with ⟨u', hsteps', hR'⟩
      refine ⟨u', ?_, hR'⟩
      simpa using hrun'.append hsteps'

/-! ## Running a list of events -/

/-- The state and the history after the events of a list, if all of them can happen. -/
def exec (m : Machine σ ε ω) : σ → List ε → Option (σ × List (ε × ω))
  | s, [] => some (s, [])
  | s, e :: es =>
      match m s e with
      | none => none
      | some (t, o) => (exec m t es).map fun (u, l) => (u, (e, o) :: l)

theorem run_of_exec (es : List ε) (h : exec m s es = some (t, l)) : Run m s l t := by
  -- `exec` grows a history at the front, a run at the end
  induction es generalizing s l with
  | nil =>
      simp only [exec, Option.some.injEq, Prod.mk.injEq] at h
      obtain ⟨rfl, rfl⟩ := h
      exact .start
  | cons e es ih =>
      cases hstep : m s e with
      | none => simp [exec, hstep] at h
      | some next =>
          obtain ⟨s', o⟩ := next
          simp only [exec, hstep, Option.map_eq_some_iff, Prod.mk.injEq] at h
          obtain ⟨⟨u, l'⟩, htail, rfl, rfl⟩ := h
          simpa using (Run.single hstep).append (ih htail)

/-! ## Restricting the events -/

/-- The machine whose events are those that meet a condition on the state and the event. -/
def guard (m : Machine σ ε ω) (p : σ → ε → Prop) [∀ s e, Decidable (p s e)] : Machine σ ε ω :=
  fun s e => if p s e then m s e else none

theorem guard_eq_some {p : σ → ε → Prop} [∀ s e, Decidable (p s e)] {e : ε} {o : ω} :
    guard m p s e = some (t, o) ↔ p s e ∧ m s e = some (t, o) := by
  simp [guard]

/-- A run of the restricted machine is a run, each of whose steps meets the condition. -/
theorem Run.of_guard {p : σ → ε → Prop} [∀ s e, Decidable (p s e)]
    (h : Run (guard m p) s l t) : Run m s l t := by
  induction h with
  | start => exact .start
  | step _ hstep ih => exact ih.step (guard_eq_some.1 hstep).2

/-- A run of the restricted machine grows by the steps that meet the condition. -/
theorem Run.guard_snoc {p : σ → ε → Prop} [∀ s e, Decidable (p s e)] {e : ε} {o : ω}
    (h : Run m s l t) (hstep : m t e = some (u, o)) :
    Run (guard m p) s (l ++ [(e, o)]) u ↔ Run (guard m p) s l t ∧ p t e := by
  constructor
  · intro hguard
    rcases Run.snoc_iff.1 hguard with ⟨t', hrun, hlast⟩
    -- both runs have the same history, so they are in the same state
    have ht : t' = t := hrun.of_guard.det h
    subst ht
    exact ⟨hrun, (guard_eq_some.1 hlast).1⟩
  · intro hmeets
    exact hmeets.1.step (guard_eq_some.2 ⟨hmeets.2, hstep⟩)

/-! ## Conservation -/

/-- The conservation rule.  If each step gives out, together with what it leaves behind, exactly
what it took in and what was held before, then so does each run.  The order of the summands is kept,
so that the rule also covers sequences (the free monoid). -/
theorem Run.ledger {M : Type*} [AddMonoid M] (held : σ → M) (inn out : ε × ω → M)
    (step : ∀ {t u e o}, m t e = some (u, o) →
      held t + inn (e, o) = out (e, o) + held u) (h : Run m s l t) :
    held s + (l.map inn).sum = (l.map out).sum + held t := by
  induction h with
  | start => simp
  | @step l t u e o _ hstep ih =>
      calc
        held s + ((l ++ [(e, o)]).map inn).sum
            = (held s + (l.map inn).sum) + inn (e, o) := by simp [add_assoc]
        _ = (l.map out).sum + (held t + inn (e, o)) := by rw [ih, add_assoc]
        _ = (l.map out).sum + (out (e, o) + held u) := by rw [step hstep]
        _ = ((l ++ [(e, o)]).map out).sum + held u := by simp [add_assoc]

/-- The conservation rule for sequences: what went in, in order, is what came out followed by what
is still held. -/
theorem Run.sequence {α : Type*} (held : σ → List α) (inn out : ε × ω → List α)
    (step : ∀ {t u e o}, m t e = some (u, o) →
      held t ++ inn (e, o) = out (e, o) ++ held u) (h : Run m s l t) :
    held s ++ l.flatMap inn = l.flatMap out ++ held t := by
  -- lists are the free additive monoid, in which the sums of the rule are concatenations
  have hledger := congrArg FreeAddMonoid.toList
    (h.ledger (fun s => FreeAddMonoid.ofList (held s)) (fun x => FreeAddMonoid.ofList (inn x))
      (fun x => FreeAddMonoid.ofList (out x)) (fun hstep => step hstep))
  simpa [FreeAddMonoid.toList_sum, List.flatMap_def, Function.comp_def] using hledger

end Machine

end Lib
end DdTrace
