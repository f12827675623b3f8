import Mathlib.Tactic.Common

/-!
# Frame — what a step leaves unchanged

A step on a state keeps an observation of it (`Keeps`) if the observation is the same afterwards.  Of
a list of steps the last one that does not keep the observation decides about it.
-/

namespace DdTrace
namespace Lib
namespace Frame

variable {S A B : Type*} {get : S → B}

/-- The observation is the same after the step. -/
def Keeps (get : S → B) (f : S → S) : Prop := ∀ s, get (f s) = get s

theorem Keeps.comp {f g : S → S} (hg : Keeps get g) (hf : Keeps get f) : Keeps get (g ∘ f) := by
  intro s
  calc
    get (g (f s)) = get (f s) := hg (f s)
    _ = get s := hf s

theorem keeps_foldl {f : S → A → S} {l : List A} (h : ∀ x ∈ l, Keeps get fun s => f s x) :
    Keeps get fun s => l.foldl f s := by
  induction l with
  | nil =>
      intro s
      rfl
  | cons x l ih =>
      intro s
      calc
        get (l.foldl f (f s x)) = get (f s x) := ih (fun y hy => h y (List.mem_cons_of_mem x hy)) _
        _ = get s := h x (List.mem_cons_self ..) s

/-- The last step that writes counts. -/
theorem foldl_last_write {f : S → A → S} {before after : List A} {x : A} {v : B}
    (hwrite : ∀ s, get (f s x) = v) (hkeep : ∀ y ∈ after, Keeps get fun s => f s y) (s : S) :
    get ((before ++ x :: after).foldl f s) = v := by
  rw [List.foldl_append, List.foldl_cons]
  calc
    get (after.foldl f (f (before.foldl f s) x)) = get (f (before.foldl f s) x) :=
      keeps_foldl hkeep _
    _ = v := hwrite _

/-- Where a step may overwrite the observation, the last write counts. -/
theorem get_foldl_of_overwrites (get : S → Option B) {f : S → A → S} {write : A → Option B}
    {l : List A} (h : ∀ s, ∀ x ∈ l, get (f s x) = (write x).or (get s)) (s : S) :
    get (l.foldl f s) = (l.filterMap write).getLast?.or (get s) := by
  induction l generalizing s with
  | nil => rfl
  | cons x l ih =>
      have hfirst := h s x (List.mem_cons_self ..)
      have hrest := ih (fun s y hy => h s y (List.mem_cons_of_mem x hy)) (f s x)
      rw [List.foldl_cons, hrest, hfirst, List.filterMap_cons]
      cases write x with
      | none => simp
      | some v =>
          rw [List.getLast?_cons]
          cases (l.filterMap write).getLast? with
          | none => rfl
          | some w => rfl

/-- Of writers with distinct keys one writes to its key. -/
theorem filterMap_of_nodup {K : Type*} [DecidableEq K] {f : A → K} {table : List A}
    (h : (table.map f).Nodup) {entry : A} (hmem : entry ∈ table) (g : A → Option B) :
    (table.filterMap fun e => if f e = f entry then g e else none) = (g entry).toList := by
  induction table with
  | nil => cases hmem
  | cons e table ih =>
      rw [List.map_cons, List.nodup_cons] at h
      by_cases hkey : f e = f entry
      · have hrest : ∀ e' ∈ table, ¬ f e' = f entry := by
          intro e' he' heq
          exact h.1 (hkey.trans heq.symm ▸ List.mem_map_of_mem he')
        have hnone : (table.filterMap fun e => if f e = f entry then g e else none) = [] := by
          rw [List.filterMap_eq_nil_iff]
          intro e' he'
          exact if_neg (hrest e' he')
        have heq : entry = e := by
          rcases List.mem_cons.1 hmem with rfl | hmem
          · rfl
          · exact absurd rfl (hrest entry hmem)
        subst heq
        cases hentry : g entry <;> simp [hentry, hnone]
      · have hmem' : entry ∈ table := by
          rcases List.mem_cons.1 hmem with rfl | hmem
          · exact absurd rfl hkey
          · exact hmem
        rw [List.filterMap_cons, if_neg hkey]
        exact ih h.2 hmem'

end Frame
end Lib
end DdTrace
