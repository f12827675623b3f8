import Mathlib.Data.List.Infix

/-!
# Prefixes — a condition on each element of a list and what stands before it

For a list of requests: a condition on each request and the requests before it.  The rules take the
list apart at its end, as a history grows.
-/

namespace DdTrace
namespace Lib

variable {α : Type*} {P : List α → α → Prop} {l : List α} {x : α}

/-- The condition holds of each element with what stands before it. -/
def AtEach (P : List α → α → Prop) (l : List α) : Prop :=
  ∀ first x, first ++ [x] <+: l → P first x

@[simp] theorem atEach_nil : AtEach P [] := by
  intro first x hfirst
  simp at hfirst

theorem atEach_snoc : AtEach P (l ++ [x]) ↔ AtEach P l ∧ P l x := by
  constructor
  · intro h
    exact ⟨fun first y hfirst => h first y (hfirst.trans (List.prefix_append _ _)),
      h l x (List.prefix_refl _)⟩
  · rintro ⟨hbefore, hlast⟩ first y hfirst
    rcases List.prefix_concat_iff.1 hfirst with heq | hfirst
    · obtain ⟨rfl, hsame⟩ := List.append_inj' heq rfl
      obtain rfl : y = x := by simpa using hsame
      exact hlast
    · exact hbefore first y hfirst

theorem atEach_iff_getElem : AtEach P l ↔ ∀ i : Fin l.length, P (l.take i) l[i] := by
  constructor
  · intro h i
    exact h (l.take i) l[i] (by simpa using List.take_prefix (i + 1) l)
  · rintro h first x ⟨rest, rfl⟩
    simpa using h ⟨first.length, by simp⟩

instance [∀ first x, Decidable (P first x)] : Decidable (AtEach P l) :=
  decidable_of_iff _ atEach_iff_getElem.symm

/-- If it does not hold throughout, there is an element at which it fails first. -/
theorem exists_first_not_atEach (h : ¬ AtEach P l) :
    ∃ first x, first ++ [x] <+: l ∧ AtEach P first ∧ ¬ P first x := by
  induction l using List.reverseRecOn with
  | nil => exact absurd atEach_nil h
  | append_singleton l x ih =>
      by_cases hbefore : AtEach P l
      · exact ⟨l, x, List.prefix_refl _, hbefore, fun hlast => h (atEach_snoc.2 ⟨hbefore, hlast⟩)⟩
      · obtain ⟨first, y, hfirst, hrest⟩ := ih hbefore
        exact ⟨first, y, hfirst.trans (List.prefix_append _ _), hrest⟩

/-! ## The last of its kind -/

section LastSome

variable {β : Type*} (f : α → Option β)

/-- What the last element says that says anything. -/
def lastSome (l : List α) : Option β := (l.filterMap f).getLast?

@[simp] theorem lastSome_nil : lastSome f [] = none := rfl

theorem lastSome_snoc (l : List α) (x : α) :
    lastSome f (l ++ [x]) = (f x).or (lastSome f l) := by
  unfold lastSome
  rw [List.filterMap_append]
  cases hx : f x with
  | none => simp [hx]
  | some y => simp [hx]

end LastSome

end Lib
end DdTrace
