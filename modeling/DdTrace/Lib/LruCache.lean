import Mathlib.Data.List.Basic

/-!
# LruCache — caches of bounded size

A cache may forget an entry at any time, but what it holds for a key is the value that was put last.
`LruCache` states that much of a cache; `LruCache.list` is one that keeps its entries in a list, the
most recently used one in front.
-/

namespace DdTrace
namespace Lib

/-- The operations of a cache, and what they say about its entries. -/
structure LruCache (C K V : Type*) where
  /-- A cache for so many entries. -/
  new : Nat → C
  get : C → K → Option V × C
  put : C → K → V → C
  Holds : C → K → V → Prop
  not_holds_new : ∀ n k v, ¬ Holds (new n) k v
  holds_of_get : ∀ {c k v}, (get c k).1 = some v → Holds c k v
  holds_get : ∀ {c k k' v}, Holds (get c k).2 k' v → Holds c k' v
  holds_put : ∀ {c k v k' v'}, Holds (put c k v) k' v' → k' = k ∧ v' = v ∨ k' ≠ k ∧ Holds c k' v'

namespace LruCache

variable {C K V : Type*} (api : LruCache C K V) {P : K → V → Prop} {c : C} {k : K} {v : V}

/-- Every entry of a cache has a property. -/
def All (P : K → V → Prop) (c : C) : Prop := ∀ k v, api.Holds c k v → P k v

theorem all_new (n : Nat) : api.All P (api.new n) :=
  fun k v hholds => absurd hholds (api.not_holds_new n k v)

theorem All.get (h : api.All P c) : api.All P (api.get c k).2 :=
  fun k' v hholds => h k' v (api.holds_get hholds)

theorem All.put (h : api.All P c) (hv : P k v) : api.All P (api.put c k v) := by
  intro k' v' hholds
  rcases api.holds_put hholds with ⟨rfl, rfl⟩ | ⟨_, hold⟩
  · exact hv
  · exact h k' v' hold

/-! ## A list of entries -/

/-- The entries, the most recently used one in front, and how many there may be. -/
structure Entries (K V : Type*) where
  capacity : Nat
  entries : List (K × V)

variable [DecidableEq K]

/-- A cache that drops its least recently used entry when it is full. -/
def list : LruCache (Entries K V) K V where
  new n := { capacity := n, entries := [] }
  get c k :=
    match c.entries.find? fun e => e.1 = k with
    | some e =>
        (some e.2, { c with entries := e :: c.entries.filter fun e => e.1 ≠ k })
    | none => (none, c)
  put c k v :=
    { c with entries := ((k, v) :: c.entries.filter fun e => e.1 ≠ k).take c.capacity }
  Holds c k v := (k, v) ∈ c.entries
  not_holds_new n k v := List.not_mem_nil
  holds_of_get {c k v} hget := by
    cases hfind : c.entries.find? fun e => e.1 = k with
    | none => simp [hfind] at hget
    | some e =>
        have hkey : e.1 = k := by simpa using List.find?_some hfind
        have hvalue : e.2 = v := by simpa [hfind] using hget
        rw [← hkey, ← hvalue]
        exact List.mem_of_find?_eq_some hfind
  holds_get {c k k' v} hholds := by
    cases hfind : c.entries.find? fun e => e.1 = k with
    | none => simpa [hfind] using hholds
    | some e =>
        have hcases : (k', v) = e ∨ (k', v) ∈ c.entries ∧ k' ≠ k := by
          simpa [hfind] using hholds
        rcases hcases with rfl | ⟨hmem, _⟩
        · exact List.mem_of_find?_eq_some hfind
        · exact hmem
  holds_put {c k v k' v'} hholds := by
    have hmem := List.mem_of_mem_take hholds
    simpa [and_comm] using hmem

end LruCache

end Lib
end DdTrace
