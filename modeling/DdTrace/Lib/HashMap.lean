import Mathlib.Algebra.BigOperators.Group.List.Basic
import Mathlib.Algebra.Ring.Nat
import Mathlib.Data.List.AList
import Mathlib.Data.List.Induction
import Mathlib.Data.Nat.Cast.Basic

/-!
# HashMap — finite maps whose iteration order is not known

A hash map is an association list without duplicate keys; its operations are those of `AList`.
Two things are added here:

* `HashMap.sumEntries`, `HashMap.sumBy` — the sum of a quantity over the entries, or over the values,
  of a map, and how it changes when one key is written or removed;
* `IterOrder` — an order in which a map may be iterated: some permutation of its entries, which one
  is up to the hasher.
-/

namespace DdTrace
namespace Lib

/-- A finite map from `K` to `V`. -/
abbrev HashMap (K V : Type*) [DecidableEq K] := AList (fun _ : K => V)

namespace HashMap

variable {K V M : Type*} [DecidableEq K]

/-- The entries of a map as pairs. -/
def toList (m : HashMap K V) : List (K × V) :=
  m.entries.map fun e => (e.1, e.2)

theorem mem_toList {m : HashMap K V} {k : K} {v : V} :
    (k, v) ∈ m.toList ↔ m.lookup k = some v := by
  rw [← Option.mem_def, AList.mem_lookup_iff]
  constructor
  · intro h
    rcases List.mem_map.1 h with ⟨e, he, heq⟩
    cases heq
    exact he
  · intro h
    exact List.mem_map.2 ⟨⟨k, v⟩, h, rfl⟩

theorem keys_toList (m : HashMap K V) : m.toList.map Prod.fst = m.keys := by
  simp [toList, AList.keys, List.keys, List.map_map, Function.comp_def]

/-- The keys of a map are distinct. -/
theorem nodup_toList (m : HashMap K V) : (m.toList.map Prod.fst).Nodup := by
  rw [keys_toList]
  exact m.keys_nodup

/-- Replacing the value of a present key, or adding a key that is absent, looks up as expected. -/
theorem lookup_insert_eq (m : HashMap K V) (k k' : K) (v : V) :
    (AList.insert k v m).lookup k' = if k' = k then some v else m.lookup k' := by
  by_cases h : k' = k
  · subst h
    simp
  · simp [h, AList.lookup_insert_ne]

theorem lookup_erase_eq (m : HashMap K V) (k k' : K) :
    (AList.erase k m).lookup k' = if k' = k then none else m.lookup k' := by
  by_cases h : k' = k
  · subst h
    simp
  · simp [h, AList.lookup_erase_ne]

/-- The map of a list of pairs; of the pairs of one key, the last one stays. -/
def ofPairs (l : List (K × V)) : HashMap K V :=
  l.foldl (fun m e => AList.insert e.1 e.2 m) ∅

theorem ofPairs_append_singleton (l : List (K × V)) (k : K) (v : V) :
    ofPairs (l ++ [(k, v)]) = AList.insert k v (ofPairs l) := by
  simp [ofPairs]

/-- The last value of a key. -/
theorem lookup_ofPairs (l : List (K × V)) (k : K) :
    (ofPairs l).lookup k = ((l.filter fun e => e.1 = k).getLast?).map Prod.snd := by
  -- from the end: the pair that is inserted last decides for its key
  induction l using List.reverseRecOn with
  | nil => rfl
  | append_singleton l e ih =>
      rcases e with ⟨k', v⟩
      rw [ofPairs_append_singleton, lookup_insert_eq]
      by_cases hk : k = k'
      · simp [hk]
      · simp [hk, ih, Ne.symm hk]

/-- The pairs that come later count. -/
theorem lookup_ofPairs_append (l₁ l₂ : List (K × V)) (k : K) :
    (ofPairs (l₁ ++ l₂)).lookup k = ((ofPairs l₂).lookup k).or ((ofPairs l₁).lookup k) := by
  simp only [lookup_ofPairs, List.filter_append, List.getLast?_append]
  cases (l₂.filter fun e => e.1 = k).getLast? with
  | none => simp
  | some e => simp

/-- A map of pairs with distinct keys holds exactly these pairs. -/
theorem lookup_ofPairs_of_nodup {l : List (K × V)} (h : (l.map Prod.fst).Nodup) {k : K} {v : V} :
    (ofPairs l).lookup k = some v ↔ (k, v) ∈ l := by
  induction l using List.reverseRecOn with
  | nil => simp [ofPairs]
  | append_singleton l e ih =>
      rcases e with ⟨k', v'⟩
      have hsplit : (l.map Prod.fst).Nodup ∧ k' ∉ l.map Prod.fst := by
        rw [List.map_append, List.nodup_append] at h
        exact ⟨h.1, fun hmem => h.2.2 k' hmem k' (by simp) rfl⟩
      rw [ofPairs_append_singleton, lookup_insert_eq]
      by_cases hk : k = k'
      · -- no pair before the last one has its key
        have hnot : (k, v) ∉ l := by
          intro hmem
          exact hsplit.2 (hk ▸ List.mem_map_of_mem hmem)
        simp [hk, hk ▸ hnot, eq_comm]
      · simp [hk, ih hsplit.1]

/-- A map without any entry is the empty map. -/
theorem eq_empty_of_lookup {m : HashMap K V} (h : ∀ k, m.lookup k = none) : m = ∅ := by
  apply AList.ext
  rw [AList.empty_entries, List.eq_nil_iff_forall_not_mem]
  rintro ⟨k, v⟩ hmem
  have hk : m.lookup k = some v := AList.mem_lookup_iff.2 hmem
  rw [h k] at hk
  cases hk

theorem entries_erase (k : K) (m : HashMap K V) :
    (AList.erase k m).entries = m.entries.kerase k := rfl

/-! ## Sums -/

/-- The sum of `f` over the entries of a map. -/
def sumEntries [AddMonoid M] (f : K → V → M) (m : HashMap K V) : M :=
  (m.entries.map fun e => f e.1 e.2).sum

/-- The sum of `f` over the values of a map. -/
def sumBy [AddMonoid M] (f : V → M) (m : HashMap K V) : M :=
  (m.entries.map fun e => f e.2).sum

@[simp] theorem sumBy_empty [AddMonoid M] (f : V → M) : sumBy f (∅ : HashMap K V) = 0 :=
  rfl

theorem sum_map_toList [AddMonoid M] (f : K × V → M) (m : HashMap K V) :
    (m.toList.map f).sum = sumEntries (fun k v => f (k, v)) m := by
  simp [sumEntries, toList, List.map_map, Function.comp_def]

/-- The number of keys, as a sum. -/
theorem length_keys_eq_sumBy (m : HashMap K V) : m.keys.length = sumBy (fun _ => (1 : Nat)) m := by
  have hones : (m.entries.map fun _ => (1 : Nat)).sum = m.entries.length := by
    rw [List.map_const', List.sum_replicate_nat, Nat.mul_one]
  rw [sumBy, hones, AList.keys, List.keys, List.length_map]

variable [AddCommMonoid M]

theorem sumEntries_insert (f : K → V → M) (m : HashMap K V) (k : K) (v : V) :
    sumEntries f (AList.insert k v m) = f k v + sumEntries f (AList.erase k m) := by
  simp [sumEntries, AList.entries_insert, entries_erase]

/-- A sum over the entries, split at one key. -/
theorem sumEntries_eq_lookup_add (f : K → V → M) (m : HashMap K V) (k : K) :
    sumEntries f m = (m.lookup k).elim 0 (f k) + sumEntries f (AList.erase k m) := by
  cases h : m.lookup k with
  | none =>
      have hk : k ∉ m.entries.keys := AList.lookup_eq_none.1 h
      simp [sumEntries, entries_erase, List.kerase_of_notMem_keys hk]
  | some v =>
      have hk : k ∈ m.entries.keys := AList.lookup_isSome.1 (by rw [h]; rfl)
      -- the entry of `k` stands between those that stay
      obtain ⟨b, l₁, l₂, -, hentries, herase⟩ := List.exists_of_kerase hk
      have hb : m.lookup k = some b :=
        AList.mem_lookup_iff.2
          (by rw [hentries]; exact List.mem_append_right _ (List.mem_cons_self ..))
      have hbv : v = b := by
        rw [h] at hb
        exact Option.some.inj hb
      subst hbv
      calc
        sumEntries f m
            = (l₁.map fun e => f e.1 e.2).sum + (f k v + (l₂.map fun e => f e.1 e.2).sum) := by
              rw [sumEntries, hentries]
              simp
        _ = f k v + ((l₁.map fun e => f e.1 e.2).sum + (l₂.map fun e => f e.1 e.2).sum) :=
              add_left_comm _ _ _
        _ = (some v).elim 0 (f k) + sumEntries f (AList.erase k m) := by
              simp [sumEntries, entries_erase, herase]

theorem sumBy_insert (f : V → M) (m : HashMap K V) (k : K) (v : V) :
    sumBy f (AList.insert k v m) = f v + sumBy f (AList.erase k m) :=
  sumEntries_insert (fun _ => f) m k v

/-- A sum over the values, split at one key. -/
theorem sumBy_eq_lookup_add (f : V → M) (m : HashMap K V) (k : K) :
    sumBy f m = (m.lookup k).elim 0 f + sumBy f (AList.erase k m) :=
  sumEntries_eq_lookup_add (fun _ => f) m k

/-! Sizes: sums of natural numbers, which only a written key can make larger. -/

theorem sumEntries_erase_le (f : K → V → Nat) (m : HashMap K V) (k : K) :
    sumEntries f (AList.erase k m) ≤ sumEntries f m := by
  rw [sumEntries_eq_lookup_add f m k]
  exact Nat.le_add_left _ _

theorem sumEntries_insert_le (f : K → V → Nat) (m : HashMap K V) (k : K) (v : V) :
    sumEntries f (AList.insert k v m) ≤ f k v + sumEntries f m := by
  rw [sumEntries_insert]
  exact Nat.add_le_add_left (sumEntries_erase_le f m k) _

/-- Writing over a value changes the sum by as much as the entry. -/
theorem sumEntries_insert_le_add (f : K → V → Nat) {m : HashMap K V} {k : K} {v w : V} {c : Nat}
    (h : m.lookup k = some v) (hle : f k w ≤ f k v + c) :
    sumEntries f (AList.insert k w m) ≤ sumEntries f m + c := by
  have hsplit := sumEntries_eq_lookup_add f m k
  rw [h, Option.elim_some] at hsplit
  rw [sumEntries_insert, hsplit]
  omega

/-- The map of a list is no larger than the list. -/
theorem sumEntries_ofPairs_le (f : K → V → Nat) (l : List (K × V)) :
    sumEntries f (ofPairs l) ≤ (l.map fun e => f e.1 e.2).sum := by
  induction l using List.reverseRecOn with
  | nil => exact Nat.le_refl _
  | append_singleton l e ih =>
      rcases e with ⟨k, v⟩
      rw [ofPairs_append_singleton, List.map_append, List.sum_append, Nat.add_comm]
      exact (sumEntries_insert_le f (ofPairs l) k v).trans
        (Nat.add_le_add (by simp) ih)

end HashMap

/-! ## Iteration order -/

/-- An order of iteration: for each map, its entries in some order. -/
structure IterOrder (K V : Type*) [DecidableEq K] where
  /-- The entries of a map, as an iteration meets them. -/
  iter : HashMap K V → List (K × V)
  perm : ∀ m, (iter m).Perm m.toList

namespace IterOrder

variable {K V : Type*} [DecidableEq K] (ord : IterOrder K V)

theorem mem_iter {m : HashMap K V} {k : K} {v : V} :
    (k, v) ∈ ord.iter m ↔ m.lookup k = some v := by
  rw [(ord.perm m).mem_iff, HashMap.mem_toList]

theorem nodup_iter (m : HashMap K V) : ((ord.iter m).map Prod.fst).Nodup :=
  ((ord.perm m).map Prod.fst).nodup_iff.2 m.nodup_toList

/-- The map of the entries whose keys pass a test. -/
theorem lookup_ofPairs_filter (m : HashMap K V) (test : K → Bool) (k : K) :
    (HashMap.ofPairs ((ord.iter m).filter fun e => test e.1)).lookup k =
      if test k then m.lookup k else none := by
  have hnodup : (((ord.iter m).filter fun e => test e.1).map Prod.fst).Nodup :=
    (ord.nodup_iter m).sublist (List.filter_sublist.map _)
  apply Option.ext
  intro v
  rw [HashMap.lookup_ofPairs_of_nodup hnodup, List.mem_filter, ord.mem_iter]
  cases test k with
  | true => simp
  | false => simp

/-- The order in which the association list stands. -/
def asStored (K V : Type*) [DecidableEq K] : IterOrder K V where
  iter m := m.toList
  perm m := .refl m.toList

end IterOrder

end Lib
end DdTrace
