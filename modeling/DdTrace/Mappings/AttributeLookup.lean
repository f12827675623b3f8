import Mathlib.Data.List.Nodup
import DdTrace.Lib.Frame
import DdTrace.Mappings.AttributeKeys

/-!
# AttributeLookup — which attributes a slot stands for

The keys of the table have different slots, so a slot is written by the attributes of its key alone:
without one it stays empty.  After a scan every slot holds what a linear scan for its key finds
(`Scanned`), which is the position of the last attribute with that key.
-/

namespace DdTrace
namespace Mappings

open DdTrace.Lib DdTrace.Core DdTrace.Otel

/-- The slot of a key is its place in the table. -/
theorem slots_eq_finRange :
    ATTRIBUTE_KEYS.map AttributeKey.idx = List.finRange NUMBER_OF_ATTRIBUTES := by
  decide

theorem nodup_slots : (ATTRIBUTE_KEYS.map AttributeKey.idx).Nodup := by
  rw [slots_eq_finRange]
  exact List.nodup_finRange _

/-- A slot belongs to one key. -/
theorem eq_of_slot_eq {a b : AttributeKey} (ha : a ∈ ATTRIBUTE_KEYS) (hb : b ∈ ATTRIBUTE_KEYS)
    (h : a.idx = b.idx) : a = b :=
  List.inj_on_of_nodup_map nodup_slots ha hb h

namespace AttributeIndices

/-- An attribute of another key does not write the slot. -/
theorem visit_of_ne {attrKey : AttributeKey} (hmem : attrKey ∈ ATTRIBUTE_KEYS)
    {kv : KeyValue × Nat} (h : kv.1.key ≠ attrKey.key) :
    Frame.Keeps (fun self : AttributeIndices => self.positions.get attrKey.idx) fun self =>
      self.visit kv := by
  intro self
  unfold visit
  cases hfind : getAttributeIdx kv.1.key with
  | none => rfl
  | some found =>
      have hfound : found ∈ ATTRIBUTE_KEYS := List.mem_of_find?_eq_some hfind
      have hkey : kv.1.key = found.key := by simpa using List.find?_some hfind
      have hne : found.idx ≠ attrKey.idx := by
        intro hslot
        exact h (hkey.trans (congrArg AttributeKey.key (eq_of_slot_eq hfound hmem hslot)))
      have hval : (found.idx : Nat) ≠ attrKey.idx := fun heq => hne (Fin.ext heq)
      exact Vector.getElem_set_ne found.idx.isLt attrKey.idx.isLt hval

/-- A key that no attribute has is not found. -/
theorem get_eq_none {attrKey : AttributeKey} (hmem : attrKey ∈ ATTRIBUTE_KEYS)
    {attributes : List KeyValue} (h : ∀ kv ∈ attributes, kv.key ≠ attrKey.key) :
    (fromAttributeSlice attributes).get attrKey = none := by
  have hkeep : Frame.Keeps (fun self : AttributeIndices => self.positions.get attrKey.idx)
      fun self => attributes.zipIdx.foldl visit self :=
    Frame.keeps_foldl fun kv hkv => visit_of_ne hmem (h kv.1 (List.fst_mem_of_mem_zipIdx hkv))
  have hslot : (fromAttributeSlice attributes).positions[attrKey.idx] = U32_MAX := by
    refine (hkeep default).trans ?_
    exact Vector.getElem_replicate attrKey.idx.isLt
  rw [get]
  simp [hslot]

end AttributeIndices

/-! ## The scan -/

theorem nodup_keys : (ATTRIBUTE_KEYS.map AttributeKey.key).Nodup := by decide +kernel

/-- A string is the key of one entry of the table. -/
theorem eq_of_key_eq {a b : AttributeKey} (ha : a ∈ ATTRIBUTE_KEYS) (hb : b ∈ ATTRIBUTE_KEYS)
    (h : a.key = b.key) : a = b :=
  List.inj_on_of_nodup_map nodup_keys ha hb h

theorem getAttributeIdx_key {attrKey : AttributeKey} (hmem : attrKey ∈ ATTRIBUTE_KEYS) :
    getAttributeIdx attrKey.key = some attrKey := by
  cases hfind : getAttributeIdx attrKey.key with
  | none =>
      have hne := List.find?_eq_none.1 hfind attrKey hmem
      simp at hne
  | some found =>
      have hfound : found ∈ ATTRIBUTE_KEYS := List.mem_of_find?_eq_some hfind
      have hkey : attrKey.key = found.key := by simpa using List.find?_some hfind
      rw [eq_of_key_eq hmem hfound hkey]

/-- The linear scan: the position of the last attribute with the key. -/
def lastPosition (key : Str) (attributes : List KeyValue) : Option Nat :=
  attributes.zipIdx.foldl (fun found kv => if kv.1.key = key then some kv.2 else found) none

theorem lastPosition_concat (key : Str) (attributes : List KeyValue) (kv : KeyValue) :
    lastPosition key (attributes ++ [kv]) =
      if kv.key = key then some attributes.length else lastPosition key attributes := by
  simp [lastPosition, List.zipIdx_append, List.foldl_append]

theorem lastPosition_eq_none_iff {key : Str} {attributes : List KeyValue} :
    lastPosition key attributes = none ↔ ∀ kv ∈ attributes, kv.key ≠ key := by
  induction attributes using List.reverseRecOn with
  | nil => simp [lastPosition]
  | append_singleton front kv ih =>
      rw [lastPosition_concat]
      by_cases hkey : kv.key = key
      · simp [hkey]
      · simp only [if_neg hkey, ih, List.forall_mem_append, List.forall_mem_singleton]
        exact ⟨fun hfront => ⟨hfront, hkey⟩, fun hall => hall.1⟩

/-- The last attribute is the one that is found, or is behind it. -/
theorem concat_eq_append_cons {front front' back : List KeyValue} {kv kv' : KeyValue} :
    front ++ [kv] = front' ++ kv' :: back ↔
      (back = [] ∧ front = front' ∧ kv = kv') ∨
        ∃ init, back = init ++ [kv] ∧ front = front' ++ kv' :: init := by
  constructor
  · intro heq
    rcases List.eq_nil_or_concat back with rfl | ⟨init, last, rfl⟩
    · have hsplit := List.append_inj' heq rfl
      exact .inl ⟨rfl, hsplit.1, List.head_eq_of_cons_eq hsplit.2⟩
    · have happ : front ++ [kv] = (front' ++ kv' :: init) ++ [last] := by
        simpa using heq
      have hsplit := List.append_inj' happ rfl
      exact .inr ⟨init, by rw [hsplit.2, List.concat_eq_append], hsplit.1⟩
  · rintro (⟨rfl, rfl, rfl⟩ | ⟨init, rfl, rfl⟩)
    · rfl
    · simp

/-- The attribute at the position has the key, and none behind it has. -/
theorem lastPosition_eq_some_iff {key : Str} {attributes : List KeyValue} {i : Nat} :
    lastPosition key attributes = some i ↔
      ∃ front kv back, attributes = front ++ kv :: back ∧ front.length = i ∧ kv.key = key ∧
        ∀ later ∈ back, later.key ≠ key := by
  induction attributes using List.reverseRecOn with
  | nil => simp [lastPosition]
  | append_singleton attributes last ih =>
      rw [lastPosition_concat]
      by_cases hkey : last.key = key
      · rw [if_pos hkey]
        constructor
        · rintro ⟨⟩
          exact ⟨attributes, last, [], rfl, rfl, hkey, by simp⟩
        · rintro ⟨front, kv, back, heq, hlen, -, hback⟩
          -- the last attribute has the key, so nothing is behind the one that is found
          rcases concat_eq_append_cons.1 heq with ⟨-, rfl, -⟩ | ⟨init, rfl, -⟩
          · exact congrArg some hlen
          · exact absurd hkey (hback last (by simp))
      · rw [if_neg hkey, ih]
        constructor
        · rintro ⟨front, kv, back, rfl, hlen, hkv, hback⟩
          refine ⟨front, kv, back ++ [last], by simp, hlen, hkv, ?_⟩
          intro later hlater
          rcases List.mem_append.1 hlater with hlater | hlater
          · exact hback later hlater
          · rwa [List.mem_singleton.1 hlater]
        · rintro ⟨front, kv, back, heq, hlen, hkv, hback⟩
          rcases concat_eq_append_cons.1 heq with ⟨-, -, rfl⟩ | ⟨init, rfl, rfl⟩
          · exact absurd hkv hkey
          · refine ⟨front, kv, init, rfl, hlen, hkv, ?_⟩
            intro later hlater
            exact hback later (List.mem_append_left _ hlater)

namespace AttributeIndices

theorem get_default (attrKey : AttributeKey) : default.get attrKey = none := by
  have hslot : default.positions[attrKey.idx] = U32_MAX :=
    Vector.getElem_replicate attrKey.idx.isLt
  simp [get, hslot]

/-- What an attribute at a position that a slot can hold does to the slot of each key. -/
theorem get_visit {attrKey : AttributeKey} (hmem : attrKey ∈ ATTRIBUTE_KEYS)
    (self : AttributeIndices) (kv : KeyValue) {i : Nat} (hi : i < U32_MAX.toNat) :
    (self.visit (kv, i)).get attrKey =
      if kv.key = attrKey.key then some i else self.get attrKey := by
  by_cases hkey : kv.key = attrKey.key
  · have hfind : getAttributeIdx kv.key = some attrKey := by
      rw [hkey, getAttributeIdx_key hmem]
    have hslot : (self.set attrKey i).positions[attrKey.idx] = UInt32.ofNat i :=
      Vector.getElem_set_self attrKey.idx.isLt
    have htoNat : (UInt32.ofNat i).toNat = i := by
      refine UInt32.toNat_ofNat_of_lt' (Nat.lt_trans hi ?_)
      decide
    have hne : UInt32.ofNat i ≠ U32_MAX := by
      intro heq
      exact Nat.ne_of_lt hi (htoNat.symm.trans (congrArg UInt32.toNat heq))
    simp only [visit, hfind, if_pos hkey, get, hslot, if_neg hne, htoNat]
  · have hkeep := @visit_of_ne attrKey hmem (kv, i) hkey self
    have hslot : (self.visit (kv, i)).positions[attrKey.idx] = self.positions[attrKey.idx] :=
      hkeep
    simp only [get, hslot, if_neg hkey]

/-- The positions after a scan: every slot holds what the linear scan for its key finds. -/
def Scanned (attributes : List KeyValue) (self : AttributeIndices) : Prop :=
  ∀ attrKey ∈ ATTRIBUTE_KEYS, self.get attrKey = lastPosition attrKey.key attributes

theorem Scanned.visit {attributes : List KeyValue} {self : AttributeIndices}
    (h : Scanned attributes self) (kv : KeyValue) (hlen : attributes.length < U32_MAX.toNat) :
    Scanned (attributes ++ [kv]) (self.visit (kv, attributes.length)) := by
  intro attrKey hmem
  rw [get_visit hmem self kv hlen, lastPosition_concat, h attrKey hmem]

theorem fromAttributeSlice_concat (attributes : List KeyValue) (kv : KeyValue) :
    fromAttributeSlice (attributes ++ [kv]) =
      (fromAttributeSlice attributes).visit (kv, attributes.length) := by
  simp [fromAttributeSlice, List.zipIdx_append, List.foldl_append]

theorem scanned_fromAttributeSlice {attributes : List KeyValue}
    (hlen : attributes.length ≤ U32_MAX.toNat) :
    Scanned attributes (fromAttributeSlice attributes) := by
  -- one attribute more at the end is one visit more
  induction attributes using List.reverseRecOn with
  | nil =>
      intro attrKey _
      exact get_default attrKey
  | append_singleton front kv ih =>
      have hlt : front.length < U32_MAX.toNat := by
        rw [List.length_append, List.length_singleton] at hlen
        exact hlen
      rw [fromAttributeSlice_concat]
      exact (ih (Nat.le_of_lt hlt)).visit kv hlt

/-- Looking a key of the table up in the scanned positions is the linear scan: the position is that
of the last attribute with the key's string, there is none exactly when no attribute has it, and no
other key of the table has the slot. -/
theorem get_fromAttributeSlice {attributes : List KeyValue}
    (hlen : attributes.length < 2 ^ 32 - 1) {attrKey : AttributeKey}
    (hmem : attrKey ∈ ATTRIBUTE_KEYS) :
    (fromAttributeSlice attributes).get attrKey = lastPosition attrKey.key attributes ∧
      (∀ i, (fromAttributeSlice attributes).get attrKey = some i ↔
        ∃ front kv back, attributes = front ++ kv :: back ∧ front.length = i ∧
          kv.key = attrKey.key ∧ ∀ later ∈ back, later.key ≠ attrKey.key) ∧
      ((fromAttributeSlice attributes).get attrKey = none ↔
        ∀ kv ∈ attributes, kv.key ≠ attrKey.key) ∧
      ∀ other ∈ ATTRIBUTE_KEYS, other.key ≠ attrKey.key → other.idx ≠ attrKey.idx := by
  have hscan : (fromAttributeSlice attributes).get attrKey =
      lastPosition attrKey.key attributes :=
    scanned_fromAttributeSlice (Nat.le_of_lt hlen) attrKey hmem
  refine ⟨hscan, ?_, ?_, ?_⟩
  · intro i
    rw [hscan]
    exact lastPosition_eq_some_iff
  · rw [hscan]
    exact lastPosition_eq_none_iff
  · intro other hother hkey hslot
    exact hkey (congrArg AttributeKey.key (eq_of_slot_eq hother hmem hslot))

/-- Of two attributes with one key the second is found. -/
theorem get_fromAttributeSlice_route :
    (fromAttributeSlice [⟨HTTP_ROUTE.key, .bool true⟩, ⟨SPAN_TYPE.key, .bool true⟩,
      ⟨HTTP_ROUTE.key, .bool false⟩]).get HTTP_ROUTE = some 2 := by
  have hmem : HTTP_ROUTE ∈ ATTRIBUTE_KEYS := by
    simp [ATTRIBUTE_KEYS]
  refine (get_fromAttributeSlice ?_ hmem).1.trans ?_
  · decide
  · decide

end AttributeIndices

end Mappings
end DdTrace
