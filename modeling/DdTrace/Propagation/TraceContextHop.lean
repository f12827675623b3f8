import DdTrace.Propagation.TagSeparation

/-!
# TraceContextHop — a service in the middle passes the W3C headers on

What travels with a trace beside its ids is its baggage: the priority, the origin and the propagation
tags.  Baggage that fits comes out of the headers as it went in (`readBack_baggage`), whatever the order
in which the tags are met, and whatever members of other vendors stand behind ours: nothing is replaced,
cut off, or taken for something else.
-/

namespace DdTrace
namespace Propagation
namespace TraceContext

open DdTrace.Lib DdTrace.Core

/-! ## Tags under their names -/

/-- The propagation tags under their names without the prefix. -/
def namedTags (ord : IterOrder Str Str) (tags : Tags) : List (Str × Str) :=
  (ord.iter tags).filterMap fun (key, value) =>
    (Text.stripPrefix DATADOG_PROPAGATION_TAG_PREFIX key).map fun name => (name, value)

theorem mem_namedTags {ord : IterOrder Str Str} {tags : Tags} {name value : Str} :
    (name, value) ∈ namedTags ord tags ↔
      tags.lookup (DATADOG_PROPAGATION_TAG_PREFIX ++ name) = some value := by
  simp only [namedTags, List.mem_filterMap, Option.map_eq_some_iff, Prod.mk.injEq,
    Text.stripPrefix_eq_some]
  constructor
  · rintro ⟨⟨key, v⟩, hmem, n, rfl, rfl, rfl⟩
    exact ord.mem_iter.1 hmem
  · intro h
    exact ⟨_, ord.mem_iter.2 h, name, rfl, rfl, rfl⟩

theorem nodup_names (ord : IterOrder Str Str) (tags : Tags) :
    ((namedTags ord tags).map Prod.fst).Nodup := by
  have hkeys : ∀ pairs : List (Str × Str), (pairs.map Prod.fst).Nodup →
      ((pairs.filterMap fun (key, value) =>
        (Text.stripPrefix DATADOG_PROPAGATION_TAG_PREFIX key).map fun name =>
          (name, value)).map Prod.fst).Nodup := by
    intro pairs hnodup
    induction pairs with
    | nil => exact List.nodup_nil
    | cons pair pairs ih =>
        rcases pair with ⟨key, value⟩
        rw [List.map_cons, List.nodup_cons] at hnodup
        cases hstrip : Text.stripPrefix DATADOG_PROPAGATION_TAG_PREFIX key with
        | none => simpa [hstrip] using ih hnodup.2
        | some name =>
            simp only [List.filterMap_cons, hstrip, Option.map_some, List.map_cons,
              List.nodup_cons]
            refine ⟨?_, ih hnodup.2⟩
            -- another tag of the same name would have the same key
            rintro hmem
            rcases List.mem_map.1 hmem with ⟨⟨name', value'⟩, hpair, hname⟩
            rcases List.mem_filterMap.1 hpair with ⟨⟨key', v⟩, hkey', hread⟩
            simp only [Option.map_eq_some_iff, Prod.mk.injEq, Text.stripPrefix_eq_some] at hread
            rcases hread with ⟨n, hn, rfl, rfl⟩
            have hsame : key' = key := by
              rw [hn, Text.stripPrefix_eq_some.1 hstrip]
              exact congrArg _ hname
            exact hnodup.1 (List.mem_map.2 ⟨_, hkey', hsame⟩)
  exact hkeys _ (ord.nodup_iter tags)

/-- The tags agree on every propagation tag. -/
def SameTags (tags tags' : Tags) : Prop :=
  ∀ name, tags.lookup (DATADOG_PROPAGATION_TAG_PREFIX ++ name) =
    tags'.lookup (DATADOG_PROPAGATION_TAG_PREFIX ++ name)

theorem SameTags.trans {tags tags' tags'' : Tags} (h : SameTags tags tags')
    (h' : SameTags tags' tags'') : SameTags tags tags'' :=
  fun name => (h name).trans (h' name)

/-- The same tags stand in some order in both. -/
theorem SameTags.perm {tags tags' : Tags} (h : SameTags tags tags') (ord ord' : IterOrder Str Str) :
    (namedTags ord tags).Perm (namedTags ord' tags') := by
  refine (List.perm_ext_iff_of_nodup (nodup_names ord tags).of_map
    (nodup_names ord' tags').of_map).2 ?_
  rintro ⟨name, value⟩
  rw [mem_namedTags, mem_namedTags, h name]

/-- With room for all of them, the tags are written in the order in which they are met. -/
theorem roomyTags_eq {tags : List (Str × Str)} {size : Nat}
    (h : size + ((tags.filterMap fun (key, value) =>
      (Text.stripPrefix DATADOG_PROPAGATION_TAG_PREFIX key).map fun name =>
        (name, value)).map tagSize).sum ≤ 128) :
    roomyTags size tags = tags.filterMap fun (key, value) =>
      (Text.stripPrefix DATADOG_PROPAGATION_TAG_PREFIX key).map fun name => (name, value) := by
  induction tags generalizing size with
  | nil => rfl
  | cons tag tags ih =>
      rcases tag with ⟨key, value⟩
      unfold roomyTags
      cases hstrip : Text.stripPrefix DATADOG_PROPAGATION_TAG_PREFIX key with
      | none =>
          simp only [List.filterMap_cons, hstrip, Option.map_none] at h ⊢
          exact ih h
      | some name =>
          simp only [List.filterMap_cons, hstrip, Option.map_some, List.map_cons,
            List.sum_cons] at h ⊢
          rw [← Nat.add_assoc] at h
          have hroom : ¬ size + tagSize (name, value) > 128 := by
            have hle := Nat.le_of_add_right_le h
            exact Nat.not_lt.2 hle
          rw [if_neg hroom, ih h]

/-! ## Baggage -/

/-- A tag that the filters of the injector leave as it is, and whose value does not end in a blank. -/
structure IsClean (tag : Str × Str) : Prop where
  key : sanitizedTagKey tag.1 = tag.1
  plain : IsPlain tag
  value : sanitizedTagValue tag.2 = tag.2
  last : tag.2.getLast? ≠ some ' '

instance (tag : Str × Str) : Decidable (IsClean tag) :=
  decidable_of_iff (sanitizedTagKey tag.1 = tag.1 ∧ IsPlain tag ∧
      sanitizedTagValue tag.2 = tag.2 ∧ tag.2.getLast? ≠ some ' ')
    ⟨fun ⟨key, plain, value, last⟩ => ⟨key, plain, value, last⟩,
      fun h => ⟨h.key, h.plain, h.value, h.last⟩⟩

/-- What travels with a trace. -/
structure Baggage where
  priority : SamplingPriority
  origin : Option Str
  tags : Tags

namespace Baggage

/-- The size of the priority and the origin in the value of our member. -/
def headSize (self : Baggage) : Nat :=
  2 + self.priority.display.length + self.origin.elim 0 fun origin => 3 + origin.length

def tagsSize (self : Baggage) : Nat :=
  ((namedTags (.asStored Str Str) self.tags).map tagSize).sum

/-- The baggage survives the filters, and fits into the value of our member beside a parent id. -/
structure Fits (baggage : Baggage) : Prop where
  clean : ∀ tag ∈ namedTags (.asStored Str Str) baggage.tags, IsClean tag
  origin : ∀ origin ∈ baggage.origin, sanitizedTagValue origin = origin
  tagsRoom : baggage.tagsSize ≤ 128
  room : baggage.headSize + 19 + baggage.tagsSize < 256

/-- A context has this baggage. -/
structure In (baggage : Baggage) (priority : Option SamplingPriority) (origin : Option Str)
    (tags : Tags) : Prop where
  priority : priority = some baggage.priority
  origin : origin = baggage.origin
  tags : SameTags tags baggage.tags

end Baggage

/-! ## What is written -/

section Written

variable {baggage : Baggage} (hfits : baggage.Fits) {context : InjectSpanContext}
variable (hin : baggage.In context.sampling.priority context.origin context.tags)

include hfits hin

theorem headLength_baggage : headLength context = baggage.headSize := by
  have hroom := hfits.room
  simp only [Baggage.headSize] at hroom ⊢
  simp only [headLength, hin.priority, hin.origin, Option.getD_some]
  cases horigin : baggage.origin with
  | none => rfl
  | some origin =>
      simp only [horigin, Option.elim_some] at hroom ⊢
      rw [if_pos (by omega)]
      omega

theorem parentIdWritten_baggage : ParentIdWritten context := by
  have hroom := hfits.room
  rw [ParentIdWritten, headLength_baggage hfits hin]
  omega

/-- All tags are written. -/
theorem writtenTags_baggage (ord : IterOrder Str Str) (hremote : context.isRemote = false) :
    writtenTags ord context = namedTags ord context.tags := by
  have hsum : ((namedTags ord context.tags).map tagSize).sum = baggage.tagsSize :=
    ((hin.tags.perm ord (.asStored Str Str)).map tagSize).sum_eq
  have hroomy : roomyTags 0 (ord.iter context.tags) = namedTags ord context.tags := by
    apply roomyTags_eq
    rw [Nat.zero_add]
    exact hsum.le.trans hfits.tagsRoom
  have hlength : lengthBeforeTags context = baggage.headSize + 19 := by
    have hwritten : headLength context + 3 + 16 < 256 := parentIdWritten_baggage hfits hin
    have hid : Text.utf8Len (lastParentId context) = 16 := by
      rw [utf8Len_of_isValueText]
      · simp only [lastParentId, hremote, Bool.false_eq_true, if_false, length_spanId]
      · simpa only [lastParentId, hremote, Bool.false_eq_true, if_false] using
          isValueText_spanId context.spanId
    rw [lengthBeforeTags, if_pos hwritten, hid, headLength_baggage hfits hin]
  simp only [writtenTags, hroomy, hlength, hsum]
  exact if_pos hfits.room

theorem isClean_baggage (ord : IterOrder Str Str) :
    ∀ tag ∈ namedTags ord context.tags, IsClean tag := by
  intro tag htag
  exact hfits.clean tag ((hin.tags.perm ord (.asStored Str Str)).mem_iff.1 htag)

/-- What the tags spell are the tags. -/
theorem lookup_spelled_baggage (ord : IterOrder Str Str) (name : Str) :
    (spelled (namedTags ord context.tags)).lookup
        (TRACESTATE_DATADOG_PROPAGATION_TAG_PREFIX ++ name) =
      baggage.tags.lookup (DATADOG_PROPAGATION_TAG_PREFIX ++ name) := by
  have hclean := isClean_baggage hfits hin ord
  have hplain : ∀ tag ∈ namedTags ord context.tags, IsPlain tag :=
    fun tag htag => (hclean tag htag).plain
  have hlast : ∀ tag ∈ (namedTags ord context.tags).getLast?, tag.2.getLast? ≠ some ' ' :=
    fun tag htag => (hclean tag (List.mem_of_getLast? htag)).last
  have hitems : tagItems (namedTags ord context.tags) =
      (namedTags ord context.tags).map fun tag =>
        (TRACESTATE_DATADOG_PROPAGATION_TAG_PREFIX ++ tag.1, tag.2) := by
    rw [tagItems_of_isPlain hplain hlast]
    apply List.map_congr_left
    intro tag htag
    rw [(hclean tag htag).key, (hclean tag htag).value]
  have hnodup : ((tagItems (namedTags ord context.tags)).map Prod.fst).Nodup := by
    rw [hitems, List.map_map]
    have hinjective : Function.Injective fun name : Str =>
        TRACESTATE_DATADOG_PROPAGATION_TAG_PREFIX ++ name :=
      fun _ _ h => List.append_cancel_left h
    have hmap := (nodup_names ord context.tags).map hinjective
    rwa [List.map_map] at hmap
  rw [← hin.tags name]
  apply Option.ext
  intro value
  rw [spelled, HashMap.lookup_ofPairs_of_nodup hnodup, hitems, ← mem_namedTags, List.mem_map]
  constructor
  · rintro ⟨⟨name', value'⟩, hmem, heq⟩
    simp only [Prod.mk.injEq, List.append_cancel_left_eq] at heq
    rcases heq with ⟨rfl, rfl⟩
    exact hmem
  · intro hmem
    exact ⟨(name, value), hmem, rfl⟩

/-- The tags spell no other item. -/
theorem lookup_spelled_other (ord : IterOrder Str Str) {key : Str}
    (hkey : TRACESTATE_DATADOG_PROPAGATION_TAG_PREFIX.isPrefixOf key = false) :
    (spelled (namedTags ord context.tags)).lookup key = none := by
  have hclean := isClean_baggage hfits hin ord
  exact spelled_of_isPlain (fun tag htag => (hclean tag htag).plain)
    (fun tag htag => (hclean tag (List.mem_of_getLast? htag)).last) hkey

end Written

/-! ## What is read back -/

/-- Of the pairs of a key, the one that is inserted last stays. -/
theorem lookup_insertAll_eq (tags : Tags) (pairs : List (Str × Str)) (key : Str) :
    (insertAll tags pairs).lookup key =
      ((HashMap.ofPairs pairs).lookup key).or (tags.lookup key) := by
  induction pairs using List.reverseRecOn with
  | nil => rfl
  | append_singleton pairs pair ih =>
      have hlast : insertAll tags (pairs ++ [pair]) =
          AList.insert pair.1 pair.2 (insertAll tags pairs) := by
        simp [insertAll]
      rw [hlast, HashMap.lookup_insert_eq, HashMap.ofPairs_append_singleton,
        HashMap.lookup_insert_eq]
      by_cases hkey : key = pair.1
      · rw [if_pos hkey, if_pos hkey, Option.some_or]
      · rw [if_neg hkey, if_neg hkey, ih]

/-- The extracted tags have the propagation tags of the tracestate. -/
theorem lookup_insertAll_propagationTags (ord : IterOrder Str Str) {tracestate : Tracestate}
    {items : Tags} (h : tracestate.propagationTags = some items) {tags : Tags} (name : Str)
    (hnone : tags.lookup (DATADOG_PROPAGATION_TAG_PREFIX ++ name) = none) :
    (insertAll tags (propagationTags ord tracestate)).lookup
        (DATADOG_PROPAGATION_TAG_PREFIX ++ name) =
      items.lookup (TRACESTATE_DATADOG_PROPAGATION_TAG_PREFIX ++ name) := by
  rw [lookup_insertAll_eq, hnone, Option.or_none, HashMap.lookup_ofPairs]
  -- the items have distinct names, so all pairs of the key have the value of the item
  cases hitem : items.lookup (TRACESTATE_DATADOG_PROPAGATION_TAG_PREFIX ++ name) with
  | none =>
      rw [Option.map_eq_none_iff, List.getLast?_eq_none_iff, List.filter_eq_nil_iff]
      rintro ⟨key, value⟩ hpair heq
      simp only [decide_eq_true_eq] at heq
      rcases (mem_propagationTags h).1 hpair with ⟨name', hname, hlookup⟩
      rw [heq] at hname
      have hsame : name = name' := List.append_cancel_left hname
      rw [← hsame, hitem] at hlookup
      cases hlookup
  | some value =>
      have hmem : (DATADOG_PROPAGATION_TAG_PREFIX ++ name, value) ∈
          (propagationTags ord tracestate).filter
            fun pair => pair.1 = DATADOG_PROPAGATION_TAG_PREFIX ++ name :=
        List.mem_filter.2 ⟨(mem_propagationTags h).2 ⟨name, rfl, hitem⟩, by simp⟩
      cases hlast : ((propagationTags ord tracestate).filter
          fun pair => pair.1 = DATADOG_PROPAGATION_TAG_PREFIX ++ name).getLast? with
      | none =>
          rw [List.getLast?_eq_none_iff] at hlast
          rw [hlast] at hmem
          cases hmem
      | some pair =>
          rcases List.mem_filter.1 (List.mem_of_getLast? hlast) with ⟨hpair, heq⟩
          rcases (mem_propagationTags h).1 hpair with ⟨name', hname, hlookup⟩
          simp only [decide_eq_true_eq] at heq
          rw [heq] at hname
          have hsame : name = name' := List.append_cancel_left hname
          rw [← hsame, hitem] at hlookup
          rw [Option.map_some, Option.some.inj hlookup]

/-- A priority that agrees with the sampled flag leaves the tags alone. -/
theorem defineSamplingPriority_tags {isKeep : Bool} {ts : Option SamplingPriority}
    (h : ts.any fun p => p.isKeep = isKeep) (tags : Tags) :
    (defineSamplingPriority (flagPriority isKeep) ts tags).2 = tags := by
  cases ts with
  | none => cases h
  | some p =>
      have hfilter : (some p).filter (fun p => decide (p.isKeep = isKeep)) = some p :=
        if_pos (by simpa using h)
      simp only [defineSamplingPriority, agrees_flagPriority, hfilter]

/-- The two headers and the parent id are no propagation tags. -/
theorem append_ne_of_isPrefixOf {key : Str}
    (h : DATADOG_PROPAGATION_TAG_PREFIX.isPrefixOf key = false) (name : Str) :
    DATADOG_PROPAGATION_TAG_PREFIX ++ name ≠ key := by
  intro heq
  have hpre : DATADOG_PROPAGATION_TAG_PREFIX.isPrefixOf key = true :=
    List.isPrefixOf_iff_prefix.2 ⟨name, heq⟩
  rw [h] at hpre
  cases hpre

/-- The ids and the tags that are read back, in terms of the items. -/
theorem readBack_tags (ord ord' : IterOrder Str Str) {context : InjectSpanContext}
    (hremote : context.isRemote = false) (ht : context.traceId ≠ 0) (hs : context.spanId ≠ 0)
    (hpriority : (((Tracestate.readItems (ddParts ord context)).lookup
      Tracestate.TRACESTATE_SAMPLING_PRIORITY_KEY).bind SamplingPriority.fromStr).any
        fun p => p.isKeep = keeps context) :
    ∃ extracted, readBack ord ord' context = some extracted ∧
      extracted.traceId = context.traceId ∧ extracted.spanId = context.spanId ∧
      extracted.isRemote = true ∧
      ∀ name, extracted.tags.lookup (DATADOG_PROPAGATION_TAG_PREFIX ++ name) =
        (Tracestate.readItems (ddParts ord context)).lookup
          (TRACESTATE_DATADOG_PROPAGATION_TAG_PREFIX ++ name) := by
  have hfits : ParentIdFits context := fun h => by simp [hremote] at h
  have hparse := fromStr_tracestateHeader ord hfits
  generalize (otherMembers context).filterMap Tracestate.readMember = others at hparse
  have htp := get_inject_traceparent ord ht hs ∅
  have hts : (inject ord context ∅).get TRACESTATE_KEY = some (tracestateHeader ord context) := by
    rw [get_inject, if_pos ⟨ht, hs⟩]
  generalize Tracestate.readItems (ddParts ord context) = items at hparse hpriority ⊢
  simp only [readBack, extract, htp, hts, Option.bind_eq_bind, Option.bind_some, trim_text,
    extractTraceparent_text ht hs, Except.toOption, hparse]
  refine ⟨_, rfl, rfl, rfl, rfl, ?_⟩
  intro name
  have hbefore : ∀ tags : Tags,
      tags = AList.insert TRACESTATE_KEY (tracestateHeader ord context)
        (AList.insert TRACEPARENT_KEY
          (traceparentText context.traceId context.spanId (keeps context)) ∅) →
      tags.lookup (DATADOG_PROPAGATION_TAG_PREFIX ++ name) = none := by
    rintro tags rfl
    simp only [HashMap.lookup_insert_eq, AList.lookup_empty]
    rw [if_neg (append_ne_of_isPrefixOf (by decide) name),
      if_neg (append_ne_of_isPrefixOf (by decide) name)]
  have hitems : (Tracestate.ofParts (some items) others).propagationTags =
      some (((items.erase Tracestate.TRACESTATE_SAMPLING_PRIORITY_KEY).erase
        Tracestate.TRACESTATE_ORIGIN_KEY).erase Tracestate.TRACESTATE_LAST_PARENT_KEY) := rfl
  have hname : ∀ key ∈ [Tracestate.TRACESTATE_SAMPLING_PRIORITY_KEY,
      Tracestate.TRACESTATE_ORIGIN_KEY, Tracestate.TRACESTATE_LAST_PARENT_KEY],
      TRACESTATE_DATADOG_PROPAGATION_TAG_PREFIX ++ name ≠ key := by
    simp [Tracestate.TRACESTATE_SAMPLING_PRIORITY_KEY, Tracestate.TRACESTATE_ORIGIN_KEY,
      Tracestate.TRACESTATE_LAST_PARENT_KEY, TRACESTATE_DATADOG_PROPAGATION_TAG_PREFIX]
  have hread := lookup_insertAll_propagationTags ord' hitems name (hbefore _ rfl)
  rw [HashMap.lookup_erase_eq, if_neg (hname _ (by simp)), HashMap.lookup_erase_eq,
    if_neg (hname _ (by simp)), HashMap.lookup_erase_eq, if_neg (hname _ (by simp))] at hread
  rw [← hread]
  simp only [Tracestate.ofParts, Option.map_some, Option.bind_some,
    defineSamplingPriority_tags hpriority]
  cases items.lookup Tracestate.TRACESTATE_LAST_PARENT_KEY with
  | none => rfl
  | some id =>
      simp only [HashMap.lookup_insert_eq]
      exact if_neg (append_ne_of_isPrefixOf (by decide) name)

/-- Baggage that fits comes out of the headers as it went in, with the ids of the span that was
injected. -/
theorem readBack_baggage (ord ord' : IterOrder Str Str) {baggage : Baggage} (hfits : baggage.Fits)
    {context : InjectSpanContext}
    (hin : baggage.In context.sampling.priority context.origin context.tags)
    (hremote : context.isRemote = false) (ht : context.traceId ≠ 0) (hs : context.spanId ≠ 0) :
    ∃ extracted, readBack ord ord' context = some extracted ∧
      extracted.traceId = context.traceId ∧ extracted.spanId = context.spanId ∧
      extracted.isRemote = true ∧
      baggage.In extracted.sampling.priority extracted.origin extracted.tags ∧
      extracted.tags.lookup DATADOG_LAST_PARENT_ID_KEY =
        some (Numeral.hexPadded 16 context.spanId.toNat) := by
  have hwritten := writtenTags_baggage hfits hin ord hremote
  have hkeeps : keeps context = baggage.priority.isKeep := by
    simp only [keeps, hin.priority, Option.any_some]
  have htext : priorityText context = baggage.priority.display := by
    simp only [priorityText, hin.priority, Option.getD_some]
  have hspelled : ∀ key ∈ [Tracestate.TRACESTATE_SAMPLING_PRIORITY_KEY,
      Tracestate.TRACESTATE_ORIGIN_KEY, Tracestate.TRACESTATE_LAST_PARENT_KEY],
      (spelled (writtenTags ord context)).lookup key = none := by
    intro key hkey
    rw [hwritten]
    refine lookup_spelled_other hfits hin ord ?_
    simp only [List.mem_cons, List.not_mem_nil, or_false] at hkey
    rcases hkey with rfl | rfl | rfl
    · decide
    · decide
    · decide
  rcases lookup_headItems context (writtenTags ord context) with ⟨hpriority, -, -, htag⟩
  have hsitem : (Tracestate.readItems (ddParts ord context)).lookup
      Tracestate.TRACESTATE_SAMPLING_PRIORITY_KEY = some baggage.priority.display := by
    rw [lookup_readItems ord hremote, hspelled _ (by simp), hpriority, htext, Option.none_or]
  have hagrees : (((Tracestate.readItems (ddParts ord context)).lookup
      Tracestate.TRACESTATE_SAMPLING_PRIORITY_KEY).bind SamplingPriority.fromStr).any
        fun p => p.isKeep = keeps context := by
    rw [hsitem, Option.bind_some, SamplingPriority.fromStr_display, Option.any_some, hkeeps]
    exact decide_eq_true rfl
  rcases readBack_tags ord ord' hremote ht hs hagrees with
    ⟨extracted, hread, htraceId, hspanId, hisRemote, htags⟩
  rcases readBack_spelled ord ord' hremote ht hs with ⟨extracted', hread', hp, ho, hid, -⟩
  cases hread.symm.trans hread'
  refine ⟨extracted, hread, htraceId, hspanId, hisRemote, ⟨?_, ?_, ?_⟩, ?_⟩
  · rw [hp, hspelled _ (by simp), Option.getD_none, htext, settledPriority,
      SamplingPriority.fromStr_display, hkeeps]
    simp [Option.filter]
  · -- the origin fits, and the parent id behind it keeps its blanks
    have hroom := parentIdWritten_baggage hfits hin
    have hfitting : fittingOrigin context = baggage.origin := by
      have hsize := hfits.room
      rw [fittingOrigin, hin.origin, htext]
      cases horigin : baggage.origin with
      | none => rfl
      | some origin =>
          simp only [Baggage.headSize, horigin, Option.elim_some] at hsize
          exact if_pos (decide_eq_true (by omega))
    rw [ho, hspelled _ (by simp), Option.none_or, writtenOrigin, hfitting]
    cases horigin : baggage.origin with
    | none => rfl
    | some origin =>
        have hclean := hfits.origin origin horigin
        simp [hroom, hclean]
  · intro name
    rw [htags, lookup_readItems ord hremote, htag, Option.or_none, hwritten,
      lookup_spelled_baggage hfits hin ord]
  · rw [hid, hspelled _ (by simp), Option.none_or, writtenParentId,
      if_pos (parentIdWritten_baggage hfits hin)]

end TraceContext
end Propagation
end DdTrace
