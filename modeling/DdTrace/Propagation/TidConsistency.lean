import DdTrace.Propagation.TagSeparation

/-!
# TidConsistency — the higher half of the trace id, said twice

`traceparent` has the whole trace id.  The item `t.tid` of our tracestate value has its higher half
once more, and comes from the tag `_dd.p.tid`, which only the Datadog style brings up to date.  The
two agree exactly if no text that goes into the value spells another half (`tidAgrees_iff`).
-/

namespace DdTrace
namespace Propagation

open DdTrace.Lib DdTrace.Core

namespace TraceContext

/-! ## What is asked of the headers -/

def TRACESTATE_TID_KEY : Str := "t.tid".toList

/-- The higher half of a trace id in 16 digits, unless it is zero. -/
def tidText (traceId : BitVec 128) : Option Str :=
  (splitTraceId traceId).1.map fun higher => Numeral.hexPadded 16 higher.toNat

/-- The items of a member, if it is a `dd` member. -/
def memberItems (member : Str) : List (Str × Str) :=
  (Text.stripPrefix "dd=".toList member).elim [] itemsOf

/-- The items of the `dd` members of a tracestate, as they are written. -/
def ddItems (tracestate : Str) : List (Str × Str) := (tracestate.splitOn ',').flatMap memberItems

/-- Each item `t.tid` is the higher half of the trace id. -/
def NamesTid (traceId : BitVec 128) (items : List (Str × Str)) : Prop :=
  ∀ text, (TRACESTATE_TID_KEY, text) ∈ items → tidText traceId = some text

/-- The tracestate has no item `t.tid` that contradicts the trace id in `traceparent`. -/
structure TidAgrees (carrier : Carrier) : Prop where
  agrees : ∃ header traceparent tracestate,
    carrier.get TRACEPARENT_KEY = some header ∧
    extractTraceparent header = .ok traceparent ∧
    carrier.get TRACESTATE_KEY = some tracestate ∧
    NamesTid traceparent.traceId (ddItems tracestate)

theorem namesTid_append {traceId : BitVec 128} {items items' : List (Str × Str)} :
    NamesTid traceId (items ++ items') ↔ NamesTid traceId items ∧ NamesTid traceId items' := by
  simp only [NamesTid, List.mem_append, or_imp, forall_and]

theorem namesTid_flatMap {α : Type*} {traceId : BitVec 128} {l : List α}
    {f : α → List (Str × Str)} :
    NamesTid traceId (l.flatMap f) ↔ ∀ a ∈ l, NamesTid traceId (f a) := by
  simp only [NamesTid, List.mem_flatMap]
  constructor
  · intro h a ha text htext
    exact h text ⟨a, ha, htext⟩
  · rintro h text ⟨a, ha, htext⟩
    exact h a ha text htext

/-- Items with other keys say nothing about the trace id. -/
theorem namesTid_of_ne {traceId : BitVec 128} {items : List (Str × Str)}
    (h : ∀ item ∈ items, item.1 ≠ TRACESTATE_TID_KEY) : NamesTid traceId items := by
  intro text hmem
  exact absurd rfl (h _ hmem)

/-! ## The items of a header that is put together -/

theorem itemsOf_append_cons (s t : Str) : itemsOf (s ++ ';' :: t) = itemsOf s ++ itemsOf t := by
  simpa using itemsOf_append_flatMap s [t]

theorem memberItems_dd (value : Str) : memberItems ("dd=".toList ++ value) = itemsOf value := by
  have hstrip : Text.stripPrefix "dd=".toList ("dd=".toList ++ value) = some value :=
    Text.stripPrefix_eq_some.2 rfl
  rw [memberItems, hstrip]
  rfl

/-- Items in front, without the separator of members, belong to the first member. -/
theorem ddItems_append_cons {s : Str} (h : ',' ∉ s) (t : Str) :
    ddItems ("dd=".toList ++ (s ++ ';' :: t)) = itemsOf s ++ ddItems ("dd=".toList ++ t) := by
  rcases List.exists_cons_of_ne_nil (List.splitOn_ne_nil ',' t) with ⟨first, others, ht⟩
  have hitems : ∀ front : Str, ',' ∉ front →
      ddItems ("dd=".toList ++ (front ++ t)) =
        itemsOf (front ++ first) ++ others.flatMap memberItems := by
    intro front hfront
    have hcomma : ',' ∉ "dd=".toList ++ front := by
      simp [hfront]
    rw [← List.append_assoc, ddItems, Text.splitOn_append_of_not_mem hcomma, ht,
      List.modifyHead_cons, List.flatMap_cons, List.append_assoc, memberItems_dd]
  have hsemi : ',' ∉ s ++ [';'] := by
    simp [h]
  calc
    ddItems ("dd=".toList ++ (s ++ ';' :: t))
        = ddItems ("dd=".toList ++ ((s ++ [';']) ++ t)) := by simp
    _ = itemsOf ((s ++ [';']) ++ first) ++ others.flatMap memberItems := hitems _ hsemi
    _ = itemsOf s ++ (itemsOf first ++ others.flatMap memberItems) := by
          rw [List.append_assoc, List.singleton_append, itemsOf_append_cons, List.append_assoc]
    _ = itemsOf s ++ ddItems ("dd=".toList ++ t) :=
          congrArg (itemsOf s ++ ·) (hitems [] (by simp)).symm

/-- The last member of a text is a `dd` member, to which what follows belongs. -/
def EndsInDd (s : Str) : Prop :=
  ∀ member ∈ (s.splitOn ',').getLast?, "dd=".toList.isPrefixOf member = true

instance (s : Str) : Decidable (EndsInDd s) :=
  inferInstanceAs
    (Decidable (∀ member ∈ (s.splitOn ',').getLast?, "dd=".toList.isPrefixOf member = true))

theorem endsInDd_of_not_mem {s : Str} (h : ',' ∉ s) : EndsInDd ("dd=".toList ++ s) := by
  have hcomma : ',' ∉ "dd=".toList ++ s := by
    simp [h]
  intro member hmember
  rw [List.splitOn_eq_singleton hcomma, List.getLast?_singleton, Option.mem_some] at hmember
  rw [← hmember]
  exact List.isPrefixOf_iff_prefix.2 (List.prefix_append ..)

theorem itemsOf_tagsText (s : Str) (tags : List (Str × Str)) :
    itemsOf (s ++ tagsText tags) = itemsOf s ++ tags.flatMap fun tag => itemsOf (tagBody tag) := by
  rw [tagsText_eq, itemsOf_append_flatMap, List.flatMap_map]

theorem comma_not_mem_tagsText (tags : List (Str × Str)) : ',' ∉ tagsText tags := by
  intro hc
  exact absurd (isValueText_tagsText tags _ hc) (by decide)

/-- The texts of tags do not turn another member into a `dd` member. -/
theorem stripPrefix_append_tagsText {member : Str}
    (h : "dd=".toList.isPrefixOf member = false) (tags : List (Str × Str)) :
    Text.stripPrefix "dd=".toList (member ++ tagsText tags) = none := by
  rw [Option.eq_none_iff_forall_ne_some]
  intro rest hrest
  have happend : member ++ tagsText tags = "dd=".toList ++ rest := Text.stripPrefix_eq_some.1 hrest
  rcases List.append_eq_append_iff.1 happend with ⟨missing, hdd, htags⟩ | ⟨more, hmember, -⟩
  · -- the tags start with `;`, which is not in `dd=`
    cases missing with
    | nil =>
        rw [List.append_nil] at hdd
        rw [← hdd] at h
        exact absurd h (by decide)
    | cons c missing =>
        have hc : c ∈ "dd=".toList := by
          rw [hdd]
          simp
        cases tags with
        | nil => cases htags
        | cons tag tags =>
            rw [tagsText_eq, List.map_cons, List.flatMap_cons, List.cons_append, List.cons_append,
              List.cons.injEq] at htags
            rw [← htags.1] at hc
            exact absurd hc (by decide)
  · have hprefix : "dd=".toList.isPrefixOf member = true := by
      rw [hmember]
      exact List.isPrefixOf_iff_prefix.2 (List.prefix_append ..)
    rw [h] at hprefix
    cases hprefix

/-- The items of tags count as items of ours if they follow a `dd` member. -/
theorem ddItems_append_tagsText (s : Str) (tags : List (Str × Str)) :
    ddItems (s ++ tagsText tags) =
      ddItems s ++ if EndsInDd s then tags.flatMap fun tag => itemsOf (tagBody tag) else [] := by
  rcases Text.exists_open_part ',' s with ⟨closed, last, hparts⟩
  have hself : s.splitOn ',' = closed ++ [last] := by
    simpa using hparts [] (by simp)
  have hends : EndsInDd s ↔ "dd=".toList.isPrefixOf last = true := by
    simp [EndsInDd, hself]
  have hlast : memberItems (last ++ tagsText tags) =
      memberItems last ++
        if EndsInDd s then tags.flatMap fun tag => itemsOf (tagBody tag) else [] := by
    cases hprefix : "dd=".toList.isPrefixOf last with
    | true =>
        obtain ⟨value, rfl⟩ := List.isPrefixOf_iff_prefix.1 hprefix
        rw [if_pos (hends.2 hprefix), List.append_assoc, memberItems_dd, memberItems_dd,
          itemsOf_tagsText]
    | false =>
        have hnot : ¬ EndsInDd s := by
          rw [hends, hprefix]
          decide
        have hnone := stripPrefix_append_tagsText hprefix
        have hplain : Text.stripPrefix "dd=".toList last = none := by
          simpa [tagsText] using hnone []
        rw [if_neg hnot, memberItems, memberItems, hnone, hplain]
        rfl
  rw [ddItems, ddItems, hparts _ (comma_not_mem_tagsText tags), hself, List.flatMap_append,
    List.flatMap_append, List.flatMap_singleton, List.flatMap_singleton, hlast, List.append_assoc]

/-- The members of other vendors have no items of ours. -/
theorem ddItems_append_others (s : Str) (context : InjectSpanContext) :
    ddItems (s ++ (otherMembers context).flatMap fun part => ',' :: part) = ddItems s := by
  have hother : ∀ part ∈ otherMembers context, ddItems part = [] := by
    intro part hpart
    rcases otherMembers_valid hpart with ⟨hcomma, member, hread, hkey⟩
    rw [ddItems, List.splitOn_eq_singleton hcomma, List.flatMap_singleton, memberItems]
    cases hstrip : Text.stripPrefix "dd=".toList part with
    | none => rfl
    | some value =>
        -- a member that starts with `dd=` has our key
        have hpart : part = Tracestate.TRACESTATE_DD_KEY ++ '=' :: value :=
          (Text.stripPrefix_eq_some.1 hstrip).trans rfl
        have hsplit := Text.splitOnce_append (k := Tracestate.TRACESTATE_DD_KEY) (c := '=')
          (by decide) value
        rw [hpart] at hread
        simp only [Tracestate.readMember, hsplit, Option.getD_some] at hread
        split at hread
        · cases hread
        · cases hread
          exact absurd rfl hkey
  have hothers : ((otherMembers context).flatMap fun part => ddItems part) = [] :=
    List.flatMap_eq_nil_iff.2 hother
  calc
    ddItems (s ++ (otherMembers context).flatMap fun part => ',' :: part)
        = ddItems s ++ (otherMembers context).flatMap fun part => ddItems part := by
          rw [ddItems, Text.splitOn_append_flatMap, List.flatMap_append, List.flatMap_assoc]
          rfl
    _ = ddItems s := by rw [hothers, List.append_nil]

/-! ## The items of the injected header -/

/-- The `dd` member from the id of the last parent on, which is written as it is. -/
def parentIdMember (context : InjectSpanContext) : Str :=
  "dd=".toList ++ if ParentIdWritten context then "p:".toList ++ lastParentId context else []

theorem comma_not_mem_appendOrigin (context : InjectSpanContext) :
    ',' ∉ appendOrigin context (samplingPart context) := by
  intro hc
  exact absurd (isValueText_appendOrigin context _ hc) (by decide)

/-- The priority and the origin are under other keys. -/
theorem namesTid_appendOrigin (traceId : BitVec 128) (context : InjectSpanContext) :
    NamesTid traceId (itemsOf (appendOrigin context (samplingPart context))) := by
  have horigin : ∀ body ∈ (fittingOrigin context).toList.map originBody,
      NamesTid traceId (itemsOf body) := by
    intro body hbody
    rcases List.mem_map.1 hbody with ⟨origin, -, rfl⟩
    rw [itemsOf_originBody]
    apply namesTid_of_ne
    simp [TRACESTATE_TID_KEY, Tracestate.TRACESTATE_ORIGIN_KEY]
  have hpriority : NamesTid traceId (itemsOf (samplingPart context)) := by
    rw [itemsOf_priority]
    apply namesTid_of_ne
    simp [TRACESTATE_TID_KEY, Tracestate.TRACESTATE_SAMPLING_PRIORITY_KEY]
  rw [appendOrigin_eq, itemsOf_append_flatMap, namesTid_append, namesTid_flatMap]
  exact ⟨hpriority, horigin⟩

/-- The items of the header: those of the priority and the origin, of the last parent id, and of the
tags, unless the last parent id closes the member before them. -/
theorem ddItems_tracestateHeader (ord : IterOrder Str Str) (context : InjectSpanContext) :
    ddItems (tracestateHeader ord context) =
      itemsOf (appendOrigin context (samplingPart context)) ++
        (ddItems (parentIdMember context) ++
          if EndsInDd (parentIdMember context) then
            (writtenTags ord context).flatMap fun tag => itemsOf (tagBody tag)
          else []) := by
  have hcomma := comma_not_mem_appendOrigin context
  rw [tracestateHeader, ddItems_append_others, ddParts_eq]
  by_cases hroom : ParentIdWritten context
  · have hmember : parentIdMember context =
        "dd=".toList ++ ("p:".toList ++ lastParentId context) := by
      rw [parentIdMember, if_pos hroom]
    have hbefore : ddPartsBeforeTags context = appendOrigin context (samplingPart context) ++
        ';' :: ("p:".toList ++ lastParentId context) := by
      rw [ddPartsBeforeTags_eq_ite]
      refine (if_pos hroom).trans ?_
      simp
    rw [hbefore, List.append_assoc, List.cons_append, ddItems_append_cons hcomma,
      ← List.append_assoc, ← hmember, ddItems_append_tagsText]
  · -- without the parent id the tags follow the origin
    have hmember : parentIdMember context = "dd=".toList := by
      rw [parentIdMember, if_neg hroom, List.append_nil]
    have hbefore : ddPartsBeforeTags context = appendOrigin context (samplingPart context) := by
      rw [ddPartsBeforeTags_eq_ite]
      exact if_neg hroom
    have hnil : ddItems "dd=".toList = [] := by decide
    have hends : EndsInDd "dd=".toList := by decide
    have hfront : ddItems ("dd=".toList ++ appendOrigin context (samplingPart context)) =
        itemsOf (appendOrigin context (samplingPart context)) := by
      have hwhole : ',' ∉ "dd=".toList ++ appendOrigin context (samplingPart context) := by
        simp [hcomma]
      rw [ddItems, List.splitOn_eq_singleton hwhole, List.flatMap_singleton, memberItems_dd]
    rw [hbefore, ← List.append_assoc, ddItems_append_tagsText, hfront,
      if_pos (endsInDd_of_not_mem hcomma), hmember, hnil, if_pos hends, List.nil_append]

/-- The header agrees with the trace id if the parent id and the tags do. -/
theorem namesTid_tracestateHeader (ord : IterOrder Str Str) (traceId : BitVec 128)
    (context : InjectSpanContext) :
    NamesTid traceId (ddItems (tracestateHeader ord context)) ↔
      NamesTid traceId (ddItems (parentIdMember context)) ∧
        (EndsInDd (parentIdMember context) →
          ∀ tag ∈ writtenTags ord context, NamesTid traceId (itemsOf (tagBody tag))) := by
  rw [ddItems_tracestateHeader, namesTid_append, namesTid_append]
  have hfront := namesTid_appendOrigin traceId context
  by_cases hends : EndsInDd (parentIdMember context)
  · simp only [hfront, hends, if_true, true_and, true_implies, namesTid_flatMap]
  · have hnil : NamesTid traceId [] := namesTid_of_ne (by simp)
    simp only [hfront, hends, if_false, hnil, true_and, and_true, false_implies]

/-! ## The tag of the higher half -/

theorem isHexDigit_of_tidText {traceId : BitVec 128} {text : Str} (h : tidText traceId = some text)
    {c : Char} (hc : c ∈ text) : Numeral.isHexDigit c = true := by
  rcases Option.map_eq_some_iff.1 h with ⟨higher, -, rfl⟩
  exact Numeral.isHexDigit_of_mem_hexPadded hc

/-- Hexadecimal digits come from themselves only. -/
theorem sanitizedTagValue_eq_iff {value text : Str}
    (h : ∀ c ∈ text, Numeral.isHexDigit c = true) : sanitizedTagValue value = text ↔ value = text := by
  constructor
  · intro hsanitized
    refine eq_of_replaceChars_eq hsanitized ?_
    intro hmem
    exact absurd (h _ hmem) (by decide)
  · rintro rfl
    have hkept : ∀ c ∈ value, replaceChar invalidTagValue INVALID_CHAR_REPLACEMENT c = c :=
      fun c hc => Numeral.forall_isHexDigit
        (P := fun c => replaceChar invalidTagValue INVALID_CHAR_REPLACEMENT c = c) (by decide)
        (h c hc)
    calc
      sanitizedTagValue value
          = value.map (replaceChar invalidTagValue INVALID_CHAR_REPLACEMENT) :=
            replaceChars_eq_map ..
      _ = value.map id := List.map_congr_left hkept
      _ = value := List.map_id value

def TID_KEY_SUFFIX : Str := "tid".toList

/-- The tag `_dd.p.tid` is the item `t.tid`. -/
theorem namesTid_tidTag {traceId : BitVec 128} {value : Str} :
    NamesTid traceId (itemsOf (tagBody (TID_KEY_SUFFIX, value))) ↔ tidText traceId = some value := by
  have hname : ';' ∉ TID_KEY_SUFFIX ∧ ':' ∉ TID_KEY_SUFFIX := by decide
  have hplain : IsPlain (TID_KEY_SUFFIX, value) := hname
  have hkey : TRACESTATE_DATADOG_PROPAGATION_TAG_PREFIX ++ sanitizedTagKey TID_KEY_SUFFIX =
      TRACESTATE_TID_KEY := by decide
  rw [itemsOf_tagBody hplain, hkey]
  constructor
  · intro h
    have htext := h _ (List.mem_singleton.2 rfl)
    have hvalue : value = sanitizedTagValue value :=
      (sanitizedTagValue_eq_iff fun c hc => isHexDigit_of_tidText htext hc).1 rfl
    exact htext.trans (congrArg some hvalue.symm)
  · intro h text hmem
    have hvalue : sanitizedTagValue value = value :=
      (sanitizedTagValue_eq_iff fun c hc => isHexDigit_of_tidText h hc).2 rfl
    have htext : text = sanitizedTagValue value := congrArg Prod.snd (List.mem_singleton.1 hmem)
    rw [htext, hvalue]
    exact h

/-- A tag without separators in its key is an item of its own, under another key. -/
theorem namesTid_of_isPlain (traceId : BitVec 128) {tag : Str × Str} (h : IsPlain tag)
    (hkey : tag.1 ≠ TID_KEY_SUFFIX) : NamesTid traceId (itemsOf (tagBody tag)) := by
  have hname : TRACESTATE_DATADOG_PROPAGATION_TAG_PREFIX ++ sanitizedTagKey tag.1 ≠
      TRACESTATE_TID_KEY := by
    intro hsame
    have hkeys : TRACESTATE_TID_KEY =
        TRACESTATE_DATADOG_PROPAGATION_TAG_PREFIX ++ TID_KEY_SUFFIX := by decide
    have hsanitized : sanitizedTagKey tag.1 = TID_KEY_SUFFIX :=
      List.append_cancel_left (hsame.trans hkeys)
    exact hkey (eq_of_replaceChars_eq hsanitized (by decide))
  apply namesTid_of_ne
  intro item hitem
  rw [itemsOf_tagBody h, List.mem_singleton] at hitem
  rw [hitem]
  exact hname

/-- A parent id without separators is one item, and the tags follow it. -/
theorem parentIdMember_of_plain {context : InjectSpanContext}
    (h : ',' ∉ lastParentId context ∧ ';' ∉ lastParentId context) (traceId : BitVec 128) :
    NamesTid traceId (ddItems (parentIdMember context)) ∧ EndsInDd (parentIdMember context) := by
  by_cases hroom : ParentIdWritten context
  · have hcomma : ',' ∉ "p:".toList ++ lastParentId context := by
      simp [h.1]
    have hwhole : ',' ∉ "dd=".toList ++ ("p:".toList ++ lastParentId context) := by
      simp [h.1]
    have hsemi : ';' ∉ "p:".toList ++ lastParentId context := by
      simp [h.2]
    rw [parentIdMember, if_pos hroom]
    refine ⟨?_, endsInDd_of_not_mem hcomma⟩
    rw [ddItems, List.splitOn_eq_singleton hwhole, List.flatMap_singleton, memberItems_dd, itemsOf,
      List.splitOn_eq_singleton hsemi]
    apply namesTid_of_ne
    intro item hitem
    rcases List.mem_filterMap.1 hitem with ⟨body, hbody, hread⟩
    rw [List.mem_singleton.1 hbody, Tracestate.readItem] at hread
    split at hread
    · have hsplit : Text.splitOnce ':' ("p:".toList ++ lastParentId context) =
          some ("p".toList, lastParentId context) :=
        Text.splitOnce_append (k := "p".toList) (by decide) _
      rw [hsplit, Option.map_some, Option.some.injEq] at hread
      rw [← hread]
      exact (show "p".toList ≠ TRACESTATE_TID_KEY by decide)
    · cases hread
  · have hnil : ddItems "dd=".toList = [] := by decide
    rw [parentIdMember, if_neg hroom, List.append_nil, hnil]
    exact ⟨namesTid_of_ne (by simp), by decide⟩

/-- Nothing but the last parent id among the tags shows in that part of the member. -/
theorem parentIdMember_of_tags {context : InjectSpanContext} {tags : Tags}
    (h : tags.lookup DATADOG_LAST_PARENT_ID_KEY = context.tags.lookup DATADOG_LAST_PARENT_ID_KEY) :
    parentIdMember { context with tags := tags } = parentIdMember context := by
  have hid : lastParentId { context with tags := tags } = lastParentId context := by
    simp only [lastParentId, h]
  rw [parentIdMember, parentIdMember, hid]
  rfl

end TraceContext

/-! ## The styles before the W3C style -/

namespace Datadog

variable (ord : IterOrder Str Str) (context : InjectSpanContext)

/-- The tags that the style leaves. -/
def leftTags (config : Config) : Tags :=
  (injectTags ord (headerTags context) ∅ config.datadogTagsMaxLength).2

theorem inject_fst (carrier : Carrier) (config : Config) :
    (inject ord context carrier config).1 = { context with tags := leftTags ord context config } := by
  simp only [inject, injectTraceId, leftTags, headerTags, injectSampling, injectTags]
  split
  · rfl
  · split
    · rfl
    · rfl

/-- At most an error is added after the header is written. -/
theorem lookup_leftTags (config : Config) {key : Str} (h : key ≠ DATADOG_PROPAGATION_ERROR_KEY) :
    (leftTags ord context config).lookup key = (headerTags context).lookup key := by
  unfold leftTags injectTags
  split
  · simp only [HashMap.lookup_insert_eq, if_neg h]
  · split
    · rfl
    · simp only [HashMap.lookup_insert_eq, if_neg h]

theorem lookup_tid_leftTags (config : Config) :
    (leftTags ord context config).lookup DATADOG_HIGHER_ORDER_TRACE_ID_BITS_KEY =
      TraceContext.tidText context.traceId := by
  rw [lookup_leftTags ord context config (by decide), lookup_traceIdTag]
  rfl

/-- The keys that the style writes to. -/
def LEFT_KEYS : List Str :=
  [SAMPLING_DECISION_MAKER_TAG_KEY, DATADOG_HIGHER_ORDER_TRACE_ID_BITS_KEY,
    DATADOG_PROPAGATION_ERROR_KEY]

theorem lookup_leftTags_of_not_mem (config : Config) {key : Str} (h : key ∉ LEFT_KEYS) :
    (leftTags ord context config).lookup key = context.tags.lookup key := by
  simp only [LEFT_KEYS, List.mem_cons, List.not_mem_nil, or_false, not_or] at h
  rcases h with ⟨hdm, htid, herror⟩
  rw [lookup_leftTags ord context config herror, lookup_headerTags, if_neg hdm, if_neg htid]

end Datadog

namespace DatadogCompositePropagator

open TraceContext

/-- The styles that come before the last W3C style. -/
def beforeLastW3c : List TracePropagationStyle → List TracePropagationStyle
  | [] => []
  | style :: styles =>
      if .traceContext ∈ styles then style :: beforeLastW3c styles else []

theorem exists_after_of_mem {styles : List TracePropagationStyle} (h : .traceContext ∈ styles) :
    ∃ after, styles = beforeLastW3c styles ++ .traceContext :: after ∧ .traceContext ∉ after := by
  induction styles with
  | nil => cases h
  | cons style styles ih =>
      by_cases hmem : .traceContext ∈ styles
      · rcases ih hmem with ⟨after, hstyles, hafter⟩
        refine ⟨after, ?_, hafter⟩
        rw [beforeLastW3c, if_pos hmem, List.cons_append, ← hstyles]
      · -- the first style is the last one of its kind
        have hfirst : style = .traceContext := by
          rcases List.mem_cons.1 h with hfirst | hmem'
          · exact hfirst.symm
          · exact absurd hmem' hmem
        refine ⟨styles, ?_, hmem⟩
        rw [beforeLastW3c, if_neg hmem, hfirst, List.nil_append]

variable (ord : IterOrder Str Str) (self : DatadogCompositePropagator)

/-- The context that styles leave. -/
def contextAfter (styles : List TracePropagationStyle) (context : InjectSpanContext) :
    InjectSpanContext :=
  styles.foldl (fun context style => (Style.inject ord style context ∅ self.config).1) context

/-- One style after the other. -/
def injectAll (styles : List TracePropagationStyle) (context : InjectSpanContext)
    (carrier : Carrier) : InjectSpanContext × Carrier :=
  styles.foldl (fun injected style => Style.inject ord style injected.1 injected.2 self.config)
    (context, carrier)

/-- The carrier does not count for the context. -/
theorem injectAll_fst (styles : List TracePropagationStyle) (context : InjectSpanContext)
    (carrier : Carrier) :
    (self.injectAll ord styles context carrier).1 = self.contextAfter ord styles context := by
  induction styles generalizing context carrier with
  | nil => rfl
  | cons style styles ih =>
      have hstep : (Style.inject ord style context carrier self.config).1 =
          (Style.inject ord style context ∅ self.config).1 := by
        cases style with
        | datadog => exact (Datadog.inject_fst ..).trans (Datadog.inject_fst ..).symm
        | traceContext => rfl
        | none => rfl
      calc
        (self.injectAll ord (style :: styles) context carrier).1
            = self.contextAfter ord styles (Style.inject ord style context carrier self.config).1 :=
              ih _ _
        _ = self.contextAfter ord (style :: styles) context := by
              rw [hstep]
              rfl

/-- The other styles leave the W3C headers alone. -/
theorem get_injectAll {styles : List TracePropagationStyle} (h : .traceContext ∉ styles)
    {key : Str} (hkey : key ∈ [TRACEPARENT_KEY, TRACESTATE_KEY]) (context : InjectSpanContext)
    (carrier : Carrier) :
    (self.injectAll ord styles context carrier).2.get key = carrier.get key := by
  induction styles generalizing context carrier with
  | nil => rfl
  | cons style styles ih =>
      have hrest := ih fun hmem => h (List.mem_cons_of_mem _ hmem)
      refine (hrest _ _).trans ?_
      cases style with
      | datadog => exact Datadog.get_inject_of_w3c ord context carrier self.config hkey
      | traceContext => exact absurd (List.mem_cons_self ..) h
      | none => rfl

/-- What styles leave as it was, and what the Datadog style changes. -/
structure Leaves (styles : List TracePropagationStyle) (context left : InjectSpanContext) :
    Prop where
  traceId : left.traceId = context.traceId
  spanId : left.spanId = context.spanId
  parentId : parentIdMember left = parentIdMember context
  tags : ∀ key, key ∉ Datadog.LEFT_KEYS → left.tags.lookup key = context.tags.lookup key
  same : .datadog ∉ styles → left = context
  tid : .datadog ∈ styles →
    left.tags.lookup Datadog.DATADOG_HIGHER_ORDER_TRACE_ID_BITS_KEY = tidText context.traceId

theorem leaves_contextAfter (styles : List TracePropagationStyle) (context : InjectSpanContext) :
    Leaves styles context (self.contextAfter ord styles context) := by
  induction styles using List.reverseRecOn with
  | nil => exact ⟨rfl, rfl, rfl, fun _ _ => rfl, fun _ => rfl, fun h => by cases h⟩
  | append_singleton styles style ih =>
      generalize hleft : self.contextAfter ord styles context = left at ih
      have hstep : self.contextAfter ord (styles ++ [style]) context =
          (Style.inject ord style left ∅ self.config).1 := by
        rw [← hleft, contextAfter, List.foldl_append]
        rfl
      rw [hstep]
      cases style with
      | datadog =>
          have hinject : (Style.inject ord .datadog left ∅ self.config).1 =
              { left with tags := Datadog.leftTags ord left self.config } :=
            Datadog.inject_fst ord left ∅ self.config
          have htags := fun key (hkey : key ∉ Datadog.LEFT_KEYS) =>
            Datadog.lookup_leftTags_of_not_mem ord left self.config hkey
          have hparentId := parentIdMember_of_tags (htags DATADOG_LAST_PARENT_ID_KEY (by decide))
          rw [hinject]
          refine ⟨ih.traceId, ih.spanId, hparentId.trans ih.parentId,
            fun key hkey => (htags key hkey).trans (ih.tags key hkey), ?_, ?_⟩
          · intro hnot
            simp at hnot
          · intro _
            rw [← ih.traceId]
            exact Datadog.lookup_tid_leftTags ord left self.config
      | traceContext =>
          refine ⟨ih.traceId, ih.spanId, ih.parentId, ih.tags, ?_, ?_⟩
          · intro hnot
            exact ih.same (by simpa using hnot)
          · intro hmem
            exact ih.tid (by simpa using hmem)
      | none =>
          refine ⟨ih.traceId, ih.spanId, ih.parentId, ih.tags, ?_, ?_⟩
          · intro hnot
            exact ih.same (by simpa using hnot)
          · intro hmem
            exact ih.tid (by simpa using hmem)

/-! ## All styles -/

section Law

variable {self} {context : InjectSpanContext}

/-- The W3C headers that stay are those of the last W3C style, from the context that it meets. -/
theorem get_inject_of_mem (h : .traceContext ∈ self.injectors) (context : InjectSpanContext)
    (carrier : Carrier) {key : Str} (hkey : key ∈ [TRACEPARENT_KEY, TRACESTATE_KEY]) :
    (self.inject ord context carrier).2.get key =
      (TraceContext.inject ord (self.contextAfter ord (beforeLastW3c self.injectors) context)
        (self.injectAll ord (beforeLastW3c self.injectors) context carrier).2).get key := by
  rcases exists_after_of_mem h with ⟨after, hstyles, hafter⟩
  generalize beforeLastW3c self.injectors = before at hstyles ⊢
  have hmet := injectAll_fst ord self before context carrier
  generalize self.contextAfter ord before context = met at hmet ⊢
  have hinject : self.inject ord context carrier =
      self.injectAll ord after met
        (TraceContext.inject ord met (self.injectAll ord before context carrier).2) := by
    calc
      self.inject ord context carrier
          = self.injectAll ord (before ++ .traceContext :: after) context carrier := by
            rw [← hstyles]
            rfl
      _ = self.injectAll ord after met
            (TraceContext.inject ord met (self.injectAll ord before context carrier).2) := by
            rw [injectAll, List.foldl_append, List.foldl_cons, ← hmet]
            rfl
  -- what comes after the last W3C style does not touch its headers
  rw [hinject]
  exact get_injectAll ord self hafter hkey met _

/-- So the two agree if the header that is built from that context agrees with the trace id. -/
theorem tidAgrees_inject (h : .traceContext ∈ self.injectors) (ht : context.traceId ≠ 0)
    (hs : context.spanId ≠ 0) (carrier : Carrier) :
    TidAgrees (self.inject ord context carrier).2 ↔
      NamesTid context.traceId (ddItems (tracestateHeader ord
        (self.contextAfter ord (beforeLastW3c self.injectors) context))) := by
  have hleaves := leaves_contextAfter ord self (beforeLastW3c self.injectors) context
  have hget := fun key => @get_inject_of_mem ord self h context carrier key
  generalize self.contextAfter ord (beforeLastW3c self.injectors) context = met at hleaves hget ⊢
  have hmt : met.traceId ≠ 0 := hleaves.traceId ▸ ht
  have hms : met.spanId ≠ 0 := hleaves.spanId ▸ hs
  have htraceparent := (hget _ (by simp)).trans (get_inject_traceparent ord hmt hms _)
  have htracestate := (hget _ (by simp)).trans (get_inject_tracestate ord hmt hms _)
  have hparse := extractTraceparent_text hmt hms (keeps met)
  rw [hleaves.traceId] at htraceparent hparse
  constructor
  · rintro ⟨header, traceparent, tracestate, hheader, hextract, htext, hnames⟩
    rw [htraceparent, Option.some.injEq] at hheader
    rw [htracestate, Option.some.injEq] at htext
    rw [← hheader, hparse, Except.ok.injEq] at hextract
    rw [← hextract, ← htext] at hnames
    exact hnames
  · intro hnames
    exact ⟨_, _, _, htraceparent, hparse, htracestate, hnames⟩

/-- No text that goes into the `dd` value contradicts the trace id: not the last parent id, not the
tag of the higher half, unless the Datadog style has set it, and not the other tags, whose keys may
have separators in them. -/
structure TidsMatch (ord : IterOrder Str Str) (propagator : DatadogCompositePropagator)
    (context : InjectSpanContext) : Prop where
  parentId : NamesTid context.traceId (ddItems (parentIdMember context))
  tidTag : .datadog ∉ beforeLastW3c propagator.injectors → EndsInDd (parentIdMember context) →
    ∀ text, (TID_KEY_SUFFIX, text) ∈ writtenTags ord context → tidText context.traceId = some text
  otherTags : EndsInDd (parentIdMember context) →
    ∀ tag ∈ writtenTags ord
        (propagator.contextAfter ord (beforeLastW3c propagator.injectors) context),
      tag.1 ≠ TID_KEY_SUFFIX → NamesTid context.traceId (itemsOf (tagBody tag))

/-- The header that stays is built from texts that match the trace id. -/
theorem namesTid_contextAfter (context : InjectSpanContext) :
    NamesTid context.traceId (ddItems (tracestateHeader ord
        (self.contextAfter ord (beforeLastW3c self.injectors) context))) ↔
      TidsMatch ord self context := by
  have hleaves := leaves_contextAfter ord self (beforeLastW3c self.injectors) context
  rw [namesTid_tracestateHeader, hleaves.parentId]
  constructor
  · rintro ⟨hparentId, htags⟩
    refine ⟨hparentId, ?_, fun hends tag htag _ => htags hends tag htag⟩
    intro hnot hends text hmem
    rw [← hleaves.same hnot] at hmem
    exact namesTid_tidTag.1 (htags hends _ hmem)
  · intro hmatch
    refine ⟨hmatch.parentId, ?_⟩
    rintro hends ⟨key, value⟩ htag
    by_cases hkey : key = TID_KEY_SUFFIX
    · subst hkey
      rw [namesTid_tidTag]
      by_cases hdatadog : .datadog ∈ beforeLastW3c self.injectors
      · -- the Datadog style has set the tag
        have hlookup := lookup_of_mem_writtenTags htag
        exact (hleaves.tid hdatadog).symm.trans hlookup
      · rw [hleaves.same hdatadog] at htag
        exact hmatch.tidTag hdatadog hends value htag
    · exact hmatch.otherTags hends _ htag hkey

/-- The headers of any context, injected with any styles, agree about the trace id exactly if no text
that is written contradicts it. -/
theorem tidAgrees_iff (h : .traceContext ∈ self.injectors) (ht : context.traceId ≠ 0)
    (hs : context.spanId ≠ 0) (carrier : Carrier) :
    TidAgrees (self.inject ord context carrier).2 ↔ TidsMatch ord self context :=
  (tidAgrees_inject ord h ht hs carrier).trans (namesTid_contextAfter ord context)

/-- The tags that styles leave have plain keys if those of the context have. -/
theorem isPlain_of_leaves {styles : List TracePropagationStyle} {left : InjectSpanContext}
    (hleaves : Leaves styles context left)
    (hkeys : ∀ tag : Str × Str,
      context.tags.lookup (DATADOG_PROPAGATION_TAG_PREFIX ++ tag.1) = some tag.2 → IsPlain tag)
    {tag : Str × Str} (htag : tag ∈ writtenTags ord left) : IsPlain tag := by
  have hlookup := lookup_of_mem_writtenTags htag
  by_cases hmem : DATADOG_PROPAGATION_TAG_PREFIX ++ tag.1 ∈ Datadog.LEFT_KEYS
  · have hname : tag.1 ∈ ["dm".toList, TID_KEY_SUFFIX] := by
      have hsuffix := List.mem_filterMap.2
        ⟨_, hmem, Text.stripPrefix_eq_some (p := DATADOG_PROPAGATION_TAG_PREFIX).2 rfl⟩
      exact hsuffix
    have hplain : ∀ name ∈ ["dm".toList, TID_KEY_SUFFIX], ';' ∉ name ∧ ':' ∉ name := by decide
    exact hplain _ hname
  · rw [hleaves.tags _ hmem] at hlookup
    exact hkeys tag hlookup

/-- With plain texts it is the tag of the higher half alone that counts, and only if no Datadog style
comes before. -/
theorem tidsMatch_iff_of_plain
    (hid : ',' ∉ lastParentId context ∧ ';' ∉ lastParentId context)
    (hkeys : ∀ tag : Str × Str,
      context.tags.lookup (DATADOG_PROPAGATION_TAG_PREFIX ++ tag.1) = some tag.2 → IsPlain tag) :
    TidsMatch ord self context ↔
      (.datadog ∉ beforeLastW3c self.injectors →
        ∀ text, (TID_KEY_SUFFIX, text) ∈ writtenTags ord context →
          tidText context.traceId = some text) := by
  rcases parentIdMember_of_plain hid context.traceId with ⟨hparentId, hends⟩
  constructor
  · intro hmatch hnot
    exact hmatch.tidTag hnot hends
  · intro htid
    refine ⟨hparentId, fun hnot _ => htid hnot, ?_⟩
    intro _ tag htag hkey
    have hleaves := leaves_contextAfter ord self (beforeLastW3c self.injectors) context
    exact namesTid_of_isPlain context.traceId (isPlain_of_leaves ord hleaves hkeys htag) hkey

end Law

section Example

/-- A trace id without a higher half, beside a tag that was extracted for another one. -/
def staleContext : InjectSpanContext :=
  { traceId := 1
    spanId := 2
    sampling :=
      { priority := some Priority.autoKeep
        mechanism := none }
    origin := none
    tags := .ofPairs [(Datadog.DATADOG_HIGHER_ORDER_TRACE_ID_BITS_KEY, "1234567890abcdef".toList)]
    isRemote := true
    tracestate := none }

def withInjectors (injectors : List TracePropagationStyle) : DatadogCompositePropagator :=
  new { defaultConfig with tracePropagationStyleInject := some injectors }

/-- The Datadog style removes the tag before the W3C style meets it. -/
theorem tidAgrees_datadogFirst :
    TidAgrees ((withInjectors [.datadog, .traceContext]).inject (.asStored Str Str)
      staleContext ∅).2 := by
  have hid : ',' ∉ lastParentId staleContext ∧ ';' ∉ lastParentId staleContext := by decide
  have hpairs : ∀ pair ∈ staleContext.tags.toList, ';' ∉ pair.1 ∧ ':' ∉ pair.1 := by decide
  have hfirst : .datadog ∈ beforeLastW3c (withInjectors [.datadog, .traceContext]).injectors := by
    decide
  refine (tidAgrees_iff (.asStored Str Str) (by decide) (by decide) (by decide) ∅).2 ?_
  refine (tidsMatch_iff_of_plain (.asStored Str Str) hid ?_).2 fun hnot => absurd hfirst hnot
  intro tag hlookup
  rcases hpairs _ (HashMap.mem_toList.2 hlookup) with ⟨hsemi, hcolon⟩
  exact ⟨fun hc => hsemi (List.mem_append_right _ hc), fun hc => hcolon (List.mem_append_right _ hc)⟩

/-- Alone, the W3C style writes the tag as it finds it. -/
theorem not_tidAgrees_stale :
    .traceContext ∈ (withInjectors [.traceContext]).injectors ∧
      staleContext.traceId ≠ 0 ∧ staleContext.spanId ≠ 0 ∧
      ¬ TidAgrees ((withInjectors [.traceContext]).inject (.asStored Str Str) staleContext ∅).2 := by
  have hstyle : .traceContext ∈ (withInjectors [.traceContext]).injectors := by decide
  have hids : staleContext.traceId ≠ 0 ∧ staleContext.spanId ≠ 0 := by decide
  refine ⟨hstyle, hids.1, hids.2, ?_⟩
  rw [tidAgrees_inject (.asStored Str Str) hstyle hids.1 hids.2]
  intro hnames
  have hitem : (TRACESTATE_TID_KEY, "1234567890abcdef".toList) ∈
      ddItems (tracestateHeader (.asStored Str Str) staleContext) := by decide
  exact absurd (hnames _ hitem) (by decide)

end Example

end DatadogCompositePropagator

end Propagation
end DdTrace
