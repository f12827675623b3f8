import DdTrace.Propagation.RoundTrip
import DdTrace.Propagation.TracestateHeader

/-!
# TagSeparation — what the propagation tags do to the other items

The tags stand in our tracestate value behind the priority, the origin and the last parent id, joined
by `;`, each key and value by `:`.  The filter for keys lets both characters through, so that the text
of one tag can be read as several items.  What is read back is given by the items that the texts of
the tags spell (`readItems_ddParts`, `tags_apart_iff`).  `tags_apart` says of which keys and values the
tags leave the rest alone.
-/

namespace DdTrace
namespace Propagation
namespace TraceContext

open DdTrace.Lib DdTrace.Core

/-! ## Items -/

/-- The items that a text is read as. -/
def itemsOf (text : Str) : List (Str × Str) := (text.splitOn ';').filterMap Tracestate.readItem

/-- A tag as an item. -/
def tagBody (tag : Str × Str) : Str :=
  "t.".toList ++ sanitizedTagKey tag.1 ++ ":".toList ++ encodeTagValue (sanitizedTagValue tag.2)

/-- The items that the texts of tags are read as; the last text is trimmed at its end. -/
def tagItems (tags : List (Str × Str)) : List (Str × Str) :=
  ((tags.map tagBody).modifyLast Text.trimEnd).flatMap itemsOf

theorem tagsText_eq (tags : List (Str × Str)) :
    tagsText tags = (tags.map tagBody).flatMap fun body => ';' :: body := by
  simp [tagsText, tagEntry, tagBody, List.flatMap_map]

theorem isPrintable_of_isValueChar {c : Char} (h : isValueChar c = true) :
    Tracestate.isPrintable c = true := by
  simp only [isValueChar, Bool.and_eq_true] at h
  exact h.1.1

theorem itemsOf_append_flatMap (s : Str) (bodies : List Str) :
    itemsOf (s ++ bodies.flatMap fun body => ';' :: body) = itemsOf s ++ bodies.flatMap itemsOf := by
  rw [itemsOf, Text.splitOn_append_flatMap, List.filterMap_append, List.filterMap_flatMap]
  rfl

/-- Printable ASCII without the separators of items. -/
def isNameChar (c : Char) : Bool := Tracestate.isPrintable c && c != ';' && c != ':'

/-- A name and a value are read as one item. -/
theorem itemsOf_append (name value : Str) (hname : name.all isNameChar = true)
    (hvalue : ∀ c ∈ value, Tracestate.isPrintable c = true ∧ c ≠ ';') :
    itemsOf (name ++ ':' :: value) = [(name, decodeTagValue value)] := by
  have hchars : ∀ c ∈ name, Tracestate.isPrintable c = true ∧ c ≠ ';' ∧ c ≠ ':' := by
    intro c hc
    have hchar := List.all_eq_true.1 hname c hc
    simpa [isNameChar, and_assoc] using hchar
  -- the first `:` is the one behind the name; the value may have more of them
  have hcolon : ':' ∉ name := fun hc => (hchars _ hc).2.2 rfl
  have hsemi : ';' ∉ name ++ ':' :: value := by
    intro hc
    rcases List.mem_append.1 hc with hc | hc
    · exact (hchars _ hc).2.1 rfl
    · rcases List.mem_cons.1 hc with heq | hc
      · exact absurd heq (by decide)
      · exact (hvalue _ hc).2 rfl
  have hall : (name ++ ':' :: value).all Tracestate.isPrintable = true := by
    have hseparator : Tracestate.isPrintable ':' = true := by decide
    simp only [List.all_append, List.all_cons, hseparator, Bool.true_and, Bool.and_eq_true,
      List.all_eq_true]
    exact ⟨fun c hc => (hchars c hc).1, fun c hc => (hvalue c hc).1⟩
  have hread : Tracestate.readItem (name ++ ':' :: value) = some (name, decodeTagValue value) := by
    rw [Tracestate.readItem, if_pos hall, Text.splitOnce_append hcolon]
    rfl
  rw [itemsOf, List.splitOn_eq_singleton hsemi, List.filterMap_cons, hread]
  rfl

/-- So are a name and a part of an encoded value. -/
theorem itemsOf_encoded (name value text : Str) (hname : name.all isNameChar = true)
    (hvalue : ∀ c ∈ value, c ∈ encodeTagValue (sanitizedTagValue text)) :
    itemsOf (name ++ ':' :: value) = [(name, decodeTagValue value)] := by
  refine itemsOf_append name value hname ?_
  intro c hc
  rcases encodedTagValue_chars (hvalue c hc) with ⟨hchar, hsemi⟩
  exact ⟨isPrintable_of_isValueChar hchar, hsemi⟩

/-! ## Encoding -/

/-- Without `~` there is nothing to decode. -/
theorem decodeTagValue_eq_self {s : Str} (h : '~' ∉ s) : decodeTagValue s = s := by
  unfold decodeTagValue
  rw [List.map_congr_left (g := id)]
  · simp
  · intro c hc
    have hne : c ≠ '~' := fun heq => h (heq ▸ hc)
    simp [hne]

/-- The sanitized value is what the encoded one decodes to. -/
theorem decodeTagValue_encodeTagValue (value : Str) :
    decodeTagValue (encodeTagValue (sanitizedTagValue value)) = sanitizedTagValue value := by
  unfold decodeTagValue encodeTagValue
  rw [List.map_map, List.map_congr_left (g := id)]
  · simp
  · -- `=` goes to `~` and back, and a sanitized value has no `~` of its own
    intro c hc
    have hne : c ≠ '~' := (sanitizedTagValue_chars hc).2.2.2
    by_cases heq : c = '='
    · simp [heq]
    · simp [heq, hne]

theorem trimEnd_encodeTagValue (s : Str) :
    Text.trimEnd (encodeTagValue s) = encodeTagValue (Text.trimEnd s) := by
  refine Text.trimEnd_map ?_ s
  intro c
  by_cases heq : c = '='
  · simp only [heq, if_true]
    decide
  · simp [heq]

theorem trimEnd_decodeTagValue (s : Str) :
    decodeTagValue (Text.trimEnd s) = Text.trimEnd (decodeTagValue s) := by
  refine (Text.trimEnd_map ?_ s).symm
  intro c
  by_cases heq : c = '~'
  · simp only [heq, if_true]
    decide
  · simp [heq]

/-! ## The items before the tags -/

def priorityText (context : InjectSpanContext) : Str :=
  (context.sampling.priority.getD Priority.userKeep).display

/-- The origin, if there is room for it. -/
def fittingOrigin (context : InjectSpanContext) : Option Str :=
  context.origin.filter fun origin => 2 + (priorityText context).length + 3 + origin.length < 256

/-- There is room for the id of the last parent. -/
def ParentIdWritten (context : InjectSpanContext) : Prop := headLength context + 3 + 16 < 256

instance (context : InjectSpanContext) : Decidable (ParentIdWritten context) :=
  inferInstanceAs (Decidable (headLength context + 3 + 16 < 256))

def originBody (origin : Str) : Str := "o:".toList ++ encodeTagValue (sanitizedTagValue origin)

def parentIdBody (context : InjectSpanContext) : Str :=
  "p:".toList ++ Numeral.hexPadded 16 context.spanId.toNat

/-- The items between the priority and the tags. -/
def headBodies (context : InjectSpanContext) : List Str :=
  (fittingOrigin context).toList.map originBody ++
    if ParentIdWritten context then [parentIdBody context] else []

theorem appendOrigin_eq (context : InjectSpanContext) :
    appendOrigin context (samplingPart context) =
      samplingPart context ++
        ((fittingOrigin context).toList.map originBody).flatMap fun body => ';' :: body := by
  unfold appendOrigin fittingOrigin
  cases context.origin with
  | none => simp
  | some origin =>
      -- each character of the origin becomes one of ASCII, so the check counts characters
      have hlen : Text.utf8Len (encodeTagValue (sanitizedTagValue origin)) = origin.length := by
        rw [utf8Len_of_isValueText (isValueText_encodedTagValue origin), length_encodedTagValue]
      simp only [sanitizedOrigin_eq, hlen, utf8Len_samplingPart, TRACESTATE_DD_KEY_MAX_LENGTH,
        priorityText]
      split
      · rename_i hfit
        simp [Option.filter, hfit, originBody]
      · rename_i hfit
        simp [Option.filter, hfit]

/-- The part before the tags, item by item. -/
theorem ddPartsBeforeTags_eq {context : InjectSpanContext} (hremote : context.isRemote = false) :
    ddPartsBeforeTags context =
      samplingPart context ++ (headBodies context).flatMap fun body => ';' :: body := by
  have hid : lastParentId context = Numeral.hexPadded 16 context.spanId.toNat := by
    simp [lastParentId, hremote]
  rw [ddPartsBeforeTags_eq_ite, headBodies, hid, appendOrigin_eq, List.flatMap_append]
  by_cases hroom : headLength context + 3 + 16 < 256
  · simp [ParentIdWritten, hroom, parentIdBody]
  · simp [ParentIdWritten, hroom]

/-- The value, item by item. -/
theorem ddParts_eq_bodies (ord : IterOrder Str Str) {context : InjectSpanContext}
    (hremote : context.isRemote = false) :
    ddParts ord context =
      samplingPart context ++
        (headBodies context ++ (writtenTags ord context).map tagBody).flatMap
          fun body => ';' :: body := by
  rw [ddParts_eq, ddPartsBeforeTags_eq hremote, tagsText_eq, List.flatMap_append, List.append_assoc]

/-! ## Reading the value -/

/-- The origin as it is read: nothing but blanks at the end of the value can be missing. -/
def writtenOrigin (context : InjectSpanContext) (tags : List (Str × Str)) : Option Str :=
  (fittingOrigin context).map fun origin =>
    if tags = [] ∧ ¬ ParentIdWritten context then Text.trimEnd (sanitizedTagValue origin)
    else sanitizedTagValue origin

def writtenParentId (context : InjectSpanContext) : Option Str :=
  if ParentIdWritten context then some (Numeral.hexPadded 16 context.spanId.toNat) else none

/-- The items before the tags. -/
def headItems (context : InjectSpanContext) (tags : List (Str × Str)) : List (Str × Str) :=
  (Tracestate.TRACESTATE_SAMPLING_PRIORITY_KEY, priorityText context) ::
    ((writtenOrigin context tags).toList.map fun origin =>
        (Tracestate.TRACESTATE_ORIGIN_KEY, origin)) ++
      (writtenParentId context).toList.map fun id => (Tracestate.TRACESTATE_LAST_PARENT_KEY, id)

/-- Digits and the sign are no separators. -/
theorem plain_of_isHexDigit {c : Char} (h : c = '-' ∨ Numeral.isHexDigit c = true) :
    Tracestate.isPrintable c = true ∧ c ≠ ';' ∧ c ≠ '~' ∧ Text.isWhitespace c = false := by
  rcases h with rfl | hdigit
  · decide
  · exact Numeral.forall_isHexDigit (P := fun c => Tracestate.isPrintable c = true ∧ c ≠ ';' ∧
      c ≠ '~' ∧ Text.isWhitespace c = false) (by decide) hdigit

theorem itemsOf_priority (context : InjectSpanContext) :
    itemsOf (samplingPart context) =
      [(Tracestate.TRACESTATE_SAMPLING_PRIORITY_KEY, priorityText context)] := by
  have hplain := fun c (hc : c ∈ priorityText context) =>
    plain_of_isHexDigit (Numeral.of_mem_intDecimal hc)
  have htilde : '~' ∉ priorityText context := fun hc => (hplain _ hc).2.2.1 rfl
  have hread := itemsOf_append Tracestate.TRACESTATE_SAMPLING_PRIORITY_KEY (priorityText context)
    (by decide) fun c hc => ⟨(hplain c hc).1, (hplain c hc).2.1⟩
  rw [decodeTagValue_eq_self htilde] at hread
  exact hread

theorem itemsOf_parentId (context : InjectSpanContext) :
    itemsOf (parentIdBody context) =
      [(Tracestate.TRACESTATE_LAST_PARENT_KEY, Numeral.hexPadded 16 context.spanId.toNat)] := by
  have hplain := fun c (hc : c ∈ Numeral.hexPadded 16 context.spanId.toNat) =>
    plain_of_isHexDigit (.inr (Numeral.isHexDigit_of_mem_hexPadded hc))
  have htilde : '~' ∉ Numeral.hexPadded 16 context.spanId.toNat := fun hc =>
    (hplain _ hc).2.2.1 rfl
  have hread := itemsOf_append Tracestate.TRACESTATE_LAST_PARENT_KEY
    (Numeral.hexPadded 16 context.spanId.toNat) (by decide)
    fun c hc => ⟨(hplain c hc).1, (hplain c hc).2.1⟩
  rw [decodeTagValue_eq_self htilde] at hread
  exact hread

theorem itemsOf_originBody (origin : Str) :
    itemsOf (originBody origin) =
      [(Tracestate.TRACESTATE_ORIGIN_KEY, sanitizedTagValue origin)] := by
  have hread := itemsOf_encoded Tracestate.TRACESTATE_ORIGIN_KEY
    (encodeTagValue (sanitizedTagValue origin)) origin (by decide) fun _ hc => hc
  rw [decodeTagValue_encodeTagValue] at hread
  exact hread

theorem itemsOf_trimEnd_originBody (origin : Str) :
    itemsOf (Text.trimEnd (originBody origin)) =
      [(Tracestate.TRACESTATE_ORIGIN_KEY, Text.trimEnd (sanitizedTagValue origin))] := by
  have htrim : Text.trimEnd (originBody origin) =
      "o:".toList ++ Text.trimEnd (encodeTagValue (sanitizedTagValue origin)) :=
    Text.trimEnd_append_cons (c := ':') (by decide) "o".toList _
  have hread := itemsOf_encoded Tracestate.TRACESTATE_ORIGIN_KEY
    (Text.trimEnd (encodeTagValue (sanitizedTagValue origin))) origin (by decide)
    fun _ hc => Text.mem_of_mem_trimEnd hc
  rw [trimEnd_decodeTagValue, decodeTagValue_encodeTagValue] at hread
  rw [htrim]
  exact hread

theorem trimEnd_parentIdBody (context : InjectSpanContext) :
    Text.trimEnd (parentIdBody context) = parentIdBody context := by
  apply Text.trimEnd_eq_self
  intro c hc
  have hmem : c ∈ "p:".toList ++ Numeral.hexPadded 16 context.spanId.toNat :=
    List.mem_of_getLast? hc
  rcases List.mem_append.1 hmem with hname | hid
  · have hall : ("p:".toList.all fun c => !Text.isWhitespace c) = true := by decide
    simpa using List.all_eq_true.1 hall c hname
  · exact (plain_of_isHexDigit (.inr (Numeral.isHexDigit_of_mem_hexPadded hid))).2.2.2

/-- The items before the tags, if tags follow. -/
theorem headBodies_items (context : InjectSpanContext) {tags : List (Str × Str)} (h : tags ≠ []) :
    itemsOf (samplingPart context) ++ (headBodies context).flatMap itemsOf =
      headItems context tags := by
  have horigin : (fittingOrigin context).toList.flatMap (fun o => itemsOf (originBody o)) =
      (writtenOrigin context tags).toList.map
        fun origin => (Tracestate.TRACESTATE_ORIGIN_KEY, origin) := by
    cases hfit : fittingOrigin context with
    | none => simp [writtenOrigin, hfit]
    | some origin => simp [writtenOrigin, hfit, h, itemsOf_originBody]
  unfold headItems headBodies writtenParentId
  rw [itemsOf_priority, List.flatMap_append, List.flatMap_map, horigin]
  split
  · simp [itemsOf_parentId]
  · simp

/-- The items before the tags, if none follow: the last of them is trimmed. -/
theorem headBodies_trimmed_items (context : InjectSpanContext) :
    itemsOf (samplingPart context) ++
        ((headBodies context).modifyLast Text.trimEnd).flatMap itemsOf =
      headItems context [] := by
  unfold headItems headBodies writtenParentId writtenOrigin
  rw [itemsOf_priority]
  by_cases hroom : ParentIdWritten context
  · -- the parent id comes last, and has no blanks
    have hlast : ((fittingOrigin context).toList.map originBody ++
        [parentIdBody context]).modifyLast Text.trimEnd =
          (fittingOrigin context).toList.map originBody ++ [parentIdBody context] := by
      rw [List.modifyLast_concat, trimEnd_parentIdBody]
    simp only [hroom, if_true, hlast]
    cases fittingOrigin context with
    | none => simp [itemsOf_parentId]
    | some origin => simp [itemsOf_parentId, itemsOf_originBody]
  · -- the origin comes last, and loses the blanks at its end
    simp only [hroom, if_false, List.append_nil]
    cases fittingOrigin context with
    | none => rfl
    | some origin =>
        have hsingle : [originBody origin].modifyLast Text.trimEnd =
            [Text.trimEnd (originBody origin)] :=
          List.modifyLast_concat Text.trimEnd (originBody origin) []
        simp [hsingle, itemsOf_trimEnd_originBody]

/-- The value is trimmed in its last item. -/
theorem trim_bodies (context : InjectSpanContext) (bodies : List Str) :
    Text.trim (samplingPart context ++ bodies.flatMap fun body => ';' :: body) =
      samplingPart context ++ (bodies.modifyLast Text.trimEnd).flatMap fun body => ';' :: body := by
  have hstart : Text.trim (samplingPart context ++ bodies.flatMap fun body => ';' :: body) =
      Text.trimEnd (samplingPart context ++ bodies.flatMap fun body => ';' :: body) :=
    Text.trim_cons (c := 's') (by decide) _
  rw [hstart]
  by_cases hne : bodies = []
  · -- the priority ends in a digit
    have hpriority : Text.trimEnd (samplingPart context) = samplingPart context := by
      apply Text.trimEnd_eq_self
      intro c hc
      have hmem : c ∈ "s:".toList ++ priorityText context := List.mem_of_getLast? hc
      rcases List.mem_append.1 hmem with hname | hdigit
      · have hall : ("s:".toList.all fun c => !Text.isWhitespace c) = true := by decide
        simpa using List.all_eq_true.1 hall c hname
      · exact (plain_of_isHexDigit (Numeral.of_mem_intDecimal hdigit)).2.2.2
    have hnil : ([] : List Str).modifyLast Text.trimEnd = [] := rfl
    simp [hne, hpriority, hnil]
  · exact Text.trimEnd_append_flatMap (by decide) _ hne

/-- The value is read as the items before the tags and those that the texts of the tags spell. -/
theorem readItems_ddParts (ord : IterOrder Str Str) {context : InjectSpanContext}
    (hremote : context.isRemote = false) :
    Tracestate.readItems (ddParts ord context) =
      .ofPairs (headItems context (writtenTags ord context) ++
        tagItems (writtenTags ord context)) := by
  have hsplit := fun bodies => itemsOf_append_flatMap (samplingPart context) bodies
  rw [Tracestate.readItems, ddParts_eq_bodies ord hremote, trim_bodies, ← itemsOf, hsplit]
  congr 1
  by_cases hne : writtenTags ord context = []
  · have hnil : tagItems [] = [] := rfl
    rw [hne, List.map_nil, List.append_nil, headBodies_trimmed_items, hnil, List.append_nil]
  · -- the last item is that of a tag, and those before the tags are read as they are
    have hbodies : (writtenTags ord context).map tagBody ≠ [] := by simpa using hne
    rw [List.modifyLast_append_of_right_ne_nil _ _ _ hbodies, List.flatMap_append,
      ← List.append_assoc, headBodies_items context hne]
    rfl

/-! ## Reading the headers back -/

/-- What the extractor makes of the headers that the injector writes. -/
def readBack (ord ord' : IterOrder Str Str) (context : InjectSpanContext) : Option SpanContext :=
  extract ord' (inject ord context ∅)

/-- The priority that a text of the item `s` and the sampled flag settle on. -/
def settledPriority (context : InjectSpanContext) (text : Str) : SamplingPriority :=
  ((SamplingPriority.fromStr text).filter fun p => p.isKeep = keeps context).getD
    (flagPriority (keeps context))

theorem lookup_insertAll {tags : Tags} {pairs : List (Str × Str)} {key : Str}
    (h : ∀ pair ∈ pairs, pair.1 ≠ key) : (insertAll tags pairs).lookup key = tags.lookup key := by
  induction pairs generalizing tags with
  | nil => rfl
  | cons pair pairs ih =>
      have hpair : key ≠ pair.1 := (h pair (List.mem_cons_self ..)).symm
      have hstep : insertAll tags (pair :: pairs) =
          insertAll (AList.insert pair.1 pair.2 tags) pairs := rfl
      rw [hstep, ih fun q hq => h q (List.mem_cons_of_mem _ hq), HashMap.lookup_insert_eq,
        if_neg hpair]

theorem lookup_defineSamplingPriority {key : Str} (h : key ≠ SAMPLING_DECISION_MAKER_TAG_KEY)
    (flag : SamplingPriority) (ts : Option SamplingPriority) (tags : Tags) :
    (defineSamplingPriority flag ts tags).2.lookup key = tags.lookup key := by
  simp only [defineSamplingPriority]
  split
  · rfl
  · split_ifs
    · simp only [HashMap.lookup_insert_eq, if_neg h]
    · simp only [HashMap.lookup_erase_eq, if_neg h]
    · rfl

/-- The propagation tags of a tracestate have keys with their prefix. -/
theorem mem_propagationTags {ord : IterOrder Str Str} {tracestate : Tracestate} {tags : Tags}
    (h : tracestate.propagationTags = some tags) {key value : Str} :
    (key, value) ∈ propagationTags ord tracestate ↔
      ∃ name, key = DATADOG_PROPAGATION_TAG_PREFIX ++ name ∧
        tags.lookup (TRACESTATE_DATADOG_PROPAGATION_TAG_PREFIX ++ name) = some value := by
  simp only [propagationTags, h, List.mem_filterMap, Option.map_eq_some_iff, Prod.mk.injEq,
    Text.stripPrefix_eq_some]
  constructor
  · rintro ⟨⟨k, v⟩, hmem, name, rfl, rfl, rfl⟩
    exact ⟨name, rfl, ord.mem_iter.1 hmem⟩
  · rintro ⟨name, rfl, hlookup⟩
    exact ⟨_, ord.mem_iter.2 hlookup, name, rfl, rfl, rfl⟩

/-- The headers read back as what their items say. -/
theorem readBack_eq (ord ord' : IterOrder Str Str) {context : InjectSpanContext}
    (hremote : context.isRemote = false) (ht : context.traceId ≠ 0) (hs : context.spanId ≠ 0) :
    ∃ extracted tracestate,
      readBack ord ord' context = some extracted ∧
      extracted.tracestate = some tracestate ∧
      extracted.sampling.priority =
        some (((((Tracestate.readItems (ddParts ord context)).lookup
          Tracestate.TRACESTATE_SAMPLING_PRIORITY_KEY).bind SamplingPriority.fromStr).filter
            fun p => p.isKeep = keeps context).getD (flagPriority (keeps context))) ∧
      extracted.origin =
        (Tracestate.readItems (ddParts ord context)).lookup Tracestate.TRACESTATE_ORIGIN_KEY ∧
      extracted.tags.lookup DATADOG_LAST_PARENT_ID_KEY =
        (Tracestate.readItems (ddParts ord context)).lookup
          Tracestate.TRACESTATE_LAST_PARENT_KEY ∧
      tracestate.propagationTags =
        some ((((Tracestate.readItems (ddParts ord context)).erase
          Tracestate.TRACESTATE_SAMPLING_PRIORITY_KEY).erase
            Tracestate.TRACESTATE_ORIGIN_KEY).erase Tracestate.TRACESTATE_LAST_PARENT_KEY) := by
  have hfits : ParentIdFits context := fun h => by simp [hremote] at h
  have hparse := fromStr_tracestateHeader ord hfits
  generalize (otherMembers context).filterMap Tracestate.readMember = others at hparse
  have htp := get_inject_traceparent ord ht hs ∅
  have hts : (inject ord context ∅).get TRACESTATE_KEY = some (tracestateHeader ord context) := by
    rw [get_inject, if_pos ⟨ht, hs⟩]
  have hdm : DATADOG_LAST_PARENT_ID_KEY ≠ SAMPLING_DECISION_MAKER_TAG_KEY := by decide
  generalize Tracestate.readItems (ddParts ord context) = items at hparse ⊢
  -- no tag of the tracestate has the key of the last parent id
  have hkeys : ∀ pair ∈ propagationTags ord' (Tracestate.ofParts (some items) others),
      pair.1 ≠ DATADOG_LAST_PARENT_ID_KEY := by
    rintro ⟨key, value⟩ hpair heq
    rcases (mem_propagationTags rfl).1 hpair with ⟨name, hkey, -⟩
    have hpre : DATADOG_PROPAGATION_TAG_PREFIX.isPrefixOf DATADOG_LAST_PARENT_ID_KEY = true := by
      rw [← heq, hkey]
      simp
    exact absurd hpre (by decide)
  -- neither has one of the two headers, which are the tags at the start
  have hstart : ∀ tags : Tags,
      tags = AList.insert TRACESTATE_KEY (tracestateHeader ord context)
        (AList.insert TRACEPARENT_KEY
          (traceparentText context.traceId context.spanId (keeps context)) ∅) →
      tags.lookup DATADOG_LAST_PARENT_ID_KEY = none := by
    rintro tags rfl
    simp only [HashMap.lookup_insert_eq, AList.lookup_empty]
    rw [if_neg (by decide), if_neg (by decide)]
  simp only [readBack, extract, htp, hts, Option.bind_eq_bind, Option.bind_some, trim_text,
    extractTraceparent_text ht hs, Except.toOption, hparse]
  refine ⟨_, _, rfl, rfl, ?_, rfl, ?_, rfl⟩
  · simp only [defineSamplingPriority_fst]
    rfl
  · simp only [lookup_defineSamplingPriority hdm]
    cases hlast : items.lookup Tracestate.TRACESTATE_LAST_PARENT_KEY with
    | none =>
        simp only [Tracestate.ofParts, hlast, Option.bind_some]
        exact (lookup_insertAll hkeys).trans (hstart _ rfl)
    | some id => simp [Tracestate.ofParts, hlast]

/-! ## What the tags spell -/

/-- What the texts of tags spell; of the items of one name, the last one counts. -/
def spelled (tags : List (Str × Str)) : HashMap Str Str := .ofPairs (tagItems tags)

theorem lookup_readItems (ord : IterOrder Str Str) {context : InjectSpanContext}
    (hremote : context.isRemote = false) (name : Str) :
    (Tracestate.readItems (ddParts ord context)).lookup name =
      ((spelled (writtenTags ord context)).lookup name).or
        ((HashMap.ofPairs (headItems context (writtenTags ord context))).lookup name) := by
  rw [readItems_ddParts ord hremote, HashMap.lookup_ofPairs_append]
  rfl

theorem lookup_headItems (context : InjectSpanContext) (tags : List (Str × Str)) :
    (HashMap.ofPairs (headItems context tags)).lookup
        Tracestate.TRACESTATE_SAMPLING_PRIORITY_KEY = some (priorityText context) ∧
      (HashMap.ofPairs (headItems context tags)).lookup Tracestate.TRACESTATE_ORIGIN_KEY =
        writtenOrigin context tags ∧
      (HashMap.ofPairs (headItems context tags)).lookup Tracestate.TRACESTATE_LAST_PARENT_KEY =
        writtenParentId context ∧
      ∀ name, (HashMap.ofPairs (headItems context tags)).lookup
        (TRACESTATE_DATADOG_PROPAGATION_TAG_PREFIX ++ name) = none := by
  simp only [HashMap.lookup_ofPairs, headItems, Tracestate.TRACESTATE_SAMPLING_PRIORITY_KEY,
    Tracestate.TRACESTATE_ORIGIN_KEY, Tracestate.TRACESTATE_LAST_PARENT_KEY,
    TRACESTATE_DATADOG_PROPAGATION_TAG_PREFIX]
  -- the names are distinct, and none of them starts with `t.`
  cases writtenOrigin context tags <;> cases writtenParentId context <;> simp

/-- The priority, the origin and the last parent id come to the same with either tags. -/
structure SpellTheSame (context : InjectSpanContext) (tags₁ tags₂ : List (Str × Str)) : Prop where
  priority :
    settledPriority context (((spelled tags₁).lookup
        Tracestate.TRACESTATE_SAMPLING_PRIORITY_KEY).getD (priorityText context)) =
      settledPriority context (((spelled tags₂).lookup
        Tracestate.TRACESTATE_SAMPLING_PRIORITY_KEY).getD (priorityText context))
  origin :
    ((spelled tags₁).lookup Tracestate.TRACESTATE_ORIGIN_KEY).or (writtenOrigin context tags₁) =
      ((spelled tags₂).lookup Tracestate.TRACESTATE_ORIGIN_KEY).or (writtenOrigin context tags₂)
  parentId :
    ((spelled tags₁).lookup Tracestate.TRACESTATE_LAST_PARENT_KEY).or (writtenParentId context) =
      ((spelled tags₂).lookup Tracestate.TRACESTATE_LAST_PARENT_KEY).or (writtenParentId context)

/-- Each item `t.` that is spelled is the whole of a tag of the context. -/
def SpellWholeTags (context : InjectSpanContext) (tags : List (Str × Str)) : Prop :=
  ∀ name value,
    (spelled tags).lookup (TRACESTATE_DATADOG_PROPAGATION_TAG_PREFIX ++ name) = some value →
    ∃ keySuffix v, context.tags.lookup (DATADOG_PROPAGATION_TAG_PREFIX ++ keySuffix) = some v ∧
      name = sanitizedTagKey keySuffix ∧ value = sanitizedTagValue v

/-- Each tag that is decoded is the sanitized form of a tag of the context. -/
def DecodesWholeTags (ord : IterOrder Str Str) (context : InjectSpanContext)
    (extracted : SpanContext) : Prop :=
  ∀ tracestate, extracted.tracestate = some tracestate →
    ∀ key value, (key, value) ∈ propagationTags ord tracestate →
      ∃ keySuffix v, context.tags.lookup (DATADOG_PROPAGATION_TAG_PREFIX ++ keySuffix) = some v ∧
        key = DATADOG_PROPAGATION_TAG_PREFIX ++ sanitizedTagKey keySuffix ∧
        value = sanitizedTagValue v

/-- The contexts differ in nothing but propagation tags, the decision maker excepted. -/
structure DifferInTags (context₁ context₂ : InjectSpanContext) : Prop where
  fields : { context₁ with tags := context₂.tags } = context₂
  tags : ∀ key, DATADOG_PROPAGATION_TAG_PREFIX.isPrefixOf key = false ∨
    key = SAMPLING_DECISION_MAKER_TAG_KEY → context₁.tags.lookup key = context₂.tags.lookup key

/-- The tags are apart from the other items: the headers of both contexts read back with the same
priority, origin and last parent id, and no tag is a fragment of another. -/
def TagsApart (ord₁ ord₂ ord' : IterOrder Str Str) (context₁ context₂ : InjectSpanContext) : Prop :=
  ∃ extracted₁ extracted₂,
    readBack ord₁ ord' context₁ = some extracted₁ ∧
    readBack ord₂ ord' context₂ = some extracted₂ ∧
    extracted₁.sampling.priority = extracted₂.sampling.priority ∧
    extracted₁.origin = extracted₂.origin ∧
    extracted₁.tags.lookup DATADOG_LAST_PARENT_ID_KEY =
      extracted₂.tags.lookup DATADOG_LAST_PARENT_ID_KEY ∧
    DecodesWholeTags ord' context₁ extracted₁ ∧
    DecodesWholeTags ord' context₂ extracted₂

/-- What is read back, in terms of what the tags spell. -/
theorem readBack_spelled (ord ord' : IterOrder Str Str) {context : InjectSpanContext}
    (hremote : context.isRemote = false) (ht : context.traceId ≠ 0) (hs : context.spanId ≠ 0) :
    ∃ extracted,
      readBack ord ord' context = some extracted ∧
      extracted.sampling.priority =
        some (settledPriority context (((spelled (writtenTags ord context)).lookup
          Tracestate.TRACESTATE_SAMPLING_PRIORITY_KEY).getD (priorityText context))) ∧
      extracted.origin =
        ((spelled (writtenTags ord context)).lookup Tracestate.TRACESTATE_ORIGIN_KEY).or
          (writtenOrigin context (writtenTags ord context)) ∧
      extracted.tags.lookup DATADOG_LAST_PARENT_ID_KEY =
        ((spelled (writtenTags ord context)).lookup Tracestate.TRACESTATE_LAST_PARENT_KEY).or
          (writtenParentId context) ∧
      (DecodesWholeTags ord' context extracted ↔
        SpellWholeTags context (writtenTags ord context)) := by
  rcases lookup_headItems context (writtenTags ord context) with
    ⟨hpriority, horigin, hparentId, htag⟩
  rcases readBack_eq ord ord' hremote ht hs with
    ⟨extracted, tracestate, hread, hts, hs, ho, hp, htags⟩
  refine ⟨extracted, hread, ?_, ?_, ?_, ?_⟩
  · rw [hs, lookup_readItems ord hremote, hpriority, settledPriority]
    cases (spelled (writtenTags ord context)).lookup
        Tracestate.TRACESTATE_SAMPLING_PRIORITY_KEY with
    | none => rfl
    | some text => rfl
  · rw [ho, lookup_readItems ord hremote, horigin]
  · rw [hp, lookup_readItems ord hremote, hparentId]
  · -- the three items that are taken out are no tags
    have hlookup : ∀ name,
        ((((Tracestate.readItems (ddParts ord context)).erase
          Tracestate.TRACESTATE_SAMPLING_PRIORITY_KEY).erase
            Tracestate.TRACESTATE_ORIGIN_KEY).erase Tracestate.TRACESTATE_LAST_PARENT_KEY).lookup
              (TRACESTATE_DATADOG_PROPAGATION_TAG_PREFIX ++ name) =
          (spelled (writtenTags ord context)).lookup
            (TRACESTATE_DATADOG_PROPAGATION_TAG_PREFIX ++ name) := by
      intro name
      have hne : ∀ key ∈ [Tracestate.TRACESTATE_SAMPLING_PRIORITY_KEY,
          Tracestate.TRACESTATE_ORIGIN_KEY, Tracestate.TRACESTATE_LAST_PARENT_KEY],
          TRACESTATE_DATADOG_PROPAGATION_TAG_PREFIX ++ name ≠ key := by
        simp [Tracestate.TRACESTATE_SAMPLING_PRIORITY_KEY, Tracestate.TRACESTATE_ORIGIN_KEY,
          Tracestate.TRACESTATE_LAST_PARENT_KEY, TRACESTATE_DATADOG_PROPAGATION_TAG_PREFIX]
      rw [HashMap.lookup_erase_eq, if_neg (hne _ (by simp)), HashMap.lookup_erase_eq,
        if_neg (hne _ (by simp)), HashMap.lookup_erase_eq, if_neg (hne _ (by simp)),
        lookup_readItems ord hremote, htag, Option.or_none]
    constructor
    · intro h name value hspelled
      rcases h tracestate hts _ value
        ((mem_propagationTags htags).2 ⟨name, rfl, (hlookup name).trans hspelled⟩) with
        ⟨keySuffix, v, hmem, hkey, hvalue⟩
      exact ⟨keySuffix, v, hmem, List.append_cancel_left hkey, hvalue⟩
    · intro h tracestate' hts' key value hmem
      have hsame : tracestate' = tracestate := Option.some.inj (hts'.symm.trans hts)
      subst hsame
      rcases (mem_propagationTags htags).1 hmem with ⟨name, rfl, hname⟩
      rcases h name value ((hlookup name).symm.trans hname) with ⟨keySuffix, v, hv, rfl, rfl⟩
      exact ⟨keySuffix, v, hv, rfl, rfl⟩

/-! ## Tags without separators -/

/-- The key of a tag is free of the separators of items. -/
def IsPlain (tag : Str × Str) : Prop := ';' ∉ tag.1 ∧ ':' ∉ tag.1

instance (tag : Str × Str) : Decidable (IsPlain tag) :=
  inferInstanceAs (Decidable (';' ∉ tag.1 ∧ ':' ∉ tag.1))

/-- Replacing does not bring in a character other than the replacement. -/
theorem mem_of_mem_sanitizedTagKey {c : Char} {key : Str} (h : c ∈ sanitizedTagKey key)
    (hc : c ≠ '_') : c ∈ key := by
  rw [sanitizedTagKey, replaceChars_eq_map] at h
  rcases List.mem_map.1 h with ⟨d, hd, hreplace⟩
  exact eq_of_replaceChar_eq hreplace hc ▸ hd

/-- The key of a plain tag is a name still when it is sanitized. -/
theorem all_isNameChar_of_isPlain {tag : Str × Str} (h : IsPlain tag) :
    (TRACESTATE_DATADOG_PROPAGATION_TAG_PREFIX ++ sanitizedTagKey tag.1).all isNameChar = true := by
  have hpre : TRACESTATE_DATADOG_PROPAGATION_TAG_PREFIX.all isNameChar = true := by decide
  rw [List.all_append, hpre, Bool.true_and, List.all_eq_true]
  intro c hc
  have hprint := isPrintable_of_isValueChar (sanitizedTagKey_chars hc).1
  -- a separator would have been in the key before
  have hsemi : c ≠ ';' := by
    rintro rfl
    exact h.1 (mem_of_mem_sanitizedTagKey hc (by decide))
  have hcolon : c ≠ ':' := by
    rintro rfl
    exact h.2 (mem_of_mem_sanitizedTagKey hc (by decide))
  simp [isNameChar, hprint, hsemi, hcolon]

/-- The text of a plain tag is one item. -/
theorem itemsOf_tagBody {tag : Str × Str} (h : IsPlain tag) :
    itemsOf (tagBody tag) =
      [(TRACESTATE_DATADOG_PROPAGATION_TAG_PREFIX ++ sanitizedTagKey tag.1,
        sanitizedTagValue tag.2)] := by
  have hread := itemsOf_encoded _ (encodeTagValue (sanitizedTagValue tag.2)) tag.2
    (all_isNameChar_of_isPlain h) fun _ hc => hc
  rw [decodeTagValue_encodeTagValue] at hread
  simpa [tagBody, TRACESTATE_DATADOG_PROPAGATION_TAG_PREFIX] using hread

theorem eq_blank_of_isPrintable {c : Char} (h : Tracestate.isPrintable c = true)
    (hspace : Text.isWhitespace c = true) : c = ' ' := by
  exact Tracestate.forall_isPrintable (P := fun c => Text.isWhitespace c = true → c = ' ')
    (by decide) h hspace

/-- Blanks are the only white space of a sanitized value, and were there before. -/
theorem trimEnd_sanitizedTagValue {value : Str} (h : value.getLast? ≠ some ' ') :
    Text.trimEnd (sanitizedTagValue value) = sanitizedTagValue value := by
  apply Text.trimEnd_eq_self
  intro c hc
  rw [Bool.eq_false_iff]
  intro hspace
  have hprint := (sanitizedTagValue_chars (List.mem_of_getLast? hc)).1
  have hblank : c = ' ' := eq_blank_of_isPrintable hprint hspace
  rw [sanitizedTagValue, replaceChars_eq_map, List.getLast?_map] at hc
  rcases Option.map_eq_some_iff.1 hc with ⟨d, hd, hreplace⟩
  have hsame : d = c := eq_of_replaceChar_eq hreplace (by rw [hblank]; decide)
  exact h (by rw [hd, hsame, hblank])

theorem trimEnd_tagBody {tag : Str × Str} (h : tag.2.getLast? ≠ some ' ') :
    Text.trimEnd (tagBody tag) = tagBody tag := by
  have hbody : tagBody tag =
      ("t.".toList ++ sanitizedTagKey tag.1) ++
        ':' :: encodeTagValue (sanitizedTagValue tag.2) := by
    simp [tagBody]
  rw [hbody, Text.trimEnd_append_cons (by decide), trimEnd_encodeTagValue,
    trimEnd_sanitizedTagValue h]

/-- Plain tags spell themselves, unless the last one ends in a blank. -/
theorem tagItems_of_isPlain {tags : List (Str × Str)} (h : ∀ tag ∈ tags, IsPlain tag)
    (hlast : ∀ tag ∈ tags.getLast?, tag.2.getLast? ≠ some ' ') :
    tagItems tags = tags.map fun tag =>
      (TRACESTATE_DATADOG_PROPAGATION_TAG_PREFIX ++ sanitizedTagKey tag.1,
        sanitizedTagValue tag.2) := by
  have htrim : (tags.map tagBody).modifyLast Text.trimEnd = tags.map tagBody := by
    rcases List.eq_nil_or_concat' tags with rfl | ⟨init, last, rfl⟩
    · rfl
    · rw [List.map_append, List.map_singleton, List.modifyLast_concat,
        trimEnd_tagBody (hlast last (by simp))]
  have hitems : ∀ tags : List (Str × Str), (∀ tag ∈ tags, IsPlain tag) →
      (tags.map tagBody).flatMap itemsOf = tags.map fun tag =>
        (TRACESTATE_DATADOG_PROPAGATION_TAG_PREFIX ++ sanitizedTagKey tag.1,
          sanitizedTagValue tag.2) := by
    intro tags htags
    induction tags with
    | nil => rfl
    | cons tag tags ih =>
        have hrest := ih fun t ht => htags t (List.mem_cons_of_mem _ ht)
        simp [itemsOf_tagBody (htags tag (List.mem_cons_self ..)), hrest]
  rw [tagItems, htrim, hitems tags h]

theorem mem_roomyTags {size : Nat} {tags : List (Str × Str)} {tag : Str × Str}
    (h : tag ∈ roomyTags size tags) : (DATADOG_PROPAGATION_TAG_PREFIX ++ tag.1, tag.2) ∈ tags := by
  induction tags generalizing size with
  | nil => cases h
  | cons head tags ih =>
      rcases head with ⟨key, value⟩
      unfold roomyTags at h
      cases hstrip : Text.stripPrefix DATADOG_PROPAGATION_TAG_PREFIX key with
      | none =>
          rw [hstrip] at h
          exact List.mem_cons_of_mem _ (ih h)
      | some keySuffix =>
          rw [hstrip] at h
          simp only at h
          split at h
          · -- there is no room left, and the loop ends
            cases h
          · rcases List.mem_cons.1 h with rfl | hrest
            · rw [Text.stripPrefix_eq_some] at hstrip
              rw [hstrip]
              exact List.mem_cons_self ..
            · exact List.mem_cons_of_mem _ (ih hrest)

/-- The tags that are written are tags of the context. -/
theorem lookup_of_mem_writtenTags {ord : IterOrder Str Str} {context : InjectSpanContext}
    {tag : Str × Str} (h : tag ∈ writtenTags ord context) :
    context.tags.lookup (DATADOG_PROPAGATION_TAG_PREFIX ++ tag.1) = some tag.2 := by
  simp only [writtenTags] at h
  split at h
  · exact ord.mem_iter.1 (mem_roomyTags h)
  · cases h

theorem spelled_of_isPlain {tags : List (Str × Str)} (h : ∀ tag ∈ tags, IsPlain tag)
    (hlast : ∀ tag ∈ tags.getLast?, tag.2.getLast? ≠ some ' ') {name : Str}
    (hname : TRACESTATE_DATADOG_PROPAGATION_TAG_PREFIX.isPrefixOf name = false) :
    (spelled tags).lookup name = none := by
  rw [spelled, tagItems_of_isPlain h hlast, HashMap.lookup_ofPairs, Option.map_eq_none_iff,
    List.getLast?_eq_none_iff, List.filter_eq_nil_iff]
  intro item hitem
  rcases List.mem_map.1 hitem with ⟨tag, -, rfl⟩
  intro hsame
  have hkey : TRACESTATE_DATADOG_PROPAGATION_TAG_PREFIX ++ sanitizedTagKey tag.1 = name := by
    simpa using hsame
  have hpre : TRACESTATE_DATADOG_PROPAGATION_TAG_PREFIX.isPrefixOf name = true :=
    List.isPrefixOf_iff_prefix.2 ⟨_, hkey⟩
  rw [hname] at hpre
  cases hpre

/-! ## Tags that name themselves -/

/-- The name of the item that a tag is written as. -/
def tagName (key : Str) : Str := TRACESTATE_DATADOG_PROPAGATION_TAG_PREFIX ++ sanitizedTagKey key

/-- The items of these names are read as something: the priority, the origin, the last parent id and
the tags. -/
def IsReserved (name : Str) : Prop :=
  name = Tracestate.TRACESTATE_SAMPLING_PRIORITY_KEY ∨ name = Tracestate.TRACESTATE_ORIGIN_KEY ∨
    name = Tracestate.TRACESTATE_LAST_PARENT_KEY ∨
    TRACESTATE_DATADOG_PROPAGATION_TAG_PREFIX <+: name

instance (name : Str) : Decidable (IsReserved name) := inferInstanceAs (Decidable (_ ∨ _ ∨ _ ∨ _))

/-- Cut at each `;`, the text of a key begins no item of a reserved name but the tag's own. -/
def NamesItself (key : Str) : Prop :=
  ∀ piece ∈ (tagName key ++ [':']).splitOn ';', ∀ item ∈ Text.splitOnce ':' piece,
    IsReserved item.1 → item = (tagName key, [])

instance (key : Str) : Decidable (NamesItself key) :=
  inferInstanceAs (Decidable (∀ piece ∈ (tagName key ++ [':']).splitOn ';', _))

/-- The written tags keep apart: the keys name nothing but their tags, and the last value, which is
trimmed if it is the end of its tag's item, does not end in a blank. -/
structure KeepApart (tags : List (Str × Str)) : Prop where
  keys : ∀ tag ∈ tags, NamesItself tag.1
  last : ∀ tag ∈ tags.getLast?, ';' ∉ tag.1 → tag.2.getLast? ≠ some ' '

/-- The filter for keys lets `;` through. -/
theorem semi_mem_tagName {key : Str} (h : ';' ∈ key) : ';' ∈ tagName key := by
  refine List.mem_append_right _ ?_
  rw [sanitizedTagKey, replaceChars_eq_map]
  exact List.mem_map.2 ⟨';', h, by decide⟩

/-- The tags do not decide whether the origin is trimmed. -/
def OriginKept (context : InjectSpanContext) (tags₁ tags₂ : List (Str × Str)) : Prop :=
  ParentIdWritten context ∨ (∀ origin ∈ fittingOrigin context, origin.getLast? ≠ some ' ') ∨
    (tags₁ = [] ↔ tags₂ = [])

/-- A reserved item of a key and a value is all of both. -/
theorem eq_of_mem_itemsOf {key value : Str} (h : NamesItself key) (hvalue : ';' ∉ value)
    {item : Str × Str} (hmem : item ∈ itemsOf (tagName key ++ ':' :: value))
    (hreserved : IsReserved item.1) :
    item = (tagName key, decodeTagValue value) ∧ ';' ∉ tagName key := by
  obtain ⟨closed, last, hparts⟩ := Text.exists_open_part ';' (tagName key)
  have hkey : (tagName key ++ [':']).splitOn ';' = closed ++ [last ++ [':']] :=
    hparts [':'] (by decide)
  -- a piece that names the tag has no `;`, so it is the only one
  have hwhole : ∀ piece ∈ (tagName key ++ [':']).splitOn ';',
      Text.splitOnce ':' piece = some (tagName key, []) → closed = [] ∧ ';' ∉ tagName key := by
    intro piece hpiece hsplit
    have hsemi := Text.not_mem_of_mem_splitOn hpiece
    rw [(Text.eq_of_splitOnce hsplit).1] at hsemi
    rw [List.splitOn_eq_singleton hsemi] at hkey
    refine ⟨?_, fun hc => hsemi (List.mem_append_left _ hc)⟩
    cases closed with
    | nil => rfl
    | cons first closed => simp at hkey
  have hcons : ';' ∉ ':' :: value := by simpa using hvalue
  rw [itemsOf, hparts (':' :: value) hcons, List.filterMap_append, List.mem_append] at hmem
  rcases hmem with hmem | hmem
  · -- the pieces before the last one are pieces of the key
    obtain ⟨piece, hpiece, hread⟩ := List.mem_filterMap.1 hmem
    have hin : piece ∈ (tagName key ++ [':']).splitOn ';' := hkey ▸ List.mem_append_left _ hpiece
    unfold Tracestate.readItem at hread
    split_ifs at hread
    obtain ⟨⟨name, rest⟩, hsplit, rfl⟩ := Option.map_eq_some_iff.1 hread
    have hitem := h piece hin (name, rest) hsplit hreserved
    rw [hitem] at hsplit
    rw [(hwhole piece hin hsplit).1] at hpiece
    cases hpiece
  · -- the last piece goes on with the value
    have hin : last ++ [':'] ∈ (tagName key ++ [':']).splitOn ';' := by simp [hkey]
    obtain ⟨name, rest, heq, hname⟩ := List.eq_append_cons_of_mem (by simp : ':' ∈ last ++ [':'])
    have hsplit : Text.splitOnce ':' (last ++ [':']) = some (name, rest) := by
      rw [heq, Text.splitOnce_append hname]
    have hlong : Text.splitOnce ':' (last ++ ':' :: value) = some (name, rest ++ value) := by
      have hsame : last ++ ':' :: value = name ++ ':' :: (rest ++ value) := by
        simpa using congrArg (· ++ value) heq
      rw [hsame, Text.splitOnce_append hname]
    obtain ⟨piece, hpiece, hread⟩ := List.mem_filterMap.1 hmem
    rw [List.mem_singleton.1 hpiece, Tracestate.readItem] at hread
    split_ifs at hread
    rw [hlong] at hread
    cases hread
    have hitem := h _ hin (name, rest) hsplit hreserved
    rw [hitem] at hsplit
    cases hitem
    exact ⟨rfl, (hwhole _ hin hsplit).2⟩

theorem tagBody_eq (tag : Str × Str) :
    tagBody tag = tagName tag.1 ++ ':' :: encodeTagValue (sanitizedTagValue tag.2) := by
  simp [tagBody, tagName, TRACESTATE_DATADOG_PROPAGATION_TAG_PREFIX]

/-- So it is for the texts of all the tags, if they keep apart. -/
theorem exists_tag_of_mem_tagItems {tags : List (Str × Str)} (h : KeepApart tags)
    {item : Str × Str} (hmem : item ∈ tagItems tags) (hreserved : IsReserved item.1) :
    ∃ tag ∈ tags, item = (tagName tag.1, sanitizedTagValue tag.2) := by
  rcases List.eq_nil_or_concat' tags with rfl | ⟨init, last, rfl⟩
  · cases hmem
  · rw [tagItems, List.map_append, List.map_singleton, List.modifyLast_concat, List.flatMap_append,
      List.mem_append, List.flatMap_singleton] at hmem
    rcases hmem with hmem | hmem
    · obtain ⟨body, hbody, hitem⟩ := List.mem_flatMap.1 hmem
      obtain ⟨tag, htag, rfl⟩ := List.mem_map.1 hbody
      have hin : tag ∈ init ++ [last] := List.mem_append_left _ htag
      rw [tagBody_eq] at hitem
      have heq := eq_of_mem_itemsOf (h.keys tag hin)
        (fun hc => (encodedTagValue_chars hc).2 rfl) hitem hreserved
      rw [decodeTagValue_encodeTagValue] at heq
      exact ⟨tag, hin, heq.1⟩
    · -- of the last text the end is trimmed
      have hin : last ∈ init ++ [last] := by simp
      rw [tagBody_eq, Text.trimEnd_append_cons (by decide)] at hmem
      obtain ⟨rfl, hsemi⟩ := eq_of_mem_itemsOf (h.keys last hin)
        (fun hc => (encodedTagValue_chars (Text.mem_of_mem_trimEnd hc)).2 rfl) hmem hreserved
      have hblank : last.2.getLast? ≠ some ' ' :=
        h.last last (by simp) fun hc => hsemi (semi_mem_tagName hc)
      refine ⟨last, hin, ?_⟩
      rw [trimEnd_encodeTagValue, trimEnd_sanitizedTagValue hblank, decodeTagValue_encodeTagValue]

/-- Tags that keep apart spell whole tags. -/
theorem spellWholeTags_of_keepApart {ord : IterOrder Str Str} {context : InjectSpanContext}
    (h : KeepApart (writtenTags ord context)) :
    SpellWholeTags context (writtenTags ord context) := by
  intro name value hspelled
  rw [spelled, HashMap.lookup_ofPairs] at hspelled
  obtain ⟨item, hitem, rfl⟩ := Option.map_eq_some_iff.1 hspelled
  obtain ⟨hmem, hname⟩ := List.mem_filter.1 (List.mem_of_getLast? hitem)
  have hkey : item.1 = TRACESTATE_DATADOG_PROPAGATION_TAG_PREFIX ++ name := by simpa using hname
  have hreserved : IsReserved item.1 := .inr (.inr (.inr ⟨name, hkey.symm⟩))
  obtain ⟨tag, htag, rfl⟩ := exists_tag_of_mem_tagItems h hmem hreserved
  exact ⟨tag.1, tag.2, lookup_of_mem_writtenTags htag, (List.append_cancel_left hkey).symm, rfl⟩

/-- They spell no other reserved item. -/
theorem lookup_spelled_of_keepApart {tags : List (Str × Str)} (h : KeepApart tags) {name : Str}
    (hreserved : IsReserved name)
    (hname : ¬ TRACESTATE_DATADOG_PROPAGATION_TAG_PREFIX <+: name) :
    (spelled tags).lookup name = none := by
  rw [spelled, HashMap.lookup_ofPairs, Option.map_eq_none_iff, List.getLast?_eq_none_iff,
    List.filter_eq_nil_iff]
  intro item hitem hsame
  have hkey : item.1 = name := by simpa using hsame
  obtain ⟨tag, -, rfl⟩ := exists_tag_of_mem_tagItems h hitem (hkey ▸ hreserved)
  exact hname (hkey ▸ List.prefix_append _ _)

theorem writtenOrigin_eq {context : InjectSpanContext} {tags₁ tags₂ : List (Str × Str)}
    (h : OriginKept context tags₁ tags₂) :
    writtenOrigin context tags₁ = writtenOrigin context tags₂ := by
  unfold writtenOrigin
  rcases h with hroom | horigin | hsame
  · simp only [hroom, not_true_eq_false, and_false, if_false]
  · -- the origin has no blanks at its end
    refine Option.map_congr ?_
    intro origin hmem
    rw [trimEnd_sanitizedTagValue (horigin origin hmem), ite_self, ite_self]
  · simp only [hsame]

/-- Tags that keep apart leave the other items alone. -/
theorem spellTheSame_of_keepApart {context : InjectSpanContext} {tags₁ tags₂ : List (Str × Str)}
    (h₁ : KeepApart tags₁) (h₂ : KeepApart tags₂) (horigin : OriginKept context tags₁ tags₂) :
    SpellTheSame context tags₁ tags₂ := by
  have hnone : ∀ name ∈ [Tracestate.TRACESTATE_SAMPLING_PRIORITY_KEY,
      Tracestate.TRACESTATE_ORIGIN_KEY, Tracestate.TRACESTATE_LAST_PARENT_KEY],
      (spelled tags₁).lookup name = none ∧ (spelled tags₂).lookup name = none := by
    intro name hmem
    have hreserved : ∀ name ∈ [Tracestate.TRACESTATE_SAMPLING_PRIORITY_KEY,
        Tracestate.TRACESTATE_ORIGIN_KEY, Tracestate.TRACESTATE_LAST_PARENT_KEY],
        IsReserved name ∧ ¬ TRACESTATE_DATADOG_PROPAGATION_TAG_PREFIX <+: name := by decide
    obtain ⟨hres, hpre⟩ := hreserved name hmem
    exact ⟨lookup_spelled_of_keepApart h₁ hres hpre, lookup_spelled_of_keepApart h₂ hres hpre⟩
  refine ⟨?_, ?_, ?_⟩
  · rw [(hnone _ (by simp)).1, (hnone _ (by simp)).2]
  · rw [(hnone _ (by simp)).1, (hnone _ (by simp)).2, writtenOrigin_eq horigin]
  · rw [(hnone _ (by simp)).1, (hnone _ (by simp)).2]

/-! ## The tags of two contexts -/

/-- The tags of two contexts are apart from the other items exactly if their texts spell the same
priority, origin and last parent id, and no items `t.` but whole tags. -/
theorem tags_apart_iff (ord₁ ord₂ ord' : IterOrder Str Str) {context₁ context₂ : InjectSpanContext}
    (hdiffer : DifferInTags context₁ context₂) (hremote : context₁.isRemote = false)
    (ht : context₁.traceId ≠ 0) (hs : context₁.spanId ≠ 0) :
    TagsApart ord₁ ord₂ ord' context₁ context₂ ↔
      SpellTheSame context₁ (writtenTags ord₁ context₁) (writtenTags ord₂ context₂) ∧
      SpellWholeTags context₁ (writtenTags ord₁ context₁) ∧
      SpellWholeTags context₂ (writtenTags ord₂ context₂) := by
  rcases readBack_spelled ord₁ ord' hremote ht hs with ⟨e₁, hread₁, hs₁, ho₁, hp₁, hwhole₁⟩
  have hfields := hdiffer.fields
  have hremote₂ : context₂.isRemote = false := by rw [← hfields]; exact hremote
  have ht₂ : context₂.traceId ≠ 0 := by rw [← hfields]; exact ht
  have hs₂ : context₂.spanId ≠ 0 := by rw [← hfields]; exact hs
  rcases readBack_spelled ord₂ ord' hremote₂ ht₂ hs₂ with ⟨e₂, hread₂, hs₂, ho₂, hp₂, hwhole₂⟩
  -- beside the tags, the second context says what the first one does
  have hpriority : ∀ text, settledPriority context₂ text = settledPriority context₁ text := by
    rw [← hfields]
    intro text
    rfl
  have htext : priorityText context₂ = priorityText context₁ := by rw [← hfields]; rfl
  have horigin : ∀ tags, writtenOrigin context₂ tags = writtenOrigin context₁ tags := by
    rw [← hfields]
    intro tags
    rfl
  have hparentId : writtenParentId context₂ = writtenParentId context₁ := by rw [← hfields]; rfl
  rw [hpriority, htext] at hs₂
  rw [horigin] at ho₂
  rw [hparentId] at hp₂
  constructor
  · rintro ⟨f₁, f₂, hf₁, hf₂, hsame, hsameOrigin, hsameId, hw₁, hw₂⟩
    obtain rfl : e₁ = f₁ := Option.some.inj (hread₁.symm.trans hf₁)
    obtain rfl : e₂ = f₂ := Option.some.inj (hread₂.symm.trans hf₂)
    refine ⟨⟨?_, ?_, ?_⟩, hwhole₁.1 hw₁, hwhole₂.1 hw₂⟩
    · exact Option.some.inj (hs₁.symm.trans (hsame.trans hs₂))
    · exact ho₁.symm.trans (hsameOrigin.trans ho₂)
    · exact hp₁.symm.trans (hsameId.trans hp₂)
  · rintro ⟨hspell, hw₁, hw₂⟩
    refine ⟨e₁, e₂, hread₁, hread₂, ?_, ?_, ?_, hwhole₁.2 hw₁, hwhole₂.2 hw₂⟩
    · rw [hs₁, hs₂, hspell.priority]
    · rw [ho₁, ho₂, hspell.origin]
    · rw [hp₁, hp₂, hspell.parentId]

/-- The tags of two contexts are apart from the other items if their keys name nothing but themselves
and blanks are not trimmed. -/
theorem tags_apart (ord₁ ord₂ ord' : IterOrder Str Str) {context₁ context₂ : InjectSpanContext}
    (hdiffer : DifferInTags context₁ context₂) (hremote : context₁.isRemote = false)
    (ht : context₁.traceId ≠ 0) (hs : context₁.spanId ≠ 0)
    (h₁ : KeepApart (writtenTags ord₁ context₁)) (h₂ : KeepApart (writtenTags ord₂ context₂))
    (horigin : OriginKept context₁ (writtenTags ord₁ context₁) (writtenTags ord₂ context₂)) :
    TagsApart ord₁ ord₂ ord' context₁ context₂ :=
  (tags_apart_iff ord₁ ord₂ ord' hdiffer hremote ht hs).2
    ⟨spellTheSame_of_keepApart h₁ h₂ horigin, spellWholeTags_of_keepApart h₁,
      spellWholeTags_of_keepApart h₂⟩

/-- A context that is kept by the user, with the given propagation tags. -/
def keptContext (tags : List (Str × Str)) : InjectSpanContext :=
  { traceId := 1
    spanId := 2
    sampling :=
      { priority := some Priority.userKeep
        mechanism := none }
    origin := none
    tags := .ofPairs tags
    isRemote := false
    tracestate := none }

theorem differInTags_keptContext (key value : Str)
    (hpre : DATADOG_PROPAGATION_TAG_PREFIX.isPrefixOf key = true)
    (hdm : key ≠ SAMPLING_DECISION_MAKER_TAG_KEY) :
    DifferInTags (keptContext []) (keptContext [(key, value)]) where
  fields := rfl
  tags := by
    intro key' hkey'
    have hne : key' ≠ key := by
      rintro rfl
      rcases hkey' with hfalse | hsame
      · rw [hpre] at hfalse
        cases hfalse
      · exact hdm hsame
    have hlookup := HashMap.lookup_insert_eq (∅ : Tags) key key' value
    exact (hlookup.trans (if_neg hne)).symm

theorem tags_apart_kept :
    TagsApart (.asStored Str Str) (.asStored Str Str) (.asStored Str Str) (keptContext [])
      (keptContext [("_dd.p.usr.id".toList, "baz64 = a".toList)]) := by
  have hdiffer := differInTags_keptContext "_dd.p.usr.id".toList "baz64 = a".toList (by decide)
    (by decide)
  have hwritten : writtenTags (.asStored Str Str)
      (keptContext [("_dd.p.usr.id".toList, "baz64 = a".toList)]) =
        [("usr.id".toList, "baz64 = a".toList)] := by decide
  refine tags_apart _ _ _ hdiffer rfl (by decide) (by decide) ⟨?_, ?_⟩ ⟨?_, ?_⟩ (.inl (by decide))
  · exact fun tag h => by cases h
  · exact fun tag h => by cases h
  · rw [hwritten]
    decide
  · rw [hwritten]
    decide

/-- The key `x;s` makes the value of its tag a second priority. -/
theorem forged_priority :
    DifferInTags (keptContext []) (keptContext [("_dd.p.x;s".toList, "1".toList)]) ∧
      ¬ TagsApart (.asStored Str Str) (.asStored Str Str) (.asStored Str Str) (keptContext [])
        (keptContext [("_dd.p.x;s".toList, "1".toList)]) := by
  constructor
  · exact differInTags_keptContext _ "1".toList (by decide) (by decide)
  · rintro ⟨e₁, e₂, h₁, h₂, hpriority, -⟩
    have hfirst : (readBack (.asStored Str Str) (.asStored Str Str) (keptContext [])).bind
        (fun e => e.sampling.priority) = some Priority.userKeep := by decide
    have hsecond : (readBack (.asStored Str Str) (.asStored Str Str)
        (keptContext [("_dd.p.x;s".toList, "1".toList)])).bind
          (fun e => e.sampling.priority) = some Priority.autoKeep := by decide
    rw [h₁, Option.bind_some, hpriority] at hfirst
    rw [h₂, Option.bind_some, hfirst] at hsecond
    exact absurd hsecond (by decide)

end TraceContext
end Propagation
end DdTrace
