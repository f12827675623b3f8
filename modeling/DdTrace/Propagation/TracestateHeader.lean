import DdTrace.Propagation.TraceContext

/-!
# TracestateHeader — the header that is injected

The value of our member is put together from a priority, an origin, the id of the last parent and the
tags.  Each piece has its own filter, but for the parent id of a remote context, which is copied as it
came.  The header is well formed exactly if that piece is (`injected_wellFormed_iff`), and is then
read back as its parts (`fromStr_tracestateHeader`).
-/

namespace DdTrace
namespace Propagation
namespace TraceContext

open DdTrace.Lib DdTrace.Core

/-! ## The characters of a value -/

/-- Printable ASCII without the two separators of members. -/
def isValueChar (c : Char) : Bool := Tracestate.isPrintable c && c != ',' && c != '='

def IsValueText (s : Str) : Prop := ∀ c ∈ s, isValueChar c = true

instance (s : Str) : Decidable (IsValueText s) :=
  decidable_of_iff (s.all isValueChar = true) List.all_eq_true

@[simp] theorem isValueText_append (s t : Str) :
    IsValueText (s ++ t) ↔ IsValueText s ∧ IsValueText t := by
  simp [IsValueText, or_imp, forall_and]

@[simp] theorem isValueText_nil : IsValueText [] := by
  simp [IsValueText]

theorem isAscii_of_isValueChar {c : Char} (h : isValueChar c = true) : Text.isAscii c = true := by
  simp only [isValueChar, Bool.and_eq_true] at h
  exact Tracestate.forall_isPrintable (P := fun c => Text.isAscii c = true) (by decide) h.1.1

theorem utf8Len_of_isValueText {s : Str} (h : IsValueText s) : Text.utf8Len s = s.length :=
  Text.utf8Len_of_isAscii fun c hc => isAscii_of_isValueChar (h c hc)

theorem isValueText_of_isHexDigit {s : Str} (h : ∀ c ∈ s, Numeral.isHexDigit c = true) :
    IsValueText s := by
  intro c hc
  exact Numeral.forall_isHexDigit (P := fun c => isValueChar c = true) (by decide) (h c hc)

/-- The sanitized key of a tag has no blank either. -/
theorem sanitizedTagKey_chars {c : Char} {key : Str} (h : c ∈ sanitizedTagKey key) :
    isValueChar c = true ∧ c ≠ ' ' := by
  rw [sanitizedTagKey, replaceChars_eq_map] at h
  rcases List.mem_map.1 h with ⟨d, -, rfl⟩
  exact forall_replaceChar
    (P := fun c => isValueChar c = true ∧ c ≠ ' ') (by decide) (by decide) d

/-- The sanitized value of a tag is free of the separators `,` and `;`, and of `~`. -/
theorem sanitizedTagValue_chars {c : Char} {value : Str} (h : c ∈ sanitizedTagValue value) :
    Tracestate.isPrintable c = true ∧ c ≠ ',' ∧ c ≠ ';' ∧ c ≠ '~' := by
  rw [sanitizedTagValue, replaceChars_eq_map] at h
  rcases List.mem_map.1 h with ⟨d, -, rfl⟩
  exact forall_replaceChar
    (P := fun c => Tracestate.isPrintable c = true ∧ c ≠ ',' ∧ c ≠ ';' ∧ c ≠ '~')
    (by decide) (by decide) d

/-- The encoded value of a tag is free of `;`, `,` and `=`. -/
theorem encodedTagValue_chars {c : Char} {value : Str}
    (h : c ∈ encodeTagValue (sanitizedTagValue value)) : isValueChar c = true ∧ c ≠ ';' := by
  rcases List.mem_map.1 h with ⟨d, hd, rfl⟩
  rcases sanitizedTagValue_chars hd with ⟨hprint, hcomma, hsemi, -⟩
  by_cases heq : d = '='
  · simp only [heq, if_true]
    decide
  · simp [heq, isValueChar, hprint, hcomma, hsemi]

/-- The origin goes through the same filters as the value of a tag. -/
theorem sanitizedOrigin_eq (origin : Str) :
    sanitizedOrigin origin = encodeTagValue (sanitizedTagValue origin) := by
  rw [sanitizedOrigin, replaceChars_eq_map]
  apply List.map_congr_left
  intro c hc
  rcases sanitizedTagValue_chars hc with ⟨hprint, -⟩
  -- on printable characters the second filter does what the encoding does
  exact Tracestate.forall_isPrintable
    (P := fun c => replaceChar (fun b => b == Text.byte '=') '~' c = if c = '=' then '~' else c)
    (by decide) hprint

theorem length_sanitizedTagKey (key : Str) : (sanitizedTagKey key).length = key.length := by
  simp [sanitizedTagKey, replaceChars_eq_map]

theorem length_encodedTagValue (value : Str) :
    (encodeTagValue (sanitizedTagValue value)).length = value.length := by
  simp [encodeTagValue, sanitizedTagValue, replaceChars_eq_map]

/-! ## The part before the tags -/

theorem isValueText_encodedTagValue (value : Str) :
    IsValueText (encodeTagValue (sanitizedTagValue value)) := by
  intro c hc
  exact (encodedTagValue_chars hc).1

theorem isValueText_display (p : SamplingPriority) : IsValueText p.display := by
  intro c hc
  rcases Numeral.of_mem_intDecimal hc with rfl | hdigit
  · decide
  · exact isValueText_of_isHexDigit (s := [c]) (by simpa using hdigit) c (by simp)

/-- An `i8` takes at most a sign and three digits. -/
theorem length_display_le (p : SamplingPriority) : p.display.length ≤ 4 := by
  have hlo : -128 ≤ p.value.toInt := Int8.le_toInt p.value
  have hhi : p.value.toInt < 128 := Int8.toInt_lt p.value
  have habs : p.value.toInt.natAbs < 10 ^ 3 := by omega
  have hdigits : (Numeral.decimal p.value.toInt.natAbs).length ≤ 3 :=
    (Nat.length_toDigits_le_iff (by decide) (by decide)).2 habs
  unfold SamplingPriority.display Numeral.intDecimal
  -- the sign is the fourth character
  split
  · exact Nat.succ_le_succ hdigits
  · exact Nat.le_succ_of_le hdigits

/-- The size of the priority, and of the origin if there is room for it. -/
def headLength (context : InjectSpanContext) : Nat :=
  let priority := 2 + (context.sampling.priority.getD Priority.userKeep).display.length
  match context.origin with
  | none => priority
  | some origin =>
      if priority + 3 + origin.length < 256 then priority + 3 + origin.length else priority

theorem isValueText_samplingPart (context : InjectSpanContext) :
    IsValueText (samplingPart context) := by
  rw [samplingPart, isValueText_append]
  exact ⟨by decide, isValueText_display _⟩

theorem isValueText_appendOrigin (context : InjectSpanContext) :
    IsValueText (appendOrigin context (samplingPart context)) := by
  have hpart := isValueText_samplingPart context
  unfold appendOrigin
  split
  · exact hpart
  · simp only [sanitizedOrigin_eq]
    split
    · simp only [isValueText_append]
      exact ⟨⟨hpart, by decide⟩, isValueText_encodedTagValue _⟩
    · exact hpart

theorem utf8Len_samplingPart (context : InjectSpanContext) :
    Text.utf8Len (samplingPart context) =
      2 + (context.sampling.priority.getD Priority.userKeep).display.length := by
  rw [utf8Len_of_isValueText (isValueText_samplingPart context), samplingPart, List.length_append]
  rfl

theorem utf8Len_appendOrigin (context : InjectSpanContext) :
    Text.utf8Len (appendOrigin context (samplingPart context)) = headLength context := by
  unfold appendOrigin headLength
  cases context.origin with
  | none => exact utf8Len_samplingPart context
  | some origin =>
      have horigin : Text.utf8Len (sanitizedOrigin origin) = origin.length := by
        rw [sanitizedOrigin_eq, utf8Len_of_isValueText (isValueText_encodedTagValue origin),
          length_encodedTagValue]
      simp only [horigin, utf8Len_samplingPart, TRACESTATE_DD_KEY_MAX_LENGTH]
      split
      · have hkey : Text.utf8Len ";o:".toList = 3 := by decide
        simp only [Text.utf8Len_append, utf8Len_samplingPart, horigin, hkey]
      · exact utf8Len_samplingPart context

theorem headLength_lt (context : InjectSpanContext) : headLength context < 256 := by
  have hle := length_display_le (context.sampling.priority.getD Priority.userKeep)
  unfold headLength
  cases context.origin with
  | none =>
      simp only
      omega
  | some origin =>
      simp only
      split
      · assumption
      · omega

/-- The last parent id follows if there is room for one of 16 digits. -/
theorem ddPartsBeforeTags_eq_ite (context : InjectSpanContext) :
    ddPartsBeforeTags context =
      if headLength context + 3 + 16 < 256 then
        appendOrigin context (samplingPart context) ++ ";p:".toList ++ lastParentId context
      else appendOrigin context (samplingPart context) := by
  simp only [ddPartsBeforeTags, appendLastParentId, utf8Len_appendOrigin,
    TRACESTATE_DD_KEY_MAX_LENGTH]

/-- The size of what stands before the tags. -/
def lengthBeforeTags (context : InjectSpanContext) : Nat :=
  if headLength context + 3 + 16 < 256 then
    headLength context + 3 + Text.utf8Len (lastParentId context)
  else headLength context

theorem utf8Len_ddPartsBeforeTags (context : InjectSpanContext) :
    Text.utf8Len (ddPartsBeforeTags context) = lengthBeforeTags context := by
  have hkey : Text.utf8Len ";p:".toList = 3 := by decide
  rw [ddPartsBeforeTags_eq_ite, lengthBeforeTags]
  split
  · simp only [Text.utf8Len_append, utf8Len_appendOrigin, hkey]
  · exact utf8Len_appendOrigin context

theorem isValueText_spanId (spanId : BitVec 64) :
    IsValueText (Numeral.hexPadded 16 spanId.toNat) :=
  isValueText_of_isHexDigit fun _ hc => Numeral.isHexDigit_of_mem_hexPadded hc

theorem length_spanId (spanId : BitVec 64) : (Numeral.hexPadded 16 spanId.toNat).length = 16 :=
  Numeral.length_hexPadded (by decide) (lt_of_lt_of_eq spanId.isLt (by decide))

/-- The parent id that a remote context brings fits into the value: it has no other characters than a
value may have, and keeps the value within 256 bytes. -/
def ParentIdFits (context : InjectSpanContext) : Prop :=
  context.isRemote = true → ∀ id, context.tags.lookup DATADOG_LAST_PARENT_ID_KEY = some id →
    headLength context + 3 + 16 < 256 →
      IsValueText id ∧ headLength context + 3 + id.length ≤ 256

/-- The last parent id is the one that a remote context brings, or our own. -/
theorem lastParentId_cases (context : InjectSpanContext) :
    (context.isRemote = true ∧
      context.tags.lookup DATADOG_LAST_PARENT_ID_KEY = some (lastParentId context)) ∨
    (lastParentId context = Numeral.hexPadded 16 context.spanId.toNat ∧
      (context.isRemote = true → context.tags.lookup DATADOG_LAST_PARENT_ID_KEY = none)) := by
  cases hremote : context.isRemote with
  | false => exact .inr ⟨by simp [lastParentId, hremote], by simp⟩
  | true =>
      cases htag : context.tags.lookup DATADOG_LAST_PARENT_ID_KEY with
      | none => exact .inr ⟨by simp [lastParentId, htag], by simp⟩
      | some id => exact .inl ⟨rfl, by simp [lastParentId, hremote, htag]⟩

theorem parentIdFits_iff_lastParentId (context : InjectSpanContext) :
    ParentIdFits context ↔
      (headLength context + 3 + 16 < 256 →
        IsValueText (lastParentId context) ∧
          headLength context + 3 + (lastParentId context).length ≤ 256) := by
  rcases lastParentId_cases context with ⟨hremote, htag⟩ | ⟨hown, hnone⟩
  · -- the id is the tag, and the two conditions are about the same text
    constructor
    · intro h
      exact h hremote _ htag
    · intro h _ id hid
      have hsame : id = lastParentId context := Option.some.inj (hid.symm.trans htag)
      rw [hsame]
      exact h
  · -- our own id has 16 digits, for which there is room
    rw [hown, length_spanId]
    constructor
    · intro _ hroom
      exact ⟨isValueText_spanId context.spanId, Nat.le_of_lt hroom⟩
    · intro _ hremote id hid
      simp [hnone hremote] at hid

/-- The part before the tags is as a value may be exactly if the parent id fits. -/
theorem parentIdFits_iff (context : InjectSpanContext) :
    ParentIdFits context ↔
      IsValueText (ddPartsBeforeTags context) ∧ lengthBeforeTags context ≤ 256 := by
  have hhead := isValueText_appendOrigin context
  rw [parentIdFits_iff_lastParentId]
  -- the priority and the origin always fit, so it is the parent id that decides
  by_cases hroom : headLength context + 3 + 16 < 256
  · have hkey : IsValueText ";p:".toList := by decide
    have hbefore : IsValueText (ddPartsBeforeTags context) ↔ IsValueText (lastParentId context) := by
      simp only [ddPartsBeforeTags_eq_ite, hroom, if_true, isValueText_append, hhead, hkey,
        true_and]
    simp only [hbefore, lengthBeforeTags, hroom, if_true, true_implies]
    refine and_congr_right ?_
    intro htext
    rw [utf8Len_of_isValueText htext]
  · have hbefore : ddPartsBeforeTags context = appendOrigin context (samplingPart context) := by
      simp only [ddPartsBeforeTags_eq_ite, hroom, if_false]
    simp [hbefore, lengthBeforeTags, hroom, hhead, Nat.le_of_lt (headLength_lt context)]

/-! ## The tags -/

/-- The size of a tag as an item, with its separator. -/
def tagSize (tag : Str × Str) : Nat := 4 + tag.1.length + tag.2.length

/-- The tags, without their prefix, for which there is room behind `size` bytes of tags. -/
def roomyTags : Nat → List (Str × Str) → List (Str × Str)
  | _, [] => []
  | size, (key, value) :: tags =>
      match Text.stripPrefix DATADOG_PROPAGATION_TAG_PREFIX key with
      | none => roomyTags size tags
      | some keySuffix =>
          if size + tagSize (keySuffix, value) > 128 then []
          else (keySuffix, value) :: roomyTags (size + tagSize (keySuffix, value)) tags

/-- The tags that are written: none of them if they do not fit behind the other parts. -/
def writtenTags (ord : IterOrder Str Str) (context : InjectSpanContext) : List (Str × Str) :=
  let roomy := roomyTags 0 (ord.iter context.tags)
  if lengthBeforeTags context + (roomy.map tagSize).sum < 256 then roomy else []

/-- The items of tags, each behind a separator. -/
def tagsText (tags : List (Str × Str)) : Str := tags.flatMap fun tag => tagEntry tag.1 tag.2

theorem isValueText_tagEntry (keySuffix value : Str) : IsValueText (tagEntry keySuffix value) := by
  have hkey : IsValueText (sanitizedTagKey keySuffix) := fun _ hc => (sanitizedTagKey_chars hc).1
  simp only [tagEntry, isValueText_append]
  exact ⟨⟨⟨by decide, hkey⟩, by decide⟩, isValueText_encodedTagValue value⟩

theorem isValueText_tagsText (tags : List (Str × Str)) : IsValueText (tagsText tags) := by
  intro c hc
  rcases List.mem_flatMap.1 hc with ⟨tag, -, htag⟩
  exact isValueText_tagEntry tag.1 tag.2 c htag

theorem utf8Len_tagEntry (keySuffix value : Str) :
    Text.utf8Len (tagEntry keySuffix value) = tagSize (keySuffix, value) := by
  rw [utf8Len_of_isValueText (isValueText_tagEntry keySuffix value)]
  simp only [tagEntry, tagSize, List.length_append, length_sanitizedTagKey, length_encodedTagValue]
  have hpre : ";t.".toList.length = 3 ∧ ":".toList.length = 1 := by decide
  omega

theorem utf8Len_tagsText (tags : List (Str × Str)) :
    Text.utf8Len (tagsText tags) = (tags.map tagSize).sum := by
  induction tags with
  | nil => rfl
  | cons tag tags ih =>
      have hcons : tagsText (tag :: tags) = tagEntry tag.1 tag.2 ++ tagsText tags := rfl
      simp [hcons, ih, utf8Len_tagEntry]

/-- The loop appends the items of the tags for which there is room. -/
theorem appendDdPropagationTags_eq (tags : List (Str × Str)) (buffer : Str) :
    appendDdPropagationTags tags buffer =
      buffer ++ tagsText (roomyTags (Text.utf8Len buffer) tags) := by
  induction tags generalizing buffer with
  | nil => simp [appendDdPropagationTags, roomyTags, tagsText]
  | cons tag tags ih =>
      rcases tag with ⟨key, value⟩
      unfold appendDdPropagationTags roomyTags
      cases Text.stripPrefix DATADOG_PROPAGATION_TAG_PREFIX key with
      | none => exact ih buffer
      | some keySuffix =>
          have hmax : TRACESTATE_DD_KEY_MAX_LENGTH / 2 = 128 := rfl
          simp only [utf8Len_tagEntry, hmax]
          -- the first tag without room ends the loop, also for shorter ones behind it
          split
          · simp [tagsText]
          · rw [ih, Text.utf8Len_append, utf8Len_tagEntry]
            simp [tagsText]

/-- The value is the part before the tags and the tags that are written. -/
theorem ddParts_eq (ord : IterOrder Str Str) (context : InjectSpanContext) :
    ddParts ord context = ddPartsBeforeTags context ++ tagsText (writtenTags ord context) := by
  have htags : appendDdPropagationTags (ord.iter context.tags) [] =
      tagsText (roomyTags 0 (ord.iter context.tags)) := by
    simpa using appendDdPropagationTags_eq (ord.iter context.tags) []
  have hnil : tagsText [] = [] := rfl
  simp only [ddParts, writtenTags, htags, Text.utf8Len_append, utf8Len_ddPartsBeforeTags,
    utf8Len_tagsText, TRACESTATE_DD_KEY_MAX_LENGTH]
  by_cases hfit :
      lengthBeforeTags context + ((roomyTags 0 (ord.iter context.tags)).map tagSize).sum < 256
  · by_cases hzero : ((roomyTags 0 (ord.iter context.tags)).map tagSize).sum = 0
    · -- every item has at least four bytes
      have hempty : roomyTags 0 (ord.iter context.tags) = [] := by
        cases hroomy : roomyTags 0 (ord.iter context.tags) with
        | nil => rfl
        | cons tag tags =>
            rw [hroomy] at hzero
            simp [tagSize] at hzero
      simp [hempty, hnil]
    · simp [hfit, hzero, Nat.not_le_of_lt hfit]
  · simp [hfit, Nat.le_of_not_lt hfit, hnil]

/-! ## The header -/

theorem validValue_of_isValueText {value : Str} (h : IsValueText value) (hsize : value.length ≤ 256) :
    Tracestate.validValue value = true := by
  have hcomma : ',' ∉ value := fun hc => absurd (h _ hc) (by decide)
  have hequals : '=' ∉ value := fun hc => absurd (h _ hc) (by decide)
  simp [Tracestate.validValue, utf8Len_of_isValueText h, hsize, hcomma, hequals]

/-- Our own member is valid if its value is. -/
theorem readMember_dd {value : Str} (hne : value ≠ []) (h : IsValueText value)
    (hsize : value.length ≤ 256) :
    Tracestate.readMember ("dd=".toList ++ value) = some (Tracestate.TRACESTATE_DD_KEY, value) := by
  have hsplit : Text.splitOnce '=' ("dd=".toList ++ value) =
      some (Tracestate.TRACESTATE_DD_KEY, value) :=
    Text.splitOnce_append (k := Tracestate.TRACESTATE_DD_KEY) (by decide) value
  have hkey : Tracestate.validKey Tracestate.TRACESTATE_DD_KEY = true := by decide
  have hempty : value.isEmpty = false := by simpa using hne
  simp only [Tracestate.readMember, hsplit, Option.getD_some, hkey, hempty,
    validValue_of_isValueText h hsize, Bool.not_true, Bool.or_self, Bool.false_eq_true, if_false]

/-- The members of other vendors that are injected are valid, and none is ours. -/
theorem readMember_of_mem_additionalValues {ts : InjectTraceState} {part : Str}
    (h : part ∈ ts.additionalValues) :
    ∃ m, Tracestate.readMember part = some m ∧ m.1 ≠ Tracestate.TRACESTATE_DD_KEY := by
  have hvalid := (List.mem_filter.1 h).2
  cases hsplit : Text.splitOnce '=' part with
  | none =>
      -- without `=` the value is empty
      simp [hsplit] at hvalid
  | some m =>
      rcases m with ⟨key, value⟩
      simp only [hsplit, Option.getD_some, Bool.and_eq_true, decide_eq_true_eq,
        Bool.not_eq_true'] at hvalid
      rcases hvalid with ⟨⟨⟨hkey, hne⟩, hvalidKey⟩, hvalidValue⟩
      refine ⟨(key, value), ?_, hkey⟩
      simp [Tracestate.readMember, hsplit, hne, hvalidKey, hvalidValue]

theorem otherMembers_valid {context : InjectSpanContext} {part : Str}
    (h : part ∈ otherMembers context) :
    ',' ∉ part ∧
      ∃ m, Tracestate.readMember part = some m ∧ m.1 ≠ Tracestate.TRACESTATE_DD_KEY := by
  unfold otherMembers at h
  cases hts : context.tracestate with
  | none => simp [hts] at h
  | some ts =>
      have hmem : part ∈ ts.additionalValues := by
        simp only [hts] at h
        exact List.mem_of_mem_take h
      exact ⟨Text.not_mem_of_mem_splitOn (List.mem_filter.1 hmem).1,
        readMember_of_mem_additionalValues hmem⟩

theorem length_otherMembers_le (context : InjectSpanContext) :
    (otherMembers context).length ≤ 31 := by
  unfold otherMembers
  split
  · exact List.length_take_le ..
  · exact Nat.zero_le _

variable (ord : IterOrder Str Str)

/-- The members of the header, if the value has no `,`. -/
theorem splitOn_tracestateHeader {context : InjectSpanContext} (h : ',' ∉ ddParts ord context) :
    (tracestateHeader ord context).splitOn ',' =
      ("dd=".toList ++ ddParts ord context) :: otherMembers context := by
  have hdd : ',' ∉ "dd=".toList ++ ddParts ord context := by
    simp [h]
  -- the members of others come from a split at `,`, so splitting them again changes nothing
  have hothers : ((otherMembers context).flatMap fun part => part.splitOn ',') =
      otherMembers context := by
    have hsingle : ∀ parts : List Str, (∀ part ∈ parts, ',' ∉ part) →
        (parts.flatMap fun part => part.splitOn ',') = parts := by
      intro parts
      induction parts with
      | nil => simp
      | cons part parts ih =>
          intro hparts
          have hpart : part.splitOn ',' = [part] :=
            List.splitOn_eq_singleton (hparts part (List.mem_cons_self ..))
          simp [hpart, ih fun q hq => hparts q (List.mem_cons_of_mem _ hq)]
    exact hsingle _ fun part hpart => (otherMembers_valid hpart).1
  calc
    (tracestateHeader ord context).splitOn ','
        = ("dd=".toList ++ ddParts ord context).splitOn ',' ++
            (otherMembers context).flatMap fun part => part.splitOn ',' :=
          Text.splitOn_append_flatMap ',' _ _
    _ = ("dd=".toList ++ ddParts ord context) :: otherMembers context := by
          simp only [List.splitOn_eq_singleton hdd, hothers, List.singleton_append]

theorem mapM_readMember {parts : List Str}
    (h : ∀ part ∈ parts, ∃ m, Tracestate.readMember part = some m) :
    parts.mapM Tracestate.readMember = some (parts.filterMap Tracestate.readMember) := by
  induction parts with
  | nil => rfl
  | cons part parts ih =>
      rcases h part (List.mem_cons_self ..) with ⟨m, hm⟩
      have hrest := ih fun q hq => h q (List.mem_cons_of_mem _ hq)
      simp [List.mapM_cons, hm, hrest]

theorem ddParts_ne_nil (context : InjectSpanContext) : ddParts ord context ≠ [] := by
  -- at least `s:` is there
  have hpos : 0 < headLength context := by
    unfold headLength
    cases context.origin with
    | none =>
        simp only
        omega
    | some origin =>
        simp only
        split <;> omega
  have hbefore : 0 < lengthBeforeTags context := by
    unfold lengthBeforeTags
    split <;> omega
  intro hnil
  have hzero : Text.utf8Len (ddPartsBeforeTags context) = 0 := by
    rw [ddParts_eq, List.append_eq_nil_iff] at hnil
    rw [hnil.1]
    rfl
  rw [utf8Len_ddPartsBeforeTags] at hzero
  omega

/-- If the parent id fits, so does the whole value. -/
theorem ddParts_fits {context : InjectSpanContext} (h : ParentIdFits context) :
    IsValueText (ddParts ord context) ∧ (ddParts ord context).length ≤ 256 := by
  rcases (parentIdFits_iff context).1 h with ⟨htext, hsize⟩
  have hwhole : IsValueText (ddParts ord context) := by
    rw [ddParts_eq, isValueText_append]
    exact ⟨htext, isValueText_tagsText _⟩
  refine ⟨hwhole, ?_⟩
  calc
    (ddParts ord context).length = Text.utf8Len (ddParts ord context) :=
          (utf8Len_of_isValueText hwhole).symm
    _ = lengthBeforeTags context + ((writtenTags ord context).map tagSize).sum := by
          rw [ddParts_eq, Text.utf8Len_append, utf8Len_ddPartsBeforeTags, utf8Len_tagsText]
    _ ≤ 256 := by
          -- the tags are written only if the whole stays below the limit
          rw [writtenTags]
          split
          · rename_i hfit
            exact Nat.le_of_lt hfit
          · simpa using hsize

/-- The header reads back as its value and the members of others. -/
theorem fromStr_tracestateHeader {context : InjectSpanContext} (h : ParentIdFits context) :
    Tracestate.fromStr (tracestateHeader ord context) =
      .ok (Tracestate.ofParts (some (Tracestate.readItems (ddParts ord context)))
        ((otherMembers context).filterMap Tracestate.readMember)) := by
  rcases ddParts_fits ord h with ⟨htext, hsize⟩
  have hdd := readMember_dd (ddParts_ne_nil ord context) htext hsize
  have hcomma : ',' ∉ ddParts ord context := fun hc => absurd (htext _ hc) (by decide)
  -- the other members are valid and none is ours, so that ours is the last of its key
  have hothers : ∀ m ∈ (otherMembers context).filterMap Tracestate.readMember,
      m.1 ≠ Tracestate.TRACESTATE_DD_KEY := by
    intro m hm
    rcases List.mem_filterMap.1 hm with ⟨part, hpart, hread⟩
    rcases (otherMembers_valid hpart).2 with ⟨m', hread', hkey⟩
    have hsame : m = m' := Option.some.inj (hread.symm.trans hread')
    exact hsame ▸ hkey
  have hfilter : ((otherMembers context).filterMap Tracestate.readMember).filter
      (fun m => m.1 = Tracestate.TRACESTATE_DD_KEY) = [] := by
    simpa [List.filter_eq_nil_iff] using hothers
  have hmapM : ((tracestateHeader ord context).splitOn ',').mapM Tracestate.readMember =
      some ((Tracestate.TRACESTATE_DD_KEY, ddParts ord context) ::
        (otherMembers context).filterMap Tracestate.readMember) := by
    rw [splitOn_tracestateHeader ord hcomma, mapM_readMember, List.filterMap_cons, hdd]
    intro part hpart
    rcases List.mem_cons.1 hpart with rfl | hmem
    · exact ⟨_, hdd⟩
    · rcases (otherMembers_valid hmem).2 with ⟨m, hm, -⟩
      exact ⟨m, hm⟩
  have hrest : ((otherMembers context).filterMap Tracestate.readMember).filter
      (fun m => m.1 ≠ Tracestate.TRACESTATE_DD_KEY) =
        (otherMembers context).filterMap Tracestate.readMember := by
    simpa [List.filter_eq_self] using hothers
  simp only [Tracestate.fromStr, hmapM, List.filter_cons, hfilter, hrest]
  simp

/-- What is asked of an injected header with this `dd` value. -/
structure WellFormed (header value : Str) : Prop where
  accepted : ∃ tracestate, Tracestate.fromStr header = .ok tracestate
  ddFirst : (header.splitOn ',').head? = some ("dd=".toList ++ value)
  text : IsValueText value
  size : Text.utf8Len value ≤ 256
  members : (header.splitOn ',').length ≤ 32

theorem wellFormed_iff (context : InjectSpanContext) :
    WellFormed (tracestateHeader ord context) (ddParts ord context) ↔ ParentIdFits context := by
  constructor
  · -- what is asked of the whole value is asked of its part before the tags
    intro h
    have htext := h.text
    have hsize := h.size
    rw [ddParts_eq, isValueText_append] at htext
    rw [ddParts_eq, Text.utf8Len_append, utf8Len_ddPartsBeforeTags] at hsize
    exact (parentIdFits_iff context).2 ⟨htext.1, Nat.le_of_add_right_le hsize⟩
  · intro h
    rcases ddParts_fits ord h with ⟨htext, hsize⟩
    have hparse := fromStr_tracestateHeader ord h
    have hcomma : ',' ∉ ddParts ord context := fun hc => absurd (htext _ hc) (by decide)
    have hsplit := splitOn_tracestateHeader ord hcomma
    exact
      { accepted := ⟨_, hparse⟩
        ddFirst := by rw [hsplit, List.head?_cons]
        text := htext
        size := by rwa [utf8Len_of_isValueText htext]
        members := by
          rw [hsplit, List.length_cons]
          exact Nat.succ_le_succ (length_otherMembers_le context) }

theorem get_inject (context : InjectSpanContext) :
    (inject ord context ∅).get TRACESTATE_KEY =
      if context.traceId ≠ 0 ∧ context.spanId ≠ 0 then some (tracestateHeader ord context)
      else none := by
  unfold inject
  split
  · simp [injectTracestate]
  · simp

/-- Every header that is injected is well formed exactly if the parent id fits. -/
theorem injected_wellFormed_iff (context : InjectSpanContext) :
    (∀ header, (inject ord context ∅).get TRACESTATE_KEY = some header →
      WellFormed header (ddParts ord context)) ↔
    (context.traceId ≠ 0 ∧ context.spanId ≠ 0 → ParentIdFits context) := by
  rw [get_inject]
  by_cases hids : context.traceId ≠ 0 ∧ context.spanId ≠ 0
  · rw [if_pos hids]
    constructor
    · intro h _
      exact (wellFormed_iff ord context).1 (h _ rfl)
    · intro h header hheader
      rw [← Option.some.inj hheader]
      exact (wellFormed_iff ord context).2 (h hids)
  · -- without ids no header is written
    rw [if_neg hids]
    constructor
    · intro _ hids'
      exact absurd hids' hids
    · intro _ header hheader
      cases hheader

/-- A context whose parent id came as `p:a~b`, which is read as `a=b`. -/
def forwardedContext : InjectSpanContext :=
  { traceId := 1
    spanId := 2
    sampling :=
      { priority := some Priority.autoKeep
        mechanism := none }
    origin := none
    tags := .ofPairs [(DATADOG_LAST_PARENT_ID_KEY, "a=b".toList)]
    isRemote := true
    tracestate := none }

theorem forwarded_header_rejected :
    ∃ header, (inject (.asStored Str Str) forwardedContext ∅).get TRACESTATE_KEY = some header ∧
      Tracestate.fromStr header = .error "Invalid tracestate".toList := by
  refine ⟨"dd=s:1;p:a=b".toList, ?_, ?_⟩
  · decide
  · rfl

end TraceContext
end Propagation
end DdTrace
