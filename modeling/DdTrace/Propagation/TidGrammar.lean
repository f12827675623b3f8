import DdTrace.Lib.HexValue
import DdTrace.Propagation.DatadogHop

/-!
# TidGrammar — the higher half of a trace id in the tags header

The tag `_dd.p.tid` should be sixteen hexadecimal digits.  The extractor checks the length and whether
the text can be parsed, and later parses it again.  The parser takes a leading plus sign, so a sign with
fifteen digits is accepted too.

`tidLaw_iff` says that the header is otherwise read as it should be: the tag is kept if its last entry is
well formed, the higher half of the trace id is its value or zero, and a bad entry is reported.
-/

namespace DdTrace
namespace Propagation
namespace Datadog

open DdTrace.Lib DdTrace.Core

/-! ## The grammar -/

/-- Sixteen hexadecimal digits. -/
def IsTid (value : Str) : Prop :=
  value.length = 16 ∧ ∀ c ∈ value, Numeral.isHexDigitAnyCase c = true

/-- A plus sign with fifteen digits. -/
def IsSignedTid (value : Str) : Prop :=
  ∃ digits, value = '+' :: digits ∧ digits.length = 15 ∧
    ∀ c ∈ digits, Numeral.isHexDigitAnyCase c = true

/-- The value of the last entry for the higher half. -/
def lastTid (header : Str) : Option Str :=
  ((((header.splitOn ',').filterMap (Text.splitOnce '=')).filter fun entry =>
    entry.1 = DATADOG_HIGHER_ORDER_TRACE_ID_BITS_KEY).getLast?).map Prod.snd

/-- How an accepted request is read whose header is not too long. -/
structure TidLaw (header : Str) (context : SpanContext) : Prop where
  kept : (context.tags.lookup DATADOG_HIGHER_ORDER_TRACE_ID_BITS_KEY).isSome ↔
    ∃ value, lastTid header = some value ∧ IsTid value
  value : ∀ value, lastTid header = some value → IsTid value →
    context.traceId.toNat / 2 ^ 64 = Numeral.hexValue value
  zero : (¬ ∃ value, lastTid header = some value ∧ IsTid value) →
    context.traceId.toNat / 2 ^ 64 = 0
  reported : ∀ value, lastTid header = some value → ¬ IsTid value →
    context.tags.lookup DATADOG_PROPAGATION_ERROR_KEY = some ("malformed_tid ".toList ++ value) ∨
      context.tags.lookup DATADOG_PROPAGATION_ERROR_KEY = some "decoding_error".toList

/-! ## The parser -/

theorem ne_plus_of_isHexDigitAnyCase {c : Char} (h : Numeral.isHexDigitAnyCase c = true) :
    c ≠ '+' := by
  intro hplus
  subst hplus
  revert h
  decide

theorem isTid_not_signed {value : Str} (h : IsTid value) : ¬ IsSignedTid value := by
  intro hsigned
  obtain ⟨digits, rfl, -⟩ := hsigned
  exact ne_plus_of_isHexDigitAnyCase (h.2 '+' (List.mem_cons_self ..)) rfl

theorem isAscii_of_isHexDigitAnyCase {c : Char} (h : Numeral.isHexDigitAnyCase c = true) :
    Text.isAscii c = true := by
  simp only [Numeral.isHexDigitAnyCase, Numeral.isHexDigit, Bool.or_eq_true, Bool.and_eq_true,
    decide_eq_true_eq] at h
  simp only [Text.isAscii, decide_eq_true_eq]
  omega

theorem utf8Len_of_hexDigits {digits : Str}
    (h : ∀ c ∈ digits, Numeral.isHexDigitAnyCase c = true) : Text.utf8Len digits = digits.length :=
  Text.utf8Len_of_isAscii fun c hc => isAscii_of_isHexDigitAnyCase (h c hc)

/-- Below `2 ^ 64` the digits are read. -/
theorem parseUnsigned_of_length {digits : Str} (hpos : digits ≠ []) (hlen : digits.length ≤ 16)
    (h : ∀ c ∈ digits, Numeral.isHexDigitAnyCase c = true) :
    Numeral.parseUnsigned 16 (2 ^ 64) digits = some (Numeral.hexValue digits) := by
  have hbound : Numeral.hexValue digits < 2 ^ 64 :=
    calc
      Numeral.hexValue digits < 16 ^ digits.length := Numeral.hexValue_lt h
      _ ≤ 16 ^ 16 := Nat.pow_le_pow_right (by decide) hlen
      _ = 2 ^ 64 := by decide
  exact Numeral.parseUnsigned_hexValue hpos h hbound

/-- A plus sign is read as nothing. -/
theorem parseUnsigned_plus {digits : Str}
    (h : ∀ c ∈ digits, Numeral.isHexDigitAnyCase c = true) :
    Numeral.parseUnsigned 16 (2 ^ 64) ('+' :: digits) =
      Numeral.parseUnsigned 16 (2 ^ 64) digits := by
  cases digits with
  | nil => rfl
  | cons c digits =>
      have hc : c ≠ '+' := ne_plus_of_isHexDigitAnyCase (h c (List.mem_cons_self ..))
      simp [Numeral.parseUnsigned, hc]

/-- What is parsed is digits, behind a plus sign if there is one. -/
theorem digits_of_parseUnsigned {value : Str}
    (h : (Numeral.parseUnsigned 16 (2 ^ 64) value).isSome) :
    (∀ c ∈ value, Numeral.isHexDigitAnyCase c = true) ∨
      ∃ digits, value = '+' :: digits ∧ ∀ c ∈ digits, Numeral.isHexDigitAnyCase c = true := by
  have hdigits : ∀ s, ((Numeral.parseDigits 16 s).filter (· < 2 ^ 64)).isSome →
      ∀ c ∈ s, Numeral.isHexDigitAnyCase c = true := by
    intro s hs
    obtain ⟨n, hn⟩ := Option.isSome_iff_exists.1 hs
    have hsome : (Numeral.parseDigits 16 s).isSome :=
      Option.isSome_iff_exists.2 ⟨n, (Option.filter_eq_some_iff.1 hn).1⟩
    unfold Numeral.parseDigits at hsome
    rw [Numeral.digitsValue_eq_hexValue] at hsome
    split_ifs at hsome with hnil hall
    · cases hsome
    · exact List.all_eq_true.1 hall
    · cases hsome
  unfold Numeral.parseUnsigned at h
  split at h
  · rename_i digits
    exact .inr ⟨digits, rfl, hdigits digits h⟩
  · exact .inl (hdigits value h)

/-- The check of the extractor lets the signed texts through. -/
theorem higherOrderBitsValid_iff (value : Str) :
    higherOrderBitsValid value = true ↔ IsTid value ∨ IsSignedTid value := by
  constructor
  · intro h
    -- sixteen bytes of ASCII are sixteen characters
    have hlen := utf8Len_of_higherOrderBitsValid h
    have hparsed : (Numeral.parseUnsigned 16 (2 ^ 64) value).isSome := by
      unfold higherOrderBitsValid at h
      rwa [if_neg (by simp [hlen])] at h
    rcases digits_of_parseUnsigned hparsed with hdigits | ⟨digits, rfl, hdigits⟩
    · rw [utf8Len_of_hexDigits hdigits] at hlen
      exact .inl ⟨hlen, hdigits⟩
    · have hplus : '+'.utf8Size = 1 := by decide
      rw [Text.utf8Len_cons, hplus, utf8Len_of_hexDigits hdigits] at hlen
      exact .inr ⟨digits, rfl, by omega, hdigits⟩
  · intro h
    unfold higherOrderBitsValid
    rcases h with ⟨hlen, hdigits⟩ | ⟨digits, rfl, hlen, hdigits⟩
    · have hne : value ≠ [] := List.ne_nil_of_length_pos (by omega)
      rw [utf8Len_of_hexDigits hdigits, if_neg (by omega),
        parseUnsigned_of_length hne (by omega) hdigits]
      rfl
    · have hne : digits ≠ [] := List.ne_nil_of_length_pos (by omega)
      have hplus : '+'.utf8Size = 1 := by decide
      rw [Text.utf8Len_cons, hplus, utf8Len_of_hexDigits hdigits, if_neg (by omega),
        parseUnsigned_plus hdigits, parseUnsigned_of_length hne (by omega) hdigits]
      rfl

/-! ## The tags -/

variable {carrier : Carrier} {maxLength : Nat}

theorem extractTags_of_le (hlen : Text.utf8Len (tagsHeader carrier) ≤ maxLength) :
    extractTags carrier maxLength =
      validateSamplingDecision (validateTraceIdTag (.ofPairs (readPairs (tagsHeader carrier)))) :=
  if_neg (Nat.not_lt.2 hlen)

/-- Among the pairs that are read, the last one of the key is the last entry. -/
theorem lookup_ofPairs_readPairs (header : Str) :
    (HashMap.ofPairs (readPairs header)).lookup DATADOG_HIGHER_ORDER_TRACE_ID_BITS_KEY =
      lastTid header := by
  have hfilter : ∀ entry : Str × Str,
      (decide (entry.1 = DATADOG_HIGHER_ORDER_TRACE_ID_BITS_KEY) && isPropagationTag entry) =
        decide (entry.1 = DATADOG_HIGHER_ORDER_TRACE_ID_BITS_KEY) := by
    intro entry
    by_cases hkey : entry.1 = DATADOG_HIGHER_ORDER_TRACE_ID_BITS_KEY
    · simp [isPropagationTag, hkey, prefix_tid]
    · simp [hkey]
  rw [HashMap.lookup_ofPairs, readPairs, List.filter_filter, lastTid]
  simp only [hfilter]

/-- The tag is the last entry, if that passes the check. -/
theorem lookup_tid (hlen : Text.utf8Len (tagsHeader carrier) ≤ maxLength) :
    (extractTags carrier maxLength).lookup DATADOG_HIGHER_ORDER_TRACE_ID_BITS_KEY =
      (lastTid (tagsHeader carrier)).filter higherOrderBitsValid := by
  rw [extractTags_of_le hlen, lookup_validateSamplingDecision, ← lookup_ofPairs_readPairs]
  unfold validateTraceIdTag
  split
  · rename_i bits hbits
    split
    · rename_i hvalid
      rw [hbits, Option.filter_some_pos hvalid]
    · rename_i hinvalid
      rw [HashMap.lookup_erase_eq, if_pos rfl, hbits,
        Option.filter_some_neg (Bool.not_eq_true _ ▸ hinvalid)]
  · rename_i hnone
    rw [hnone]
    rfl

/-- An entry that does not pass is reported, unless the decision maker does not pass either. -/
theorem lookup_error (hlen : Text.utf8Len (tagsHeader carrier) ≤ maxLength) {value : Str}
    (hvalue : lastTid (tagsHeader carrier) = some value) (hinvalid : ¬ higherOrderBitsValid value) :
    (extractTags carrier maxLength).lookup DATADOG_PROPAGATION_ERROR_KEY =
        some ("malformed_tid ".toList ++ value) ∨
      (extractTags carrier maxLength).lookup DATADOG_PROPAGATION_ERROR_KEY =
        some "decoding_error".toList := by
  have hne : DATADOG_PROPAGATION_ERROR_KEY ≠ DATADOG_HIGHER_ORDER_TRACE_ID_BITS_KEY := by decide
  rw [extractTags_of_le hlen, validateSamplingDecision_eq]
  split
  · left
    unfold validateTraceIdTag
    rw [lookup_ofPairs_readPairs, hvalue]
    simp only [if_neg hinvalid]
    rw [HashMap.lookup_erase_eq, if_neg hne, HashMap.lookup_insert_eq, if_pos rfl]
  · right
    rw [HashMap.lookup_insert_eq, if_pos rfl]

/-! ## The trace id -/

/-- The higher half is what the tag is parsed to. -/
theorem higher_combineTraceId (lower : BitVec 64) (bits : Option Str) :
    (combineTraceId lower bits).toNat / 2 ^ 64 =
      (bits.bind (Numeral.parseUnsigned 16 (2 ^ 64))).getD 0 := by
  -- the lower half is below the divisor, so that nothing of it is left
  have hlower := lower.isLt
  unfold combineTraceId
  cases hparsed : bits.bind (Numeral.parseUnsigned 16 (2 ^ 64)) with
  | none =>
      simp
      omega
  | some higher =>
      have hhigher : higher < 2 ^ 64 := by
        obtain ⟨value, -, hvalue⟩ := Option.bind_eq_some_iff.1 hparsed
        simpa using (Option.filter_eq_some_iff.1 hvalue).2
      simp [BitVec.toNat_add, Nat.shiftLeft_eq]
      omega

/-! ## The law -/

section Law

variable {config : Config} {context : SpanContext}
  (hextract : extract carrier config = some context)
  (hlen : Text.utf8Len (tagsHeader carrier) ≤ config.datadogTagsMaxLength)
include hextract hlen

theorem lookup_tid_of_extract :
    context.tags.lookup DATADOG_HIGHER_ORDER_TRACE_ID_BITS_KEY =
      (lastTid (tagsHeader carrier)).filter higherOrderBitsValid := by
  rw [(ids_of_extract hextract).1]
  exact lookup_tid hlen

/-- Without a sign the check of the extractor is the grammar. -/
theorem tidLaw_of_not_signed
    (h : ∀ value, lastTid (tagsHeader carrier) = some value → ¬ IsSignedTid value) :
    TidLaw (tagsHeader carrier) context := by
  obtain ⟨htags, lower, htraceId⟩ := ids_of_extract hextract
  have htid := lookup_tid_of_extract hextract hlen
  have hvalid : ∀ value, lastTid (tagsHeader carrier) = some value →
      (higherOrderBitsValid value = true ↔ IsTid value) := by
    intro value hvalue
    rw [higherOrderBitsValid_iff]
    exact or_iff_left (h value hvalue)
  have hkept : ∀ value, lastTid (tagsHeader carrier) = some value → IsTid value →
      context.tags.lookup DATADOG_HIGHER_ORDER_TRACE_ID_BITS_KEY = some value := by
    intro value hvalue hdigits
    rw [htid, hvalue]
    exact Option.filter_some_pos ((hvalid value hvalue).2 hdigits)
  have hnone : (¬ ∃ value, lastTid (tagsHeader carrier) = some value ∧ IsTid value) →
      context.tags.lookup DATADOG_HIGHER_ORDER_TRACE_ID_BITS_KEY = none := by
    intro hbad
    rw [htid, Option.filter_eq_none_iff]
    intro value hvalue hpasses
    exact hbad ⟨value, hvalue, (hvalid value hvalue).1 hpasses⟩
  refine
    { kept := ?_
      value := ?_
      zero := ?_
      reported := ?_ }
  · constructor
    · intro hsome
      by_contra hbad
      rw [hnone hbad] at hsome
      cases hsome
    · rintro ⟨value, hvalue, hdigits⟩
      rw [hkept value hvalue hdigits]
      rfl
  · intro value hvalue hdigits
    have hne : value ≠ [] := List.ne_nil_of_length_pos (by rw [hdigits.1]; decide)
    rw [htraceId, higher_combineTraceId, hkept value hvalue hdigits, Option.bind_some,
      parseUnsigned_of_length hne hdigits.1.le hdigits.2]
    rfl
  · intro hbad
    rw [htraceId, higher_combineTraceId, hnone hbad]
    rfl
  · intro value hvalue hbad
    rw [htags]
    exact lookup_error hlen hvalue fun hpasses => hbad ((hvalid value hvalue).1 hpasses)

/-- A signed text passes the check, and so it is kept. -/
theorem not_tidLaw_of_signed {value : Str} (hvalue : lastTid (tagsHeader carrier) = some value)
    (hsigned : IsSignedTid value) : ¬ TidLaw (tagsHeader carrier) context := by
  intro h
  have htid := lookup_tid_of_extract hextract hlen
  have hvalid : higherOrderBitsValid value := (higherOrderBitsValid_iff value).2 (.inr hsigned)
  rw [hvalue, Option.filter_some_pos hvalid] at htid
  obtain ⟨value', hvalue', hdigits⟩ := h.kept.1 (Option.isSome_iff_exists.2 ⟨value, htid⟩)
  obtain rfl : value = value' := Option.some.inj (hvalue.symm.trans hvalue')
  exact isTid_not_signed hdigits hsigned

end Law

/-- The header is read as it should be, unless its last entry is a signed text. -/
theorem tidLaw_iff {config : Config} {context : SpanContext}
    (hextract : extract carrier config = some context)
    (hlen : Text.utf8Len (tagsHeader carrier) ≤ config.datadogTagsMaxLength) :
    TidLaw (tagsHeader carrier) context ↔
      ∀ value, lastTid (tagsHeader carrier) = some value → ¬ IsSignedTid value := by
  constructor
  · intro h value hvalue hsigned
    exact not_tidLaw_of_signed hextract hlen hvalue hsigned h
  · exact tidLaw_of_not_signed hextract hlen

/-- A request whose higher half has the given text. -/
def tidCarrier (value : Str) : Carrier :=
  .ofPairs [(DATADOG_TRACE_ID_KEY, "1".toList), (DATADOG_TAGS_KEY, "_dd.p.tid=".toList ++ value)]

theorem tidLaw_digits :
    ∃ context, extract (tidCarrier "640CFD8D00000000".toList) defaultConfig = some context ∧
      TidLaw (tagsHeader (tidCarrier "640CFD8D00000000".toList)) context := by
  have hlast : lastTid (tagsHeader (tidCarrier "640CFD8D00000000".toList)) =
      some "640CFD8D00000000".toList := by
    decide
  obtain ⟨context, hextract⟩ := Option.isSome_iff_exists.1
    (show (extract (tidCarrier "640CFD8D00000000".toList) defaultConfig).isSome by rfl)
  refine ⟨context, hextract, (tidLaw_iff hextract (by decide)).2 ?_⟩
  rintro value hvalue ⟨digits, rfl, -⟩
  rw [hlast] at hvalue
  cases hvalue

/-- A plus sign with fifteen digits is kept. -/
theorem signed_tid_kept :
    ∃ context, extract (tidCarrier "+000000000000001".toList) defaultConfig = some context ∧
      Text.utf8Len (tagsHeader (tidCarrier "+000000000000001".toList)) ≤
        defaultConfig.datadogTagsMaxLength ∧
      ¬ TidLaw (tagsHeader (tidCarrier "+000000000000001".toList)) context := by
  have hlast : lastTid (tagsHeader (tidCarrier "+000000000000001".toList)) =
      some "+000000000000001".toList := by
    decide
  have hkept : (extract (tidCarrier "+000000000000001".toList) defaultConfig).map
      (fun context => (context.tags.lookup DATADOG_HIGHER_ORDER_TRACE_ID_BITS_KEY).isSome) =
        some true := by
    rfl
  obtain ⟨context, hextract, hsome⟩ := Option.map_eq_some_iff.1 hkept
  refine ⟨context, hextract, by decide, ?_⟩
  intro h
  obtain ⟨value, hvalue, hdigits⟩ := h.kept.1 hsome
  rw [hlast] at hvalue
  cases hvalue
  exact ne_plus_of_isHexDigitAnyCase (hdigits.2 '+' (List.mem_cons_self ..)) rfl

end Datadog
end Propagation
end DdTrace
