import DdTrace.Propagation.Context
import DdTrace.Propagation.ReplaceChars

/-!
# TraceContext — the W3C headers

`inject` writes `traceparent` and `tracestate`.  The value of our tracestate member is assembled
piece by piece, each piece under its own size limit, before the members of other vendors follow.
`extract` reads both headers back; the sampled flag of `traceparent` has the last word about the
sampling priority.

The order in which the propagation tags are met is that of a hash map (`ord`).
-/

namespace DdTrace
namespace Propagation
namespace TraceContext

open DdTrace.Lib DdTrace.Core

def TRACESTATE_DD_KEY_MAX_LENGTH : Nat := 256
def TRACESTATE_DATADOG_PROPAGATION_TAG_PREFIX : Str := "t.".toList
def INVALID_CHAR_REPLACEMENT : Char := '_'

/-! ## Injection -/

/-- A range of byte characters. -/
def inRange (lo hi : Char) (b : UInt8) : Bool := lo.toNat ≤ b.toNat && b.toNat ≤ hi.toNat

/-- The bytes that are replaced in the key of a tag. -/
def invalidTagKey (b : UInt8) : Bool :=
  !(inRange '!' '+' b || inRange '-' '<' b || inRange '>' '~' b)

/-- The bytes that are replaced in the value of a tag, and in the origin. -/
def invalidTagValue (b : UInt8) : Bool :=
  !(inRange ' ' '+' b || inRange '-' ':' b || inRange '<' '}' b)

def injectTraceparent (context : InjectSpanContext) (carrier : Carrier) : Carrier :=
  let flags :=
    match context.sampling.priority with
    | some priority => if priority.isKeep then "01".toList else "00".toList
    | none => "00".toList
  let traceparent :=
    "00-".toList ++ Numeral.hexPadded 32 context.traceId.toNat ++ "-".toList ++
      Numeral.hexPadded 16 context.spanId.toNat ++ "-".toList ++ flags
  carrier.set TRACEPARENT_KEY traceparent

def sanitizedTagKey (keySuffix : Str) : Str :=
  replaceChars invalidTagKey INVALID_CHAR_REPLACEMENT keySuffix

def sanitizedTagValue (value : Str) : Str :=
  replaceChars invalidTagValue INVALID_CHAR_REPLACEMENT value

/-- A tag as an item of the `dd` value, with its separator. -/
def tagEntry (keySuffix value : Str) : Str :=
  ";t.".toList ++ sanitizedTagKey keySuffix ++ ":".toList ++
    encodeTagValue (sanitizedTagValue value)

/-- The loop over the tags: it ends at the first tag for which there is no room. -/
def appendDdPropagationTags : List (Str × Str) → Str → Str
  | [], tagsBuffer => tagsBuffer
  | (key, value) :: tags, tagsBuffer =>
      match Text.stripPrefix DATADOG_PROPAGATION_TAG_PREFIX key with
      | none => appendDdPropagationTags tags tagsBuffer
      | some keySuffix =>
          -- the first tag without room ends the loop
          let entry := tagEntry keySuffix value
          if Text.utf8Len tagsBuffer + Text.utf8Len entry > TRACESTATE_DD_KEY_MAX_LENGTH / 2 then
            tagsBuffer
          else appendDdPropagationTags tags (tagsBuffer ++ entry)

def samplingPart (context : InjectSpanContext) : Str :=
  "s:".toList ++ (context.sampling.priority.getD Priority.userKeep).display

def sanitizedOrigin (origin : Str) : Str :=
  let originEncoded := replaceChars invalidTagValue INVALID_CHAR_REPLACEMENT origin
  replaceChars (fun c => c == Text.byte '=') '~' originEncoded

/-- Add the origin if it is present and there is room for it. -/
def appendOrigin (context : InjectSpanContext) (ddParts : Str) : Str :=
  match context.origin with
  | none => ddParts
  | some origin =>
      let originEncoded := sanitizedOrigin origin
      if Text.utf8Len ddParts + 3 + Text.utf8Len originEncoded < TRACESTATE_DD_KEY_MAX_LENGTH then
        ddParts ++ ";o:".toList ++ originEncoded
      else ddParts

/-- The id of the last parent: our own, unless the context is remote and has one. -/
def lastParentId (context : InjectSpanContext) : Str :=
  let spanId := Numeral.hexPadded 16 context.spanId.toNat
  -- the tag is written as it is
  if context.isRemote then (context.tags.lookup DATADOG_LAST_PARENT_ID_KEY).getD spanId else spanId

/-- Add the last parent id if there is room for one of 16 digits. -/
def appendLastParentId (context : InjectSpanContext) (ddParts : Str) : Str :=
  let lastParentIdPartStart := Text.utf8Len ddParts + 3
  if lastParentIdPartStart + 16 < TRACESTATE_DD_KEY_MAX_LENGTH then
    ddParts ++ ";p:".toList ++ lastParentId context
  else ddParts

/-- The `dd` value in front of the tags. -/
def ddPartsBeforeTags (context : InjectSpanContext) : Str :=
  appendLastParentId context (appendOrigin context (samplingPart context))

variable (ord : IterOrder Str Str)

/-- The `dd` value: the tags are cut off again if there is no room for them. -/
def ddParts (context : InjectSpanContext) : Str :=
  let before := ddPartsBeforeTags context
  let tagsBuffer := appendDdPropagationTags (ord.iter context.tags) []
  if Text.utf8Len tagsBuffer = 0 ∨
      TRACESTATE_DD_KEY_MAX_LENGTH ≤ Text.utf8Len (before ++ tagsBuffer) then before
  else before ++ tagsBuffer

/-- The members of other vendors that are injected. -/
def otherMembers (context : InjectSpanContext) : List Str :=
  match context.tracestate with
  | some ts => ts.additionalValues.take 31
  | none => []

/-- The header: our member, then the others. -/
def tracestateHeader (context : InjectSpanContext) : Str :=
  "dd=".toList ++ ddParts ord context ++ (otherMembers context).flatMap fun part => ',' :: part

def injectTracestate (context : InjectSpanContext) (carrier : Carrier) : Carrier :=
  carrier.set TRACESTATE_KEY (tracestateHeader ord context)

def inject (context : InjectSpanContext) (carrier : Carrier) : Carrier :=
  if context.traceId ≠ 0 ∧ context.spanId ≠ 0 then
    injectTracestate ord context (injectTraceparent context carrier)
  else carrier

/-! ## Extraction -/

def takeChar (s : Str) (c : Char) : Option Str :=
  match s with
  | x :: rest => if x = c then some rest else none
  | [] => none

def isHexChar (c : Char) : Bool :=
  ('0'.toNat ≤ c.toNat && c.toNat ≤ '9'.toNat) || ('a'.toNat ≤ c.toNat && c.toNat ≤ 'f'.toNat)

/-- The first `n` characters, which have to be hexadecimal digits, and the rest. -/
def takeNHexChars (s : Str) (n : Nat) : Option (Str × Str) :=
  if (s.take n).length = n ∧ (s.take n).all isHexChar then some (s.take n, s.drop n) else none

structure TraceparentComponents where
  version : Str
  traceId : Str
  spanId : Str
  flags : Str
  tail : Str

def parseTraceparentComponents (traceparent : Str) : Option TraceparentComponents := do
  let (version, rest) ← takeNHexChars traceparent 2
  let rest ← takeChar rest '-'
  let (traceId, rest) ← takeNHexChars rest 32
  let rest ← takeChar rest '-'
  let (spanId, rest) ← takeNHexChars rest 16
  let rest ← takeChar rest '-'
  let (flags, rest) ← takeNHexChars rest 2
  let tail ← if rest.isEmpty then some [] else takeChar rest '-'
  some
    { version := version
      traceId := traceId
      spanId := spanId
      flags := flags
      tail := tail }

def extractTraceId (traceId : Str) : Except String (BitVec 128) :=
  match Numeral.parseUnsigned 16 (2 ^ 128) traceId with
  | none => .error "Failed to decode trace_id"
  | some traceId =>
      if traceId = 0 then .error "`0` value for trace_id is invalid"
      else .ok (BitVec.ofNat 128 traceId)

def extractSpanId (spanId : Str) : Except String (BitVec 64) :=
  match Numeral.parseUnsigned 16 (2 ^ 64) spanId with
  | none => .error "Failed to decode span_id"
  | some spanId =>
      if spanId = 0 then .error "`0` value for span_id is invalid"
      else .ok (BitVec.ofNat 64 spanId)

def extractTraceFlags (flags : Str) : Except String (BitVec 8) :=
  if Text.utf8Len flags ≠ 2 then .error "Invalid trace flags length"
  else
    match Numeral.parseUnsigned 16 (2 ^ 8) flags with
    | none => .error "Failed to decode trace_flags"
    | some flags => .ok (BitVec.ofNat 8 flags)

def extractVersion (version tail : Str) (traceFlags : BitVec 8) : Except String Unit :=
  if version = "ff".toList then .error "`ff` is an invalid traceparent version"
  else if version = "00".toList then
    if !tail.isEmpty then
      .error "Traceparent with version `00` should contain only 4 values delimited by `-`"
    else if traceFlags > 2 then .error "invalid trace flags for version 00"
    else .ok ()
  else .ok ()

def extractTraceparent (traceparent : Str) : Except String Traceparent := do
  let components ←
    match parseTraceparentComponents traceparent with
    | some components => .ok components
    | none => .error "invalid traceparent"
  let traceId ← extractTraceId components.traceId
  let spanId ← extractSpanId components.spanId
  let traceFlags ← extractTraceFlags components.flags
  extractVersion components.version components.tail traceFlags
  let isSampled := traceFlags &&& 1 = 1
  .ok
    { samplingPriority := if isSampled then Priority.autoKeep else Priority.autoReject
      traceId := traceId
      spanId := spanId }

/-- The priority, and the tags with the mechanism that goes with it. -/
def defineSamplingPriority (traceparentSamplingPriority : SamplingPriority)
    (tracestateSamplingPriority : Option SamplingPriority) (tags : Tags) :
    SamplingPriority × Tags :=
  let agreed := tracestateSamplingPriority.filter fun tsSp =>
    (traceparentSamplingPriority = Priority.autoKeep && tsSp.isKeep) ||
      (traceparentSamplingPriority = Priority.autoReject && !tsSp.isKeep)
  match agreed with
  | some tsSp => (tsSp, tags)
  | none =>
      -- The tracestate priority is missing, or disagrees with the traceparent.
      let tags :=
        if traceparentSamplingPriority = Priority.autoKeep then
          AList.insert SAMPLING_DECISION_MAKER_TAG_KEY Mechanism.default.toCow tags
        else if traceparentSamplingPriority = Priority.autoReject then
          AList.erase SAMPLING_DECISION_MAKER_TAG_KEY tags
        else tags
      (traceparentSamplingPriority, tags)

/-- The tags of a tracestate, with the prefix `t.` turned into `_dd.p.`. -/
def propagationTags (tracestate : Tracestate) : List (Str × Str) :=
  match tracestate.propagationTags with
  | none => []
  | some tags =>
      (ord.iter tags).filterMap fun (k, v) =>
        (Text.stripPrefix TRACESTATE_DATADOG_PROPAGATION_TAG_PREFIX k).map fun stripped =>
          (DATADOG_PROPAGATION_TAG_PREFIX ++ stripped, v)

/-- Insert pairs into tags, one after the other. -/
def insertAll (tags : Tags) (pairs : List (Str × Str)) : Tags :=
  pairs.foldl (fun tags pair => AList.insert pair.1 pair.2 tags) tags

def extract (carrier : Carrier) : Option SpanContext := do
  let tp := Text.trim (← carrier.get TRACEPARENT_KEY)
  let traceparent ← (extractTraceparent tp).toOption
  let tags : Tags := AList.insert TRACEPARENT_KEY tp ∅
  -- a tracestate that is refused counts as missing
  let found : Option (Str × Tracestate) := do
    let ts ← carrier.get TRACESTATE_KEY
    let tracestate ← (Tracestate.fromStr ts).toOption
    some (ts, tracestate)
  match found with
  | some (ts, tracestate) =>
      let tags := AList.insert TRACESTATE_KEY ts tags
      let tags := insertAll tags (propagationTags ord tracestate)
      let tags :=
        match tracestate.lowerOrderTraceId with
        | some lpid => AList.insert DATADOG_LAST_PARENT_ID_KEY lpid tags
        | none => tags
      let (samplingPriority, tags) :=
        defineSamplingPriority traceparent.samplingPriority
          (tracestate.sampling.bind fun sampling => sampling.priority) tags
      some
        { traceId := traceparent.traceId
          spanId := traceparent.spanId
          sampling :=
            { priority := some samplingPriority
              mechanism := (tags.lookup SAMPLING_DECISION_MAKER_TAG_KEY).bind
                SamplingMechanism.fromStr }
          origin := tracestate.origin
          tags := tags
          links := []
          isRemote := true
          tracestate := some tracestate }
  | none =>
      some
        { traceId := traceparent.traceId
          spanId := traceparent.spanId
          sampling :=
            { priority := some traceparent.samplingPriority
              mechanism := none }
          origin := none
          tags := tags
          links := []
          isRemote := true
          tracestate := none }

end TraceContext
end Propagation
end DdTrace
