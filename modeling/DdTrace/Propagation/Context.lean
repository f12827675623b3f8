import DdTrace.Core.Config
import DdTrace.Core.Sampling
import DdTrace.Lib.HashMap

/-!
# Context — the context that is propagated between services

A `SpanContext` is what an extractor reads from a carrier, an `InjectSpanContext` what an injector
writes to one.  A `Tracestate` is a list of members `key=value`, of which `dd` is ours: its value is
a list of items `key:value` separated by `;`.
-/

namespace DdTrace
namespace Propagation

open DdTrace.Lib DdTrace.Core

/-! ## Carrier -/

/-- The headers of a request. -/
abbrev Carrier := HashMap Str Str

namespace Carrier

/-- The names of headers are ASCII. -/
def toLowercase (key : Str) : Str := key.map Char.toLower

def set (self : Carrier) (key value : Str) : Carrier := AList.insert (toLowercase key) value self

def get (self : Carrier) (key : Str) : Option Str := self.lookup (toLowercase key)

theorem get_set (self : Carrier) (key key' value : Str) :
    (self.set key value).get key' =
      if toLowercase key' = toLowercase key then some value else self.get key' :=
  HashMap.lookup_insert_eq self (toLowercase key) (toLowercase key') value

@[simp] theorem get_set_self (self : Carrier) (key value : Str) :
    (self.set key value).get key = some value := by
  simp [get_set]

theorem get_set_ne {key key' : Str} (h : toLowercase key' ≠ toLowercase key) (self : Carrier)
    (value : Str) : (self.set key value).get key' = self.get key' := by
  simp [get_set, h]

@[simp] theorem get_empty (key : Str) : (∅ : Carrier).get key = none := by
  simp [get]

end Carrier

/-! ## Data -/

def DATADOG_PROPAGATION_TAG_PREFIX : Str := "_dd.p.".toList
def SAMPLING_DECISION_MAKER_TAG_KEY : Str := "_dd.p.dm".toList
def TRACEPARENT_KEY : Str := "traceparent".toList
def TRACESTATE_KEY : Str := "tracestate".toList
def DATADOG_LAST_PARENT_ID_KEY : Str := "_dd.parent_id".toList

structure Sampling where
  priority : Option SamplingPriority
  mechanism : Option SamplingMechanism
  deriving DecidableEq, Repr

abbrev Tags := HashMap Str Str

structure SpanLink where
  traceId : BitVec 64
  traceIdHigh : Option (BitVec 64)
  spanId : BitVec 64
  attributes : Option Tags
  tracestate : Option Str
  flags : Option (BitVec 32)

/-- A tracestate grabbed from the parent span. -/
structure InjectTraceState where
  header : Str

structure InjectSpanContext where
  traceId : BitVec 128
  spanId : BitVec 64
  sampling : Sampling
  origin : Option Str
  tags : Tags
  isRemote : Bool
  tracestate : Option InjectTraceState

structure Traceparent where
  samplingPriority : SamplingPriority
  traceId : BitVec 128
  spanId : BitVec 64

structure Tracestate where
  sampling : Option Sampling
  origin : Option Str
  lowerOrderTraceId : Option Str
  propagationTags : Option Tags
  additionalValues : Option (List (Str × Str))

structure SpanContext where
  traceId : BitVec 128
  spanId : BitVec 64
  sampling : Sampling
  origin : Option Str
  tags : Tags
  links : List SpanLink
  isRemote : Bool
  tracestate : Option Tracestate

/-! ## Trace ids -/

/-- The higher half, unless it is zero, and the lower half. -/
def splitTraceId (traceId : BitVec 128) : Option (BitVec 64) × BitVec 64 :=
  let traceIdLowerOrderBits := traceId.setWidth 64
  let higher := (traceId >>> 64).setWidth 64
  (if higher ≠ 0 then some higher else none, traceIdLowerOrderBits)

def combineTraceId (traceId : BitVec 64) (higherBitsHex : Option Str) : BitVec 128 :=
  match higherBitsHex.bind (Numeral.parseUnsigned 16 (2 ^ 64)) with
  | some higher => (BitVec.ofNat 128 higher <<< 64) + traceId.setWidth 128
  | none => traceId.setWidth 128

/-! ## Span links -/

namespace SpanLink

def new (context : SpanContext) (style : TracePropagationStyle) (attributes : Option Tags) :
    SpanLink :=
  let (traceIdHigh, traceId) := splitTraceId context.traceId
  { traceId := traceId
    traceIdHigh := traceIdHigh
    spanId := context.spanId
    attributes := attributes
    tracestate :=
      match style with
      | .traceContext => context.tags.lookup TRACESTATE_KEY
      | _ => none
    flags := context.sampling.priority.map fun priority => if priority.isKeep then 1 else 0 }

def terminatedContext (context : SpanContext) (style : TracePropagationStyle) : SpanLink :=
  new context style
    (some (.ofPairs
      [("reason".toList, "terminated_context".toList),
        ("context_headers".toList, style.display)]))

end SpanLink

/-! ## Tag values -/

def decodeTagValue (value : Str) : Str := value.map fun c => if c = '~' then '=' else c

def encodeTagValue (tag : Str) : Str := tag.map fun c => if c = '=' then '~' else c

/-! ## Tracestate -/

namespace Tracestate

def isAsciiLowercase (c : Char) : Bool := 'a'.toNat ≤ c.toNat && c.toNat ≤ 'z'.toNat

def isAsciiDigit (c : Char) : Bool := '0'.toNat ≤ c.toNat && c.toNat ≤ '9'.toNat

def allowedSpecial (c : Char) : Bool := c = '_' || c = '-' || c = '*' || c = '/'

/-- The loop of `valid_key` from position `i` on.  A character that is not ASCII fails in its first
byte, so that positions are those of characters. -/
def validKeyFrom (len : Nat) : Nat → Option Nat → Str → Bool
  | _, _, [] => true
  | i, vendorStart, c :: cs =>
      if !(isAsciiLowercase c || isAsciiDigit c || allowedSpecial c || c = '@') then false
      else if i = 0 && (!isAsciiLowercase c && !isAsciiDigit c) then false
      else if c = '@' then
        if vendorStart.isSome || i + 14 < len then false
        else validKeyFrom len (i + 1) (some i) cs
      else
        match vendorStart with
        | some start =>
            if i = start + 1 && !(isAsciiLowercase c || isAsciiDigit c) then false
            else validKeyFrom len (i + 1) vendorStart cs
        | none => validKeyFrom len (i + 1) vendorStart cs

def validKey (key : Str) : Bool :=
  if Text.utf8Len key > 256 then false else validKeyFrom (Text.utf8Len key) 0 none key

def validValue (value : Str) : Bool :=
  if Text.utf8Len value > 256 then false else !(value.contains ',' || value.contains '=')

/-- A member as key and value, if it is valid. -/
def readMember (v : Str) : Option (Str × Str) :=
  let (key, value) := (Text.splitOnce '=' v).getD ([], [])
  if !validKey key || value.isEmpty || !validValue value then none else some (key, value)

/-- The printable ASCII characters. -/
def isPrintable (c : Char) : Bool := ' '.toNat ≤ c.toNat && c.toNat ≤ '~'.toNat

/-- A property of the printable characters can be checked code by code. -/
theorem forall_isPrintable {P : Char → Prop}
    (h : ∀ n < 128, isPrintable (Char.ofNat n) = true → P (Char.ofNat n)) {c : Char}
    (hc : isPrintable c = true) : P c := by
  have hlt : c.toNat < 128 := by
    simp only [isPrintable, Bool.and_eq_true, decide_eq_true_eq] at hc
    exact lt_of_le_of_lt hc.2 (by decide)
  have hascii : Text.isAscii c = true := by simpa [Text.isAscii] using hlt
  exact Text.forall_isAscii (P := fun c => isPrintable c = true → P c) h hascii hc

/-- An item of the `dd` value; other items are skipped. -/
def readItem (item : Str) : Option (Str × Str) :=
  if item.all isPrintable then
    (Text.splitOnce ':' item).map fun (k, v) => (k, decodeTagValue v)
  else none

/-- The items of a `dd` value; the last one of each key counts. -/
def readItems (value : Str) : HashMap Str Str :=
  .ofPairs (((Text.trim value).splitOn ';').filterMap readItem)

def TRACESTATE_DD_KEY : Str := "dd".toList
def TRACESTATE_SAMPLING_PRIORITY_KEY : Str := "s".toList
def TRACESTATE_ORIGIN_KEY : Str := "o".toList
def TRACESTATE_LAST_PARENT_KEY : Str := "p".toList

/-- The tracestate of the items of the last `dd` member and of the other members.  The keys of the
items are distinct, so the loop over them meets each once. -/
def ofParts (dd : Option (HashMap Str Str)) (additionalValues : List (Str × Str)) : Tracestate :=
  { sampling := dd.map fun dd =>
      { priority := (dd.lookup TRACESTATE_SAMPLING_PRIORITY_KEY).bind SamplingPriority.fromStr
        mechanism := (dd.lookup "t.dm".toList).bind SamplingMechanism.fromStr }
    origin := dd.bind fun dd => dd.lookup TRACESTATE_ORIGIN_KEY
    lowerOrderTraceId := dd.bind fun dd => dd.lookup TRACESTATE_LAST_PARENT_KEY
    propagationTags := dd.map fun dd =>
      ((dd.erase TRACESTATE_SAMPLING_PRIORITY_KEY).erase TRACESTATE_ORIGIN_KEY).erase
        TRACESTATE_LAST_PARENT_KEY
    additionalValues := if additionalValues.isEmpty then none else some additionalValues }

/-- Fails if any member is invalid. -/
def fromStr (tracestate : Str) : Except Str Tracestate :=
  match (tracestate.splitOn ',').mapM readMember with
  | none => .error "Invalid tracestate".toList
  | some members =>
      let dd := (members.filter fun m => m.1 = TRACESTATE_DD_KEY).getLast?
      .ok (ofParts (dd.map fun m => readItems m.2)
        (members.filter fun m => m.1 ≠ TRACESTATE_DD_KEY))

/-- A header that parses has only members that can be read. -/
theorem exists_members_of_fromStr {header : Str} {tracestate : Tracestate}
    (h : fromStr header = .ok tracestate) :
    ∃ members, (header.splitOn ',').mapM readMember = some members ∧
      tracestate =
        ofParts (((members.filter fun m => m.1 = TRACESTATE_DD_KEY).getLast?).map fun m =>
            readItems m.2)
          (members.filter fun m => m.1 ≠ TRACESTATE_DD_KEY) := by
  unfold fromStr at h
  cases hmembers : (header.splitOn ',').mapM readMember with
  | none => simp [hmembers] at h
  | some members =>
      simp only [hmembers, Except.ok.injEq] at h
      exact ⟨members, rfl, h.symm⟩

end Tracestate

namespace InjectTraceState

/-- The members of the header that are injected: the valid ones that are not ours. -/
def additionalValues (self : InjectTraceState) : List Str :=
  (self.header.splitOn ',').filter fun part =>
    let (key, value) := (Text.splitOnce '=' part).getD (part, [])
    key ≠ Tracestate.TRACESTATE_DD_KEY && !value.isEmpty && Tracestate.validKey key &&
      Tracestate.validValue value

end InjectTraceState

end Propagation
end DdTrace
