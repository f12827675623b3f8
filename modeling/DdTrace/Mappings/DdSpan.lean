import DdTrace.Lib.Binary64
import DdTrace.Lib.Numeral
import DdTrace.Mappings.OtelUtil

/-!
# DdSpan — the exported span and how attributes are written to it

A datadog span has text tags (`metaTags`, the field `meta` of the source) and numeric tags
(`metrics`).  An attribute is written under the key that `getDdKeyForOtlpAttribute` gives it; some
keys set a field of the span instead, and the keys of `isMetaKey` are only written where nothing
stands yet.
-/

namespace DdTrace
namespace Mappings

open DdTrace.Lib DdTrace.Core DdTrace.Otel

/-! ## Data -/

/-- A value of a span event, or an element of one. -/
inductive DdScalarValue
  | string (s : Str)
  | boolean (b : Bool)
  | integer (i : Int64)
  | double (d : F64)

inductive DdAnyValue
  | singleValue (value : DdScalarValue)
  | array (values : List DdScalarValue)

structure DdSpanEvent where
  timeUnixNano : UInt64
  name : Str
  attributes : HashMap Str DdAnyValue

structure DdSpanLink where
  traceId : BitVec 64
  traceIdHigh : BitVec 64
  spanId : BitVec 64
  attributes : HashMap Str Str
  tracestate : Str
  flags : BitVec 32

structure DdSpan where
  service : Str
  name : Str
  resource : Str
  type : Str
  traceId : BitVec 64
  spanId : BitVec 64
  parentId : BitVec 64
  start : Int64
  duration : Int64
  error : Int32
  metaTags : HashMap Str Str
  metrics : HashMap Str F64
  spanLinks : List DdSpanLink
  spanEvents : List DdSpanEvent

/-! ## Values -/

variable (api : MappingApi)

/-- The text of an attribute value; zero and one print as integers. -/
def otelValueStringRepr : Value → Str
  | .bool b => if b then "true".toList else "false".toList
  | .i64 i => Numeral.intDecimal i.toInt
  | .f64 f =>
      if Binary64.isZero f then "0".toList
      else if f = F64.one then "1".toList
      else api.displayF64 f
  | .string s => s
  | .array items => api.arrayToString items

def otelValueToDdScalar : Value → DdAnyValue
  | .i64 i => .singleValue (.integer i)
  | .f64 f => .singleValue (.double f)
  | .bool b => .singleValue (.boolean b)
  | .array (.bool items) => .array (items.map .boolean)
  | .array (.i64 items) => .array (items.map .integer)
  | .array (.f64 items) => .array (items.map .double)
  | .array (.string items) => .array (items.map .string)
  | .string s => .singleValue (.string s)

def writeScalar : DdScalarValue → Str
  | .string s => s
  | .integer i => Numeral.intDecimal i.toInt
  | .double d => api.displayF64 d
  | .boolean b => if b then "true".toList else "false".toList

def ddValueToString : DdAnyValue → Str
  | .singleValue value => writeScalar api value
  | .array values => '[' :: [','].intercalate (values.map (writeScalar api)) ++ [']']

/-- The integer that a float is, unless it is too large; below the range it saturates. -/
def f64ToI64 (f : F64) : Option Int64 :=
  if f = Binary64.negInfinity then some Int64.minValue
  else (Binary64.toInt? f).bind fun i =>
    if i < 2 ^ 63 then some (Int64.ofInt (max i (-2 ^ 63))) else none

def valueI64 : Value → Option Int64
  | .i64 i => some i
  | .f64 f => f64ToI64 f
  | _ => none

/-! ## Tags -/

namespace DdSpan

def insertMeta (self : DdSpan) (k v : Str) : DdSpan :=
  { self with metaTags := AList.insert k v self.metaTags }

def insertMetric (self : DdSpan) (k : Str) (v : F64) : DdSpan :=
  { self with metrics := AList.insert k v self.metrics }

/-- A vacant entry is filled, unless the value is empty. -/
def fillMeta (self : DdSpan) (k v : Str) : DdSpan :=
  if (self.metaTags.lookup k).isNone ∧ !v.isEmpty then self.insertMeta k v else self

@[simp] theorem lookup_insertMeta_self (self : DdSpan) (k v : Str) :
    (self.insertMeta k v).metaTags.lookup k = some v :=
  AList.lookup_insert _

theorem lookup_insertMeta_ne {k k' : Str} (h : k' ≠ k) (self : DdSpan) (v : Str) :
    (self.insertMeta k v).metaTags.lookup k' = self.metaTags.lookup k' :=
  AList.lookup_insert_ne h

end DdSpan

/-! ## Attributes -/

def SAMPLING_RATE_EVENT_EXTRACTION_KEY : Str := "_dd1.sr.eausr".toList

def SAMPLING_PRIORITY_KEY : Str := "_sampling_priority_v1".toList

/-- The value of a `bool`. -/
def parseBool (s : Str) : Option Bool :=
  if s = "true".toList then some true else if s = "false".toList then some false else none

def setMetaOtlp (k v : Str) (ddSpan : DdSpan) : DdSpan :=
  if k = "operation.name".toList then { ddSpan with name := v }
  else if k = "service.name".toList then { ddSpan with service := v }
  else if k = "resource.name".toList then { ddSpan with resource := v }
  else if k = "span.type".toList then { ddSpan with type := v }
  else if k = "analytics.event".toList then
    match parseBool (api.toLowercase v) with
    | some parsed =>
        ddSpan.insertMetric SAMPLING_RATE_EVENT_EXTRACTION_KEY (if parsed then F64.one else 0)
    | none => ddSpan
  else ddSpan.insertMeta k v

/-- The keys that the `datadog.` attributes set. -/
def isMetaKey (key : Str) : Bool :=
  key = "env".toList || key = "version".toList || key = "http.status_code".toList ||
    key = "error.message".toList || key = "error.type".toList || key = "error.stack".toList

def setMetaOtlpWithSemconvMappings (k : Str) (value : Value) (ddSpan : DdSpan) : DdSpan :=
  let mappedKey := getDdKeyForOtlpAttribute k
  if mappedKey.isEmpty then ddSpan
  else if isMetaKey mappedKey ∧ (ddSpan.metaTags.lookup mappedKey).any fun v => !v.isEmpty then
    ddSpan
  else setMetaOtlp api mappedKey (otelValueStringRepr api value) ddSpan

def setMetricOtlp (k : Str) (v : F64) (ddSpan : DdSpan) : DdSpan :=
  if k = "sampling.priority".toList then ddSpan.insertMetric SAMPLING_PRIORITY_KEY v
  else ddSpan.insertMetric k v

def setMetricOtlpWithSemconvMappings (k : Str) (value : F64) (ddSpan : DdSpan) : DdSpan :=
  let mappedKey := getDdKeyForOtlpAttribute k
  if mappedKey.isEmpty then ddSpan
  else if isMetaKey mappedKey ∧ (ddSpan.metrics.lookup mappedKey).isSome then ddSpan
  else setMetricOtlp mappedKey value ddSpan

/-- One attribute of the span: numbers become metrics, everything else text. -/
def setAttribute (ddSpan : DdSpan) (kv : KeyValue) : DdSpan :=
  if "datadog.".toList.isPrefixOf kv.key then ddSpan
  else
    match kv.value with
    | .i64 v => setMetricOtlpWithSemconvMappings kv.key (Binary64.ofInt v.toInt) ddSpan
    | .f64 v => setMetricOtlpWithSemconvMappings kv.key v ddSpan
    | value => setMetaOtlpWithSemconvMappings api kv.key value ddSpan

/-! ## What an attribute writes

Under an internal key nothing is written but by the attributes of that key, and of these each one
overwrites the one before. -/

theorem isMetaKey_of_isInternalKey {k : Str} (h : IsInternalKey k) : isMetaKey k = false := by
  obtain ⟨rest, rfl⟩ := List.head?_eq_some_iff.1 h
  simp [isMetaKey]

theorem setMetaOtlp_of_isInternalKey {k : Str} (h : IsInternalKey k) (v : Str) (ddSpan : DdSpan) :
    setMetaOtlp api k v ddSpan = ddSpan.insertMeta k v := by
  obtain ⟨rest, rfl⟩ := List.head?_eq_some_iff.1 h
  simp [setMetaOtlp]

theorem lookup_setMetaOtlp_ne {k k' : Str} (h : k' ≠ k) (v : Str) (ddSpan : DdSpan) :
    (setMetaOtlp api k v ddSpan).metaTags.lookup k' = ddSpan.metaTags.lookup k' := by
  -- four keys set a field and one a metric
  simp only [setMetaOtlp]
  split_ifs
  · rfl
  · rfl
  · rfl
  · rfl
  · cases parseBool (api.toLowercase v) with
    | none => rfl
    | some parsed => rfl
  · exact DdSpan.lookup_insertMeta_ne h ddSpan v

theorem setMetaOtlpWithSemconvMappings_of_isInternalKey {k : Str} (h : IsInternalKey k)
    (value : Value) (ddSpan : DdSpan) :
    setMetaOtlpWithSemconvMappings api k value ddSpan =
      ddSpan.insertMeta k (otelValueStringRepr api value) := by
  have hne : k.isEmpty = false := by
    obtain ⟨rest, rfl⟩ := List.head?_eq_some_iff.1 h
    rfl
  simp only [setMetaOtlpWithSemconvMappings, getDdKeyForOtlpAttribute_of_isInternalKey h, hne,
    isMetaKey_of_isInternalKey h]
  exact setMetaOtlp_of_isInternalKey api h _ ddSpan

theorem lookup_setMetaOtlpWithSemconvMappings_ne {k k' : Str} (hk : IsInternalKey k')
    (h : k' ≠ k) (value : Value) (ddSpan : DdSpan) :
    (setMetaOtlpWithSemconvMappings api k value ddSpan).metaTags.lookup k' =
      ddSpan.metaTags.lookup k' := by
  have hmapped : k' ≠ getDdKeyForOtlpAttribute k := by
    intro heq
    exact h (heq.trans (getDdKeyForOtlpAttribute_eq (heq ▸ hk)))
  simp only [setMetaOtlpWithSemconvMappings]
  split_ifs
  · rfl
  · rfl
  · exact lookup_setMetaOtlp_ne api hmapped _ ddSpan

theorem metaTags_setMetricOtlpWithSemconvMappings (k : Str) (value : F64) (ddSpan : DdSpan) :
    (setMetricOtlpWithSemconvMappings k value ddSpan).metaTags = ddSpan.metaTags := by
  simp only [setMetricOtlpWithSemconvMappings, setMetricOtlp]
  split_ifs <;> rfl

theorem setMetricOtlpWithSemconvMappings_of_isInternalKey {k : Str} (h : IsInternalKey k)
    (value : F64) (ddSpan : DdSpan) :
    setMetricOtlpWithSemconvMappings k value ddSpan = ddSpan.insertMetric k value := by
  rw [setMetricOtlpWithSemconvMappings, getDdKeyForOtlpAttribute_of_isInternalKey h]
  simp only [isMetaKey_of_isInternalKey h]
  obtain ⟨rest, rfl⟩ := List.head?_eq_some_iff.1 h
  simp [setMetricOtlp]

theorem not_datadog_of_isInternalKey {k : Str} (h : IsInternalKey k) :
    "datadog.".toList.isPrefixOf k = false := by
  obtain ⟨rest, rfl⟩ := List.head?_eq_some_iff.1 h
  simp [List.isPrefixOf]

theorem lookup_setAttribute_ne {k : Str} (hk : IsInternalKey k) {kv : KeyValue} (h : kv.key ≠ k)
    (ddSpan : DdSpan) :
    (setAttribute api ddSpan kv).metaTags.lookup k = ddSpan.metaTags.lookup k := by
  rcases kv with ⟨key, value⟩
  simp only [setAttribute]
  split_ifs
  · rfl
  · cases value with
    | i64 v => rw [metaTags_setMetricOtlpWithSemconvMappings]
    | f64 v => rw [metaTags_setMetricOtlpWithSemconvMappings]
    | bool b => exact lookup_setMetaOtlpWithSemconvMappings_ne api hk (Ne.symm h) _ ddSpan
    | string s => exact lookup_setMetaOtlpWithSemconvMappings_ne api hk (Ne.symm h) _ ddSpan
    | array items => exact lookup_setMetaOtlpWithSemconvMappings_ne api hk (Ne.symm h) _ ddSpan

theorem setAttribute_string {k : Str} (h : IsInternalKey k) (v : Str) (ddSpan : DdSpan) :
    setAttribute api ddSpan { key := k, value := .string v } = ddSpan.insertMeta k v := by
  simp only [setAttribute, not_datadog_of_isInternalKey h]
  exact setMetaOtlpWithSemconvMappings_of_isInternalKey api h (.string v) ddSpan

theorem setAttribute_i64 {k : Str} (h : IsInternalKey k) (v : Int64) (ddSpan : DdSpan) :
    setAttribute api ddSpan { key := k, value := .i64 v } =
      ddSpan.insertMetric k (Binary64.ofInt v.toInt) := by
  simp only [setAttribute, not_datadog_of_isInternalKey h]
  exact setMetricOtlpWithSemconvMappings_of_isInternalKey h _ ddSpan

end Mappings
end DdTrace
