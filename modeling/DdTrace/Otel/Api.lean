import DdTrace.Core.Config

/-!
# Api — the OpenTelemetry types the tracer works with

Trace ids are 16 bytes and span ids 8 bytes, read as big endian numbers.  Of a finished span the
model keeps what the processor and the exporter read; the counts of what the SDK dropped are not
among it.
-/

namespace DdTrace
namespace Otel

open DdTrace.Lib DdTrace.Core

abbrev TraceId := BitVec 128

abbrev SpanId := BitVec 64

/-- The flags of a span context, a `u8`; the lowest bit says that the span is sampled. -/
abbrev TraceFlags := BitVec 8

namespace TraceFlags

def sampled : TraceFlags := 1

def isSampled (flags : TraceFlags) : Bool := flags &&& sampled = sampled

end TraceFlags

/-- The members of a trace state in order; `none` is `TraceState::NONE`. -/
abbrev TraceState := Option (List (Str × Str))

namespace TraceState

/-- The members as `k=v`, joined with `,`. -/
def header (self : TraceState) : Str :=
  [','].intercalate ((self.getD []).map fun (k, v) => k ++ '=' :: v)

end TraceState

structure SpanContext where
  traceId : TraceId
  spanId : SpanId
  traceFlags : TraceFlags
  isRemote : Bool
  traceState : TraceState
  deriving DecidableEq

namespace SpanContext

/-- The context of a span that does not exist. -/
def empty : SpanContext :=
  { traceId := 0, spanId := 0, traceFlags := 0, isRemote := false, traceState := none }

def isValid (self : SpanContext) : Bool := self.traceId ≠ 0 ∧ self.spanId ≠ 0

end SpanContext

/-- A homogeneous array of attribute values. -/
inductive ArrayValue
  | bool (items : List Bool)
  | i64 (items : List Int64)
  | f64 (items : List F64)
  | string (items : List Str)
  deriving DecidableEq

/-- An attribute value. -/
inductive Value
  | bool (b : Bool)
  | i64 (i : Int64)
  | f64 (f : F64)
  | string (s : Str)
  | array (items : ArrayValue)
  deriving DecidableEq

structure KeyValue where
  key : Str
  value : Value
  deriving DecidableEq

inductive SpanKind
  | client
  | server
  | producer
  | consumer
  | internal
  deriving DecidableEq

inductive Status
  | unset
  | ok
  | error (description : Str)
  deriving DecidableEq

/-- A point in time, in nanoseconds since the Unix epoch. -/
abbrev SystemTime := Int

/-- Something that happened during a span. -/
structure SpanEvent where
  name : Str
  timestamp : SystemTime
  attributes : List KeyValue
  deriving DecidableEq

/-- A link of a span to another one. -/
structure Link where
  spanContext : SpanContext
  attributes : List KeyValue
  deriving DecidableEq

structure InstrumentationScope where
  name : Str
  version : Option Str
  attributes : List KeyValue
  deriving DecidableEq

/-- A finished span. -/
structure SpanData where
  spanContext : SpanContext
  parentSpanId : SpanId
  spanKind : SpanKind
  name : Str
  startTime : SystemTime
  endTime : SystemTime
  attributes : List KeyValue
  events : List SpanEvent
  links : List Link
  status : Status
  instrumentationScope : InstrumentationScope
  deriving DecidableEq

/-- A finished span of which only the ids are given. -/
def SpanData.ofIds (traceId : TraceId) (spanId : SpanId) : SpanData :=
  { spanContext :=
      { traceId := traceId
        spanId := spanId
        traceFlags := .sampled
        isRemote := false
        traceState := none }
    parentSpanId := 0
    spanKind := .internal
    name := []
    startTime := 0
    endTime := 0
    attributes := []
    events := []
    links := []
    status := .unset
    instrumentationScope := { name := [], version := none, attributes := [] } }

end Otel
end DdTrace
