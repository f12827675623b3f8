import DdTrace.Lib.Text

/-!
# Config — the settings read by the tracer

The fields of the configuration that the registry, the sampler and the propagators read.
The sampling rules, which change while the tracer runs, are modelled with remote configuration.
-/

namespace DdTrace
namespace Core

open Lib

/-- A double, given by its bits. -/
abbrev F64 := BitVec 64

/-- The double `1.0`. -/
def F64.one : F64 := 0x3FF0000000000000

inductive TracePropagationStyle
  | datadog
  | traceContext
  | none
  deriving DecidableEq, Repr

def TracePropagationStyle.display : TracePropagationStyle → Str
  | .datadog => "datadog".toList
  | .traceContext => "tracecontext".toList
  | .none => "none".toList

structure Config where
  enabled : Bool
  tracePartialFlushEnabled : Bool
  tracePartialFlushMinSpans : Nat
  tracePropagationStyle : Option (List TracePropagationStyle)
  tracePropagationStyleExtract : Option (List TracePropagationStyle)
  tracePropagationStyleInject : Option (List TracePropagationStyle)
  tracePropagationExtractFirst : Bool
  datadogTagsMaxLength : Nat
  deriving DecidableEq, Repr

def DATADOG_TAGS_MAX_LENGTH : Nat := 512

def defaultConfig : Config :=
  { enabled := true
    tracePartialFlushEnabled := false
    tracePartialFlushMinSpans := 300
    tracePropagationStyle := some [.datadog, .traceContext]
    tracePropagationStyleExtract := none
    tracePropagationStyleInject := none
    tracePropagationExtractFirst := false
    datadogTagsMaxLength := DATADOG_TAGS_MAX_LENGTH }

end Core
end DdTrace
