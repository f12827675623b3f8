import DdTrace.Lib.Machine
import DdTrace.Lib.Frame
import DdTrace.Lib.HashMap
import DdTrace.Lib.Text
import DdTrace.Lib.Utf8
import DdTrace.Lib.Numeral
import DdTrace.Lib.HexValue
import DdTrace.Lib.Binary64
import DdTrace.Lib.Binary64Product
import DdTrace.Lib.ShortestDecimal
import DdTrace.Lib.Glob
import DdTrace.Lib.LruCache
import DdTrace.Lib.Prefixes
import DdTrace.Lib.OddMultiplier
import DdTrace.Core.Config
import DdTrace.Core.Sampling
import DdTrace.Core.SamplingRules
import DdTrace.Core.ConfigSources
import DdTrace.Core.ConfigValues
import DdTrace.Core.RemoteConfig
import DdTrace.Core.RemoteConfigErrors
import DdTrace.Core.ApplyStates
import DdTrace.Core.CachedTargets
import DdTrace.Core.PollRuns
import DdTrace.Core.WorkerShutdown
import DdTrace.Core.ExtraServices
import DdTrace.TraceSampling.SamplingRule
import DdTrace.TraceSampling.RulesPrecedence
import DdTrace.TraceSampling.PolledRules
import DdTrace.TraceSampling.GlobMatcher
import DdTrace.TraceSampling.GlobCharacters
import DdTrace.TraceSampling.RateLimiter
import DdTrace.TraceSampling.TokenBucket
import DdTrace.TraceSampling.TokenBurst
import DdTrace.TraceSampling.LimiterBudget
import DdTrace.TraceSampling.LimiterRate
import DdTrace.TraceSampling.RateSampling
import DdTrace.TraceSampling.RateThreshold
import DdTrace.Propagation.Context
import DdTrace.Propagation.ReplaceChars
import DdTrace.Propagation.TraceContext
import DdTrace.Propagation.Datadog
import DdTrace.Propagation.Injection
import DdTrace.Propagation.TracestateHeader
import DdTrace.Propagation.RoundTrip
import DdTrace.Propagation.DatadogDecode
import DdTrace.Propagation.DatadogHop
import DdTrace.Propagation.InjectedPriority
import DdTrace.Propagation.TagSeparation
import DdTrace.Propagation.TraceContextHop
import DdTrace.Propagation.DatadogBaggage
import DdTrace.Propagation.SamplingReconciliation
import DdTrace.Propagation.TraceparentGrammar
import DdTrace.Propagation.TidGrammar
import DdTrace.Propagation.TidConsistency
import DdTrace.Propagation.DecisionMaker
import DdTrace.Otel.Api
import DdTrace.Otel.Registry
import DdTrace.Otel.RegistryRuns
import DdTrace.Otel.SpanConservation
import DdTrace.Otel.RootFirst
import DdTrace.Otel.TraceRegistry
import DdTrace.Otel.RegistryMetrics
import DdTrace.Otel.Sharding
import DdTrace.Otel.MetricsBalance
import DdTrace.Otel.SpanExporter
import DdTrace.Otel.ExporterRuns
import DdTrace.Otel.ResourceChange
import DdTrace.Otel.QueueInvariant
import DdTrace.Otel.ShutdownWait
import DdTrace.Otel.TextMapPropagator
import DdTrace.Otel.VendorMembers
import DdTrace.Otel.ContextLabels
import DdTrace.Otel.Sampler
import DdTrace.Otel.LimiterTag
import DdTrace.Otel.SpanProcessor
import DdTrace.Otel.Tracer
import DdTrace.Otel.Pipeline
import DdTrace.Otel.ServiceChain
import DdTrace.Mappings.AttributeKeys
import DdTrace.Mappings.OtelUtil
import DdTrace.Mappings.DdSpan
import DdTrace.Mappings.Transform
import DdTrace.Mappings.AttributeLookup
import DdTrace.Mappings.SpanFields
import DdTrace.Mappings.TagWrites
import DdTrace.Mappings.ExplicitTags
import DdTrace.TraceSampling.RuleMatching
import DdTrace.TraceSampling.IntegerTags
import DdTrace.Otel.DatadogSampler
import DdTrace.Otel.SamplerRuns
import DdTrace.Otel.SampledTracer
import DdTrace.Otel.DdtraceTransform
import DdTrace.Otel.DdResource
import DdTrace.Otel.ConfigBuilder
import DdTrace.Otel.ReportedConfig
import DdTrace.Otel.RulesSeeExported
import DdTrace.Otel.ServiceName
import DdTrace.Otel.GlobalTags
import DdTrace.Otel.ExportedLinks
import DdTrace.Otel.ContextResolution
import DdTrace.Otel.ExportedDecision
import DdTrace.Otel.SpansMetrics
import DdTrace.Otel.DiscoveredServices
