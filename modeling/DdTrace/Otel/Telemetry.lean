import DdTrace.Lib.Machine
import DdTrace.Otel.ReportedConfig

/-!
# Telemetry — what the telemetry worker is told

Telemetry is set up once, by the first configuration, and its handle stands behind a lock.  The handle
registers the context of a metric with the worker when the first point of the metric is added, and from
then on adds points under the key that the worker gave out.

`TelemetryMode` is what all this is for: nothing is told before the start, nothing after it if telemetry
is disabled, and else every point under its metric.  `telemetry_refines` says that the handle with its
keys does that, whatever calls come from whatever threads, and registers no context twice.
-/

namespace DdTrace
namespace Otel

open DdTrace.Lib DdTrace.Core

/-! ## Metrics -/

/-- The namespace and the type that the metrics of the tracer have. -/
inductive MetricNamespace
  | tracers
  deriving DecidableEq

inductive MetricType
  | count
  deriving DecidableEq

/-- What a metric is called by the worker. -/
structure MetricInfo where
  name : Str
  space : MetricNamespace
  type : MetricType
  tags : List (Str × Str)
  deriving DecidableEq

inductive TelemetryMetric
  | spansCreated
  | spansFinished
  | spansEnqueuedForSerialization
  | spansDroppedBufferFull
  | traceSegmentsCreated
  | traceSegmentsClosed
  | tracePartialFlushCount
  deriving DecidableEq

namespace TelemetryMetric

def ALL : List TelemetryMetric :=
  [spansCreated, spansFinished, spansEnqueuedForSerialization, spansDroppedBufferFull,
    traceSegmentsCreated, traceSegmentsClosed, tracePartialFlushCount]

theorem mem_ALL (self : TelemetryMetric) : self ∈ ALL := by
  cases self <;> simp [ALL]

def ddtelemetryMetricInfo : TelemetryMetric → MetricInfo
  | spansCreated => ⟨"spans_created".toList, .tracers, .count, []⟩
  | spansFinished => ⟨"spans_finished".toList, .tracers, .count, []⟩
  | spansEnqueuedForSerialization =>
      ⟨"spans_enqueued_for_serialization".toList, .tracers, .count, []⟩
  | spansDroppedBufferFull =>
      ⟨"spans_dropped".toList, .tracers, .count, [("reason".toList, "overfull_buffer".toList)]⟩
  | traceSegmentsCreated => ⟨"trace_segments_created".toList, .tracers, .count, []⟩
  | traceSegmentsClosed => ⟨"trace_segments_closed".toList, .tracers, .count, []⟩
  | tracePartialFlushCount => ⟨"trace_partial_flush.count".toList, .tracers, .count, []⟩

theorem ddtelemetryMetricInfo_injective : Function.Injective ddtelemetryMetricInfo := by
  intro a b
  cases a <;> cases b <;> decide

end TelemetryMetric

def TELEMETRY_METRICS_COUNT : Nat := TelemetryMetric.ALL.length

def TelemetryMetric.idx (self : TelemetryMetric) : Fin TELEMETRY_METRICS_COUNT :=
  ⟨TelemetryMetric.ALL.idxOf self, List.idxOf_lt_length_of_mem self.mem_ALL⟩

theorem TelemetryMetric.idx_injective : Function.Injective TelemetryMetric.idx := by
  intro a b h
  exact (List.idxOf_inj a.mem_ALL).1 (Fin.mk.inj h)

/-! ## The worker -/

/-- What the handle asks of the worker.  A key stands for a context that was registered. -/
inductive WorkerCall (K : Type*)
  | addConfig (configuration : Configuration)
  | sendStart
  | sendStop
  | registerMetricContext (info : MetricInfo)
  | addPoint (value : F64) (key : K)
  -- the message is also the identifier of the log, and the level is that of an error
  | addLog (message : Str) (stackTrace : Option Str)

/-- The contexts of the worker, which another crate keeps: a registration gives out a key. -/
structure MetricContexts (W K : Type*) where
  registerMetricContext : W → MetricInfo → K × W
  info : W → K → Option MetricInfo

/-- A new context gets a key of its own, and the others stay as they are. -/
structure MetricContexts.Lawful {W K : Type*} (api : MetricContexts W K) : Prop where
  fresh : ∀ worker info, api.info worker (api.registerMetricContext worker info).1 = none
  registered : ∀ worker info, api.info (api.registerMetricContext worker info).2
    (api.registerMetricContext worker info).1 = some info
  kept : ∀ worker info key, key ≠ (api.registerMetricContext worker info).1 →
    api.info (api.registerMetricContext worker info).2 key = api.info worker key

/-! ## The handle -/

/-- The keys that the handle has. -/
structure TelemetryHandleWrapper (K : Type*) where
  metricsContext : Fin TELEMETRY_METRICS_COUNT → Option K

namespace TelemetryHandleWrapper

variable {W K : Type*} (api : MetricContexts W K)

def new : TelemetryHandleWrapper K := { metricsContext := fun _ => none }

/-- The cell of a metric is set. -/
def setContext (self : TelemetryHandleWrapper K) (metric : TelemetryMetric) (key : K) :
    TelemetryHandleWrapper K :=
  { metricsContext := Function.update self.metricsContext metric.idx (some key) }

/-- Each metric has a cell of its own. -/
theorem metricsContext_setContext (self : TelemetryHandleWrapper K) (metric metric' : TelemetryMetric)
    (key : K) :
    (self.setContext metric key).metricsContext metric'.idx =
      if metric' = metric then some key else self.metricsContext metric'.idx := by
  unfold setContext
  by_cases h : metric' = metric
  · rw [h, if_pos rfl]
    exact Function.update_self ..
  · rw [if_neg h]
    exact Function.update_of_ne (fun hidx => h (TelemetryMetric.idx_injective hidx)) ..

def addPoint (self : TelemetryHandleWrapper K) (worker : W) (value : F64)
    (metric : TelemetryMetric) : TelemetryHandleWrapper K × W × List (WorkerCall K) :=
  match self.metricsContext metric.idx with
  | some key => (self, worker, [.addPoint value key])
  | none =>
      -- the first point of the metric
      let (key, worker) := api.registerMetricContext worker metric.ddtelemetryMetricInfo
      (self.setContext metric key, worker,
        [.registerMetricContext metric.ddtelemetryMetricInfo, .addPoint value key])

/-- The points of a call, one after the other. -/
def addPoints (self : TelemetryHandleWrapper K) (worker : W) :
    List (F64 × TelemetryMetric) → TelemetryHandleWrapper K × W × List (WorkerCall K)
  | [] => (self, worker, [])
  | (value, metric) :: points =>
      let (self, worker, calls) := self.addPoint api worker value metric
      let (self, worker, rest) := self.addPoints worker points
      (self, worker, calls ++ rest)

end TelemetryHandleWrapper

/-! ## Telemetry -/

structure Telemetry (K : Type*) where
  handle : Option (TelemetryHandleWrapper K)
  enabled : Bool
  logCollectionEnabled : Bool

def Telemetry.default {K : Type*} : Telemetry K :=
  { handle := none
    enabled := false
    logCollectionEnabled := false }

/-- A value behind a lock, which is poisoned once a thread panics with the lock in its hands. -/
structure Locked (α : Type*) where
  value : α
  poisoned : Bool

/-- The cell, which is set once, and the worker. -/
structure TelemetrySystem (W K : Type*) where
  cell : Option (Locked (Telemetry K))
  worker : W

inductive TelemetryEvent
  /-- `started` says whether the worker could be started. -/
  | initTelemetry (config : ConfigItems) (started : Bool)
  | stopTelemetry
  | addPoints (points : List (F64 × TelemetryMetric))
  | addPoint (value : F64) (metric : TelemetryMetric)
  | addLogError (message : Str) (stack : Option Str)
  | notifyConfigurationUpdate (configuration : Configuration)
  /-- A thread panics while it has the lock. -/
  | poison

namespace TelemetrySystem

variable {W K : Type*}

def new (worker : W) : TelemetrySystem W K :=
  { cell := none
    worker := worker }

/-- Nothing happens where there is no handle to be had, or telemetry is disabled. -/
def withTelemetryHandle (self : TelemetrySystem W K)
    (f : TelemetryHandleWrapper K → Bool → TelemetryHandleWrapper K × W × List (WorkerCall K)) :
    TelemetrySystem W K × List (WorkerCall K) :=
  match self.cell with
  | none => (self, [])
  | some ⟨telemetry, poisoned⟩ =>
      -- a poisoned lock is not an error here: the call is dropped
      if poisoned then (self, [])
      else if !telemetry.enabled then (self, [])
      else
        match telemetry.handle with
        | none => (self, [])
        | some handle =>
            let (handle, worker, calls) := f handle telemetry.logCollectionEnabled
            ({ cell := some ⟨{ telemetry with handle := some handle }, poisoned⟩
               worker := worker }, calls)

variable (configApi : ConfigApi) (api : MetricContexts W K)

/-- Only the first call does anything.  The start is sent also where telemetry is disabled. -/
def initTelemetry (self : TelemetrySystem W K) (config : ConfigItems) (started : Bool) :
    TelemetrySystem W K × List (WorkerCall K) :=
  match self.cell with
  | some _ => (self, [])
  | none =>
      if started then
        let telemetry : Telemetry K :=
          { handle := some .new
            enabled := config.value .telemetryEnabled
            logCollectionEnabled := config.value .telemetryLogCollectionEnabled }
        ({ self with cell := some ⟨telemetry, false⟩ },
          (config.getTelemetryConfiguration configApi).map .addConfig ++ [.sendStart])
      -- the cell is set all the same, so that no later call tries again
      else ({ self with cell := some ⟨.default, false⟩ }, [])

/-- The calls, from any threads; the lock puts them in an order. -/
def machine : Machine (TelemetrySystem W K) TelemetryEvent (List (WorkerCall K)) :=
  fun self event =>
    match event with
    | .initTelemetry config started => some (self.initTelemetry configApi config started)
    | .stopTelemetry =>
        some (self.withTelemetryHandle fun handle _ => (handle, self.worker, [.sendStop]))
    | .addPoints points =>
        some (self.withTelemetryHandle fun handle _ => handle.addPoints api self.worker points)
    | .addPoint value metric =>
        some (self.withTelemetryHandle fun handle _ => handle.addPoint api self.worker value metric)
    | .addLogError message stack =>
        -- the calls that the log makes come here too
        some (self.withTelemetryHandle fun handle logCollectionEnabled =>
          (handle, self.worker, if logCollectionEnabled then [.addLog message stack] else []))
    | .notifyConfigurationUpdate configuration =>
        some (self.withTelemetryHandle fun handle _ =>
          (handle, self.worker, [.addConfig configuration]))
    | .poison =>
        match self.cell with
        | none => none
        | some lock => some ({ self with cell := some { lock with poisoned := true } }, [])

end TelemetrySystem

/-! ## What telemetry is for -/

/-- What the worker gets to know. -/
inductive Report
  | configuration (configuration : Configuration)
  | start
  | stop
  | point (info : MetricInfo) (value : F64)
  | log (message : Str) (stackTrace : Option Str)

/-- Telemetry is not set up yet, silent for good, or on. -/
inductive TelemetryMode
  | unset
  | off
  | on (logCollectionEnabled : Bool)
  deriving DecidableEq

namespace TelemetryMode

/-- The mode that the first configuration sets. -/
def initial (config : ConfigItems) : TelemetryMode :=
  if config.value .telemetryEnabled then .on (config.value .telemetryLogCollectionEnabled) else .off

/-- What a call reports if telemetry is on. -/
def reports (logCollectionEnabled : Bool) : TelemetryEvent → List Report
  | .initTelemetry _ _ | .poison => []
  | .stopTelemetry => [.stop]
  | .addPoints points => points.map fun point => .point point.2.ddtelemetryMetricInfo point.1
  | .addPoint value metric => [.point metric.ddtelemetryMetricInfo value]
  | .addLogError message stack => if logCollectionEnabled then [.log message stack] else []
  | .notifyConfigurationUpdate configuration => [.configuration configuration]

def machine (configApi : ConfigApi) : Machine TelemetryMode TelemetryEvent (List Report) :=
  fun mode event =>
    match mode, event with
    | .unset, .initTelemetry config true =>
        some (initial config,
          (config.getTelemetryConfiguration configApi).map .configuration ++ [.start])
    | .unset, .initTelemetry _ false => some (.off, [])
    -- there is no lock yet
    | .unset, .poison => none
    | .unset, _ => some (.unset, [])
    | .off, _ => some (.off, [])
    | .on _, .poison => some (.off, [])
    | .on logCollectionEnabled, event =>
        some (.on logCollectionEnabled, reports logCollectionEnabled event)

/-! ### What is reported over a run -/

/-- What may have been reported in a mode, over all calls until then. -/
inductive Told (configApi : ConfigApi) : TelemetryMode → List Report → Prop
  | unset : Told configApi .unset []
  /-- The worker could not be started. -/
  | failed : Told configApi .off []
  /-- The configuration, the start, and more if it is enabled. -/
  | started (config : ConfigItems) (mode : TelemetryMode) (rest : List Report) :
      mode ≠ .unset → .start ∉ rest →
        (config.value .telemetryEnabled = false → mode = .off ∧ rest = []) →
          Told configApi mode
            ((config.getTelemetryConfiguration configApi).map .configuration ++ .start :: rest)

variable {configApi : ConfigApi}

theorem start_notMem_reports (logs : Bool) (event : TelemetryEvent) :
    Report.start ∉ reports logs event := by
  cases event with
  | addLogError message stack => cases logs <;> simp [reports]
  | _ => simp [reports]

theorem Told.initial (config : ConfigItems) :
    Told configApi (initial config)
      ((config.getTelemetryConfiguration configApi).map .configuration ++ [.start]) := by
  refine .started config _ [] ?_ (by simp) ?_
  · unfold TelemetryMode.initial
    split <;> simp
  · intro hdisabled
    exact ⟨by rw [TelemetryMode.initial, hdisabled]; rfl, rfl⟩

theorem Told.step {mode next : TelemetryMode} {told more : List Report} {event : TelemetryEvent}
    (h : Told configApi mode told) (hstep : machine configApi mode event = some (next, more)) :
    Told configApi next (told ++ more) := by
  cases h with
  | unset =>
      -- only a start gets out of this mode
      cases event with
      | initTelemetry config started =>
          cases started with
          | true =>
              cases hstep
              exact .initial config
          | false =>
              cases hstep
              exact .failed
      | poison => cases hstep
      | _ =>
          cases hstep
          exact .unset
  | failed =>
      have hsame : machine configApi .off event = some (.off, []) := by cases event <;> rfl
      rw [hsame] at hstep
      cases hstep
      exact .failed
  | started config mode rest hset hrest hdisabled =>
      -- whatever comes now comes after the start
      rw [List.append_assoc, List.cons_append]
      cases mode with
      | unset => exact absurd rfl hset
      | off =>
          have hsame : machine configApi .off event = some (.off, []) := by cases event <;> rfl
          rw [hsame] at hstep
          cases hstep
          rw [List.append_nil]
          exact .started config .off rest hset hrest hdisabled
      | on logs =>
          -- a disabled configuration does not get here
          have henabled : config.value .telemetryEnabled ≠ false := by
            intro h
            cases (hdisabled h).1
          have hnext : next ≠ .unset ∧ Report.start ∉ more := by
            cases event with
            | poison =>
                cases hstep
                simp
            | _ =>
                cases hstep
                exact ⟨by simp, start_notMem_reports logs _⟩
          refine .started config next (rest ++ more) hnext.1 ?_ fun h => absurd h henabled
          rw [List.mem_append, not_or]
          exact ⟨hrest, hnext.2⟩

variable {l : List (TelemetryEvent × List Report)} {mode : TelemetryMode}

theorem told_of_run (h : Machine.Run (machine configApi) .unset l mode) :
    Told configApi mode (l.flatMap Prod.snd) := by
  refine h.invariant (I := fun l mode => Told configApi mode (l.flatMap Prod.snd)) .unset ?_
  intro l mode next event more _ htold hstep
  simpa using htold.step hstep

/-- Before the first configuration telemetry is not set up. -/
theorem unset_of_run (h : Machine.Run (machine configApi) .unset l mode)
    (hinit : ∀ x ∈ l, ∀ config started, x.1 ≠ .initTelemetry config started) : mode = .unset := by
  revert hinit
  refine h.invariant (I := fun l mode =>
    (∀ x ∈ l, ∀ config started, x.1 ≠ .initTelemetry config started) → mode = .unset) (fun _ => rfl) ?_
  intro l mode next event more _ ih hstep hinit
  have hunset := ih fun x hx => hinit x (List.mem_append_left _ hx)
  subst hunset
  cases event with
  | initTelemetry config started =>
      exact absurd rfl (hinit (.initTelemetry config started, more) (by simp) config started)
  | poison => cases hstep
  | _ =>
      cases hstep
      rfl

/-- Telemetry that is on stays so, and reports everything, as long as no thread panics. -/
theorem reports_of_on {logs : Bool} (h : Machine.Run (machine configApi) (.on logs) l mode)
    (hpoison : ∀ x ∈ l, x.1 ≠ .poison) : mode = .on logs ∧ ∀ x ∈ l, x.2 = reports logs x.1 := by
  revert hpoison
  refine h.invariant (I := fun l mode => (∀ x ∈ l, x.1 ≠ .poison) →
    mode = .on logs ∧ ∀ x ∈ l, x.2 = reports logs x.1) (fun _ => ⟨rfl, by simp⟩) ?_
  intro l mode next event more _ ih hstep hpoison
  rcases ih fun x hx => hpoison x (List.mem_append_left _ hx) with ⟨rfl, hbefore⟩
  have hmove : next = .on logs ∧ more = reports logs event := by
    cases event with
    | poison => exact absurd rfl (hpoison (.poison, more) (by simp))
    | _ =>
        cases hstep
        exact ⟨rfl, rfl⟩
  refine ⟨hmove.1, ?_⟩
  intro x hx
  rcases List.mem_append.1 hx with hold | hnew
  · exact hbefore x hold
  · cases List.mem_singleton.1 hnew
    exact hmove.2

/-- After the first start of an enabled configuration everything is reported. -/
theorem reports_of_started {before after : List (TelemetryEvent × List Report)}
    {config : ConfigItems} {told : List Report}
    (h : Machine.Run (machine configApi) .unset
      (before ++ ([(.initTelemetry config true, told)] ++ after)) mode)
    (henabled : config.value .telemetryEnabled = true)
    (hbefore : ∀ x ∈ before, ∀ config started, x.1 ≠ .initTelemetry config started)
    (hafter : ∀ x ∈ after, x.1 ≠ .poison) :
    ∀ x ∈ after, x.2 = reports (config.value .telemetryLogCollectionEnabled) x.1 := by
  -- the run before the start, the start, and the run after it
  rcases h.split with ⟨waiting, hfirst, hrest⟩
  rw [unset_of_run hfirst hbefore] at hrest
  rcases hrest.split with ⟨started, hstart, hlast⟩
  rcases (Machine.Run.snoc_iff (l := [])).1 hstart with ⟨same, hnone, hstep⟩
  rw [← Machine.Run.det .start hnone] at hstep
  have hon : started = .on (config.value .telemetryLogCollectionEnabled) := by
    have hinitial : initial config = started := congrArg Prod.fst (Option.some.inj hstep)
    rw [← hinitial, initial, henabled, if_pos rfl]
  rw [hon] at hlast
  exact (reports_of_on hlast hafter).2

/-- The points of a call are reported all, or none of them. -/
theorem reports_addPoints {start : TelemetryMode} (h : Machine.Run (machine configApi) start l mode)
    {points : List (F64 × TelemetryMetric)} {told : List Report}
    (hx : (.addPoints points, told) ∈ l) :
    told = [] ∨ told = points.map fun point => .point point.2.ddtelemetryMetricInfo point.1 := by
  revert hx
  refine h.invariant (I := fun l _ => (.addPoints points, told) ∈ l → told = [] ∨
    told = points.map fun point => .point point.2.ddtelemetryMetricInfo point.1) (by simp) ?_
  intro l mode next event more _ ih hstep hx
  rcases List.mem_append.1 hx with hold | hnew
  · exact ih hold
  · cases List.mem_singleton.1 hnew
    cases mode with
    | unset =>
        cases hstep
        exact .inl rfl
    | off =>
        cases hstep
        exact .inl rfl
    | on logs =>
        cases hstep
        exact .inr rfl

end TelemetryMode

/-! ## What the worker makes of the calls -/

section Reports

variable {W K : Type*} (api : MetricContexts W K)

/-- A call as the worker reads it: a point is one of the context that its key stands for. -/
def MetricContexts.report (worker : W) : WorkerCall K → Option Report
  | .addConfig configuration => some (.configuration configuration)
  | .sendStart => some .start
  | .sendStop => some .stop
  | .registerMetricContext _ => none
  | .addPoint value key => (api.info worker key).map fun info => .point info value
  | .addLog message stackTrace => some (.log message stackTrace)

/-- The contexts that calls register. -/
def registrations (calls : List (WorkerCall K)) : List MetricInfo :=
  calls.filterMap fun
    | .registerMetricContext info => some info
    | _ => none

theorem registrations_append (calls more : List (WorkerCall K)) :
    registrations (calls ++ more) = registrations calls ++ registrations more :=
  List.filterMap_append

/-- The worker knows the contexts that it knew before. -/
def MetricContexts.Extends (worker worker' : W) : Prop :=
  ∀ key info, api.info worker key = some info → api.info worker' key = some info

theorem MetricContexts.Extends.refl (worker : W) : api.Extends worker worker :=
  fun _ _ h => h

variable {api}

theorem MetricContexts.Extends.trans {worker₁ worker₂ worker₃ : W} (h₁ : api.Extends worker₁ worker₂)
    (h₂ : api.Extends worker₂ worker₃) : api.Extends worker₁ worker₃ :=
  fun key info h => h₂ key info (h₁ key info h)

theorem MetricContexts.Lawful.extends (hapi : api.Lawful) (worker : W) (info : MetricInfo) :
    api.Extends worker (api.registerMetricContext worker info).2 := by
  intro key known h
  have hne : key ≠ (api.registerMetricContext worker info).1 := by
    rintro rfl
    rw [hapi.fresh] at h
    cases h
  rw [hapi.kept worker info key hne, h]

/-! ## The keys of the handle -/

/-- The handle and the worker after some calls: the keys stand for the metrics that they were given for,
no point was added under any other key, and no context was registered twice. -/
structure Registered (api : MetricContexts W K) (calls : List (WorkerCall K))
    (handle : TelemetryHandleWrapper K) (worker : W) : Prop where
  info : ∀ (metric : TelemetryMetric) key, handle.metricsContext metric.idx = some key →
    api.info worker key = some metric.ddtelemetryMetricInfo
  known : ∀ value key, WorkerCall.addPoint value key ∈ calls → (api.info worker key).isSome = true
  nodup : (registrations calls).Nodup
  held : ∀ metric : TelemetryMetric, metric.ddtelemetryMetricInfo ∈ registrations calls →
    (handle.metricsContext metric.idx).isSome = true

variable {calls : List (WorkerCall K)} {handle : TelemetryHandleWrapper K} {worker : W}

theorem Registered.new (worker : W) : Registered api [] (TelemetryHandleWrapper.new (K := K)) worker where
  info := by simp [TelemetryHandleWrapper.new]
  known := by simp
  nodup := by simp [registrations]
  held := by simp [registrations]

/-- What was reported stays so when the worker gets more contexts. -/
theorem Registered.report_extends (h : Registered api calls handle worker) {worker' : W}
    (hextends : api.Extends worker worker') {call : WorkerCall K} (hcall : call ∈ calls) :
    api.report worker' call = api.report worker call := by
  cases call with
  | addPoint value key =>
      -- the only call that is read with the contexts
      rcases Option.isSome_iff_exists.1 (h.known value key hcall) with ⟨info, hinfo⟩
      rw [MetricContexts.report, MetricContexts.report, hinfo, hextends key info hinfo]
  | _ => rfl

/-- Some more calls, which leave this handle and worker behind: the worker knows what it knew before, and
reads the calls as these reports. -/
structure Appends (api : MetricContexts W K) (calls : List (WorkerCall K)) (worker : W)
    (handle' : TelemetryHandleWrapper K) (worker' : W) (more : List (WorkerCall K))
    (reports : List Report) : Prop where
  registered : Registered api (calls ++ more) handle' worker'
  known : api.Extends worker worker'
  read : more.filterMap (api.report worker') = reports

theorem Registered.nothing (h : Registered api calls handle worker) :
    Appends api calls worker handle worker [] [] where
  registered := by rwa [List.append_nil]
  known := .refl api worker
  read := rfl

/-- Calls that have nothing to do with metrics. -/
theorem Registered.others (h : Registered api calls handle worker) {more : List (WorkerCall K)}
    {reports : List Report} (hpoint : ∀ value key, WorkerCall.addPoint value key ∉ more)
    (hregister : registrations more = []) (hread : more.filterMap (api.report worker) = reports) :
    Appends api calls worker handle worker more reports where
  registered :=
    { info := h.info
      known := by
        intro value key hmem
        rcases List.mem_append.1 hmem with hold | hnew
        · exact h.known value key hold
        · exact absurd hnew (hpoint value key)
      nodup := by
        rw [registrations_append, hregister, List.append_nil]
        exact h.nodup
      held := by
        intro metric hmem
        rw [registrations_append, hregister, List.append_nil] at hmem
        exact h.held metric hmem }
  known := .refl api worker
  read := hread

theorem Registered.start (h : Registered api calls handle worker) (items : List Configuration) :
    Appends api calls worker handle worker (items.map WorkerCall.addConfig ++ [.sendStart])
      (items.map Report.configuration ++ [.start]) := by
  refine h.others (by simp) ?_ ?_
  · simp [registrations]
  · rw [List.filterMap_append, List.filterMap_map]
    have hread : api.report worker ∘ WorkerCall.addConfig = fun item => some (.configuration item) := rfl
    rw [hread, List.filterMap_eq_map']
    rfl

/-- A point of a metric whose key is there. -/
theorem Registered.point (h : Registered api calls handle worker) {value : F64}
    {metric : TelemetryMetric} {key : K} (hkey : handle.metricsContext metric.idx = some key) :
    Appends api calls worker handle worker [.addPoint value key]
      [.point metric.ddtelemetryMetricInfo value] where
  registered :=
    { info := h.info
      known := by
        intro value' key' hmem
        rcases List.mem_append.1 hmem with hold | hnew
        · exact h.known value' key' hold
        · cases List.mem_singleton.1 hnew
          rw [h.info metric key hkey, Option.isSome_some]
      nodup := by
        rw [registrations_append]
        simpa [registrations] using h.nodup
      held := by
        intro metric' hmem
        rw [registrations_append] at hmem
        exact h.held metric' (by simpa [registrations] using hmem) }
  known := .refl api worker
  read := by simp [MetricContexts.report, h.info metric key hkey]

/-- A context that is registered now. -/
theorem Registered.context (hapi : api.Lawful) (h : Registered api calls handle worker)
    {metric : TelemetryMetric} (hnone : handle.metricsContext metric.idx = none) :
    Appends api calls worker
      (handle.setContext metric
        (api.registerMetricContext worker metric.ddtelemetryMetricInfo).1)
      (api.registerMetricContext worker metric.ddtelemetryMetricInfo).2
      [.registerMetricContext metric.ddtelemetryMetricInfo] [] where
  registered :=
    { info := by
        intro metric' key hkey
        rw [TelemetryHandleWrapper.metricsContext_setContext] at hkey
        split_ifs at hkey with hmetric
        · rw [Option.some.injEq] at hkey
          rw [← hkey, hmetric]
          exact hapi.registered worker _
        · exact hapi.extends worker _ key _ (h.info metric' key hkey)
      known := by
        intro value key hmem
        have hold : WorkerCall.addPoint value key ∈ calls := by simpa using hmem
        rcases Option.isSome_iff_exists.1 (h.known value key hold) with ⟨info, hinfo⟩
        rw [hapi.extends worker _ key info hinfo, Option.isSome_some]
      nodup := by
        -- the handle would have the key of a context that was registered before
        have hnew : metric.ddtelemetryMetricInfo ∉ registrations calls := by
          intro hmem
          have hheld := h.held metric hmem
          rw [hnone] at hheld
          cases hheld
        rw [registrations_append]
        exact List.nodup_append'.2 ⟨h.nodup, by simp [registrations], by
          simpa [registrations] using hnew⟩
      held := by
        intro metric' hmem
        rw [TelemetryHandleWrapper.metricsContext_setContext]
        rw [registrations_append] at hmem
        split_ifs with hmetric
        · exact Option.isSome_some
        · rcases List.mem_append.1 hmem with hold | hnew
          · exact h.held metric' hold
          · -- two metrics never share a context
            have hinfo : metric'.ddtelemetryMetricInfo = metric.ddtelemetryMetricInfo := by
              simpa [registrations] using hnew
            exact absurd (TelemetryMetric.ddtelemetryMetricInfo_injective hinfo) hmetric }
  known := hapi.extends worker _
  read := rfl

/-- Calls that come one after the other. -/
theorem Appends.trans {handle₁ handle₂ : TelemetryHandleWrapper K} {worker₁ worker₂ : W}
    {more₁ more₂ : List (WorkerCall K)} {reports₁ reports₂ : List Report}
    (h₁ : Appends api calls worker handle₁ worker₁ more₁ reports₁)
    (h₂ : Appends api (calls ++ more₁) worker₁ handle₂ worker₂ more₂ reports₂) :
    Appends api calls worker handle₂ worker₂ (more₁ ++ more₂) (reports₁ ++ reports₂) where
  registered := by
    rw [← List.append_assoc]
    exact h₂.registered
  known := h₁.known.trans h₂.known
  read := by
    -- the later worker reads the earlier calls as the earlier one did
    have hread : more₁.filterMap (api.report worker₂) = more₁.filterMap (api.report worker₁) :=
      List.filterMap_congr fun call hcall =>
        h₁.registered.report_extends h₂.known (List.mem_append_right _ hcall)
    rw [List.filterMap_append, hread, h₁.read, h₂.read]

theorem Registered.addPoint (hapi : api.Lawful) (h : Registered api calls handle worker) (value : F64)
    (metric : TelemetryMetric) :
    Appends api calls worker (handle.addPoint api worker value metric).1
      (handle.addPoint api worker value metric).2.1 (handle.addPoint api worker value metric).2.2
      [.point metric.ddtelemetryMetricInfo value] := by
  unfold TelemetryHandleWrapper.addPoint
  cases hkey : handle.metricsContext metric.idx with
  | some key => exact h.point hkey
  | none =>
      -- first the context, then the point under its key
      have hcontext := h.context hapi hkey
      have hkey' := handle.metricsContext_setContext metric metric
        (api.registerMetricContext worker metric.ddtelemetryMetricInfo).1
      rw [if_pos rfl] at hkey'
      exact hcontext.trans (hcontext.registered.point hkey')

theorem Registered.addPoints (hapi : api.Lawful) (h : Registered api calls handle worker)
    (points : List (F64 × TelemetryMetric)) :
    Appends api calls worker (handle.addPoints api worker points).1
      (handle.addPoints api worker points).2.1 (handle.addPoints api worker points).2.2
      (points.map fun point => .point point.2.ddtelemetryMetricInfo point.1) := by
  induction points generalizing calls handle worker with
  | nil => exact h.nothing
  | cons point points ih =>
      have hpoint := h.addPoint hapi point.1 point.2
      exact hpoint.trans (ih hpoint.registered)

end Reports

/-! ## One call -/

namespace TelemetrySystem

variable {W K : Type*} {configApi : ConfigApi} {api : MetricContexts W K}

def mode (self : TelemetrySystem W K) : TelemetryMode :=
  match self.cell with
  | none => .unset
  | some ⟨telemetry, poisoned⟩ =>
      if poisoned || !telemetry.enabled || telemetry.handle.isNone then .off
      else .on telemetry.logCollectionEnabled

/-- The handle, or the one that a start would make. -/
def handle (self : TelemetrySystem W K) : TelemetryHandleWrapper K :=
  (self.cell.bind fun lock => lock.value.handle).getD .new

/-- What a call with the handle does: something if telemetry is on, nothing else. -/
theorem withTelemetryHandle_cases (self : TelemetrySystem W K)
    (f : TelemetryHandleWrapper K → Bool → TelemetryHandleWrapper K × W × List (WorkerCall K)) :
    ((∀ logs, self.mode ≠ .on logs) ∧ self.withTelemetryHandle f = (self, [])) ∨
    ∃ logs next, self.mode = .on logs ∧
      self.withTelemetryHandle f = (next, (f self.handle logs).2.2) ∧
      next.mode = .on logs ∧ next.handle = (f self.handle logs).1 ∧
      next.worker = (f self.handle logs).2.1 := by
  rcases self with ⟨_ | ⟨⟨handle, enabled, logs⟩, poisoned⟩, worker⟩
  · exact .inl ⟨by simp [mode], rfl⟩
  · cases poisoned with
    | true => exact .inl ⟨by simp [mode], by simp [withTelemetryHandle]⟩
    | false =>
        cases enabled with
        | false => exact .inl ⟨by simp [mode], by simp [withTelemetryHandle]⟩
        | true =>
            cases handle with
            | none => exact .inl ⟨by simp [mode], by simp [withTelemetryHandle]⟩
            | some handle => exact .inr ⟨logs, _, rfl, rfl, rfl, rfl, rfl⟩

/-- The state and the history of calls, against the mode and what was reported. -/
def Refines (configApi : ConfigApi) (api : MetricContexts W K) (calls : List (WorkerCall K))
    (self : TelemetrySystem W K) (event : TelemetryEvent)
    (result : TelemetrySystem W K × List (WorkerCall K)) : Prop :=
  ∃ reports, TelemetryMode.machine configApi self.mode event = some (result.1.mode, reports) ∧
    Appends api calls self.worker result.1.handle result.1.worker result.2 reports

variable {calls : List (WorkerCall K)} {self : TelemetrySystem W K}

/-- A call with the handle does what it reports. -/
theorem refines_withTelemetryHandle (h : Registered api calls self.handle self.worker)
    {event : TelemetryEvent} (hinit : ∀ config started, event ≠ .initTelemetry config started)
    (hpoison : event ≠ .poison)
    {f : TelemetryHandleWrapper K → Bool → TelemetryHandleWrapper K × W × List (WorkerCall K)}
    (hf : ∀ logs, Appends api calls self.worker (f self.handle logs).1 (f self.handle logs).2.1
      (f self.handle logs).2.2 (TelemetryMode.reports logs event)) :
    Refines configApi api calls self event (self.withTelemetryHandle f) := by
  rcases self.withTelemetryHandle_cases f with ⟨hoff, hsame⟩ | ⟨logs, next, hon, hresult, hmode, hhandle,
    hworker⟩
  · refine ⟨[], ?_, ?_⟩
    · rw [hsame]
      cases hmode : self.mode with
      | unset =>
          cases event with
          | initTelemetry config started => exact absurd rfl (hinit config started)
          | poison => exact absurd rfl hpoison
          | _ => rfl
      | off => cases event <;> rfl
      | on logs => exact absurd hmode (hoff logs)
    · rw [hsame]
      exact h.nothing
  · refine ⟨TelemetryMode.reports logs event, ?_, ?_⟩
    · rw [hresult, hon, hmode]
      cases event with
      | poison => exact absurd rfl hpoison
      | _ => rfl
    · rw [hresult, hhandle, hworker]
      exact hf logs

/-- After the first call the mode is settled, and further calls of the kind do nothing. -/
theorem machine_settled {lock : Locked (Telemetry K)} {worker : W} (event : TelemetryEvent)
    (hquiet : ∀ logs, TelemetryMode.reports logs event = []) (hpoison : event ≠ .poison) :
    TelemetryMode.machine configApi (mode ⟨some lock, worker⟩) event =
      some (mode ⟨some lock, worker⟩, []) := by
  unfold mode
  split
  · rename_i hnone
    cases hnone
  · split
    · cases event <;> rfl
    · cases event with
      | poison => exact absurd rfl hpoison
      | _ => simp only [TelemetryMode.machine, hquiet]

theorem refines_initTelemetry (h : Registered api calls self.handle self.worker)
    (config : ConfigItems) (started : Bool) :
    Refines configApi api calls self (.initTelemetry config started)
      (self.initTelemetry configApi config started) := by
  rcases self with ⟨_ | lock, worker⟩
  · cases started with
    | false => exact ⟨[], rfl, h.nothing⟩
    | true =>
        -- the start is told in both modes that it leads to
        refine ⟨_, ?_, h.start (config.getTelemetryConfiguration configApi)⟩
        have hmode : (initTelemetry (K := K) configApi ⟨none, worker⟩ config true).1.mode =
            TelemetryMode.initial config := by
          simp only [initTelemetry, mode, TelemetryMode.initial]
          cases config.value .telemetryEnabled <;> rfl
        rw [hmode]
        rfl
  · exact ⟨[], machine_settled _ (fun _ => rfl) (by simp), h.nothing⟩

/-- Each call does what it reports, under keys that the worker knows. -/
theorem refines_step (hapi : api.Lawful) (h : Registered api calls self.handle self.worker)
    {event : TelemetryEvent} {result : TelemetrySystem W K × List (WorkerCall K)}
    (hstep : machine configApi api self event = some result) :
    Refines configApi api calls self event result := by
  cases event with
  | initTelemetry config started =>
      cases hstep
      exact refines_initTelemetry h config started
  | stopTelemetry =>
      cases hstep
      exact refines_withTelemetryHandle h (by simp) (by simp) fun _ =>
        h.others (by simp) rfl rfl
  | addPoints points =>
      cases hstep
      exact refines_withTelemetryHandle h (by simp) (by simp) fun _ => h.addPoints hapi points
  | addPoint value metric =>
      cases hstep
      exact refines_withTelemetryHandle h (by simp) (by simp) fun _ => h.addPoint hapi value metric
  | addLogError message stack =>
      cases hstep
      refine refines_withTelemetryHandle h (by simp) (by simp) fun logs => ?_
      cases logs with
      | true => exact h.others (by simp) rfl rfl
      | false => exact h.nothing
  | notifyConfigurationUpdate configuration =>
      cases hstep
      exact refines_withTelemetryHandle h (by simp) (by simp) fun _ => h.others (by simp) rfl rfl
  | poison =>
      rcases self with ⟨_ | lock, worker⟩
      · cases hstep
      · cases hstep
        refine ⟨[], ?_, h.nothing⟩
        unfold mode
        simp only [Bool.true_or, if_true]
        split <;> rfl

/-! ## Every run -/

/-- All calls of a history. -/
def allCalls (l : List (TelemetryEvent × List (WorkerCall K))) : List (WorkerCall K) :=
  l.flatMap Prod.snd

/-- A step as the worker reads it. -/
def reported (api : MetricContexts W K) (worker : W) (x : TelemetryEvent × List (WorkerCall K)) :
    TelemetryEvent × List Report :=
  (x.1, x.2.filterMap (api.report worker))

/-- In every run the worker knows the contexts of the calls that it got, and what it makes of them in the
end is a run of the mode. -/
theorem refines_run (hapi : api.Lawful) {worker : W}
    {l : List (TelemetryEvent × List (WorkerCall K))} {self : TelemetrySystem W K}
    (h : Machine.Run (machine configApi api) (new worker) l self) :
    Registered api (allCalls l) self.handle self.worker ∧
      Machine.Run (TelemetryMode.machine configApi) .unset (l.map (reported api self.worker))
        self.mode := by
  refine h.invariant
    (I := fun l self => Registered api (allCalls l) self.handle self.worker ∧
      Machine.Run (TelemetryMode.machine configApi) .unset (l.map (reported api self.worker))
        self.mode) ?_ ?_
  · exact ⟨.new worker, .start⟩
  · intro l self next event more _ ih hstep
    rcases ih with ⟨hregistered, hrun⟩
    rcases refines_step hapi hregistered hstep with ⟨reports, hmode, happends⟩
    have hcalls : allCalls (l ++ [(event, more)]) = allCalls l ++ more := by simp [allCalls]
    -- the worker reads the calls from before as it did before
    have hold : l.map (reported api next.worker) = l.map (reported api self.worker) := by
      refine List.map_congr_left fun x hx => ?_
      refine congrArg (Prod.mk x.1) (List.filterMap_congr fun call hcall => ?_)
      exact hregistered.report_extends happends.known (List.mem_flatMap.2 ⟨x, hx, hcall⟩)
    have hnew : reported api next.worker (event, more) = (event, reports) :=
      congrArg (Prod.mk event) happends.read
    refine ⟨hcalls ▸ happends.registered, ?_⟩
    rw [List.map_append, hold, List.map_singleton, hnew]
    exact hrun.step hmode

/-- Whatever calls come, and in whatever order: what the worker makes of those that it is sent, with the
contexts that it has in the end, is what is reported in the mode of the time, so that every point comes
under its metric; no context is registered twice; and the start is told once, after the configuration it
was made with and before anything else, and alone if telemetry is disabled there. -/
theorem telemetry_refines (hapi : api.Lawful) {worker : W}
    {l : List (TelemetryEvent × List (WorkerCall K))} {self : TelemetrySystem W K}
    (h : Machine.Run (machine configApi api) (new worker) l self) :
    Machine.Run (TelemetryMode.machine configApi) .unset (l.map (reported api self.worker)) self.mode ∧
      (registrations (allCalls l)).Nodup ∧
      TelemetryMode.Told configApi self.mode
        ((allCalls l).filterMap (api.report self.worker)) := by
  rcases refines_run hapi h with ⟨hregistered, hrun⟩
  have htold := TelemetryMode.told_of_run hrun
  have hreports : (l.map (reported api self.worker)).flatMap Prod.snd =
      (allCalls l).filterMap (api.report self.worker) := by
    rw [allCalls, List.flatMap_map, List.filterMap_flatMap]
    rfl
  rw [hreports] at htold
  exact ⟨hrun, hregistered.nodup, htold⟩

/-- Contexts in a vector, with their index as the key. -/
def vectorContexts : MetricContexts (List MetricInfo) Nat :=
  { registerMetricContext := fun worker info => (worker.length, worker ++ [info])
    info := fun worker key => worker[key]? }

theorem lawful_vectorContexts : vectorContexts.Lawful where
  fresh := by simp [vectorContexts]
  registered := by simp [vectorContexts]
  kept := by
    intro worker info key hne
    have hne' : key ≠ worker.length := hne
    rcases Nat.lt_or_gt_of_ne hne' with hlt | hgt
    · simp [vectorContexts, List.getElem?_append_left hlt]
    · have hlen : (worker ++ [info]).length ≤ key := by
        rw [List.length_append, List.length_singleton]
        exact hgt
      simp [vectorContexts, List.getElem?_eq_none hlen, List.getElem?_eq_none (Nat.le_of_lt hgt)]

/-- Points before the start and after it, and a second start. -/
def pointsAndStarts : List TelemetryEvent :=
  [.addPoint (Binary64.ofInt 9) .spansCreated, .initTelemetry .default true,
    .addPoints [(Binary64.ofInt 3, .spansCreated), (Binary64.ofInt 1, .spansDroppedBufferFull),
      (Binary64.ofInt 2, .spansCreated)],
    .initTelemetry .default false, .addPoint (Binary64.ofInt 4) .spansDroppedBufferFull]

theorem telemetry_refines_pointsAndStarts :
    ∃ l self,
      Machine.Run (machine noJson vectorContexts) (new []) l self ∧
      l.map Prod.fst = pointsAndStarts ∧
      registrations (allCalls l) = [TelemetryMetric.spansCreated.ddtelemetryMetricInfo,
        TelemetryMetric.spansDroppedBufferFull.ddtelemetryMetricInfo] ∧
      Machine.Run (TelemetryMode.machine noJson) .unset
        (l.map (reported vectorContexts self.worker)) (.on true) := by
  have hrun := Machine.run_of_exec (m := machine noJson vectorContexts) (s := new [])
    pointsAndStarts rfl
  exact ⟨_, _, hrun, rfl, rfl, (telemetry_refines lawful_vectorContexts hrun).1⟩

end TelemetrySystem

end Otel
end DdTrace
