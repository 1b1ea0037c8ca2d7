import ScrapMonitoring.Foundations.Growth
import ScrapMonitoring.Foundations.Interleaving
import ScrapMonitoring.Foundations.Session
import ScrapMonitoring.Foundations.Time
import ScrapMonitoring.Metrics.StateEngine

/-!
# The ingestion of a measurement of the first interface

`MetricService.ingest_edge_metric`: a call looks for the measurement among the stored metrics, reads
the thresholds of the pit, evaluates the fill in the process-wide state engine, and commits the
metric. Any number of calls run at once; between two statements of a call any other call may act.

The evaluation changes the engine before the commit, and nothing takes it back when the commit
fails. `no_trace` is about the calls that fail before their evaluation, or whose evaluation leaves
the engine as it is (`Harmless`): the run is one without them. `trace_of_failed` is a run with
another one.

`evaluateState_eq_iff` says exactly which evaluations leave the engine as it is. A replay of a
stored message changes nothing in any run.

Distances and fills are doubles. The hash and the JSON text of a payload are parameters.
-/

namespace ScrapMonitoring.Metrics

/-! ## What a call receives -/

inductive EdgeQuality
  | good
  | degraded
  | invalid
  deriving DecidableEq, Repr

structure EdgeSensorDetail where
  sequence : ℤ
  instanceName : String
  height : Option Float64 := none
  validSampleRatio : Option Float64 := none
  coverage : Option Float64 := none
  status : String := "OK"
  deriving DecidableEq, Repr

inductive Revision
  | text (value : String)
  | number (value : ℤ)
  deriving DecidableEq, Repr

structure CameraSearchWindow where
  startTime : Option ℤ := none
  endTime : Option ℤ := none
  deriving DecidableEq, Repr

structure EdgeMetricIngestRequest where
  schemaVersion : String := "1.0"
  measurementId : String
  cycleId : Option String := none
  siteId : Option String := none
  edgeId : Option String := none
  measuredAt : ℤ
  calibrationVersion : Option String := none
  configRevision : Option Revision := none
  overallQuality : EdgeQuality := .good
  qualityReasonCode : Option String := none
  fillRatio : Option Float64 := none
  fillPercentage : Option Float64 := none
  sensors : List EdgeSensorDetail := []
  cameraSearchWindow : Option CameraSearchWindow := none
  deriving DecidableEq, Repr

structure EdgeMetricIngestResponse where
  measurementId : String
  accepted : Option Bool := none
  duplicate : Option Bool := none
  deriving DecidableEq, Repr

/-- The texts that are made of a payload. -/
structure Texts where
  /-- The SHA-256 of its JSON. -/
  payloadHash : EdgeMetricIngestRequest → String
  /-- The JSON of its sensors. -/
  sensorsJson : List EdgeSensorDetail → String

/-! ## What it stores -/

inductive MetricState
  | evaluated (state : PitState)
  | error
  deriving DecidableEq, Repr

structure ScrapMetric where
  measurementId : Option String
  idempotencyPayloadHash : Option String
  siteId : Option String
  edgeId : Option String
  pitId : String
  measuredAt : ℤ
  overallQuality : EdgeQuality
  qualityReasonCode : Option String
  lidar1DistanceCm : Option Float64
  lidar2DistanceCm : Option Float64
  calculatedHeightCm : Option Float64
  fillRatioPercent : Option Float64
  state : MetricState
  sensor1Status : String
  sensor2Status : String
  sensorsData : Option String
  isValid : Bool
  deriving DecidableEq, Repr

/-- `scrap_metrics`: no two rows have the same measurement id. -/
structure MetricTable where
  rows : List ScrapMetric
  unique : (rows.filterMap ScrapMetric.measurementId).Nodup

def MetricTable.empty : MetricTable := ⟨[], by simp⟩

def MetricTable.find? (table : MetricTable) (measurementId : String) : Option ScrapMetric :=
  table.rows.find? fun row => row.measurementId = some measurementId

theorem nodup_append_row {rows : List ScrapMetric} {row : ScrapMetric}
    (h : (rows.filterMap ScrapMetric.measurementId).Nodup)
    (hnew : ∀ id ∈ row.measurementId, id ∉ rows.filterMap ScrapMetric.measurementId) :
    ((rows ++ [row]).filterMap ScrapMetric.measurementId).Nodup := by
  rw [List.filterMap_append]
  cases hid : row.measurementId with
  | none => simpa [hid] using h
  | some id =>
    rw [List.filterMap_cons_some hid, List.filterMap_nil, List.nodup_append]
    refine ⟨h, by simp, fun a ha b hb => ?_⟩
    rw [List.mem_singleton.1 hb]
    rintro rfl
    exact hnew a hid ha

/-- A row whose measurement id is stored is rejected. -/
def MetricTable.insert (table : MetricTable) (row : ScrapMetric) : Option MetricTable :=
  if h : ∀ id ∈ row.measurementId, id ∉ table.rows.filterMap ScrapMetric.measurementId then
    some ⟨table.rows ++ [row], nodup_append_row table.unique h⟩
  else none

/-- The thresholds of a pit. -/
structure PitConfig where
  warningThresholdPercent : Float64
  criticalThresholdPercent : Float64
  deriving DecidableEq, Repr

/-- The database and the engine of the process. -/
structure Store where
  metrics : MetricTable
  configs : String → Option PitConfig
  engine : StateEngine

/-! ## What it computes of a payload -/

/-- The pit of a payload: without a site, the first one. -/
def EdgeMetricIngestRequest.pitId (payload : EdgeMetricIngestRequest) : String :=
  match payload.siteId with
  | some site => if site = "" then "pit-01" else site
  | none => "pit-01"

def EdgeMetricIngestRequest.isValid (payload : EdgeMetricIngestRequest) : Bool :=
  payload.overallQuality ≠ .invalid

/-- The distances and the states of the two sensors. -/
structure SensorReadings where
  s1Dist : Option Float64 := none
  s2Dist : Option Float64 := none
  s1Status : String := "OK"
  s2Status : String := "OK"
  deriving DecidableEq, Repr

/-- The distance of a sensor from its height, which is in millimetres when it is large. -/
def EdgeSensorDetail.distCm (sensor : EdgeSensorDetail) : Option Float64 :=
  sensor.height.map fun height => 300 - if 600 < height then height / 10 else height

/-- One round of the loop over the sensors. -/
def SensorReadings.add (readings : SensorReadings) (sensor : EdgeSensorDetail) : SensorReadings :=
  if '1' ∈ sensor.instanceName.toList ∨ sensor.sequence = 1 then
    { readings with s1Dist := sensor.distCm, s1Status := sensor.status }
  else if '2' ∈ sensor.instanceName.toList ∨ sensor.sequence = 2 then
    { readings with s2Dist := sensor.distCm, s2Status := sensor.status }
  else readings

def EdgeMetricIngestRequest.readings (payload : EdgeMetricIngestRequest) : SensorReadings :=
  payload.sensors.foldl .add {}

/-- The fill that a payload gives itself. -/
def EdgeMetricIngestRequest.givenFill (payload : EdgeMetricIngestRequest) : Option Float64 :=
  match payload.fillPercentage with
  | some fill => some fill
  | none => payload.fillRatio.map fun ratio => (ratio * 100).roundTwo

/-- The representative height and the fill: of the fill that the payload gives, else of the
sensors. -/
def EdgeMetricIngestRequest.heightAndFill (payload : EdgeMetricIngestRequest) :
    Option Float64 × Option Float64 :=
  if payload.isValid then
    match payload.givenFill with
    | some fill => (some (300 * (fill / 100)).roundTwo, some fill)
    | none =>
      let heights := ([payload.readings.s1Dist, payload.readings.s2Dist].filterMap id).map (300 - ·)
      if heights = [] then (none, none)
      else
        -- `sum` compensates for rounding, which of two numbers gives the rounded sum again
        let height := (heights.foldl (· + ·) 0 / Float64.ofRat heights.length).roundTwo
        (some height, some (height / 300 * 100).roundTwo)
  else (none, payload.givenFill)

/-- The fill that is evaluated. -/
def EdgeMetricIngestRequest.evaluatedFill (payload : EdgeMetricIngestRequest) : Option Float64 :=
  if payload.isValid then payload.heightAndFill.2 else none

/-- The metric of a payload in the state that was found. -/
def metricRecord (texts : Texts) (payload : EdgeMetricIngestRequest) (state : MetricState) :
    ScrapMetric where
  measurementId := some payload.measurementId
  idempotencyPayloadHash := some (texts.payloadHash payload)
  siteId := payload.siteId
  edgeId := payload.edgeId
  pitId := payload.pitId
  measuredAt := payload.measuredAt
  overallQuality := payload.overallQuality
  qualityReasonCode := payload.qualityReasonCode
  lidar1DistanceCm := payload.readings.s1Dist
  lidar2DistanceCm := payload.readings.s2Dist
  calculatedHeightCm := payload.heightAndFill.1
  fillRatioPercent := payload.heightAndFill.2
  state := state
  sensor1Status := payload.readings.s1Status
  sensor2Status := payload.readings.s2Status
  sensorsData := if payload.sensors = [] then none else some (texts.sensorsJson payload.sensors)
  isValid := payload.isValid

/-- What is pushed to the dashboards. -/
structure RealtimeStatePayload where
  pitId : String
  fillRatioPercent : Float64
  calculatedHeightCm : Float64
  state : MetricState
  measuredAt : ℤ
  warningThresholdPercent : Float64
  criticalThresholdPercent : Float64
  sensor1Status : String
  sensor2Status : String
  isValid : Bool
  deriving DecidableEq, Repr

/-- What is handed to the alert engine. -/
structure AlertCandidate where
  pitId : String
  fillRatioPercent : Float64
  isNewCandidate : Bool
  deriving DecidableEq, Repr

/-- What a call publishes after its commit. -/
structure Published where
  realtime : RealtimeStatePayload
  alert : Option AlertCandidate
  deriving DecidableEq, Repr

def published (record : ScrapMetric) (isNewCritical : Bool) (thresholds : PitConfig) :
    Published where
  realtime :=
    { pitId := record.pitId
      fillRatioPercent := record.fillRatioPercent.getD 0
      calculatedHeightCm := record.calculatedHeightCm.getD 0
      state := record.state
      measuredAt := record.measuredAt
      warningThresholdPercent := thresholds.warningThresholdPercent
      criticalThresholdPercent := thresholds.criticalThresholdPercent
      sensor1Status := record.sensor1Status
      sensor2Status := record.sensor2Status
      isValid := record.isValid }
  alert :=
    match record.state, record.fillRatioPercent with
    | .evaluated .critical, some fill => some ⟨record.pitId, fill, isNewCritical⟩
    | _, _ => none

/-! ## A call -/

inductive IngestError
  | conflict (detail : String)
  | integrityError
  | databaseError
  deriving DecidableEq, Repr

/-- Where a call stands. -/
inductive Call
  | start
  /-- No metric of the measurement is stored. -/
  | unknown
  | configured (thresholds : PitConfig)
  /-- The metric is added to the session. -/
  | adding (record : ScrapMetric) (isNewCritical : Bool) (thresholds : PitConfig)
  | done (response : EdgeMetricIngestResponse)
  | raised (error : IngestError)
  deriving DecidableEq, Repr

/-- How the database answers a statement. -/
inductive Answer
  | ok
  | fails
  deriving DecidableEq, Repr

def conflictDetail (measurementId : String) : String :=
  "Conflict: measurement_id '" ++ measurementId ++ "' exists with different payload"

/-- The idempotency check. -/
def checkExisting (texts : Texts) (payload : EdgeMetricIngestRequest) :
    Option ScrapMetric → Call
  | some existing =>
    if existing.idempotencyPayloadHash = some (texts.payloadHash payload) then
      .done
        { measurementId := payload.measurementId, accepted := some true, duplicate := some true }
    else .raised (.conflict (conflictDetail payload.measurementId))
  | none => .unknown

def thresholdsOf (settings : Settings) (config : Option PitConfig) : PitConfig :=
  config.getD ⟨settings.defaultWarningThreshold, settings.defaultCriticalThreshold⟩

/-- The evaluation: the engine after it, the state of the metric, and whether the pit is newly
critical. -/
def evaluation (settings : Settings) (payload : EdgeMetricIngestRequest) (thresholds : PitConfig)
    (engine : StateEngine) : StateEngine × MetricState × Bool :=
  match payload.evaluatedFill with
  | some fill =>
    let result := evaluateState settings engine payload.pitId fill
      (some thresholds.warningThresholdPercent) (some thresholds.criticalThresholdPercent)
    (result.1, .evaluated result.2.1, result.2.2)
  | none => (engine, if payload.isValid then .evaluated .normal else .error, false)

variable {ι : Type*}

/-- `ingest_edge_metric`, one statement at a time; what runs between two statements is the
evaluation. -/
def act (settings : Settings) (texts : Texts) (payloads : ι → EdgeMetricIngestRequest) (i : ι)
    (store : Store) : Call → Answer → Option (Store × Call × Option Published)
  | .start, .ok =>
    some (store, checkExisting texts (payloads i)
      (store.metrics.find? (payloads i).measurementId), none)
  | .unknown, .ok =>
    some (store, .configured (thresholdsOf settings (store.configs (payloads i).pitId)), none)
  | .configured thresholds, .ok =>
    let result := evaluation settings (payloads i) thresholds store.engine
    some ({ store with engine := result.1 },
      .adding (metricRecord texts (payloads i) result.2.1) result.2.2 thresholds, none)
  | .adding record isNewCritical thresholds, .ok =>
    match store.metrics.insert record with
    | some metrics =>
      some ({ store with metrics },
        .done { measurementId := (payloads i).measurementId, accepted := some true },
        some (published record isNewCritical thresholds))
    | none => some (store, .raised .integrityError, none)
  | .start, .fails | .unknown, .fails | .adding _ _ _, .fails =>
    some (store, .raised .databaseError, none)
  | .configured _, .fails | .done _, _ | .raised _, _ => none

section

variable {settings : Settings} {texts : Texts} {payloads : ι → EdgeMetricIngestRequest} {i : ι}
variable {store store' : Store} {call call' : Call} {answer : Answer} {out : Option Published}

/-- **What one statement does**: it leaves the store as it is, evaluates the fill, or commits the
metric. -/
theorem act_cases
    (h : act settings texts payloads i store call answer = some (store', call', out)) :
    store' = store ∨
    (∃ thresholds, call = .configured thresholds ∧ store' =
      { store with engine := (evaluation settings (payloads i) thresholds store.engine).1 }) ∨
    ∃ record isNew thresholds metrics response, call = .adding record isNew thresholds ∧
      store.metrics.insert record = some metrics ∧ store' = { store with metrics } ∧
      call' = .done response := by
  unfold act at h
  split at h
  · simp only [Option.some.injEq, Prod.mk.injEq] at h
    exact .inl h.1.symm
  · simp only [Option.some.injEq, Prod.mk.injEq] at h
    exact .inl h.1.symm
  · simp only [Option.some.injEq, Prod.mk.injEq] at h
    exact .inr (.inl ⟨_, rfl, h.1.symm⟩)
  · split at h
    · rename_i metrics hinsert
      simp only [Option.some.injEq, Prod.mk.injEq] at h
      exact .inr (.inr ⟨_, _, _, metrics, _, rfl, hinsert, h.1.symm, h.2.1.symm⟩)
    · simp only [Option.some.injEq, Prod.mk.injEq] at h
      exact .inl h.1.symm
  · simp only [Option.some.injEq, Prod.mk.injEq] at h
    exact .inl h.1.symm
  · simp only [Option.some.injEq, Prod.mk.injEq] at h
    exact .inl h.1.symm
  · simp only [Option.some.injEq, Prod.mk.injEq] at h
    exact .inl h.1.symm
  all_goals cases h

/-- A call that has ended takes no further step. -/
theorem act_done {response : EdgeMetricIngestResponse} :
    act settings texts payloads i store (.done response) answer = none := by
  cases answer <;> rfl

end

/-! ## Evaluations that change nothing -/

/-- A fill leaves a pit in the state in which it is, and its alert too. -/
def PitState.Keeps : PitState → Bool → Float64 → PitConfig → Prop
  | .critical, alertTriggered, fill, thresholds =>
    thresholds.criticalThresholdPercent ≤ fill ∧ alertTriggered = true ∨
      ¬ thresholds.criticalThresholdPercent ≤ fill ∧ thresholds.warningThresholdPercent ≤ fill ∧
        ¬ fill < thresholds.criticalThresholdPercent - hysteresisMargin
  | .warning, _, fill, thresholds =>
    ¬ thresholds.criticalThresholdPercent ≤ fill ∧
      ¬ fill < thresholds.warningThresholdPercent - hysteresisMargin
  | .normal, _, fill, thresholds =>
    ¬ thresholds.criticalThresholdPercent ≤ fill ∧ ¬ thresholds.warningThresholdPercent ≤ fill

instance (state : PitState) (alertTriggered : Bool) (fill : Float64) (thresholds : PitConfig) :
    Decidable (state.Keeps alertTriggered fill thresholds) :=
  match state with
  | .critical => inferInstanceAs (Decidable (_ ∧ _ ∨ _ ∧ _ ∧ _))
  | .warning => inferInstanceAs (Decidable (_ ∧ _))
  | .normal => inferInstanceAs (Decidable (_ ∧ _))

/-- The pit is remembered with the fill, in the state in which the fill leaves it. -/
def PitCurrentState.Settled (pit : PitCurrentState) (fill : Float64) (thresholds : PitConfig) :
    Prop :=
  pit.lastFillRatio = fill ∧ pit.currentState.Keeps pit.alertTriggered fill thresholds

instance (pit : PitCurrentState) (fill : Float64) (thresholds : PitConfig) :
    Decidable (pit.Settled fill thresholds) :=
  inferInstanceAs (Decidable (_ ∧ _))

theorem evaluate_eq_self_iff {pit : PitCurrentState} {fill : Float64} {thresholds : PitConfig} :
    (pit.evaluate fill thresholds.warningThresholdPercent
      thresholds.criticalThresholdPercent).1 = pit ↔ pit.Settled fill thresholds := by
  obtain ⟨id, state, last, alert⟩ := pit
  have hmargin : fill < thresholds.warningThresholdPercent - hysteresisMargin →
      ¬ thresholds.warningThresholdPercent ≤ fill := not_le_of_lt_margin
  unfold PitCurrentState.evaluate PitCurrentState.Settled PitState.Keeps
  cases state <;> grind

/-- An evaluation leaves the engine as it is exactly when the pit is remembered so. -/
theorem evaluateState_eq_iff {settings : Settings} {engine : StateEngine} {pitId : String}
    {fill : Float64} {thresholds : PitConfig} :
    (evaluateState settings engine pitId fill (some thresholds.warningThresholdPercent)
      (some thresholds.criticalThresholdPercent)).1 = engine ↔
      ∃ pit ∈ engine pitId, pit.Settled fill thresholds := by
  unfold evaluateState
  simp only [warnTh, critTh, Option.getD_some, Function.update_eq_self_iff]
  constructor
  · intro h
    have hpit : engine pitId = some (engine.getOrCreatePitState pitId) := by
      rw [StateEngine.getOrCreatePitState, ← h, Option.getD_some]
    rw [hpit] at h
    exact ⟨_, hpit, evaluate_eq_self_iff.1 (Option.some.inj h)⟩
  · rintro ⟨pit, hpit, hsettled⟩
    have hget : engine.getOrCreatePitState pitId = pit := by
      rw [StateEngine.getOrCreatePitState, hpit, Option.getD_some]
    rw [hget, evaluate_eq_self_iff.2 hsettled]
    exact hpit.symm

/-- A call has nothing to evaluate, or finds its pit so. -/
def NothingNew (payload : EdgeMetricIngestRequest) (thresholds : PitConfig) (engine : StateEngine) :
    Prop :=
  ∀ fill ∈ payload.evaluatedFill, ∃ pit ∈ engine payload.pitId, pit.Settled fill thresholds

instance (payload : EdgeMetricIngestRequest) (thresholds : PitConfig) (engine : StateEngine) :
    Decidable (NothingNew payload thresholds engine) :=
  inferInstanceAs (Decidable (∀ fill ∈ _, ∃ pit ∈ _, _))

theorem evaluation_eq_iff {settings : Settings} {payload : EdgeMetricIngestRequest}
    {thresholds : PitConfig} {engine : StateEngine} :
    (evaluation settings payload thresholds engine).1 = engine ↔
      NothingNew payload thresholds engine := by
  unfold evaluation NothingNew
  cases hfill : payload.evaluatedFill with
  | none => simp
  | some fill =>
    dsimp only
    rw [evaluateState_eq_iff]
    simp

/-! ## Replays -/

section

variable {settings : Settings} {texts : Texts} {payloads : ι → EdgeMetricIngestRequest} {i : ι}

/-- The message has been stored. -/
def Stored (texts : Texts) (payload : EdgeMetricIngestRequest) (store : Store) : Prop :=
  ∃ row ∈ store.metrics.rows, row.measurementId = some payload.measurementId ∧
    row.idempotencyPayloadHash = some (texts.payloadHash payload)

/-- The check finds the message. -/
theorem checkExisting_of_stored {payload : EdgeMetricIngestRequest} {store : Store}
    (h : Stored texts payload store) :
    checkExisting texts payload (store.metrics.find? payload.measurementId) =
      .done { measurementId := payload.measurementId, accepted := some true,
              duplicate := some true } := by
  obtain ⟨row, hmem, hid, hhash⟩ := h
  have hfind : store.metrics.find? payload.measurementId = some row := by
    refine find?_eq_of_unique hmem (by simpa using hid) fun other hother hsame => ?_
    obtain ⟨before, after, hrows⟩ := List.append_of_mem hmem
    obtain ⟨before', after', hrows'⟩ := List.append_of_mem hother
    exact (eq_of_nodup_filterMap store.metrics.unique hrows hrows' hid
      (of_decide_eq_true hsame)).2.1.symm
  rw [hfind]
  simp [checkExisting, hhash]

theorem MetricTable.mem_insert {table table' : MetricTable} {row row' : ScrapMetric}
    (h : table.insert row = some table') (hmem : row' ∈ table.rows) : row' ∈ table'.rows := by
  unfold MetricTable.insert at h
  split_ifs at h
  simp only [Option.some.injEq] at h
  subst h
  exact List.mem_append_left _ hmem

/-- What is stored stays stored. -/
theorem Stored.act {payload : EdgeMetricIngestRequest} {store store' : Store} {call call' : Call}
    {answer : Answer} {out : Option Published} (h : Stored texts payload store)
    (hact : act settings texts payloads i store call answer = some (store', call', out)) :
    Stored texts payload store' := by
  obtain ⟨row, hmem, hrow⟩ := h
  refine ⟨row, ?_, hrow⟩
  rcases act_cases hact with rfl | ⟨_, -, rfl⟩ | ⟨_, _, _, _, _, -, hinsert, rfl, -⟩
  · exact hmem
  · exact hmem
  · exact MetricTable.mem_insert hinsert hmem

/-- How a call stands that replays a stored message: it has not read yet, it has found the message,
or the database has failed it. -/
def Replays (payload : EdgeMetricIngestRequest) (call : Call) : Prop :=
  call = .start ∨ call = .raised .databaseError ∨
    call = .done { measurementId := payload.measurementId, accepted := some true,
                   duplicate := some true }

/-- **A replay changes nothing.** -/
theorem Replays.act {store store' : Store} {call call' : Call} {answer : Answer}
    {out : Option Published} (h : Replays (payloads i) call)
    (hstored : Stored texts (payloads i) store)
    (hact : act settings texts payloads i store call answer = some (store', call', out)) :
    store' = store ∧ Replays (payloads i) call' := by
  rcases h with rfl | rfl | rfl
  · cases answer with
    | ok =>
      simp only [Metrics.act, checkExisting_of_stored hstored, Option.some.injEq,
        Prod.mk.injEq] at hact
      obtain ⟨rfl, rfl, -⟩ := hact
      exact ⟨rfl, .inr (.inr rfl)⟩
    | fails =>
      simp only [Metrics.act, Option.some.injEq, Prod.mk.injEq] at hact
      obtain ⟨rfl, rfl, -⟩ := hact
      exact ⟨rfl, .inr (.inl rfl)⟩
  · cases answer <;> cases hact
  · rw [act_done] at hact
    cases hact

end

/-! ## Whole runs -/

section

variable [DecidableEq ι] {settings : Settings} {texts : Texts}
variable {payloads : ι → EdgeMetricIngestRequest} {i : ι}

abbrev Processes (ι : Type*) := Shared ι Store Call

abbrev CallStep (ι : Type*) := Entry (Processes ι) (ι × Answer) (Option Published)

variable {s₀ s : Processes ι} {es : List (CallStep ι)} {e : CallStep ι}

/-- If the call evaluates next, the engine stays as it is. -/
def Call.KeepsEngine (payload : EdgeMetricIngestRequest) (engine : StateEngine) : Call → Prop
  | .configured thresholds => NothingNew payload thresholds engine
  | _ => True

instance (payload : EdgeMetricIngestRequest) (engine : StateEngine) (call : Call) :
    Decidable (call.KeepsEngine payload engine) :=
  match call with
  | .configured thresholds => inferInstanceAs (Decidable (NothingNew payload thresholds engine))
  | .start | .unknown | .adding _ _ _ | .done _ | .raised _ => .isTrue trivial

/-- If the step evaluates, the engine stays as it is. -/
def Harmless (payloads : ι → EdgeMetricIngestRequest) (e : CallStep ι) : Prop :=
  (e.pre.locals e.op.1).KeepsEngine (payloads e.op.1) e.pre.store.engine

instance (payloads : ι → EdgeMetricIngestRequest) (e : CallStep ι) :
    Decidable (Harmless payloads e) :=
  inferInstanceAs (Decidable (Call.KeepsEngine _ _ _))

/-- A call that has ended keeps its response. -/
theorem done_of_run {response : EdgeMetricIngestResponse}
    (hrun : Run (interleave (act settings texts payloads)) s₀ es s)
    (hdone : s₀.locals i = .done response) : s.locals i = .done response := by
  refine hrun.invariant (I := fun s => s.locals i = .done response) hdone ?_
  intro s op s' out hs hstep
  obtain ⟨hact, hframe⟩ := interleave_cases hstep
  by_cases hi : op.1 = i
  · rw [hi, hs, act_done] at hact
    cases hact
  · rw [hframe i (Ne.symm hi), hs]

/-- A call that raises commits nothing: its steps leave the store as it is, or evaluate. -/
theorem store_eq_of_raised {error : IngestError}
    (hrun : Run (interleave (act settings texts payloads)) s₀ es s)
    (hraised : s.locals i = .raised error) (he : e ∈ es) (hi : e.op.1 = i) :
    e.post.store = e.pre.store ∨ ∃ thresholds, e.pre.locals i = .configured thresholds ∧
      e.post.store = { e.pre.store with
        engine := (evaluation settings (payloads i) thresholds e.pre.store.engine).1 } := by
  obtain ⟨hact, -⟩ := interleave_cases (hrun.step_of_mem he)
  rw [hi] at hact
  rcases act_cases hact with hstore | hevaluates | ⟨_, _, _, _, response, -, -, -, hdone⟩
  · exact .inl hstore
  · exact .inr hevaluates
  · obtain ⟨before, after, rfl⟩ := List.append_of_mem he
    have hlast := done_of_run hrun.rest hdone
    rw [hraised] at hlast
    cases hlast

theorem replays_of_run (hrun : Run (interleave (act settings texts payloads)) s₀ es s)
    (hstart : Replays (payloads i) (s₀.locals i)) (hstored : Stored texts (payloads i) s₀.store) :
    Stored texts (payloads i) s.store ∧ Replays (payloads i) (s.locals i) := by
  refine hrun.invariant
    (I := fun s => Stored texts (payloads i) s.store ∧ Replays (payloads i) (s.locals i))
    ⟨hstored, hstart⟩ ?_
  rintro s op s' out ⟨hs, hreplays⟩ hstep
  obtain ⟨hact, hframe⟩ := interleave_cases hstep
  refine ⟨hs.act hact, ?_⟩
  by_cases hi : op.1 = i
  · subst hi
    exact (hreplays.act hs hact).2
  · rw [hframe i (Ne.symm hi)]
    exact hreplays

end

/-! ## Calls that raise -/

def sampleTexts : Texts where
  payloadHash payload := "hash of " ++ payload.measurementId
  sensorsJson _ := "[]"

/-- Two measurements of one pit with the same fill. -/
def samplePayload (i : Bool) : EdgeMetricIngestRequest where
  measurementId := if i then "m-2" else "m-1"
  measuredAt := 0
  fillPercentage := some 95

def sampleProcesses : Processes Bool where
  store := ⟨.empty, fun _ => none, .new⟩
  locals _ := .start

abbrev sampleAct := act sampleSettings sampleTexts samplePayload

/-- The statements of a call, with the answer to its commit. -/
def sampleCall (i : Bool) (commit : Answer) : List (Bool × Answer) :=
  [(i, .ok), (i, .ok), (i, .ok), (i, commit)]

/-- The first measurement is stored, and the commit of the second fails. -/
theorem exec_stored_failed : ∃ r, exec (interleave sampleAct) sampleProcesses
      (sampleCall false .ok ++ sampleCall true .fails) = some r ∧
    r.2.locals true = .raised .databaseError ∧
    ∀ e ∈ r.1, e.op.1 = true → Harmless samplePayload e :=
  ⟨_, rfl, by decide +kernel, by decide +kernel⟩

section

variable [DecidableEq ι] {settings : Settings} {texts : Texts}
variable {payloads : ι → EdgeMetricIngestRequest} {i : ι} {s₀ s : Processes ι}
variable {es : List (CallStep ι)}

/-- **A call that raises leaves no trace** when its evaluation, if it gets so far, leaves the engine
as it is: the run is one without the call, with the same metrics, the same engine and the same
answers to every other call. A call that replays a stored message changes nothing. -/
theorem no_trace (hrun : Run (interleave (act settings texts payloads)) s₀ es s)
    (hstart : s₀.locals i = .start) :
    (∀ error, s.locals i = .raised error → (∀ e ∈ es, e.op.1 = i → Harmless payloads e) →
      ∃ es' s', Run (interleave (act settings texts payloads)) s₀ es' s' ∧
        es'.map (fun e => (e.op, e.out)) =
          (es.filter fun e => e.op.1 ≠ i).map (fun e => (e.op, e.out)) ∧
        s'.store = s.store ∧ s'.locals = Function.update s.locals i .start) ∧
    (Stored texts (payloads i) s₀.store → ∀ e ∈ es, e.op.1 = i →
      e.post.store = e.pre.store ∧ Replays (payloads i) (e.post.locals i)) := by
  constructor
  · intro error hraised hharmless
    rw [← hstart]
    refine hrun.without fun e he hi => ?_
    rcases store_eq_of_raised hrun hraised he hi with hstore | ⟨thresholds, hconfigured, hstore⟩
    · exact hstore
    · subst hi
      have hnothing := hharmless e he rfl
      rw [Harmless, hconfigured, Call.KeepsEngine] at hnothing
      rw [hstore, evaluation_eq_iff.2 hnothing]
  · intro hstored e he hi
    obtain ⟨before, after, rfl⟩ := List.append_of_mem he
    obtain ⟨hbefore, hstep⟩ := hrun.of_append_cons
    obtain ⟨hact, -⟩ := interleave_cases hstep
    subst hi
    obtain ⟨hs, hreplays⟩ := replays_of_run hbefore (.inl hstart) hstored
    exact hreplays.act hs hact

end

theorem no_trace_sample : ∃ es s, Run (interleave sampleAct) sampleProcesses es s ∧
    s.locals true = .raised .databaseError ∧
    ∃ es' s', Run (interleave sampleAct) sampleProcesses es' s' ∧
      es'.map (fun e => (e.op, e.out)) =
        (es.filter fun e => e.op.1 ≠ true).map (fun e => (e.op, e.out)) ∧
      s'.store = s.store ∧ s'.locals = Function.update s.locals true .start := by
  obtain ⟨⟨es, s⟩, hexec, hraised, hharmless⟩ := exec_stored_failed
  exact ⟨es, s, .of_exec hexec, hraised,
    (no_trace (.of_exec hexec) rfl).1 .databaseError hraised hharmless⟩

/-- The commit of the first measurement fails; the second is stored. -/
theorem exec_failed_stored : ∃ r₁ r₂ r,
    exec (interleave sampleAct) sampleProcesses (sampleCall false .fails) = some r₁ ∧
    exec (interleave sampleAct) sampleProcesses (sampleCall false .fails ++ sampleCall true .ok) =
      some r₂ ∧
    exec (interleave sampleAct) sampleProcesses (sampleCall true .ok) = some r ∧
    r₁.2.locals false = .raised .databaseError ∧ (∀ e ∈ r₁.1, e.op.1 = false) ∧
    r₁.2.store.metrics.rows = [] ∧ r₁.2.store.engine "pit-01" ≠ none ∧
    r₂.2.locals false = .raised .databaseError ∧
    r.1.map Entry.op = (r₂.1.filter fun e => e.op.1 ≠ false).map Entry.op ∧
    r.1.map Entry.out ≠ (r₂.1.filter fun e => e.op.1 ≠ false).map Entry.out :=
  ⟨_, _, _, rfl, rfl, rfl, by decide +kernel, by decide +kernel, by decide +kernel,
    by decide +kernel, by decide +kernel, by decide +kernel, by decide +kernel⟩

/-- A critical fill whose commit fails stays in the engine, and the critical fill that is stored
after it is not a new alert candidate, as it is without the failed call. -/
theorem trace_of_failed :
    (∃ es s, Run (interleave sampleAct) sampleProcesses es s ∧ (∀ e ∈ es, e.op.1 = false) ∧
      s.locals false = .raised .databaseError ∧ s.store.engine ≠ sampleProcesses.store.engine) ∧
    ∃ es s es' s', Run (interleave sampleAct) sampleProcesses es s ∧
      Run (interleave sampleAct) sampleProcesses es' s' ∧ s.locals false = .raised .databaseError ∧
      es'.map Entry.op = (es.filter fun e => e.op.1 ≠ false).map Entry.op ∧
      es'.map Entry.out ≠ (es.filter fun e => e.op.1 ≠ false).map Entry.out := by
  obtain ⟨⟨es₁, s₁⟩, ⟨es, s⟩, ⟨es', s'⟩, h₁, h, h', hraised₁, halone, -, hengine, hraised, hops,
      houts⟩ :=
    exec_failed_stored
  refine ⟨⟨es₁, s₁, .of_exec h₁, halone, hraised₁, fun heq => ?_⟩,
    es, s, es', s', .of_exec h, .of_exec h', hraised, hops, houts⟩
  exact hengine (congrFun heq "pit-01")

end ScrapMonitoring.Metrics
