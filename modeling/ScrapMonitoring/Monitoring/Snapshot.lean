import ScrapMonitoring.EdgeV2.Latest
import ScrapMonitoring.Monitoring.Rows

/-!
# The snapshot of a pit

`build_snapshot` shows the newest observation of the device that is assigned to the pit, if it is
fresh, and what the operations worker last made of it. The observation is the newest assessment of
the device, filtered when storage is compact, or else the newest height, where heights are enabled.

The stored bodies are read with `validate`, for the reports of a device's status,
`validateAssessment`, for assessments, and `details`, for what only the height path reads of a
report; `hash` stands for the digest of a JSON value. A result of `none` stands for the error of a
stored body or of a percentage that is not valid.
-/

namespace ScrapMonitoring.Monitoring

open EdgeV2

variable {H : Type*}

/-! ## What is stored -/

inductive SensorDataState
  | fresh
  | stale
  | recovering
  | unavailable
  | unknown
  deriving DecidableEq

structure SensorStatus where
  sensorId : String
  dataState : SensorDataState
  lastScanAt : Option ℤ

/-- The parts of a status report that the height path reads. -/
structure StatusDetails where
  sensors : List SensorStatus
  clockState : String

/-- What the snapshot of a pit is read from. -/
structure Database (H : Type*) where
  messages : List (EdgeV2Message H)
  latest : LatestTable
  heightFill : String × String → Option FillObservation
  filter : String × String → Option FilterPayload
  pitConfig : String → Option PitConfig
  operation : String → Option EdgeV2Operation

/-- How stored bodies are read. -/
structure Reader where
  validate : Json → Option StatusMessage
  validateAssessment : Json → Option Assessment
  details : StatusMessage → StatusDetails
  hash : Json → String

/-! ## The snapshot -/

inductive DashboardDataState
  | fresh
  | stale
  | unavailable
  | unknown
  | noData
  deriving DecidableEq

inductive DisplayFilterState
  | disabled
  | warming
  | ready
  | unavailable
  deriving DecidableEq

structure MonitoringSummaryV2 where
  inputSource : InputSource
  simulated : Bool
  loadPercent : Option ℚ
  rawLoadPercent : Option ℚ
  filterState : DisplayFilterState
  warningThresholdPercent : ℚ
  collectionThresholdPercent : ℚ
  recoveryThresholdPercent : ℚ

inductive EffectiveState
  | operational (state : OperationalState)
  | unknown
  | error
  deriving DecidableEq

inductive EvaluationSource
  | currentObservation
  | recentPersisted
  deriving DecidableEq

structure OperationStatus where
  lastKnownState : Option OperationalState
  effectiveState : EffectiveState
  lastEvaluatedAt : Option ℤ
  lastAlertAt : Option ℤ
  notificationId : Option ℕ
  evaluationSource : Option EvaluationSource

structure MonitoringSnapshotV2 where
  source : MonitoringSource
  measuredAt : Option ℤ
  assessmentReceivedAt : Option ℤ
  dataState : DashboardDataState
  reasonCodes : List String
  summary : MonitoringSummaryV2
  assessment : Option Assessment
  deviceStatus : DeviceStatus
  operations : Option OperationStatus
  fillObservation : Option FillObservation

/-! ## The input -/

/-- What an input comes to: whether it is fresh, and the percentage before and after the filter. -/
structure Reading where
  state : DashboardDataState
  reasons : List String
  raw : Option ℚ
  percent : Option ℚ
  filterState : DisplayFilterState

/-- The newest state of the device; in compact storage the retained one. -/
def newestState (db : Database H) (device : String × String) : Option (EdgeV2Message H) :=
  match stateMessage db.messages device with
  | none => none
  | some message =>
    if message.compact then latestMessage ⟨db.messages, db.latest device .state⟩ device
    else some message

/-- `Assessment.model_validate(message.payload) if message else None`. -/
def readAssessment (reader : Reader) (message : Option (EdgeV2Message H)) :
    Option (Option Assessment) :=
  match message with
  | some message => (reader.validateAssessment message.payload).map some
  | none => some none

/-- `round(value, 6)`. -/
def roundSix (value : ℚ) : ℚ := roundHalfEven (value * 1000000) / 1000000

/-- Whether the assessment is fresh, and its percentage if it is. -/
def assessmentReading (settings : Settings) (device : DeviceStatus) (now : ℤ)
    (assessment : Assessment) : DashboardDataState × List String × Option ℚ :=
  let freshnessTime := assessment.observedTo.getD assessment.generatedAt
  if now + seconds 5 < assessment.generatedAt ∨ now < freshnessTime then
    (.unknown, ["ASSESSMENT_CLOCK_SKEW"], none)
  else if settings.ttl ≤ now - freshnessTime then (.stale, ["ASSESSMENT_STALE"], none)
  else if device.connectionState ≠ .reporting then (.unknown, ["STATUS_NOT_RECEIVED"], none)
  else if device.effectiveState ∈ [.measurementUnavailable, .configError, .unknown] then
    (.unavailable, ["DEVICE_MEASUREMENT_UNAVAILABLE"], none)
  else if device.snapshot.any fun report =>
    report.payload.configRevision ≠ assessment.configRevision
    then (.unknown, ["CONFIG_REVISION_MISMATCH"], none)
  else
    match assessment.fillEstimate with
    | none => (.unavailable, [], none)
    | some estimate =>
      if assessment.decisionState = .unavailable then (.unavailable, [], none)
      else if assessment.observedTo = none then
        (.unknown, ["OBSERVATION_TIME_UNAVAILABLE"], none)
      else (.fresh, [], some (roundSix (estimate.ratio * 100)))

/-- In compact storage the filter must be ready for the message, and gives the percentage. -/
def filteredReading (db : Database H) (device : String × String) (message : EdgeV2Message H)
    (state : DashboardDataState) (reasons : List String) (raw : Option ℚ) : Reading :=
  if message.compact then
    if state = .fresh then
      match (db.filter device).filter fun row => row.messageId = message.messageId with
      | some row =>
        match row.state, row.value with
        | .ready, some value => ⟨.fresh, reasons, raw, some value, .ready⟩
        | .warming, _ => ⟨.unknown, reasons ++ ["FILTER_WARMING"], raw, none, .warming⟩
        | _, _ => ⟨.unknown, reasons ++ ["FILTER_UNAVAILABLE"], raw, none, .unavailable⟩
      | none => ⟨.unknown, reasons ++ ["FILTER_UNAVAILABLE"], raw, none, .unavailable⟩
    else ⟨state, reasons, raw, none, .unavailable⟩
  else ⟨state, reasons, raw, raw, .disabled⟩

/-- What the assessments of the device come to. -/
def edgeReading (settings : Settings) (db : Database H) (source : MonitoringSource)
    (device : DeviceStatus) (now : ℤ) (message : Option (EdgeV2Message H))
    (assessment : Option Assessment) : Reading :=
  match message, assessment with
  | some message, some assessment =>
    let (state, reasons, raw) := assessmentReading settings device now assessment
    filteredReading db source.device message state (assessment.reasonCodes ++ reasons) raw
  | _, _ => ⟨.noData, ["ASSESSMENT_NOT_RECEIVED"], none, none, .disabled⟩

/-- Every sensor of the geometry has been scanned lately. -/
def sensorsReady (settings : Settings) (details : StatusMessage → StatusDetails) (pit : String)
    (device : DeviceStatus) (now : ℤ) : Bool :=
  let sensors :=
    match device.snapshot with
    | some report => (details report).sensors
    | none => []
  (settings.heightReference pit).any fun reference => reference.sensors.all fun sensorId =>
    (sensors.reverse.find? fun sensor => sensor.sensorId = sensorId).any fun sensor =>
      sensor.dataState = .fresh ∧ sensor.lastScanAt.any fun scan =>
        0 ≤ now - scan ∧ now - scan < settings.ttl

/-- The device reports in the context in which the height was observed. -/
def heightContextAvailable (reader : Reader) (settings : Settings) (source : MonitoringSource)
    (device : DeviceStatus) (pit : Option PitConfig) (now : ℤ) (observation : FillObservation) :
    Bool :=
  observation.methodVersion =
      heightMethod reader.hash settings source (pit.map PitConfig.totalDepthCm) ∧
    observation.source = .heightSections ∧
    sensorsReady settings reader.details source.pitId device now ∧
    device.connectionState = .reporting ∧
    device.effectiveState ∈ [.healthy, .degraded] ∧
    device.snapshot.any fun report =>
      report.payload.configRevision = observation.configRevision ∧
        settings.clockAllowed source.pitId (reader.details report).clockState ∧
        report.payload.generatedAt ≤ now

/-- Whether the height is fresh before it is filtered. -/
def heightState (reader : Reader) (settings : Settings) (source : MonitoringSource)
    (device : DeviceStatus) (pit : Option PitConfig) (now : ℤ) (observation : FillObservation) :
    DashboardDataState × List String :=
  if now < observation.generatedAt ∨ observation.observedTo.any fun observed => now < observed then
    (.unknown, ["HEIGHT_CLOCK_SKEW"])
  else if settings.ttl ≤ now - observation.observedTo.getD observation.generatedAt then
    (.stale, ["HEIGHT_SCAN_STALE"])
  else if !heightContextAvailable reader settings source device pit now observation then
    (.unavailable, ["HEIGHT_CONTEXT_UNAVAILABLE_OR_CHANGED"])
  else if observation.valuePercent = none ∨ observation.observedTo = none then (.unavailable, [])
  else (.fresh, [])

/-- `height_snapshot`. -/
def heightSnapshot (reader : Reader) (settings : Settings) (db : Database H)
    (source : MonitoringSource) (device : DeviceStatus) (pit : Option PitConfig) (now : ℤ) :
    Option FillObservation × Reading :=
  match db.heightFill source.device with
  | none => (none, ⟨.noData, ["HEIGHT_OBSERVATION_NOT_RECEIVED"], none, none, .unavailable⟩)
  | some observation =>
    let (state, codes) := heightState reader settings source device pit now observation
    let reasons := observation.reasonCodes ++ codes
    let raw := observation.valuePercent
    let reading :=
      if state ≠ .fresh then ⟨state, reasons, none, none, .unavailable⟩
      else
        match (db.filter source.device).filter fun row =>
            row.messageId = observation.messageId ∧ row.inputSource = .heightSections ∧
              row.methodVersion = observation.methodVersion ∧
              row.threshold = settings.threshold pit with
        | none => ⟨.unknown, reasons ++ ["FILTER_UNAVAILABLE"], raw, none, .unavailable⟩
        | some row =>
          match row.state, row.value with
          | .ready, some value => ⟨.fresh, reasons, raw, some value, .ready⟩
          | .warming, _ => ⟨.unknown, reasons ++ ["FILTER_WARMING"], raw, none, .warming⟩
          | _, _ => ⟨.unknown, reasons ++ ["FILTER_UNAVAILABLE"], raw, none, .unavailable⟩
    (some observation, reading)

/-! ## The operational state -/

/-- What the operations worker reads of the current observation. -/
structure CurrentObservation where
  messageId : String
  generatedAt : ℤ
  configRevision : String

def Assessment.current (assessment : Assessment) : CurrentObservation :=
  ⟨assessment.messageId, assessment.generatedAt, assessment.configRevision⟩

def FillObservation.current (observation : FillObservation) : CurrentObservation :=
  ⟨observation.messageId, observation.generatedAt, observation.configRevision⟩

/-- The current observation of a pit, and what it comes to. -/
structure Input where
  fillObservation : Option FillObservation
  reading : Reading
  measuredAt : Option ℤ
  current : Option CurrentObservation

/-- The input is the height where heights are enabled, and else the assessment. -/
def currentInput (reader : Reader) (settings : Settings) (db : Database H)
    (source : MonitoringSource) (device : DeviceStatus) (now : ℤ)
    (message : Option (EdgeV2Message H)) (assessment : Option Assessment) : Input :=
  if settings.heightFillEnabled then
    let (observation, reading) :=
      heightSnapshot reader settings db source device (db.pitConfig source.pitId) now
    ⟨observation, reading, observation.bind FillObservation.observedTo,
      observation.map FillObservation.current⟩
  else
    ⟨none, edgeReading settings db source device now message assessment,
      assessment.bind Assessment.observedTo, assessment.map Assessment.current⟩

/-- The messages that the input comes with. -/
def inputType (settings : Settings) : MessageType :=
  if settings.heightFillEnabled then .lidarMeasurement else .edgeAssessment

def maxPendingEvaluationSeconds : ℕ := 3

/-- `recent_operation_matches`: a judgment may stand in for an observation that came just after
it. -/
def recentOperationMatches (settings : Settings) (db : Database H) (source : MonitoringSource)
    (row : EdgeV2Operation) (current : CurrentObservation) (observedAt now : ℤ) : Bool :=
  (0 ≤ now - row.observedAt ∧
    now - row.observedAt <
      seconds (min maxPendingEvaluationSeconds settings.assessmentTtlSeconds : ℕ) ∧
    row.generatedAt < current.generatedAt ∧ row.observedAt < observedAt) ∧
  ¬((db.pitConfig source.pitId).any fun config => row.observedAt < config.updatedAt) ∧
  (db.messages.find? fun message =>
    message.key = (source.siteId, source.edgeId, row.messageId)).any fun receipt =>
      (receipt.configRevision, receipt.messageType) =
        (current.configRevision, inputType settings)

/-- What the row of the worker says of the current observation, and the reason if it says nothing
of it. -/
def operationStatus (settings : Settings) (db : Database H) (source : MonitoringSource)
    (input : Input) (now : ℤ) : OperationStatus × List String :=
  let row := (db.operation source.pitId).filter fun row => row.device = source.device
  let fresh : Bool := input.reading.state = .fresh
  let evaluated := row.any fun row => input.current.any fun current =>
    row.messageId = current.messageId
  let awaited := !evaluated && fresh && input.reading.percent.isSome && row.isSome &&
    input.current.isSome
  let pending := awaited && row.any fun row => input.current.any fun current =>
    input.measuredAt.any fun measuredAt =>
      recentOperationMatches settings db source row current measuredAt now
  let effective : EffectiveState :=
    match row with
    | some row =>
      if (evaluated || pending) && fresh then .operational row.state
      else if input.reading.state = .unavailable then .error else .unknown
    | none => if input.reading.state = .unavailable then .error else .unknown
  ({ lastKnownState := row.map EdgeV2Operation.state
     effectiveState := effective
     lastEvaluatedAt := row.map EdgeV2Operation.observedAt
     lastAlertAt := row.bind EdgeV2Operation.lastAlertAt
     notificationId := row.bind EdgeV2Operation.lastAlertId
     evaluationSource :=
      if pending then some .recentPersisted
      else if evaluated && fresh then some .currentObservation else none },
    if pending then ["OPERATIONS_EVALUATION_PENDING"]
    else if awaited then ["OPERATIONS_EVALUATION_UNAVAILABLE"] else [])

/-! ## The whole -/

def validPercent (percent : Option ℚ) : Bool := percent.all fun value => 0 ≤ value ∧ value ≤ 100

/-- `list(dict.fromkeys(reasons))`: the first of each code. -/
def distinctCodes (reasons : List String) : List String :=
  reasons.foldl (fun codes code => if code ∈ codes then codes else codes ++ [code]) []

/-- `build_snapshot`. -/
def buildSnapshot (reader : Reader) (settings : Settings) (db : Database H)
    (source : MonitoringSource) (now : ℤ) : Option MonitoringSnapshotV2 := do
  let message := newestState db source.device
  let assessment ← readAssessment reader message
  let device ← deviceStatus reader.validate ⟨db.messages, db.latest source.device .status⟩
    source.device now
  let config := db.pitConfig source.pitId
  let input := currentInput reader settings db source device now message assessment
  let (operations, codes) := operationStatus settings db source input now
  let critical := settings.threshold config
  if validPercent input.reading.percent ∧ validPercent input.reading.raw then
    some {
      source := source
      measuredAt := input.measuredAt
      assessmentReceivedAt := message.map EdgeV2Message.receivedAt
      dataState := input.reading.state
      reasonCodes :=
        distinctCodes (input.reading.reasons ++ if settings.operationsEnabled then codes else [])
      summary := {
        inputSource := if settings.heightFillEnabled then .heightSections else .edgeState
        simulated := input.fillObservation.any FillObservation.simulated
        loadPercent := input.reading.percent
        rawLoadPercent := input.reading.raw
        filterState := input.reading.filterState
        warningThresholdPercent :=
          match config with
          | some config => config.warningThresholdPercent
          | none => settings.defaultWarningThreshold
        collectionThresholdPercent := critical
        recoveryThresholdPercent := max 0 (critical - 5) }
      assessment := assessment
      deviceStatus := device
      operations := if settings.operationsEnabled then some operations else none
      fillObservation := input.fillObservation }
  else none

end ScrapMonitoring.Monitoring
