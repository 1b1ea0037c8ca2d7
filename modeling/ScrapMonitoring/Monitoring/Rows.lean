import ScrapMonitoring.Foundations.Time
import ScrapMonitoring.EdgeV2.Message

/-!
# Sources, settings and rows of the monitoring of a pit

A source assigns a device to a pit. What is shown of the pit is computed from the observations of
the device, from the row of its filter, from the thresholds of the pit and from the row that the
operations worker keeps of it. Percentages, heights and seconds are exact rationals, instants are
microseconds since the epoch.
-/

namespace ScrapMonitoring.Monitoring

/-! ## Sources and settings -/

/-- The device that is assigned to a pit. -/
structure MonitoringSource where
  pitId : String
  siteId : String
  edgeId : String
  deriving DecidableEq

/-- Site and edge, which the rows of a device are keyed by. -/
def MonitoringSource.device (source : MonitoringSource) : String × String :=
  (source.siteId, source.edgeId)

/-- The geometry of a pit, as it was surveyed or for a simulation; `dump` is the whole of it. -/
inductive HeightContext
  | height (pitId : String) (calibrationVersions : List String) (verified : Bool) (dump : Json)
  | simulation (pitId : String) (sensorPoses : List String) (topZCm floorZCm : ℚ)
      (sensorAngle : Bool) (dump : Json)

namespace HeightContext

def pitId : HeightContext → String
  | height pitId .. => pitId
  | simulation pitId .. => pitId

/-- `reference_sensors`. -/
def sensors : HeightContext → List String
  | height _ calibrationVersions .. => calibrationVersions
  | simulation _ sensorPoses .. => sensorPoses

def isSimulation : HeightContext → Bool
  | height .. => false
  | simulation .. => true

def dump : HeightContext → Json
  | height _ _ _ dump => dump
  | simulation _ _ _ _ _ dump => dump

/-- What the name of the method begins with; a geometry that is not verified has no method. -/
def methodPrefix : HeightContext → Option String
  | height _ _ verified _ => if verified then some "HEIGHT_SECTION_V2:" else none
  | simulation _ _ _ _ sensorAngle _ =>
    some (if sensorAngle then "SIMULATION_SENSOR_ANGLE_V1:" else "SIMULATION_HEIGHT_SECTION_V1:")

end HeightContext

/-- `reference_depth`. -/
def referenceDepth (reference : Option HeightContext) (pitDepth : Option ℚ) : Option ℚ :=
  match reference with
  | some (.simulation _ _ topZCm floorZCm _ _) => some (topZCm - floorZCm)
  | _ => pitDepth

structure Settings where
  monitoringSources : List MonitoringSource
  assessmentTtlSeconds : ℕ
  operationsEnabled : Bool
  /-- `EDGE_V2_CRITICAL_THRESHOLD`. -/
  criticalThreshold : ℚ
  defaultWarningThreshold : ℚ
  defaultCriticalThreshold : ℚ
  heightFillEnabled : Bool
  /-- The surveyed geometries, and after them those of simulations. -/
  heightReferences : List HeightContext
  medianWindowSeconds : ℕ
  criticalConfirmSeconds : ℕ
  alertCooldownSeconds : ℕ
  ttl_range : 1 ≤ assessmentTtlSeconds ∧ assessmentTtlSeconds ≤ 3600
  window_range : 3 ≤ medianWindowSeconds ∧ medianWindowSeconds ≤ 31
  window_odd : medianWindowSeconds % 2 = 1

def Settings.ttl (settings : Settings) : ℤ := seconds settings.assessmentTtlSeconds

/-- `height_reference`. -/
def Settings.heightReference (settings : Settings) (pit : String) : Option HeightContext :=
  settings.heightReferences.find? fun reference => reference.pitId = pit

/-- `clock_allowed`. -/
def Settings.clockAllowed (settings : Settings) (pit clock : String) : Bool :=
  clock = "SYNCED" ∨
    (settings.heightReference pit).any HeightContext.isSimulation ∧ clock = "UNSYNCED"

/-- The settings of a pit. -/
structure PitConfig where
  id : String
  name : String
  totalDepthCm : ℚ
  warningThresholdPercent : ℚ
  criticalThresholdPercent : ℚ
  updatedAt : ℤ
  deriving DecidableEq

/-- The threshold from which on a pit is critical. -/
def Settings.threshold (settings : Settings) (pit : Option PitConfig) : ℚ :=
  match pit with
  | some pit => pit.criticalThresholdPercent
  | none => settings.criticalThreshold

/-- `height_method`: the name of the way in which heights become a percentage. -/
def heightMethod (hash : Json → String) (settings : Settings) (source : MonitoringSource)
    (depthCm : Option ℚ) : Option String := do
  let reference ← settings.heightReference source.pitId
  let depth ← referenceDepth (some reference) depthCm
  let methodPrefix ← reference.methodPrefix
  return methodPrefix ++ EdgeV2.digest hash
    (.arr [reference.dump, .float depth, .int settings.medianWindowSeconds])

/-! ## Observations -/

inductive DecisionState
  | available
  | limited
  | unavailable
  deriving DecidableEq

structure FillEstimate where
  ratio : ℚ
  methodVersion : String
  ratio_range : 0 ≤ ratio ∧ ratio ≤ 1

/-- A validated assessment. -/
structure Assessment where
  siteId : String
  edgeId : String
  messageId : String
  generatedAt : ℤ
  configRevision : String
  assessmentId : String
  observedTo : Option ℤ
  ruleVersion : Option String
  decisionState : DecisionState
  reasonCodes : List String
  fillEstimate : Option FillEstimate

inductive InputSource
  | edgeState
  | heightSections
  deriving DecidableEq

/-- What has been observed of the fill of a pit, by whichever input. -/
structure FillObservation where
  simulated : Bool := false
  source : InputSource
  siteId : String
  edgeId : String
  configRevision : String
  messageId : String
  observationId : String
  generatedAt : ℤ
  receivedAt : ℤ
  observedTo : Option ℤ
  ruleVersion : Option String
  methodVersion : Option String
  valuePercent : Option ℚ
  reasonCodes : List String
  scopeToken : Option String := none
  value_range : ∀ value ∈ valuePercent, 0 ≤ value ∧ value ≤ 100

/-! ## The rows of the filter and of the operations worker -/

/-- What the samples of a filter have in common. -/
structure FilterScope where
  configRevision : String
  ruleVersion : Option String
  methodVersion : Option String
  orchestratorInstanceId : Option String
  pitId : Option String
  threshold : ℚ
  source : InputSource
  scopeToken : Option String
  deriving DecidableEq

structure Sample where
  time : ℤ
  value : ℚ
  deriving DecidableEq

inductive FilterState
  | unavailable
  | warming
  | ready
  deriving DecidableEq

/-- The payload of `edge_v2_filters`, where it is not empty. -/
structure FilterPayload where
  scope : FilterScope
  samples : List Sample
  slotAnchorAt : Option ℤ
  state : FilterState
  messageId : String
  value : Option ℚ
  observedAt : Option ℤ
  aboveSince : Option ℤ
  threshold : ℚ
  inputValid : Bool
  inputSource : InputSource
  methodVersion : Option String

inductive OperationalState
  | normal
  | warning
  | critical
  deriving DecidableEq

/-- A row of `edge_v2_operations`. -/
structure EdgeV2Operation where
  pitId : String
  siteId : String
  edgeId : String
  state : OperationalState
  messageId : String
  generatedAt : ℤ
  observedAt : ℤ
  criticalSince : Option ℤ
  lastAlertAt : Option ℤ
  lastAlertId : Option ℕ

/-- The device that the row was last evaluated for. -/
def EdgeV2Operation.device (row : EdgeV2Operation) : String × String := (row.siteId, row.edgeId)

end ScrapMonitoring.Monitoring
