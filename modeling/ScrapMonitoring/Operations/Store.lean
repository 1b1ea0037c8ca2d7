import ScrapMonitoring.Foundations.Calendar
import ScrapMonitoring.Foundations.Transaction
import ScrapMonitoring.Monitoring.Snapshot

/-!
# What the operations worker keeps

The worker keeps a row of each pit (the cursor, the state and the last alert), a tracker of the
critical episode of each device, the times since when conditions have been shown, and what it has
reported: transitions, alerts and their links to the device. Rows of a table stand in the order of
their ids. `Evaluation` is what one evaluation reads besides these rows.
-/

namespace ScrapMonitoring.Operations

open Monitoring EdgeV2

/-! ## Rows -/

/-- The row of `edge_v2_latest` with the critical episode of a device. -/
structure Tracker where
  messageId : String
  generatedAt : ℤ
  pitId : String
  scopeToken : String
  episodeId : Option String
  observedAt : ℤ
  inputValid : Bool
  hasAlert : Bool

structure StartEntry where
  signature : String
  startedAt : ℤ
  deriving DecidableEq

/-- The row of `edge_v2_latest` with the times since when conditions have been shown. -/
structure Starts where
  pitId : String
  evaluatedAt : ℤ
  entries : List (String × StartEntry)
  deriving DecidableEq

/-- The kind of a transition, with its payload. -/
inductive TransitionPayload
  | alertCreated (pitId : String) (alertId : ℕ) (episodeId scopeToken : String) (observedAt : ℤ)
      (simulated : Bool)
  | alertResolved (pitId episodeId scopeToken : String) (resolutionObservedAt : ℤ)
  | fillStateChanged (previous current : OperationalState) (valuePercent : ℚ)
      (assessmentId : Option String) (observationId : String) (inputSource : InputSource)
      (methodVersion : Option String) (simulated : Bool) (messageId : String)
  deriving DecidableEq

structure EdgeV2Transition where
  siteId : String
  edgeId : String
  occurredAt : ℤ
  payload : TransitionPayload
  deriving DecidableEq

structure AlertLog where
  id : ℕ
  pitId : String
  triggeredAt : ℤ
  fillRatioPercent : ℚ
  simulated : Bool
  source : InputSource
  deriving DecidableEq

structure EdgeV2AlertLink where
  alertId : ℕ
  pitId : String
  siteId : String
  edgeId : String
  assessmentId : String
  messageId : String
  observedAt : ℤ
  deriving DecidableEq

structure Store where
  operation : String → Option EdgeV2Operation
  tracker : String × String → Option Tracker
  starts : String × String → Option Starts
  transitions : List EdgeV2Transition
  alerts : List AlertLog
  links : List EdgeV2AlertLink

namespace Store

def setOperation (s : Store) (pit : String) (row : EdgeV2Operation) : Store :=
  { s with operation := Function.update s.operation pit (some row) }

def setTracker (s : Store) (device : String × String) (row : Tracker) : Store :=
  { s with tracker := Function.update s.tracker device (some row) }

def setStarts (s : Store) (device : String × String) (row : Starts) : Store :=
  { s with starts := Function.update s.starts device (some row) }

def addTransition (s : Store) (row : EdgeV2Transition) : Store :=
  { s with transitions := s.transitions ++ [row] }

def addAlert (s : Store) (row : AlertLog) : Store := { s with alerts := s.alerts ++ [row] }

def addLink (s : Store) (row : EdgeV2AlertLink) : Store := { s with links := s.links ++ [row] }

end Store

/-! ## Evaluations -/

/-- What an evaluation reads besides the rows of the worker: the settings, the snapshot, the row of
the filter, the conditions of the device's health, the policy of the pit, the clock, and the
identifiers that `uuid4` and the database give. -/
structure Evaluation where
  settings : Settings
  snapshot : MonitoringSnapshotV2
  filtered : Option FilterPayload
  healthConditions : List (String × String)
  preAlertEnabled : Option Bool
  now : ℤ
  uuid : String
  alertId : ℕ

namespace Evaluation

def source (e : Evaluation) : MonitoringSource := e.snapshot.source

/-- An assessment as an observation of the fill. -/
def assessmentObservation (e : Evaluation) (edge : Assessment) : FillObservation where
  source := .edgeState
  siteId := edge.siteId
  edgeId := edge.edgeId
  configRevision := edge.configRevision
  messageId := edge.messageId
  observationId := edge.assessmentId
  generatedAt := edge.generatedAt
  receivedAt := e.snapshot.assessmentReceivedAt.getD e.now
  observedTo := edge.observedTo
  ruleVersion := edge.ruleVersion
  methodVersion := edge.fillEstimate.map FillEstimate.methodVersion
  valuePercent := edge.fillEstimate.map fun estimate => estimate.ratio * 100
  reasonCodes := edge.reasonCodes
  value_range := by
    intro value hvalue
    obtain ⟨estimate, -, rfl⟩ := Option.map_eq_some_iff.1 hvalue
    obtain ⟨h₀, h₁⟩ := estimate.ratio_range
    constructor <;> linarith

/-- The observation to evaluate. -/
def observation (e : Evaluation) : Option FillObservation :=
  match e.snapshot.fillObservation with
  | some observation => some observation
  | none =>
    if e.settings.heightFillEnabled then none
    else e.snapshot.assessment.map e.assessmentObservation

/-- The observation and the percentage that is shown, where the snapshot is fresh. -/
def input (e : Evaluation) : Option (FillObservation × ℚ) :=
  if e.snapshot.dataState ≠ .fresh then none
  else
    match e.observation, e.snapshot.summary.loadPercent with
    | some observation, some fill => some (observation, fill)
    | _, _ => none

end Evaluation

/-! ## Tokens -/

def jsonText (text : Option String) : Json :=
  match text with
  | some text => .str text
  | none => .null

def inputSourceText : InputSource → String
  | .edgeState => "EDGE_STATE"
  | .heightSections => "HEIGHT_SECTIONS"

/-- `source.model_dump()`. -/
def sourceDump (source : MonitoringSource) : Json :=
  .obj [("pit_id", .str source.pitId), ("site_id", .str source.siteId),
    ("edge_id", .str source.edgeId)]

/-- `lifecycle_scope`: what the evaluations of one episode have in common. -/
def lifecycleScope (hash : Json → String) (snapshot : MonitoringSnapshotV2) : String :=
  let summary := snapshot.summary
  digest hash (.arr [
    sourceDump snapshot.source,
    jsonText (match snapshot.fillObservation with
      | some observation => some observation.configRevision
      | none => snapshot.assessment.map Assessment.configRevision),
    jsonText (match snapshot.fillObservation with
      | some observation => observation.ruleVersion
      | none => snapshot.assessment.bind Assessment.ruleVersion),
    jsonText (match snapshot.fillObservation with
      | some observation => observation.methodVersion
      | none => (snapshot.assessment.bind Assessment.fillEstimate).map FillEstimate.methodVersion),
    jsonText (snapshot.fillObservation.bind FillObservation.scopeToken),
    .str (inputSourceText summary.inputSource),
    .bool summary.simulated,
    .float summary.warningThresholdPercent,
    .float summary.collectionThresholdPercent,
    .float summary.recoveryThresholdPercent,
    jsonText (snapshot.deviceStatus.snapshot.map fun message =>
      message.report.orchestratorInstanceId)])

/-- `signature`, of a condition. -/
def signature (hash : Json → String) (snapshot : MonitoringSnapshotV2) (identifier state : String) :
    String :=
  let report := snapshot.deviceStatus.snapshot
  let scope :=
    if identifier.startsWith "fill-" ∨ 1 < (identifier.splitOn ":measurement:").length then
      lifecycleScope hash snapshot
    else digest hash (.arr [
      sourceDump snapshot.source,
      jsonText (report.map fun message => message.payload.configRevision),
      jsonText (report.map fun message => message.report.orchestratorInstanceId),
      if state = "STATUS_UNKNOWN" then jsonText (snapshot.deviceStatus.lastReceivedAt.map isoformat)
      else .null])
  digest hash (.arr [.str identifier, .str state, .str scope])

end ScrapMonitoring.Operations
