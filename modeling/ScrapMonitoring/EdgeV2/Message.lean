import ScrapMonitoring.Foundations.Json

/-!
# Messages of an edge device, and what is stored of them

The payloads of contract 2.0 as `schemas/edge_v2.py` validates them, with the fields that the
receiver reads. `Payload.dump` is the whole validated message as `model_dump(mode="json")` gives
it; the parts of a message that only its stored contents show (points, capabilities, evidence, the
details of a status) are members of the dumps. Instants are microseconds since the epoch.

The rows are those of `models/edge_v2.py`. `hash` stands for SHA-256 of the text of a JSON value
whose members are sorted; `digest` sorts them first.
-/

namespace ScrapMonitoring.EdgeV2

/-! ## Payloads -/

structure Calibration where
  version : String
  dump : Json

structure SensorConfiguration where
  sensorId : String
  calibration : Option Calibration

structure Scan where
  scanId : String
  dump : Fields

structure SensorObservation where
  sensorId : String
  calibrationVersion : Option String
  scan : Option Scan
  dump : Fields

inductive DeliveryKind
  | periodic
  | evidence
  deriving DecidableEq

inductive AssessmentType
  | state
  | event
  deriving DecidableEq

inductive OverallState
  | healthy
  | degraded
  | measurementUnavailable
  | configError
  | unknown
  deriving DecidableEq

structure StatusReport where
  orchestratorInstanceId : String
  sequence : ℕ
  overallState : OverallState
  reasonCodes : List String
  /-- The ids of the sensors it reports on. -/
  sensorIds : List String
  deriving DecidableEq

/-- The classes of messages. -/
inductive Body
  | configuration (sensors : List SensorConfiguration)
  | measurement (deliveryKind : DeliveryKind) (coordinateFrameId : String)
      (sensors : List SensorObservation)
  | assessment (assessmentType : AssessmentType) (assessmentId : String) (revision : ℕ)
  | statusReport (report : StatusReport)

structure Payload where
  messageId : String
  siteId : String
  edgeId : String
  generatedAt : ℤ
  configRevision : String
  body : Body
  dump : Fields

inductive MessageType
  | edgeConfiguration
  | lidarMeasurement
  | edgeAssessment
  | edgeStatus
  deriving DecidableEq

def Body.messageType : Body → MessageType
  | .configuration _ => .edgeConfiguration
  | .measurement .. => .lidarMeasurement
  | .assessment .. => .edgeAssessment
  | .statusReport _ => .edgeStatus

def MessageType.text : MessageType → String
  | .edgeConfiguration => "edge_configuration"
  | .lidarMeasurement => "lidar_measurement"
  | .edgeAssessment => "edge_assessment"
  | .edgeStatus => "edge_status"

def AssessmentType.text : AssessmentType → String
  | .state => "STATE"
  | .event => "EVENT"

/-- `isinstance(payload, StatusReport)`. -/
def Payload.statusReport? (payload : Payload) : Option StatusReport :=
  match payload.body with
  | .statusReport report => some report
  | _ => none

/-- Site and edge, which the device's rows are keyed by. -/
def Payload.source (payload : Payload) : String × String := (payload.siteId, payload.edgeId)

/-! ## Devices, errors and acknowledgments -/

structure EdgeV2Device where
  siteId : String
  edgeId : String
  sensorIds : List String
  two_sensors : sensorIds.length = 2
  distinct_sensors : sensorIds.Nodup

structure EdgeV2Error where
  status : ℕ
  code : String
  field : Option String := none
  retryable : Bool := false
  deriving DecidableEq

structure StorageAck where
  messageId : String
  duplicate : Bool
  receivedAt : ℤ
  deriving DecidableEq

/-- The sensors that a message speaks of, for the messages whose sensors are checked. -/
def Body.sensorIds : Body → Option (List String)
  | .configuration sensors => some (sensors.map SensorConfiguration.sensorId)
  | .measurement _ _ sensors => some (sensors.map SensorObservation.sensorId)
  | .assessment .. => none
  | .statusReport report => some report.sensorIds

/-- The messages that must speak of every sensor of the device. -/
def Body.needsAllSensors : Body → Bool
  | .configuration _ => true
  | .measurement deliveryKind _ _ => deliveryKind = .periodic
  | .assessment .. | .statusReport _ => false

def validateScope (payload : Payload) (device : EdgeV2Device) : Except EdgeV2Error Unit :=
  if payload.source ≠ (device.siteId, device.edgeId) then
    .error ⟨403, "DEVICE_SCOPE_MISMATCH", none, false⟩
  else
    match payload.body.sensorIds with
    | none => .ok ()
    | some sensorIds =>
      if ¬ sensorIds ⊆ device.sensorIds then
        .error ⟨422, "SCHEMA_VALIDATION_FAILED", some "sensors", false⟩
      else if payload.body.needsAllSensors ∧ ¬ device.sensorIds ⊆ sensorIds then
        .error ⟨422, "SCHEMA_VALIDATION_FAILED", some "sensors", false⟩
      else .ok ()

/-! ## Rows -/

variable {H : Type*}

/-- `digest`: the hash of the value, its members sorted. -/
def digest (hash : Json → H) (value : Json) : H := hash value.canonical

/-- A body whose members come in another order is the same body. -/
theorem digest_obj_perm {hash : Json → H} {members members' : Fields} (h : members.Perm members')
    (hkeys : (members.map Prod.fst).Nodup) :
    digest hash (.obj members) = digest hash (.obj members') :=
  congrArg hash (Json.canonical_obj_perm h hkeys)

structure EdgeV2Message (H : Type*) where
  siteId : String
  edgeId : String
  messageId : String
  messageType : MessageType
  configRevision : String
  generatedAt : ℤ
  receivedAt : ℤ
  bodyHash : H
  payload : Json
  compact : Bool
  instanceId : Option String
  sequence : Option ℕ

/-- The columns of `uq_edge_v2_message`. -/
def EdgeV2Message.key (message : EdgeV2Message H) : String × String × String :=
  (message.siteId, message.edgeId, message.messageId)

def Payload.key (payload : Payload) : String × String × String :=
  (payload.siteId, payload.edgeId, payload.messageId)

inductive ArtifactKind
  | configuration
  | calibration
  | scanSource
  | scanResult
  | assessmentRevision
  | statusSequence
  deriving DecidableEq

structure EdgeV2Artifact (H : Type*) where
  siteId : String
  edgeId : String
  kind : ArtifactKind
  keyHash : H
  artifactKey : List Json
  payload : Json
  contentHash : Option H

/-- The columns of `uq_edge_v2_artifact`. -/
def EdgeV2Artifact.key (artifact : EdgeV2Artifact H) : (String × String) × ArtifactKind × H :=
  ((artifact.siteId, artifact.edgeId), artifact.kind, artifact.keyHash)

/-- `existing.content_hash or digest(existing.payload)`. -/
def EdgeV2Artifact.storedHash (hash : Json → H) (artifact : EdgeV2Artifact H) : H :=
  artifact.contentHash.getD (digest hash artifact.payload)

/-! ## Receipts -/

/-- The members of `Envelope`. -/
def envelopeFields : List String :=
  ["schema_version", "message_id", "site_id", "edge_id", "generated_at", "config_revision"]

/-- The envelope of a message whose body is not kept. -/
def envelopeOnly (payload : Payload) (assessmentType : Json) : Json :=
  .obj (payload.dump.only envelopeFields ++
    [("message_type", .str payload.body.messageType.text), ("assessment_type", assessmentType),
      ("retention", .str "LATEST_ONLY")])

/-- What a receipt keeps of a message in compact storage. -/
def receiptPayload (payload : Payload) : Json :=
  match payload.body with
  | .assessment .event _ _ | .configuration _ => .obj payload.dump
  | .assessment .state _ _ => envelopeOnly payload (.str AssessmentType.state.text)
  | .measurement .. | .statusReport _ => envelopeOnly payload .null

end ScrapMonitoring.EdgeV2
