import ScrapMonitoring.EdgeV2.Message
import ScrapMonitoring.Foundations.Newest
import ScrapMonitoring.Foundations.Time
import Mathlib.Order.WithBot

/-!
# The latest observations, and the status of a device

In compact storage a receipt does not hold its body; `edge_v2_latest` holds one body of each kind
for a device, and `project` decides which. `deviceStatus` reads the status of a device off its
receipts and, when they are compact, off the retained body. The rows of a table stand in the order
of their ids.

`validate` stands for `StatusReport.model_validate`, which gives `none` for a body that is not
valid.
-/

namespace ScrapMonitoring.EdgeV2

variable {H : Type*}

/-- A validated message that reports a status. -/
structure StatusMessage where
  payload : Payload
  report : StatusReport
  isReport : payload.statusReport? = some report

/-! ## The latest observations -/

inductive LatestKind
  | measurement
  | state
  | status
  deriving DecidableEq

/-- The kind of observation that a message replaces: evidence, events and configurations replace
none. -/
def Payload.latestKind? (payload : Payload) : Option LatestKind :=
  match payload.body with
  | .measurement .periodic _ _ => some .measurement
  | .assessment .state _ _ => some .state
  | .statusReport _ => some .status
  | .measurement .evidence _ _ | .assessment .event _ _ | .configuration _ => none

/-- The row of a device and a kind. -/
structure EdgeV2Latest where
  messageId : String
  generatedAt : ℤ
  payload : Json

/-- The row takes the body over. -/
def EdgeV2Latest.replaced (current : EdgeV2Latest) (payload : Payload) (original : Json) :
    EdgeV2Latest where
  messageId := payload.messageId
  generatedAt := max current.generatedAt payload.generatedAt
  payload := original

/-- A body of another class, or of another instance, must be newer than every one before. -/
def replaceNewer (current : EdgeV2Latest) (payload : Payload) (original : Json) : EdgeV2Latest :=
  if current.generatedAt < payload.generatedAt then current.replaced payload original else current

/-- Within one instance the sequence decides, and the generation time only moves on. -/
def replaceInstance (current : EdgeV2Latest) (previous report : StatusReport) (payload : Payload)
    (original : Json) : EdgeV2Latest :=
  if previous.sequence < report.sequence then current.replaced payload original
  else { current with generatedAt := max current.generatedAt payload.generatedAt }

/-- `project`, for the row of the message's kind. -/
def projectLatest (validate : Json → Option StatusMessage) (payload : Payload) (original : Json) :
    Option EdgeV2Latest → Option EdgeV2Latest
  | none => some ⟨payload.messageId, payload.generatedAt, original⟩
  | some current =>
    match payload.statusReport? with
    | none => some (replaceNewer current payload original)
    | some report => do
      let previous ← validate current.payload
      if previous.report.orchestratorInstanceId = report.orchestratorInstanceId then
        return replaceInstance current previous.report report payload original
      else return replaceNewer current payload original

/-! ## The status of a device -/

inductive ConnectionState
  | reporting
  | unknown
  deriving DecidableEq

structure DeviceStatus where
  siteId : String
  edgeId : String
  connectionState : ConnectionState
  lastReceivedAt : Option ℤ
  effectiveState : OverallState
  reasonCodes : List String
  snapshot : Option StatusMessage

/-- What is stored of a device: its receipts, and the row of its latest status. -/
structure StatusStore (H : Type*) where
  messages : List (EdgeV2Message H)
  latest : Option EdgeV2Latest

/-- `latest_message`: the receipt of the retained body, with that body. -/
def latestMessage (store : StatusStore H) (source : String × String) :
    Option (EdgeV2Message H) :=
  store.latest.bind fun latest =>
    (store.messages.find? fun message =>
      message.key = (source.1, source.2, latest.messageId)).map fun receipt =>
        { receipt with payload := latest.payload, compact := true }

/-- The status receipts of the device. -/
def statusReceipts (store : StatusStore H) (source : String × String) : List (EdgeV2Message H) :=
  store.messages.filter fun message =>
    (message.siteId, message.edgeId) = source ∧ message.messageType = .edgeStatus

/-- The sequence of a receipt; the order puts receipts without one first. -/
def sequenceKey (message : EdgeV2Message H) : WithBot ℕ := message.sequence

/-- The body that a receipt stands for: its own, or the retained one if that is of the same
instance and sequence. `none` is a body that is not valid. -/
def statusBody (validate : Json → Option StatusMessage) (store : StatusStore H)
    (source : String × String) (latest : EdgeV2Message H) : Option (Option StatusMessage) :=
  if latest.compact then
    match latestMessage store source with
    | none => some none
    | some retained =>
      if retained.instanceId = latest.instanceId ∧ retained.sequence = latest.sequence then
        (validate retained.payload).map some
      else some none
  else (validate latest.payload).map some

/-- The newest receipt decides on the instance, the greatest sequence on its snapshot. -/
def statusSnapshot (validate : Json → Option StatusMessage) (store : StatusStore H)
    (source : String × String) : Option (Option StatusMessage) :=
  match lastMax EdgeV2Message.generatedAt (statusReceipts store source) with
  | none => some none
  | some latestInstance =>
    match lastMax sequenceKey ((statusReceipts store source).filter fun message =>
        message.instanceId = latestInstance.instanceId) with
    | none => some none
    | some latest => statusBody validate store source latest

/-- `device_status`; `none` stands for the error of a stored body that is not valid. -/
def deviceStatus (validate : Json → Option StatusMessage) (store : StatusStore H)
    (source : String × String) (now : ℤ) : Option DeviceStatus := do
  let snapshot ← statusSnapshot validate store source
  let receivedAt :=
    ((statusReceipts store source).argmax EdgeV2Message.receivedAt).map EdgeV2Message.receivedAt
  let reporting := receivedAt.any fun receivedAt => now - receivedAt < seconds 30
  return {
    siteId := source.1
    edgeId := source.2
    connectionState := if reporting then .reporting else .unknown
    lastReceivedAt := receivedAt
    effectiveState :=
      match snapshot with
      | some message => if reporting then message.report.overallState else .unknown
      | none => .unknown
    reasonCodes :=
      match snapshot with
      | some message => if reporting then message.report.reasonCodes else ["STATUS_NOT_RECEIVED"]
      | none => ["STATUS_NOT_RECEIVED"]
    snapshot := snapshot }

end ScrapMonitoring.EdgeV2
