import ScrapMonitoring.Events.Table
import ScrapMonitoring.Foundations.Numbered
import ScrapMonitoring.Media.Jobs
import ScrapMonitoring.Operations.Lifecycle

/-!
# The history of events

`list_events` of `services/history_service.py` lists what has happened in a pit: the collections
that were confirmed by hand and those that were found to have ended, the alerts with what is known
of their lifecycles, the invalid metrics and the changes of the device. Each event gets the clip
that was recorded for it, and those of a page get the reference under which they can be replayed
(`recordingEventLinks`).

What `alert_lifecycles` reports is given. `shown` is the text of a JSON value or of none in a
message.
-/

namespace ScrapMonitoring.Events

open Monitoring (MonitoringSource PitConfig)
open Operations (AlertLifecycle)
open Media (MediaClipJob)

/-! ## Events -/

inductive EventType
  | collectionRequired
  | collectionCompleted
  | measurementError
  | deviceError
  deriving DecidableEq

inductive Severity
  | info
  | warning
  | error
  deriving DecidableEq

inductive EventStatus
  | active
  | resolved
  | completed
  | unknown
  deriving DecidableEq

inductive CollectionSource
  | manualConfirmation
  | heightSettled
  deriving DecidableEq

inductive EventSource
  | edgeV2Transition
  deriving DecidableEq

inductive StatusBasis
  | atOccurrence
  | currentEvaluation
  | persistedResolution
  | unverified
  deriving DecidableEq

structure CollectionCriteria where
  scopeToken : Option String
  matchesCurrentScope : Option Bool
  detectionVersion : Option String
  heightBasis : Option String
  detectionProfile : Option String
  settleSeconds : Option ℤ
  endPolicy : Option String
  deriving DecidableEq

/-- `Event`; the times of a resolution are instants. -/
structure Event where
  id : String
  type : EventType
  category : ReferenceCategory
  severity : Severity
  status : EventStatus
  title : String
  detail : String
  occurredAt : Datetime
  resolvedAt : Option ℤ := none
  resolutionObservedAt : Option ℤ := none
  recordingId : Option String := none
  recordingEventId : Option String := none
  collectionSource : Option CollectionSource := none
  confirmedCompletion : Option Bool := none
  simulated : Option Bool := none
  detectionId : Option String := none
  collectionCriteria : Option CollectionCriteria := none
  eventSource : Option EventSource := none
  transitionId : Option ℕ := none
  transitionKind : Option TransitionKind := none
  stateAtOccurrence : Option OccurrenceState := none
  statusBasis : Option StatusBasis := none
  pitAttribution : Option PitAttribution := none
  reasonCodes : List String := []
  deriving DecidableEq

/-! ## What is asked for -/

/-- The tables, with the other columns that the history reads under the primary keys. -/
structure HistoryStore extends Store where
  operatorName : ℕ → String
  notes : ℕ → Option String
  message : ℕ → String
  jobs : List MediaClipJob

/-- What a listing is read from. -/
structure HistoryBackend where
  settings : PlaybackSettings
  config : Collection.Configuration
  pitConfig : Option PitConfig
  store : HistoryStore
  lifecycle : ℕ → AlertLifecycle

/-- A request; the clock is read for the ends of collections, for the errors and for the links. -/
structure HistoryQuery where
  pit : String
  fromTime : Option Datetime
  toTime : Option Datetime
  category : EventCategory
  allScopes : Bool
  endedNow : Datetime
  errorsNow : Datetime
  linksNow : Datetime

def HistoryQuery.inRange (q : HistoryQuery) (time : Datetime) : Bool :=
  q.fromTime.all (· ≤ time) ∧ q.toTime.all (time ≤ ·)

/-- The category is asked for. -/
def HistoryQuery.wants (q : HistoryQuery) (category : EventCategory) : Bool :=
  q.category = .all ∨ q.category = category

/-- The source of the pit. -/
def HistoryBackend.source (b : HistoryBackend) (q : HistoryQuery) : Option MonitoringSource :=
  b.settings.monitoringSources.find? fun source => source.pitId = q.pit

/-! ## Collections -/

/-- The event of a collection that was confirmed by hand. -/
def manualEvent (store : HistoryStore) (log : CollectionLog) : Event :=
  let notes := match store.notes log.id with
    | none => "스크랩 수거 완료"
    | some notes => if notes = "" then "스크랩 수거 완료" else notes
  { id := numbered "evt-col" log.id
    type := .collectionCompleted
    category := .collection
    severity := .info
    status := .completed
    title := "수거 완료"
    detail := store.operatorName log.id ++ ": " ++ notes
    occurredAt := log.completedAt
    resolvedAt := some log.completedAt.1
    collectionSource := some .manualConfirmation
    confirmedCompletion := some true }

def manualEvents (b : HistoryBackend) (q : HistoryQuery) : List Event :=
  (b.store.collections.filter fun log => log.pitId = q.pit ∧ q.inRange log.completedAt).map
    (manualEvent b.store)

/-- A positive number of seconds. -/
def positiveMember (data : Fields) (key : String) : Option ℤ :=
  match data.lookup key with
  | some (.int n) => if 0 < n then some n else none
  | _ => none

/-- `retained_criteria` -/
def retainedCriteria (data : Fields) (scope : Option String) : CollectionCriteria where
  scopeToken := textMember data "scopeToken"
  matchesCurrentScope := (textMember data "scopeToken").bind fun token =>
    scope.map fun scope => token = scope
  detectionVersion := textMember data "detectionVersion"
  heightBasis := textMember data "heightBasis"
  detectionProfile := textMember data "detectionProfile"
  settleSeconds := positiveMember data "settleSeconds"
  endPolicy := textMember data "endPolicy"

def endedTag : String := "evt-auto-col"

/-- The event of a collection that was found to have ended. A payload whose `simulated` is not a
boolean, or whose `detectionId` is not a text, has none here; the source raises for it. The writer
of these transitions stores both with their types. -/
def endedEvent (scope : Option String) (t : EdgeV2Transition) : Event where
  id := numbered endedTag t.id
  type := .collectionCompleted
  category := .collection
  severity := .info
  status := .completed
  title := "수거 종료 감지"
  detail := "높이 감소 후 일정 시간 추가 감소가 확인되지 않아 수거 종료로 판단했습니다."
  occurredAt := t.occurredAt
  resolvedAt := some t.occurredAt.1
  collectionSource := some .heightSettled
  confirmedCompletion := some false
  simulated := simulatedOf t.payload
  detectionId := textMember t.payload "detectionId"
  collectionCriteria := some (retainedCriteria t.payload scope)

section

variable (text hash : Json → String) (shown : Option Json → String) (b : HistoryBackend)
  (q : HistoryQuery)

/-- `collection_scope` of the source. -/
def HistoryBackend.scope (source : MonitoringSource) : Option String :=
  Collection.collectionScope hash b.config source b.pitConfig

/-- The recorded ends that are asked for. -/
def endedRows (source : MonitoringSource) : List EdgeV2Transition :=
  b.store.transitions.filter fun t =>
    t.ofDevice source ∧ t.kind = .collectionSettled ∧
      column text t.payload "pitId" = some q.pit ∧
      t.occurredAt ≤ q.endedNow ∧ q.inRange t.occurredAt ∧
      (q.allScopes ∨ sqlEq (column text t.payload "scopeToken") (b.scope hash source))

/-- `collection_ended_events` -/
def collectionEndedEvents : List Event :=
  match b.source q with
  | none => []
  | some source =>
    if b.scope hash source = none ∧ ¬q.allScopes then []
    else (endedRows text hash b q source).map (endedEvent (b.scope hash source))

/-! ## Alerts -/

def lifecycleStatus : AlertLifecycle → EventStatus
  | .resolved .. => .resolved
  | .active => .active
  | .unknown => .unknown

def lifecycleBasis : AlertLifecycle → StatusBasis
  | .resolved .. => .persistedResolution
  | .active => .currentEvaluation
  | .unknown => .unverified

def lifecycleTimes : AlertLifecycle → Option ℤ × Option ℤ
  | .resolved resolvedAt observedAt => (some resolvedAt, some observedAt)
  | _ => (none, none)

def alertEvent (alert : AlertLog) : Event :=
  let lifecycle := b.lifecycle alert.id
  { id := numbered "evt-alt" alert.id
    type := .collectionRequired
    category := .alert
    severity := .error
    status := lifecycleStatus lifecycle
    title := "수거 필요"
    detail := b.store.message alert.id
    occurredAt := alert.triggeredAt
    resolvedAt := (lifecycleTimes lifecycle).1
    resolutionObservedAt := (lifecycleTimes lifecycle).2
    statusBasis := some (lifecycleBasis lifecycle) }

def alertEvents : List Event :=
  (b.store.alerts.filter fun alert => alert.pitId = q.pit ∧ q.inRange alert.triggeredAt).map
    (alertEvent b)

/-! ## Errors -/

def metricEvent (metric : ScrapMetric) : Event where
  id := numbered "evt-err" metric.id
  type := .measurementError
  category := .error
  severity := .error
  status := .unknown
  title := "센서 데이터 이상"
  detail := "LiDAR 측정 센서 이상 감지"
  occurredAt := metric.measuredAt
  statusBasis := some .unverified

def metricEvents : List Event :=
  (b.store.metrics.filter fun metric =>
    metric.pitId = q.pit ∧ metric.isValid = false ∧ q.inRange metric.measuredAt).map metricEvent

def changeSeverity (kind : TransitionKind) : OccurrenceState → Severity
  | .unavailable => if kind = .deviceStateChanged then .error else .warning
  | .recovered => .info
  | .preparing => .info
  | .degraded => .warning
  | .unknown => .warning

/-- What a change is, in words. -/
def changeText (t : EdgeV2Transition) (state : OccurrenceState) : String :=
  if t.kind = .deviceStateChanged then
    "장치 보고 상태가 " ++ shown (t.payload.lookup "previous") ++ "에서 " ++
      shown (t.payload.lookup "current") ++ "(으)로 변경되었습니다."
  else
    match state with
    | .recovered => "유효한 측정 입력이 다시 확인되었습니다. 필터 준비 완료를 의미하지 않습니다."
    | .preparing => "측정 입력을 준비 중이라는 상태 변화가 기록되었습니다."
    | _ => "계산에 사용할 유효한 측정 입력이 확인되지 않았습니다."

def changeDetail (t : EdgeV2Transition) (event : ErrorEvent) : String :=
  changeText shown t event.stateAtOccurrence ++
    (if event.reasonCodes = [] then "" else " 사유: " ++ ", ".intercalate event.reasonCodes) ++
    " 기록 당시 상태이며 현재 장치 상태나 다른 오류의 해제 여부를 뜻하지 않습니다."

def changeTag : String := "evt-v2-transition"

/-- `error_transition_event`, the whole event. -/
def changeEvent (t : EdgeV2Transition) : Option Event :=
  (errorTransitionEvent t.kind t.payload).map fun event =>
    { id := numbered changeTag t.id
      type := if t.kind = .deviceStateChanged then .deviceError else .measurementError
      category := .error
      severity := changeSeverity t.kind event.stateAtOccurrence
      status := if event.stateAtOccurrence = .recovered then .resolved else .active
      title := event.title
      detail := changeDetail shown t event
      occurredAt := t.occurredAt
      resolvedAt := if event.stateAtOccurrence = .recovered then some t.occurredAt.1 else none
      eventSource := some .edgeV2Transition
      transitionId := some t.id
      transitionKind := some t.kind
      stateAtOccurrence := some event.stateAtOccurrence
      statusBasis := some .atOccurrence
      pitAttribution := some event.pitAttribution
      reasonCodes := event.reasonCodes
      simulated := simulatedOf t.payload }

/-- The transitions that `error_history_events` selects. -/
def changeRows (source : MonitoringSource) : List EdgeV2Transition :=
  b.store.transitions.filter fun t =>
    t.ofDevice source ∧ (t.kind = .deviceStateChanged ∨ t.kind = .measurementValidityChanged) ∧
      (column text t.payload "pitId").all (· = q.pit) ∧
      t.occurredAt ≤ q.errorsNow ∧ q.inRange t.occurredAt

/-- `error_history_events` -/
def errorHistoryEvents : List Event :=
  match b.source q with
  | none => []
  | some source => (changeRows text b q source).filterMap (changeEvent shown)

/-! ## Clips -/

/-- The jobs of the pit that have a clip. -/
def clipJobs : List MediaClipJob :=
  b.store.jobs.filter fun job => job.pitId = q.pit ∧ job.clipId.isSome

/-- `recordings_by_event.get(id)`: of several jobs of an event, the last one counts. -/
def recordingOf (id : String) : Option String :=
  ((clipJobs b q).reverse.find? fun job => job.eventId = id).bind MediaClipJob.clipId

/-- `collection_clips.get((detection, scope))` -/
def collectionClip (detection scope : Option String) : Option String :=
  ((clipJobs b q).reverse.find? fun job =>
    job.category = .v2Collection ∧ (job.keys.v2Collection.any fun data =>
      ((b.source q).any fun source => data.siteId = source.siteId ∧ data.edgeId = source.edgeId) ∧
        some data.detectionId = detection ∧ some data.scopeToken = scope)).bind
    MediaClipJob.clipId

/-- The event with its clip. -/
def withRecording (event : Event) : Event :=
  { event with recordingId :=
      match recordingOf b q event.id with
      | some clip => some clip
      | none =>
        if event.collectionSource = some .heightSettled then
          event.collectionCriteria.bind fun criteria =>
            collectionClip b q event.detectionId criteria.scopeToken
        else none }

/-! ## Links to recordings -/

/-- What `recording_event_links` asks of `event_table`. -/
def linkQuery (category : EventCategory) : EventQuery where
  pit := q.pit
  source := b.source q
  category := category
  lower := none
  upper := none
  now := q.linksNow
  before := 30
  after := 30
  active := none

/-- The events that are not ends of collections link to themselves, where the table has them. -/
def ordinaryLinks (events : List Event) : List (String × String) :=
  let ordinary := (events.filter fun event =>
    event.collectionSource ≠ some .heightSettled).map Event.id
  (((eventTable text b.store.toStore (linkQuery b q .all)).map EventRow.eventId).filter fun id =>
    id ∈ ordinary).map fun id => (id, id)

/-- An end that names its detection and its scope. -/
def identified (source : MonitoringSource) (t : EdgeV2Transition) : Bool :=
  t.ofDevice source ∧ t.kind = .collectionSettled ∧ column text t.payload "pitId" = some q.pit ∧
    (column text t.payload "detectionId").any (· ≠ "") ∧
    (column text t.payload "scopeToken").any (· ≠ "")

/-- `duplicate_end`: another row ends the same detection at the same time. -/
def duplicateEnd (t : EdgeV2Transition) : Bool :=
  b.store.transitions.any fun other =>
    other.id ≠ t.id ∧ other.siteId = t.siteId ∧ other.edgeId = t.edgeId ∧
      other.kind = .collectionSettled ∧ other.occurredAt = t.occurredAt ∧
      column text other.payload "pitId" = some q.pit ∧
      sqlEq (column text other.payload "detectionId") (column text t.payload "detectionId") ∧
      sqlEq (column text other.payload "scopeToken") (column text t.payload "scopeToken")

/-- The cycles that end with a row. -/
def cyclesOf (t : EdgeV2Transition) : List EventRow :=
  (eventTable text b.store.toStore (linkQuery b q .collection)).filter fun row =>
    row.kind = .collection ∧ row.ended = some t.occurredAt ∧
      row.payload.any fun payload =>
        sqlEq (column text t.payload "detectionId") (column text payload "detectionId") ∧
          sqlEq (column text t.payload "scopeToken") (column text payload "scopeToken")

/-- The link of an end: of the one cycle that ends with it, if there is one. -/
def endLink (t : EdgeV2Transition) : Option (String × String) :=
  match cyclesOf text b q t with
  | [row] => some (numbered endedTag t.id, row.eventId)
  | _ => none

/-- The ends of collections link to the starts of their cycles. -/
def endLinks (events : List Event) : List (String × String) :=
  match b.source q with
  | none => []
  | some source =>
    (b.store.transitions.filter fun t =>
        identified text q source t ∧ duplicateEnd text b q t = false ∧
          numbered endedTag t.id ∈ (events.filter fun event =>
            event.collectionSource = some .heightSettled).map Event.id).filterMap
      (endLink text b q)

/-- `recording_event_links` -/
def recordingEventLinks (events : List Event) : List (String × String) :=
  if events = [] ∨
      (¬b.settings.dailyServiceConfigured ∧ ¬b.settings.serviceConfigured) ∨
      q.pit ≠ b.settings.mediaPitId then []
  else ordinaryLinks text b q events ++ endLinks text b q events

/-! ## Pages -/

/-- The events of the history, table by table. -/
def historyEvents : List Event :=
  ((if q.wants .collection then
      manualEvents b q ++ collectionEndedEvents text hash b q
    else []) ++
   (if q.wants .alert then alertEvents b q else []) ++
   (if q.wants .error then metricEvents b q ++ errorHistoryEvents text shown b q else [])).map
    (withRecording b q)

/-- The latest events first; events of one time stay as they are. -/
def sortedEvents : List Event :=
  sortedBy (fun event => OrderDual.toDual event.occurredAt) (historyEvents text hash shown b q)

structure EventPage where
  items : List Event
  page : ℕ
  pageSize : ℕ
  totalItems : ℕ
  totalPages : ℕ

/-- `list_events` -/
def listEvents (page pageSize : ℕ) : EventPage :=
  let events := sortedEvents text hash shown b q
  let paged := (events.drop ((page - 1) * pageSize)).take pageSize
  let links := recordingEventLinks text b q paged
  { items := paged.map fun event => { event with recordingEventId := links.lookup event.id }
    page := page
    pageSize := pageSize
    totalItems := events.length
    totalPages := if 0 < events.length then totalPages events.length pageSize else 0 }

end

end ScrapMonitoring.Events
