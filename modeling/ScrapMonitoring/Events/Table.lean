import Mathlib.Data.Prod.Lex
import Mathlib.Data.String.Basic
import ScrapMonitoring.Collection.Sweep
import ScrapMonitoring.Events.Rows
import ScrapMonitoring.Foundations.Queries
import ScrapMonitoring.Foundations.Sorted

/-!
# The listing of events

`event_table` of `services/event_recording_queries.py` is the union of six selections: the cycles of
collection of the device, each with the first recorded end; the collections that were confirmed by
hand; the alerts of the pit, with the transition that recorded the creation; the invalid metrics;
and the changes of the device's state and of the validity of its measurements. `reference` makes an
event of a row, and `list_event_recordings` of `services/event_recording_service.py` a page of
events.

The table is the one of a listing, which asks for no single event. The links to thumbnails that
`reference` adds are left out.
-/

namespace ScrapMonitoring.Events

open Monitoring (MonitoringSource PitConfig)

/-! ## Events in a table -/

inductive EventKind
  | collection
  | manualCollection
  | alert
  | legacyError
  | deviceStateChanged
  | measurementValidityChanged
  deriving DecidableEq, Repr

/-- What the identifiers of the events of a kind begin with. -/
def EventKind.idPrefix : EventKind → String
  | collection => "evt-auto-col-start"
  | manualCollection => "evt-col"
  | alert => "evt-alt"
  | legacyError => "evt-err"
  | deviceStateChanged => "evt-v2-transition"
  | measurementValidityChanged => "evt-v2-transition"

/-- The identifier of the event of a row with that primary key. -/
def eventId (kind : EventKind) (number : ℕ) : String := kind.idPrefix ++ "-" ++ toString number

/-- A row of `event_table`. -/
structure EventRow where
  kind : EventKind
  number : ℕ
  occurredAt : Datetime
  ended : Option Datetime := none
  payload : Option Fields := none

def EventRow.eventId (row : EventRow) : String := Events.eventId row.kind row.number

inductive EventCategory
  | all
  | collection
  | alert
  | error
  deriving DecidableEq

/-- The arguments of `event_table`. -/
structure EventQuery where
  pit : String
  source : Option MonitoringSource
  category : EventCategory
  lower : Option Datetime
  upper : Option Datetime
  now : Datetime
  before : ℕ
  after : ℕ
  /-- The detection and the scope of the collection that goes on. -/
  active : Option (String × String)

/-! ## The selections -/

section Selections

variable (text : Json → String) (store : Store) (q : EventQuery)

/-- The filter on the time of an event that is a point in time. -/
def EventQuery.inContext (q : EventQuery) (occurred : Datetime) : Bool :=
  (q.lower.all fun lower => shifted lower (-q.after) < occurred) ∧
    (q.upper.all fun upper => occurred < shifted upper q.before) ∧ occurred ≤ q.now

/-- `ongoing`: a cycle without an end counts where it begins, unless it is the active one. -/
def EventQuery.ongoing (start : EdgeV2Transition) (lower : Datetime) : Bool :=
  lower ≤ start.occurredAt ∨ q.active.any fun active => lower < q.now ∧
    column text start.payload "detectionId" = some active.1 ∧
    column text start.payload "scopeToken" = some active.2

/-- The filter on the times of a cycle. -/
def EventQuery.inCycle (start : EdgeV2Transition) (ended : Option Datetime) : Bool :=
  (q.lower.all fun lower =>
      match ended with
      | some ended => lower < ended
      | none => q.ongoing text start lower) ∧
    (q.upper.all fun upper => start.occurredAt < upper) ∧ start.occurredAt ≤ q.now

/-- The columns that a start and its end have in common. -/
def cycleKey (t : EdgeV2Transition) : Option String × Option String :=
  (column text t.payload "detectionId", column text t.payload "scopeToken")

/-- The transition is one of the pit, of the kind and of the device of the source. -/
def recorded (source : MonitoringSource) (kind : TransitionKind) (t : EdgeV2Transition) : Bool :=
  t.ofDevice source ∧ t.kind = kind ∧ column text t.payload "pitId" = some q.pit

/-- `ends`: the first end of each detection. -/
def cycleEnds (source : MonitoringSource) : List ((Option String × Option String) × Datetime) :=
  groupMin (cycleKey text) EdgeV2Transition.occurredAt
    (store.transitions.filter fun t =>
      recorded text q source .collectionSettled t ∧ t.occurredAt ≤ q.now)

/-- An end goes with a start. -/
def endOf (start : EdgeV2Transition) (ended : (Option String × Option String) × Datetime) : Bool :=
  sqlEq ended.1.1 (cycleKey text start).1 ∧ sqlEq ended.1.2 (cycleKey text start).2 ∧
    start.occurredAt ≤ ended.2

def collectionRows (source : MonitoringSource) : List EventRow :=
  ((outerJoin (endOf text) store.transitions (cycleEnds text store q source)).filter fun r =>
      recorded text q source .collectionDetected r.1 ∧ q.inCycle text r.1 (r.2.map Prod.snd)).map
    fun r => ⟨.collection, r.1.id, r.1.occurredAt, r.2.map Prod.snd, some r.1.payload⟩

def manualCollectionRows : List EventRow :=
  (store.collections.filter fun log => log.pitId = q.pit ∧ q.inContext log.completedAt).map
    fun log => { kind := .manualCollection, number := log.id, occurredAt := log.completedAt }

/-- `first_created`: the first transition that recorded the creation of each alert. -/
def firstCreated (source : MonitoringSource) : List (Option String × ℕ) :=
  groupMin (fun t => column text t.payload "alertId") EdgeV2Transition.id
    (store.transitions.filter (recorded text q source .alertCreated))

/-- The alerts with their links, the first transitions and these transitions' rows. -/
def alertSource (source : MonitoringSource) :
    List (((AlertLog × Option EdgeV2AlertLink) × Option (Option String × ℕ)) ×
      Option EdgeV2Transition) :=
  let linked := outerJoin (fun alert link => link.alertId = alert.id ∧ link.pitId = q.pit ∧
    link.siteId = source.siteId ∧ link.edgeId = source.edgeId) store.alerts store.links
  let created := outerJoin (fun r created => sqlEq created.1 (r.2.map fun link =>
    toString link.alertId)) linked (firstCreated text store q source)
  outerJoin (fun r earliest => r.2.any fun created => earliest.id = created.2) created
    store.transitions

/-- The alerts, each with the payload of its first transition. -/
def alertPayloads : List (AlertLog × Option Fields) :=
  match q.source with
  | none => store.alerts.map (·, none)
  | some source => (alertSource text store q source).map fun r =>
    (r.1.1.1, r.2.map EdgeV2Transition.payload)

def alertRows : List EventRow :=
  ((alertPayloads text store q).filter fun r => r.1.pitId = q.pit ∧ q.inContext r.1.triggeredAt).map
    fun r =>
      { kind := .alert, number := r.1.id, occurredAt := r.1.triggeredAt, payload := r.2 }

def legacyErrorRows : List EventRow :=
  (store.metrics.filter fun metric =>
      metric.pitId = q.pit ∧ metric.isValid = false ∧ q.inContext metric.measuredAt).map
    fun metric => { kind := .legacyError, number := metric.id, occurredAt := metric.measuredAt }

def deviceStates : List String :=
  ["MEASUREMENT_UNAVAILABLE", "CONFIG_ERROR", "HEALTHY", "DEGRADED", "UNKNOWN"]

/-- `device`: the state of the device has changed to another one. -/
def deviceChanged (t : EdgeV2Transition) : Bool :=
  t.kind = .deviceStateChanged ∧ (column text t.payload "current").any fun current =>
    current ∈ deviceStates ∧ (column text t.payload "previous").all (· ≠ current)

/-- `changed`: the measurements of the device have turned valid or invalid. -/
def validityChanged (t : EdgeV2Transition) : Bool :=
  t.kind = .measurementValidityChanged ∧
    (jsonBoolean t.payload "previousValid" true ∧ jsonBoolean t.payload "currentValid" false ∨
      jsonBoolean t.payload "previousValid" false ∧ jsonBoolean t.payload "currentValid" true)

/-- The transition is of the device, and of the pit or of no pit in particular. -/
def attributed (source : MonitoringSource) (t : EdgeV2Transition) : Bool :=
  t.ofDevice source ∧ (column text t.payload "pitId").all (· = q.pit)

def transitionRows (source : MonitoringSource) (kind : EventKind)
    (condition : EdgeV2Transition → Bool) : List EventRow :=
  (store.transitions.filter fun t =>
      attributed text q source t ∧ condition t ∧ q.inContext t.occurredAt).map
    fun t =>
      { kind := kind, number := t.id, occurredAt := t.occurredAt, payload := some t.payload }

/-- `event_table`, where no single event is asked for. -/
def eventTable : List EventRow :=
  (if q.category = .all ∨ q.category = .collection then
      (match q.source with
        | none => []
        | some source => collectionRows text store q source) ++ manualCollectionRows store q
    else []) ++
  (if q.category = .all ∨ q.category = .alert then alertRows text store q else []) ++
  (if q.category = .all ∨ q.category = .error then
      legacyErrorRows store q ++
        (match q.source with
        | none => []
        | some source =>
          transitionRows text store q source .deviceStateChanged (deviceChanged text) ++
            transitionRows text store q source .measurementValidityChanged validityChanged)
    else [])

end Selections

/-! ## References -/

inductive OccurrenceState
  | unavailable
  | recovered
  | preparing
  | degraded
  | unknown
  deriving DecidableEq

inductive PitAttribution
  | recorded
  | currentAssignment
  deriving DecidableEq

/-- The fields of an event of the error history that a reference takes over. -/
structure ErrorEvent where
  title : String
  stateAtOccurrence : OccurrenceState
  pitAttribution : PitAttribution
  reasonCodes : List String

def preparingReasons : List String :=
  ["SCAN_RECOVERING", "FILTER_WARMING", "MEDIAN_WARMING", "INITIALIZING"]

/-- `bool(value)`. -/
def truthy : Json → Bool
  | .null => false
  | .bool b => b
  | .int n => n ≠ 0
  | .float q => q ≠ 0
  | .str s => s ≠ ""
  | .arr items => items ≠ []
  | .obj members => members ≠ []

/-- The reasons that are texts. -/
def reasonsOf (data : Fields) : List String :=
  match data.lookup "reasonCodes" with
  | some (.arr items) => items.filterMap fun
    | .str reason => some reason
    | _ => none
  | _ => []

/-- What a device is in that reports a state. -/
def deviceOccurrence (preparing : Bool) (current : String) : Option (OccurrenceState × String) :=
  if current = "MEASUREMENT_UNAVAILABLE" then some (.unavailable, "장치 측정 중단")
  else if current = "CONFIG_ERROR" then some (.unavailable, "장치 설정 오류")
  else if current = "HEALTHY" then some (.recovered, "장치 상태 복구")
  else if current = "DEGRADED" then
    some (if preparing then (.preparing, "장치 측정 재준비") else (.degraded, "장치 성능 저하"))
  else if current = "UNKNOWN" then some (.unknown, "장치 상태 확인 불가")
  else none

/-- What measurements are in that have become valid or not. -/
def validityOccurrence (preparing current : Bool) : OccurrenceState × String :=
  if current then (.recovered, "측정 입력 복구")
  else if preparing then (.preparing, "측정 입력 준비")
  else (.unavailable, "측정 입력 사용 불가")

/-- The occurrence that the payload of a transition tells of. -/
def occurrence (kind : TransitionKind) (data : Fields) : Option (OccurrenceState × String) :=
  let preparing := (reasonsOf data).any (· ∈ preparingReasons)
  match kind with
  | .deviceStateChanged =>
    match data.lookup "current" with
    | some (.str current) =>
      if data.lookup "previous" = some (.str current) then none
      else deviceOccurrence preparing current
    | _ => none
  | .measurementValidityChanged =>
    match data.lookup "previousValid", data.lookup "currentValid" with
    | some (.bool previous), some (.bool current) =>
      if previous = current then none else some (validityOccurrence preparing current)
    | _, _ => none
  | _ => none

/-- `error_transition_event`. -/
def errorTransitionEvent (kind : TransitionKind) (data : Fields) : Option ErrorEvent :=
  (occurrence kind data).map fun occurrence =>
    { title := occurrence.2
      stateAtOccurrence := occurrence.1
      pitAttribution := if (data.lookup "pitId").any truthy then .recorded else .currentAssignment
      reasonCodes := reasonsOf data }

inductive ReferenceCategory
  | collection
  | alert
  | error
  deriving DecidableEq

inductive WindowKind
  | collectionCycle
  | eventContext
  deriving DecidableEq

inductive WindowState
  | closed
  /-- `OPEN`. -/
  | running
  | unknown
  | point
  deriving DecidableEq

structure EventRecording where
  eventId : String
  pitId : String
  category : ReferenceCategory
  title : String
  eventType : EventKind
  occurredAt : Datetime
  eventTo : Option Datetime
  windowKind : WindowKind
  windowState : WindowState
  windowFrom : Datetime
  windowTo : Option Datetime
  simulated : Option Bool
  stateAtOccurrence : Option OccurrenceState := none
  pitAttribution : PitAttribution := .recorded
  reasonCodes : List String

/-- A text of the payload. -/
def textMember (data : Fields) (key : String) : Option String :=
  match data.lookup key with
  | some (.str s) => some s
  | _ => none

/-- The detection and the scope of a start, if both are texts. -/
def cycleIdentity (data : Fields) : Option (String × String) := do
  let detection ← textMember data "detectionId"
  let scope ← textMember data "scopeToken"
  return (detection, scope)

def simulatedOf (data : Fields) : Option Bool :=
  match data.lookup "simulated" with
  | some (.bool b) => some b
  | _ => none

/-- The reference of a cycle. -/
def cycleReference (row : EventRow) (pit : String) (active : Option (String × String)) :
    EventRecording :=
  let data := row.payload.getD []
  let identity := cycleIdentity data
  let ended := if identity.isSome then row.ended else none
  let state :=
    if ended.isSome then .closed
    else if identity.isSome ∧ active = identity then .running
    else .unknown
  { eventId := row.eventId
    pitId := pit
    category := .collection
    title := "수거 구간"
    eventType := row.kind
    occurredAt := row.occurredAt
    eventTo := ended
    windowKind := .collectionCycle
    windowState := state
    windowFrom := row.occurredAt
    windowTo := ended
    simulated := simulatedOf data
    reasonCodes :=
      if state ≠ .unknown then []
      else [if identity.isSome then "COLLECTION_END_NOT_RECORDED"
        else "INVALID_COLLECTION_METADATA"] }

/-- What a reference says of a point event beside its window. -/
structure PointDetails where
  category : ReferenceCategory
  title : String
  stateAtOccurrence : Option OccurrenceState := none
  pitAttribution : PitAttribution := .recorded
  reasonCodes : List String := []

/-- The details of a transition, which may not tell of any change. -/
def transitionDetails (kind : TransitionKind) (data : Fields) : PointDetails :=
  match errorTransitionEvent kind data with
  | some event => ⟨.error, event.title, some event.stateAtOccurrence, event.pitAttribution,
    event.reasonCodes⟩
  | none =>
    { category := .error, title := "측정 상태 변화", reasonCodes := ["INVALID_EVENT_METADATA"] }

/-- The details of a row that is not of a cycle. -/
def pointDetails (kind : EventKind) (data : Fields) : PointDetails :=
  match kind with
  | .alert => { category := .alert, title := "알림 이벤트" }
  | .manualCollection => { category := .collection, title := "수거 완료 확인" }
  | .legacyError => { category := .error, title := "센서 데이터 이상" }
  | .deviceStateChanged => transitionDetails .deviceStateChanged data
  | .measurementValidityChanged => transitionDetails .measurementValidityChanged data
  | .collection => { category := .error, title := "측정 상태 변화" }

/-- The reference of an event that is a point in time. -/
def pointReference (row : EventRow) (pit : String) (before after : ℕ) : EventRecording :=
  let data := row.payload.getD []
  let details := pointDetails row.kind data
  { eventId := row.eventId
    pitId := pit
    category := details.category
    title := details.title
    eventType := row.kind
    occurredAt := row.occurredAt
    eventTo := some row.occurredAt
    windowKind := .eventContext
    windowState := .point
    windowFrom := shifted row.occurredAt (-before)
    windowTo := some (shifted row.occurredAt after)
    simulated := simulatedOf data
    stateAtOccurrence := details.stateAtOccurrence
    pitAttribution := details.pitAttribution
    reasonCodes := details.reasonCodes }

/-- `reference`. -/
def reference (row : EventRow) (pit : String) (before after : ℕ)
    (active : Option (String × String)) : EventRecording :=
  if row.kind = .collection then cycleReference row pit active
  else pointReference row pit before after

/-! ## Pages -/

/-- What the rows are ordered by, the greatest first. -/
def EventRow.rank (row : EventRow) : (Datetime ×ₗ String)ᵒᵈ :=
  OrderDual.toDual (toLex (row.occurredAt, row.eventId))

/-- The table as `ORDER BY at DESC, event_id DESC` arranges it. -/
def arranged (rows : List EventRow) : List EventRow := sortedBy EventRow.rank rows

/-- The settings that `playback_scope` reads. -/
structure PlaybackSettings where
  dailyServiceConfigured : Bool
  serviceConfigured : Bool
  mediaPitId : String
  monitoringSources : List MonitoringSource

structure ApiError where
  status : ℕ
  detail : String
  deriving DecidableEq

/-- `playback_scope`. -/
def playbackScope (settings : PlaybackSettings) (pitId : Option String) :
    Except ApiError (String × Option MonitoringSource) :=
  if ¬ settings.dailyServiceConfigured ∧ ¬ settings.serviceConfigured then
    .error ⟨503, "MEDIA_DAILY_NOT_CONFIGURED"⟩
  else
    let pit := match pitId with
      | some pit => if pit = "" then settings.mediaPitId else pit
      | none => settings.mediaPitId
    if pit ≠ settings.mediaPitId then .error ⟨404, "CAMERA_NOT_CONFIGURED"⟩
    else .ok (pit, settings.monitoringSources.find? (·.pitId = pit))

/-- `active_collection`; a row that does not validate is none. -/
def activeCollection (hash : Json → String) (config : Collection.Configuration)
    (source : Option MonitoringSource) (row : Option Collection.TrackerRow)
    (pit : Option PitConfig) (now : Datetime) : Option (String × String) := do
  let source ← source
  if config.enabled then
    let row ← row
    let episode ← row.payload.episodeId
    if row.payload.pitId = source.pitId ∧ row.payload.phase = .collecting ∧
        row.payload.inputValid ∧ episode ≠ "" ∧
        some row.payload.scopeToken = Collection.collectionScope hash config source pit ∧
        0 ≤ now.1 - row.payload.observedAt ∧
        now.1 - row.payload.observedAt ≤ seconds Collection.maxGapSeconds then
      some (episode, row.payload.scopeToken)
    else none
  else none

/-- What a listing is read from. -/
structure Backend where
  config : Collection.Configuration
  settings : PlaybackSettings
  store : Store
  tracker : MonitoringSource → Option Collection.TrackerRow
  pitConfig : String → Option PitConfig

/-- `_context`. -/
def contextError (before after : ℕ) : Option ApiError :=
  if before ≤ 300 ∧ after ≤ 300 ∧ 0 < before + after then none
  else some ⟨422, "Event context must span 1 to 600 seconds"⟩

structure EventRecordingPage where
  items : List EventRecording
  page : ℕ
  pageSize : ℕ
  totalItems : ℕ
  totalPages : ℕ
  fromTime : Datetime
  toTime : Datetime
  asOf : Datetime

/-- The page of the events of a query. -/
def eventPage (text : Json → String) (store : Store) (q : EventQuery) (lower upper : Datetime)
    (page pageSize : ℕ) : EventRecordingPage :=
  let table := eventTable text store q
  { items := (pageOf pageSize page (arranged table)).map fun row =>
      reference row q.pit q.before q.after q.active
    page := page
    pageSize := pageSize
    totalItems := table.length
    totalPages := totalPages table.length pageSize
    fromTime := lower
    toTime := upper
    asOf := q.now }

/-- `list_event_recordings`, without the summaries of playback. -/
def listEventRecordings (text hash : Json → String) (backend : Backend) (now : Datetime)
    (pitId : Option String) (category : EventCategory) (fromTime toTime : Option Datetime)
    (page pageSize before after : ℕ) : Except ApiError EventRecordingPage := do
  match contextError before after with
  | some error => throw error
  | none => pure ()
  let upper := toTime.getD now
  let lower := fromTime.getD (shifted upper (-(7 * 86400)))
  if upper ≤ lower ∨ seconds (90 * 86400) < upper.1 - lower.1 then
    throw ⟨422, "Use an increasing range of at most 90 days"⟩
  let (pit, source) ← playbackScope backend.settings pitId
  let active := activeCollection hash backend.config source (source.bind backend.tracker)
    (source.bind fun source => backend.pitConfig source.pitId) now
  return eventPage text backend.store
    ⟨pit, source, category, some lower, some upper, now, before, after, active⟩ lower upper page
    pageSize

end ScrapMonitoring.Events
