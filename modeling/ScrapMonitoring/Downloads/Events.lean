import ScrapMonitoring.Downloads.Csv
import ScrapMonitoring.Events.RecordingLinks
import ScrapMonitoring.Foundations.Succeeds
import ScrapMonitoring.History.Window

/-!
# The history of events as a file

`events_csv` of `services/history_csv.py` lists the events of a range in one page and writes them as
separated values. Before it counts what they would be made of (`guardEventVolume`): if there is not
too much of it, the page has every event (`length_le_of_guard`), so a file has every event that is
to be told (`eventsCsv_complete`).

On PostgreSQL all of this reads one snapshot of the tables. The time limit is left out.
-/

namespace ScrapMonitoring.Downloads

open Events (Event HistoryBackend HistoryQuery EventCategory Datetime EdgeV2Transition ApiError)
open History (RequestTime HistoryError historyWindow)
open Monitoring (MonitoringSource)

/-! ## Events as rows -/

/-- `stamp`: the offset, in which the text of an instant ends, is written as a letter. -/
def stamp (t : ℤ) : String :=
  let text := (isoformat t).toList
  String.ofList (text.take (text.length - 6) ++ ['Z'])

def str (s : String) : Value := .leaf (.str s)

/-- A value that may be missing. -/
def orNull {α : Type} (f : α → Value) : Option α → Value
  | none => .leaf .null
  | some a => f a

def typeName : Events.EventType → String
  | .collectionRequired => "collection_required"
  | .collectionCompleted => "collection_completed"
  | .measurementError => "measurement_error"
  | .deviceError => "device_error"

def categoryName : Events.ReferenceCategory → String
  | .collection => "collection"
  | .alert => "alert"
  | .error => "error"

def severityName : Events.Severity → String
  | .info => "info"
  | .warning => "warning"
  | .error => "error"

def statusName : Events.EventStatus → String
  | .active => "active"
  | .resolved => "resolved"
  | .completed => "completed"
  | .unknown => "unknown"

def sourceName : Events.CollectionSource → String
  | .manualConfirmation => "MANUAL_CONFIRMATION"
  | .heightSettled => "HEIGHT_SETTLED"

def kindName : Events.TransitionKind → String
  | .collectionDetected => "COLLECTION_DETECTED"
  | .collectionSettled => "COLLECTION_SETTLED"
  | .alertCreated => "ALERT_CREATED"
  | .deviceStateChanged => "DEVICE_STATE_CHANGED"
  | .measurementValidityChanged => "MEASUREMENT_VALIDITY_CHANGED"
  | .other name => name

def stateName : Events.OccurrenceState → String
  | .unavailable => "UNAVAILABLE"
  | .recovered => "RECOVERED"
  | .preparing => "PREPARING"
  | .degraded => "DEGRADED"
  | .unknown => "UNKNOWN"

def basisName : Events.StatusBasis → String
  | .atOccurrence => "AT_OCCURRENCE"
  | .currentEvaluation => "CURRENT_EVALUATION"
  | .persistedResolution => "PERSISTED_RESOLUTION"
  | .unverified => "UNVERIFIED"

def attributionName : Events.PitAttribution → String
  | .recorded => "RECORDED"
  | .currentAssignment => "CURRENT_ASSIGNMENT"

def dumpCriteria (criteria : Events.CollectionCriteria) : Value :=
  .obj [("scopeToken", orNull str criteria.scopeToken),
    ("matchesCurrentScope", orNull (fun b => .leaf (.bool b)) criteria.matchesCurrentScope),
    ("detectionVersion", orNull str criteria.detectionVersion),
    ("heightBasis", orNull str criteria.heightBasis),
    ("detectionProfile", orNull str criteria.detectionProfile),
    ("settleSeconds", orNull (fun n => .leaf (.int n)) criteria.settleSeconds),
    ("endPolicy", orNull str criteria.endPolicy)]

/-- `model_dump(mode="json")` of an event. -/
def dumpEvent (event : Event) : Row :=
  [("id", str event.id),
    ("type", str (typeName event.type)),
    ("category", str (categoryName event.category)),
    ("severity", str (severityName event.severity)),
    ("status", str (statusName event.status)),
    ("title", str event.title),
    ("detail", str event.detail),
    ("occurredAt", str (stamp event.occurredAt.1)),
    ("resolvedAt", orNull (fun t => str (stamp t)) event.resolvedAt),
    ("resolutionObservedAt", orNull (fun t => str (stamp t)) event.resolutionObservedAt),
    ("recordingId", orNull str event.recordingId),
    ("recordingEventId", orNull str event.recordingEventId),
    ("collectionSource", orNull (fun source => str (sourceName source)) event.collectionSource),
    ("confirmedCompletion", orNull (fun b => .leaf (.bool b)) event.confirmedCompletion),
    ("simulated", orNull (fun b => .leaf (.bool b)) event.simulated),
    ("detectionId", orNull str event.detectionId),
    ("collectionCriteria", orNull dumpCriteria event.collectionCriteria),
    ("eventSource", orNull (fun _ => str "EDGE_V2_TRANSITION") event.eventSource),
    ("transitionId", orNull (fun n => .leaf (.int n)) event.transitionId),
    ("transitionKind", orNull (fun kind => str (kindName kind)) event.transitionKind),
    ("stateAtOccurrence", orNull (fun state => str (stateName state)) event.stateAtOccurrence),
    ("statusBasis", orNull (fun basis => str (basisName basis)) event.statusBasis),
    ("pitAttribution",
      orNull (fun attribution => str (attributionName attribution)) event.pitAttribution),
    ("reasonCodes", .arr (event.reasonCodes.map str))]

/-- `Event.model_fields` -/
def eventFields : List String :=
  ["id", "type", "category", "severity", "status", "title", "detail", "occurredAt", "resolvedAt",
    "resolutionObservedAt", "recordingId", "recordingEventId", "collectionSource",
    "confirmedCompletion", "simulated", "detectionId", "collectionCriteria", "eventSource",
    "transitionId", "transitionKind", "stateAtOccurrence", "statusBasis", "pitAttribution",
    "reasonCodes"]

def categoryFilter : EventCategory → String
  | .all => "all"
  | .collection => "collection"
  | .alert => "alert"
  | .error => "error"

/-- What every row begins with. -/
def context (pit : String) (start stop : Datetime) (category : EventCategory) (allScopes : Bool) :
    Row :=
  [("pitId", str pit), ("from", str (stamp start.1)), ("to", str (stamp stop.1)),
    ("categoryFilter", str (categoryFilter category)),
    ("collectionScope", str (if allScopes then "all" else "current"))]

/-! ## The guard -/

def maxEventCandidates : ℕ := 10000

/-- `candidate_count`: one more than the limit is enough to know. -/
def candidateCount {α : Type} (rows : List α) : ℕ := min rows.length (maxEventCandidates + 1)

def eventLimitExceeded : ApiError := ⟨422, "CSV_EVENT_LIMIT_EXCEEDED"⟩

def referenceLimitExceeded : ApiError := ⟨422, "CSV_REFERENCE_LIMIT_EXCEEDED"⟩

section

variable (text hash : Json → String) (shown : Option Json → String) (b : HistoryBackend)
  (q : HistoryQuery) (source : MonitoringSource)

/-- The transitions that an event may be made of. -/
def transitionCandidates : List EdgeV2Transition :=
  b.store.transitions.filter fun t =>
    t.ofDevice source ∧ q.inRange t.occurredAt ∧
      (q.wants .collection ∧ t.kind = .collectionSettled ∧
          Events.column text t.payload "pitId" = some q.pit ∨
        q.wants .error ∧
          (t.kind = .deviceStateChanged ∨ t.kind = .measurementValidityChanged) ∧
          (Events.column text t.payload "pitId").all (· = q.pit))

/-- What the queries count, in their order. -/
def candidates : List ℕ :=
  (if q.wants .collection then
    [candidateCount (b.store.collections.filter fun log =>
      log.pitId = q.pit ∧ q.inRange log.completedAt)] else []) ++
  (if q.wants .alert then
    [candidateCount (b.store.alerts.filter fun alert =>
      alert.pitId = q.pit ∧ q.inRange alert.triggeredAt)] else []) ++
  (if q.wants .error then
    [candidateCount (b.store.metrics.filter fun metric =>
      metric.pitId = q.pit ∧ metric.isValid = false ∧ q.inRange metric.measuredAt)] else []) ++
  (if q.wants .collection ∨ q.wants .error then
    [candidateCount (transitionCandidates text b q source)] else [])

/-- The loop over the queries, with the total so far. -/
def guardLoop : List ℕ → ℕ → Except ApiError Unit
  | [], _ => .ok ()
  | count :: counts, total =>
    if maxEventCandidates < total + count then .error eventLimitExceeded
    else guardLoop counts (total + count)

/-- `guard_event_volume` -/
def guardEventVolume : Except ApiError Unit := do
  guardLoop (candidates text b q source) 0
  if maxEventCandidates < candidateCount (Events.clipJobs b q) then .error referenceLimitExceeded
  else .ok ()

/-! ## The file -/

def windowError : HistoryError → ApiError
  | .timezoneRequired => ⟨422, "HISTORY_TIMEZONE_REQUIRED"⟩
  | .timeOutOfRange => ⟨422, "HISTORY_TIME_OUT_OF_RANGE"⟩
  | .futureRange => ⟨422, "HISTORY_FUTURE_RANGE"⟩
  | .rangeMustBeWithin90Days => ⟨422, "HISTORY_RANGE_MUST_BE_WITHIN_90_DAYS"⟩
  | .tooManyPoints => ⟨422, "HISTORY_TOO_MANY_POINTS"⟩

/-- `_ensure_utc` -/
def ensureUtc (t : ℤ) : Except ApiError Datetime :=
  if h : Events.datetimeMin ≤ t ∧ t ≤ Events.datetimeMax then .ok ⟨t, h⟩
  else .error ⟨422, "HISTORY_TIME_OUT_OF_RANGE"⟩

/-- A request, with the times at which the clock is read. -/
structure CsvRequest where
  pit : String
  fromTime : Option RequestTime
  toTime : Option RequestTime
  category : EventCategory
  allScopes : Bool
  now : ℤ
  endedNow : Datetime
  errorsNow : Datetime
  linksNow : Datetime

def CsvRequest.query (r : CsvRequest) (start stop : Datetime) : HistoryQuery where
  pit := r.pit
  fromTime := some start
  toTime := some stop
  category := r.category
  allScopes := r.allScopes
  endedNow := r.endedNow
  errorsNow := r.errorsNow
  linksNow := r.linksNow

/-- The keys of the context and the fields of an event. -/
def csvColumns : List String :=
  ["pitId", "from", "to", "categoryFilter", "collectionScope"] ++ eventFields

/-- `context | item.model_dump(mode="json")`; they have no key in common. -/
def csvRow (r : CsvRequest) (start stop : Datetime) (event : Event) : Row :=
  context r.pit start stop r.category r.allScopes ++ dumpEvent event

/-- `events_csv`, of a range in UTC: the file and the number of its events. -/
def exportEvents (r : CsvRequest) (start stop : Datetime) : Except ApiError (ByteArray × ℕ) := do
  let q := r.query start stop
  guardEventVolume text b q source
  let page := Events.listEvents text hash shown b q 1 maxEventCandidates
  refuse (maxEventCandidates < page.totalItems) eventLimitExceeded
  let body ← encodeCsv csvColumns (page.items.map (csvRow r start stop))
  return (body, page.items.length)

/-- `events_csv` -/
def eventsCsv (r : CsvRequest) : Except ApiError (ByteArray × ℕ) :=
  match historyWindow r.fromTime r.toTime none r.now with
  | .error e => .error (windowError e)
  | .ok (start, stop, _) => do
    let start ← ensureUtc start
    let stop ← ensureUtc stop
    exportEvents text hash shown b source r start stop

end

def sourceNotConfigured : ApiError := ⟨404, "MONITORING_SOURCE_NOT_CONFIGURED"⟩

/-- `download_event_history`, with the source of the pit. -/
def downloadEventHistory (text hash : Json → String) (shown : Option Json → String)
    (b : HistoryBackend) (r : CsvRequest) : Except ApiError (ByteArray × ℕ) :=
  match b.settings.monitoringSources.find? fun source => source.pitId = r.pit with
  | none => .error sourceNotConfigured
  | some source => eventsCsv text hash shown b source r

/-! ## Nothing is left out -/

section

variable {text hash : Json → String} {shown : Option Json → String} {b : HistoryBackend}
  {q : HistoryQuery} {source : MonitoringSource} {r : CsvRequest} {start stop : Datetime}

/-- Entries of two kinds, none of which is of both. -/
theorem length_filter_add_le {α : Type} {l : List α} {p p' r : α → Bool}
    (hp : ∀ a ∈ l, p a = true → r a = true) (hp' : ∀ a ∈ l, p' a = true → r a = true)
    (hboth : ∀ a ∈ l, p a = true → p' a = false) :
    (l.filter p).length + (l.filter p').length ≤ (l.filter r).length := by
  induction l with
  | nil => exact le_rfl
  | cons a l ih =>
    have hrest := ih (fun c hc => hp c (List.mem_cons_of_mem a hc))
      (fun c hc => hp' c (List.mem_cons_of_mem a hc))
      fun c hc => hboth c (List.mem_cons_of_mem a hc)
    have hr := hp a List.mem_cons_self
    have hr' := hp' a List.mem_cons_self
    have hnot := hboth a List.mem_cons_self
    rw [List.filter_cons, List.filter_cons, List.filter_cons]
    cases hpa : p a with
    | true =>
      rw [hr hpa, hnot hpa]
      simp only [if_true, Bool.false_eq_true, if_false, List.length_cons]
      omega
    | false =>
      cases hpa' : p' a with
      | true =>
        rw [hr' hpa']
        simp only [if_true, Bool.false_eq_true, if_false, List.length_cons]
        omega
      | false =>
        simp only [Bool.false_eq_true, if_false]
        split_ifs
        · rw [List.length_cons]
          omega
        · exact hrest

theorem length_collectionEndedEvents (hsource : b.source q = some source) :
    (Events.collectionEndedEvents text hash b q).length ≤
      (Events.endedRows text hash b q source).length := by
  unfold Events.collectionEndedEvents
  rw [hsource]
  dsimp only
  split_ifs
  · exact Nat.zero_le _
  · rw [List.length_map]

theorem length_errorHistoryEvents (hsource : b.source q = some source) :
    (Events.errorHistoryEvents text shown b q).length ≤
      (Events.changeRows text b q source).length := by
  unfold Events.errorHistoryEvents
  rw [hsource]
  exact List.length_filterMap_le _ _

theorem ite_length_filter {α : Type} (c : Bool) (p : α → Bool) (l : List α) :
    (if c then (l.filter p).length else 0) = (l.filter fun a => c && p a).length := by
  cases c <;> simp

/-- No more ends and changes are listed than transitions were counted. -/
theorem length_transitions (text hash : Json → String) (shown : Option Json → String)
    (hsource : b.source q = some source) :
    (if q.wants .collection then (Events.collectionEndedEvents text hash b q).length else 0) +
      (if q.wants .error then (Events.errorHistoryEvents text shown b q).length else 0) ≤
        (transitionCandidates text b q source).length := by
  have hrows : (if q.wants .collection then (Events.endedRows text hash b q source).length else 0) +
      (if q.wants .error then (Events.changeRows text b q source).length else 0) ≤
        (transitionCandidates text b q source).length := by
    unfold Events.endedRows Events.changeRows transitionCandidates
    rw [ite_length_filter, ite_length_filter]
    refine length_filter_add_le (fun t _ ht => ?_) (fun t _ ht => ?_) fun t _ ht => ?_
    · rw [Bool.and_eq_true, decide_eq_true_eq] at ht
      obtain ⟨hwants, hof, hkind, hpit, -, hrange, -⟩ := ht
      exact decide_eq_true ⟨hof, hrange, .inl ⟨hwants, hkind, hpit⟩⟩
    · rw [Bool.and_eq_true, decide_eq_true_eq] at ht
      obtain ⟨hwants, hof, hkind, hpit, -, hrange⟩ := ht
      exact decide_eq_true ⟨hof, hrange, .inr ⟨hwants, hkind, hpit⟩⟩
    · -- an end of a collection is no change of the device
      rw [Bool.and_eq_true, decide_eq_true_eq] at ht
      rw [Bool.and_eq_false_iff, decide_eq_false_iff_not]
      refine .inr fun hchange => ?_
      rcases hchange.2.1 with hkind | hkind
      · exact absurd (ht.2.2.1.symm.trans hkind) (by decide)
      · exact absurd (ht.2.2.1.symm.trans hkind) (by decide)
  refine le_trans (Nat.add_le_add ?_ ?_) hrows
  · split_ifs
    · exact length_collectionEndedEvents hsource
    · exact le_rfl
  · split_ifs
    · exact length_errorHistoryEvents hsource
    · exact le_rfl

theorem length_ite {α : Type} (c : Bool) (l : List α) :
    (if c then l else []).length = if c then l.length else 0 := by
  cases c <;> rfl

/-- There are no more events than candidates, where these are few enough. -/
theorem length_le_candidates (hsource : b.source q = some source)
    (hfew : (candidates text b q source).sum ≤ maxEventCandidates) :
    (Events.sortedEvents text hash shown b q).length ≤ maxEventCandidates := by
  have htransitions := length_transitions text hash shown hsource
  have hlength : (Events.sortedEvents text hash shown b q).length =
      (if q.wants .collection then (Events.manualEvents b q).length +
        (Events.collectionEndedEvents text hash b q).length else 0) +
      (if q.wants .alert then (Events.alertEvents b q).length else 0) +
      (if q.wants .error then (Events.metricEvents b q).length +
        (Events.errorHistoryEvents text shown b q).length else 0) := by
    unfold Events.sortedEvents
    rw [(sortedBy_perm _ _).length_eq]
    unfold Events.historyEvents
    rw [List.length_map, List.length_append, List.length_append, length_ite, length_ite, length_ite,
      List.length_append, List.length_append]
  unfold candidates candidateCount at hfew
  unfold Events.manualEvents Events.alertEvents Events.metricEvents at hlength
  rw [List.length_map, List.length_map, List.length_map] at hlength
  rw [hlength]
  revert htransitions hfew
  cases q.wants .collection <;> cases q.wants .alert <;> cases q.wants .error <;>
    simp only [if_true, Bool.false_eq_true, if_false, or_true, or_false, List.append_nil,
      List.nil_append, List.cons_append, List.sum_cons, List.sum_nil] <;> omega

/-- The guard lets pass what is not too much. -/
theorem guardLoop_ok {counts : List ℕ} {total : ℕ} (htotal : total ≤ maxEventCandidates) :
    guardLoop counts total = .ok () ↔ total + counts.sum ≤ maxEventCandidates := by
  induction counts generalizing total with
  | nil => exact iff_of_true rfl htotal
  | cons count counts ih =>
    unfold guardLoop
    rw [List.sum_cons, ← Nat.add_assoc]
    split_ifs with hlimit
    · refine iff_of_false (fun h => by cases h) ?_
      omega
    · exact ih (not_lt.1 hlimit)

theorem guardLoop_error {counts : List ℕ} {total : ℕ} {e : ApiError}
    (h : guardLoop counts total = .error e) : e = eventLimitExceeded := by
  induction counts generalizing total with
  | nil => cases h
  | cons count counts ih =>
    unfold guardLoop at h
    split_ifs at h with hlimit
    · exact (Except.error.inj h).symm
    · exact ih h

/-- Not too much to make events of, and to look clips up in. -/
structure Few (text : Json → String) (b : HistoryBackend) (q : HistoryQuery)
    (source : MonitoringSource) : Prop where
  events : (candidates text b q source).sum ≤ maxEventCandidates
  clips : (Events.clipJobs b q).length ≤ maxEventCandidates

theorem guardEventVolume_ok : guardEventVolume text b q source = .ok () ↔ Few text b q source := by
  have hloop : guardLoop (candidates text b q source) 0 = .ok () ↔
      0 + (candidates text b q source).sum ≤ maxEventCandidates := guardLoop_ok (Nat.zero_le _)
  have hclips : maxEventCandidates < candidateCount (Events.clipJobs b q) ↔
      ¬(Events.clipJobs b q).length ≤ maxEventCandidates := by
    unfold candidateCount
    omega
  rw [Nat.zero_add] at hloop
  unfold guardEventVolume
  cases hguard : guardLoop (candidates text b q source) 0 with
  | error e =>
    rw [hguard] at hloop
    refine iff_of_false (fun h => by cases h) fun h => ?_
    cases hloop.2 h.events
  | ok u =>
    simp only [Except.bind, bind]
    split_ifs with hmany
    · exact iff_of_false (fun h => by cases h) fun h => hclips.1 hmany h.clips
    · exact iff_of_true rfl ⟨hloop.1 hguard, not_not.1 fun h => hmany (hclips.2 h)⟩

theorem guardEventVolume_error {e : ApiError} (h : guardEventVolume text b q source = .error e) :
    e = eventLimitExceeded ∨ e = referenceLimitExceeded := by
  unfold guardEventVolume at h
  cases hguard : guardLoop (candidates text b q source) 0 with
  | error e' =>
    rw [hguard] at h
    rw [← Except.error.inj h]
    exact .inl (guardLoop_error hguard)
  | ok u =>
    simp only [hguard, Except.bind, bind] at h
    split_ifs at h
    exact .inr (Except.error.inj h).symm

/-- **What passes the guard fits on one page.** -/
theorem length_le_of_few (hsource : b.source q = some source) (h : Few text b q source) :
    (Events.sortedEvents text hash shown b q).length ≤ maxEventCandidates :=
  length_le_candidates hsource h.events

/-- What passes the guard is listed on the first page. -/
theorem items_of_few (hsource : b.source q = some source) (h : Few text b q source) :
    (Events.listEvents text hash shown b q 1 maxEventCandidates).items.map Event.mark =
      (Events.sortedEvents text hash shown b q).map Event.mark := by
  have hmark : ∀ links : List (String × String), (Event.mark ∘ fun event : Event =>
      { event with recordingEventId := links.lookup event.id }) = Event.mark := fun _ => rfl
  unfold Events.listEvents
  dsimp only
  rw [List.map_map, hmark, Nat.sub_self, Nat.zero_mul, List.drop_zero,
    List.take_of_length_le (length_le_of_few hsource h)]

/-- What a file of a range is. -/
structure IsExport (text hash : Json → String) (b : HistoryBackend) (r : CsvRequest)
    (start stop : Datetime) (body : ByteArray) (events : List Event) : Prop where
  /-- Every event that is to be told, and nothing else. -/
  told : ∀ id time, (id, time) ∈ events.map Event.mark ↔
    Events.IsTold text hash b (r.query start stop) id time
  once : (events.map Event.id).Nodup
  latest_first : events.Pairwise fun event event' => event'.occurredAt ≤ event.occurredAt
  small : body.size ≤ maxCsvBytes
  /-- A reader finds the columns and the cells of every event. -/
  records : readCsv body = some (csvColumns.map String.toList ::
    events.map fun event => cells csvColumns (csvRow r start stop event))

/-- The events that a file is made of. -/
def exported (text hash : Json → String) (shown : Option Json → String) (b : HistoryBackend)
    (r : CsvRequest) (start stop : Datetime) : List Event :=
  (Events.listEvents text hash shown b (r.query start stop) 1 maxEventCandidates).items

/-- The file of these events. -/
def exportFile (text hash : Json → String) (shown : Option Json → String) (b : HistoryBackend)
    (r : CsvRequest) (start stop : Datetime) : ByteArray :=
  wholeFile csvColumns ((exported text hash shown b r start stop).map (csvRow r start stop))

/-- The limits that a range keeps: those of the guard and that of the file. -/
structure Fits (text hash : Json → String) (shown : Option Json → String) (b : HistoryBackend)
    (source : MonitoringSource) (r : CsvRequest) (start stop : Datetime) : Prop where
  few : Few text b (r.query start stop) source
  small : (exportFile text hash shown b r start stop).size ≤ maxCsvBytes

theorem isExport_of_fits (hsource : b.source (r.query start stop) = some source)
    (h : Fits text hash shown b source r start stop) :
    IsExport text hash b r start stop (exportFile text hash shown b r start stop)
      (exported text hash shown b r start stop) := by
  have hmarks : (exported text hash shown b r start stop).map Event.mark =
      (Events.sortedEvents text hash shown b (r.query start stop)).map Event.mark :=
    items_of_few hsource h.few
  have hids : (exported text hash shown b r start stop).map Event.id =
      (Events.sortedEvents text hash shown b (r.query start stop)).map Event.id := by
    have hfst := congrArg (List.map Prod.fst) hmarks
    rw [List.map_map, List.map_map] at hfst
    exact hfst
  have hread : readCsv (exportFile text hash shown b r start stop) = _ :=
    readCsv_wholeFile (by decide)
  rw [List.map_map] at hread
  refine ⟨fun id time => ?_, ?_, ?_, h.small, hread⟩
  · rw [hmarks]
    exact Events.mem_sortedEvents
  · rw [hids]
    exact Events.numbered_history.nodup
  · have hsorted : ((exported text hash shown b r start stop).map Event.mark).Pairwise
        fun m m' => m'.2 ≤ m.2 := by
      rw [hmarks, List.pairwise_map]
      exact (pairwise_sortedBy (fun event : Event => OrderDual.toDual event.occurredAt) _).imp
        fun h => h
    exact List.pairwise_map.1 hsorted

/-- The errors of the limits. -/
def limitErrors : List ApiError := [eventLimitExceeded, referenceLimitExceeded, sizeLimitExceeded]

/-- **A range has its file exactly if it keeps the limits.** -/
theorem exportEvents_cases (text hash : Json → String) (shown : Option Json → String)
    (hsource : b.source (r.query start stop) = some source) :
    (Fits text hash shown b source r start stop ∧
      exportEvents text hash shown b source r start stop =
        .ok (exportFile text hash shown b r start stop,
          (exported text hash shown b r start stop).length)) ∨
    (¬Fits text hash shown b source r start stop ∧ ∃ e ∈ limitErrors,
      exportEvents text hash shown b source r start stop = .error e) := by
  unfold exportEvents
  dsimp only
  cases hguard : guardEventVolume text b (r.query start stop) source with
  | error e =>
    refine .inr ⟨fun hfits => ?_, e, ?_, rfl⟩
    · rw [guardEventVolume_ok.2 hfits.few] at hguard
      cases hguard
    · rcases guardEventVolume_error hguard with rfl | rfl <;> decide
  | ok u =>
    have hfew := guardEventVolume_ok.1 hguard
    -- the check of the total does not refuse what the guard lets pass
    have htotal : refuse (maxEventCandidates < (Events.listEvents text hash shown b
        (r.query start stop) 1 maxEventCandidates).totalItems) eventLimitExceeded = .ok () :=
      if_neg (not_lt.2 (length_le_of_few hsource hfew))
    have hfile := encodeCsv_eq csvColumns
      ((exported text hash shown b r start stop).map (csvRow r start stop))
    unfold exported at hfile
    simp only [htotal, hfile, Except.bind, bind]
    by_cases hsmall : (exportFile text hash shown b r start stop).size ≤ maxCsvBytes
    · have hnot : ¬maxCsvBytes < (exportFile text hash shown b r start stop).size :=
        not_lt.2 hsmall
      unfold exportFile exported at hnot
      rw [if_neg hnot]
      exact .inl ⟨⟨hfew, hsmall⟩, rfl⟩
    · have hlarge := not_le.1 hsmall
      unfold exportFile exported at hlarge
      rw [if_pos hlarge]
      exact .inr ⟨fun hfits => hsmall hfits.small, sizeLimitExceeded, by decide, rfl⟩

theorem ensureUtc_ok {t : ℤ} (h : ensureUtc t = .ok start) : start.1 = t := by
  unfold ensureUtc at h
  split_ifs at h
  obtain rfl := Except.ok.inj h
  rfl

theorem ensureUtc_error {t : ℤ} {e : ApiError} (h : ensureUtc t = .error e) :
    e = windowError .timeOutOfRange := by
  unfold ensureUtc at h
  split_ifs at h
  exact (Except.error.inj h).symm

theorem ensureUtc_val (d : Datetime) : ensureUtc d.1 = .ok d := dif_pos d.2

/-- The errors of a request: of its pit, of its window and of the limits. -/
def requestErrors : List ApiError :=
  sourceNotConfigured :: (windowError .timezoneRequired :: windowError .timeOutOfRange ::
    windowError .futureRange :: windowError .rangeMustBeWithin90Days ::
    windowError .tooManyPoints :: limitErrors)

theorem windowError_mem (e : HistoryError) : windowError e ∈ requestErrors := by
  cases e <;> decide

/-- **A file of the history has every event, or there is none.** A request is refused with one of
its errors, or its file is read as one record for every event of the pit that is to be told in the
window of the request, the latest first and none twice, and the number beside the file is that of
the records. There is a file wherever the limits are kept. -/
theorem downloadEventHistory_complete (text hash : Json → String) (shown : Option Json → String)
    (b : HistoryBackend) (r : CsvRequest) :
    ((∃ e ∈ requestErrors, downloadEventHistory text hash shown b r = .error e) ∨
      ∃ (start stop : Datetime) (interval : History.HistoryInterval) (body : ByteArray)
        (events : List Event),
        historyWindow r.fromTime r.toTime none r.now = .ok (start.1, stop.1, interval) ∧
        downloadEventHistory text hash shown b r = .ok (body, events.length) ∧
        IsExport text hash b r start stop body events) ∧
    ∀ (source : MonitoringSource) (start stop : Datetime) (interval : History.HistoryInterval),
      b.settings.monitoringSources.find? (fun source => source.pitId = r.pit) = some source →
      historyWindow r.fromTime r.toTime none r.now = .ok (start.1, stop.1, interval) →
      Fits text hash shown b source r start stop →
        ∃ answer, downloadEventHistory text hash shown b r = .ok answer := by
  unfold downloadEventHistory
  cases hsource : b.settings.monitoringSources.find? fun source => source.pitId = r.pit with
  | none =>
    refine ⟨.inl ⟨sourceNotConfigured, by decide, rfl⟩, ?_⟩
    rintro source start stop interval hfound
    cases hfound
  | some source =>
    unfold eventsCsv
    cases hwindow : historyWindow r.fromTime r.toTime none r.now with
    | error e =>
      refine ⟨.inl ⟨windowError e, windowError_mem e, rfl⟩, ?_⟩
      rintro source start stop interval - hother
      cases hother
    | ok window =>
      obtain ⟨start, stop, interval⟩ := window
      cases hstart : ensureUtc start with
      | error e =>
        simp only [hstart, Except.bind, bind]
        refine ⟨.inl ⟨e, ?_, rfl⟩, ?_⟩
        · rw [ensureUtc_error hstart]
          exact windowError_mem _
        · rintro source' first last interval' - hother
          obtain ⟨rfl, -⟩ := Prod.ext_iff.1 (Except.ok.inj hother)
          rw [ensureUtc_val] at hstart
          cases hstart
      | ok first =>
        cases hstop : ensureUtc stop with
        | error e =>
          simp only [hstart, hstop, Except.bind, bind]
          refine ⟨.inl ⟨e, ?_, rfl⟩, ?_⟩
          · rw [ensureUtc_error hstop]
            exact windowError_mem _
          · rintro source' first' last interval' - hother
            obtain ⟨-, hrest⟩ := Prod.ext_iff.1 (Except.ok.inj hother)
            obtain ⟨rfl, -⟩ := Prod.ext_iff.1 hrest
            rw [ensureUtc_val] at hstop
            cases hstop
        | ok last =>
          simp only [hstart, hstop, Except.bind, bind]
          obtain rfl := ensureUtc_ok hstart
          obtain rfl := ensureUtc_ok hstop
          have hquery : b.source (r.query first last) = some source := hsource
          rcases exportEvents_cases text hash shown hquery with
            ⟨hfits, hfile⟩ | ⟨hfits, e, he, herror⟩
          · refine ⟨.inr ⟨first, last, interval, _, _, rfl, hfile, isExport_of_fits hquery hfits⟩,
              ?_⟩
            intro _ _ _ _ _ _ _
            exact ⟨_, hfile⟩
          · refine ⟨.inl ⟨e, ?_, herror⟩, ?_⟩
            · simp only [requestErrors, List.mem_cons]
              exact .inr (.inr (.inr (.inr (.inr (.inr he)))))
            · rintro source' first' last' interval' hfound hother hkept
              obtain rfl := Option.some.inj hfound
              obtain ⟨hfirst, hrest⟩ := Prod.ext_iff.1 (Except.ok.inj hother)
              obtain ⟨hlast, -⟩ := Prod.ext_iff.1 hrest
              obtain rfl := Subtype.ext hfirst
              obtain rfl := Subtype.ext hlast
              exact absurd hkept hfits

end

end ScrapMonitoring.Downloads
