import ScrapMonitoring.Collection.Outage
import ScrapMonitoring.Events.HistoryEvents
import ScrapMonitoring.Events.Listing

/-!
# The history is exact

The history holds every point event of the pit that is in the range and was asked for, and every end
of a collection under the criteria that were asked for, each once and nothing else, the latest
first (`mem_sortedEvents`, `nodup_sortedEvents`). Its pages fit together (`history_exact`).

A change of the device is a point event if `error_transition_event` makes an event of it, so the
history holds the point events that the listing of recordings holds.
-/

namespace ScrapMonitoring.Events

open Monitoring (MonitoringSource)

variable {text hash : Json → String} {shown : Option Json → String} {b : HistoryBackend}
  {q : HistoryQuery} {event : Event} {source : MonitoringSource} {kind : EventKind} {n : ℕ}
  {time : Datetime} {id : String}

/-! ## What is to be told -/

/-- The category of a kind of point events. -/
def EventKind.category : EventKind → EventCategory
  | collection => .collection
  | manualCollection => .collection
  | alert => .alert
  | legacyError => .error
  | deviceStateChanged => .error
  | measurementValidityChanged => .error

/-- A transition of the device, which is told by the time that the clock shows. -/
def EventKind.isChange : EventKind → Bool
  | deviceStateChanged => true
  | measurementValidityChanged => true
  | _ => false

/-- A point event that was asked for. -/
structure Told (text : Json → String) (b : HistoryBackend) (q : HistoryQuery) (kind : EventKind)
    (n : ℕ) (time : Datetime) : Prop where
  event : PointEvent text b.store.toStore (linkQuery b q .all) kind n time
  wanted : q.wants kind.category = true
  in_range : q.inRange time = true
  by_now : kind.isChange = true → time ≤ q.errorsNow

/-- An end of a collection of the pit, under the criteria that were asked for. -/
structure Ended (text hash : Json → String) (b : HistoryBackend) (q : HistoryQuery)
    (source : MonitoringSource) (t : EdgeV2Transition) : Prop where
  source_eq : b.source q = some source
  mem : t ∈ b.store.transitions
  settled : recorded text (linkQuery b q .all) source .collectionSettled t = true
  wanted : q.wants .collection = true
  in_range : q.inRange t.occurredAt = true
  by_now : t.occurredAt ≤ q.endedNow
  /-- Under the scope of now, or any scope is asked for. -/
  scope : q.allScopes = true ∨ ∃ token, b.scope hash source = some token ∧
    column text t.payload "scopeToken" = some token

/-- What the history is to tell: an identifier and a time. -/
def IsTold (text hash : Json → String) (b : HistoryBackend) (q : HistoryQuery) (id : String)
    (time : Datetime) : Prop :=
  (∃ kind n, Told text b q kind n time ∧ id = eventId kind n) ∨
    ∃ source t, Ended text hash b q source t ∧ id = numbered endedTag t.id ∧ time = t.occurredAt

/-! ## Table by table -/

/-- An event by its identifier and its time. -/
def Event.mark (event : Event) : String × Datetime := (event.id, event.occurredAt)

theorem mem_manualEvents : (id, time) ∈ (manualEvents b q).map Event.mark ↔
    ∃ log ∈ b.store.collections, (log.pitId = q.pit ∧ q.inRange log.completedAt = true) ∧
      eventId .manualCollection log.id = id ∧ log.completedAt = time := by
  unfold manualEvents
  simp only [List.map_map, List.mem_map, List.mem_filter, decide_eq_true_eq, and_assoc]
  exact exists_congr fun log => and_congr_right fun _ => and_congr_right fun _ =>
    and_congr_right fun _ => Prod.ext_iff

theorem mem_alertEvents : (id, time) ∈ (alertEvents b q).map Event.mark ↔
    ∃ alert ∈ b.store.alerts, (alert.pitId = q.pit ∧ q.inRange alert.triggeredAt = true) ∧
      eventId .alert alert.id = id ∧ alert.triggeredAt = time := by
  unfold alertEvents
  simp only [List.map_map, List.mem_map, List.mem_filter, decide_eq_true_eq, and_assoc]
  exact exists_congr fun alert => and_congr_right fun _ => and_congr_right fun _ =>
    and_congr_right fun _ => Prod.ext_iff

theorem mem_metricEvents : (id, time) ∈ (metricEvents b q).map Event.mark ↔
    ∃ metric ∈ b.store.metrics, (metric.pitId = q.pit ∧ metric.isValid = false ∧
      q.inRange metric.measuredAt = true) ∧
      eventId .legacyError metric.id = id ∧ metric.measuredAt = time := by
  unfold metricEvents
  simp only [List.map_map, List.mem_map, List.mem_filter, decide_eq_true_eq, and_assoc]
  exact exists_congr fun metric => and_congr_right fun _ => and_congr_right fun _ =>
    and_congr_right fun _ => and_congr_right fun _ => Prod.ext_iff

theorem mem_endedRows {t : EdgeV2Transition} (hsource : b.source q = some source) :
    (q.wants .collection = true ∧ t ∈ endedRows text hash b q source) ↔
      Ended text hash b q source t := by
  unfold endedRows
  rw [List.mem_filter, decide_eq_true_eq, sqlEq_iff]
  constructor
  · rintro ⟨hwants, ht, hof, hkind, hpit, hnow, hrange, hscope⟩
    refine ⟨hsource, ht, decide_eq_true ⟨hof, hkind, hpit⟩, hwants, hrange, hnow,
      hscope.imp_right ?_⟩
    rintro ⟨token, hcolumn, htoken⟩
    exact ⟨token, htoken, hcolumn⟩
  · intro h
    obtain ⟨hof, hkind, hpit⟩ := of_decide_eq_true h.settled
    refine ⟨h.wanted, h.mem, hof, hkind, hpit, h.by_now, h.in_range, h.scope.imp_right ?_⟩
    rintro ⟨token, htoken, hcolumn⟩
    exact ⟨token, hcolumn, htoken⟩

/-- Without a scope there is no end under it, so nothing is lost where none is looked for. -/
theorem mem_collectionEndedEvents : (q.wants .collection = true ∧
      (id, time) ∈ (collectionEndedEvents text hash b q).map Event.mark) ↔
    ∃ source t, Ended text hash b q source t ∧ id = numbered endedTag t.id ∧
      time = t.occurredAt := by
  unfold collectionEndedEvents
  cases hsource : b.source q with
  | none =>
    refine iff_of_false (fun h => absurd h.2 List.not_mem_nil) ?_
    rintro ⟨source, t, hended, -⟩
    have hnone := hended.source_eq
    rw [hsource] at hnone
    cases hnone
  | some source =>
    dsimp only
    split_ifs with hscope
    · refine iff_of_false (fun h => absurd h.2 List.not_mem_nil) ?_
      rintro ⟨source', t, hended, -⟩
      obtain rfl := Option.some.inj (hsource.symm.trans hended.source_eq)
      rcases hended.scope with hall | ⟨token, htoken, -⟩
      · exact hscope.2 hall
      · rw [hscope.1] at htoken
        cases htoken
    · rw [List.map_map, List.mem_map]
      constructor
      · rintro ⟨hwants, t, ht, hmark⟩
        obtain ⟨rfl, rfl⟩ := Prod.ext_iff.1 hmark
        exact ⟨source, t, (mem_endedRows hsource).1 ⟨hwants, ht⟩, rfl, rfl⟩
      · rintro ⟨source', t, hended, rfl, rfl⟩
        obtain rfl := Option.some.inj (hsource.symm.trans hended.source_eq)
        obtain ⟨hwants, ht⟩ := (mem_endedRows hsource).2 hended
        exact ⟨hwants, t, ht, rfl⟩

/-- A change of the device of one of the two kinds that makes an event. -/
theorem changeEvent_isSome {t : EdgeV2Transition} : (∃ event, changeEvent shown t = some event ∧
      event.mark = (id, time)) ↔
    (errorTransitionEvent t.kind t.payload).isSome = true ∧ numbered changeTag t.id = id ∧
      t.occurredAt = time := by
  unfold changeEvent
  cases errorTransitionEvent t.kind t.payload with
  | none => simp
  | some error =>
    rw [Option.map_some]
    constructor
    · rintro ⟨event, hevent, hmark⟩
      obtain rfl := Option.some.inj hevent
      obtain ⟨hid, htime⟩ := Prod.ext_iff.1 hmark
      exact ⟨rfl, hid, htime⟩
    · rintro ⟨-, rfl, rfl⟩
      exact ⟨_, rfl, rfl⟩

theorem mem_errorHistoryEvents : (id, time) ∈ (errorHistoryEvents text shown b q).map Event.mark ↔
    ∃ source t, b.source q = some source ∧ t ∈ changeRows text b q source ∧
      (errorTransitionEvent t.kind t.payload).isSome = true ∧ numbered changeTag t.id = id ∧
        t.occurredAt = time := by
  unfold errorHistoryEvents
  cases hsource : b.source q with
  | none => simp
  | some source =>
    dsimp only
    rw [List.map_filterMap, List.mem_filterMap]
    constructor
    · rintro ⟨t, ht, hmark⟩
      obtain ⟨event, hevent, hmark⟩ := Option.map_eq_some_iff.1 hmark
      exact ⟨source, t, rfl, ht, changeEvent_isSome.1 ⟨event, hevent, hmark⟩⟩
    · rintro ⟨source', t, hsource', ht, hchange⟩
      obtain rfl := Option.some.inj hsource'
      obtain ⟨event, hevent, hmark⟩ : ∃ event, changeEvent shown t = some event ∧
          event.mark = (id, time) := changeEvent_isSome.2 hchange
      exact ⟨t, ht, Option.map_eq_some_iff.2 ⟨event, hevent, hmark⟩⟩

theorem mem_changeRows {t : EdgeV2Transition} : t ∈ changeRows text b q source ↔
    t ∈ b.store.transitions ∧ attributed text (linkQuery b q .all) source t = true ∧
      (t.kind = .deviceStateChanged ∨ t.kind = .measurementValidityChanged) ∧
      t.occurredAt ≤ q.errorsNow ∧ q.inRange t.occurredAt = true := by
  unfold changeRows attributed
  rw [List.mem_filter, decide_eq_true_eq, decide_eq_true_eq]
  constructor
  · rintro ⟨ht, hof, hkind, hpit, hnow, hrange⟩
    exact ⟨ht, ⟨hof, hpit⟩, hkind, hnow, hrange⟩
  · rintro ⟨ht, ⟨hof, hpit⟩, hkind, hnow, hrange⟩
    exact ⟨ht, hof, hkind, hpit, hnow, hrange⟩

/-! ## The whole history -/

@[simp] theorem withRecording_mark : (withRecording b q event).mark = event.mark := rfl

/-- The history, table by table. -/
theorem mem_historyEvents : (id, time) ∈ (historyEvents text hash shown b q).map Event.mark ↔
    q.wants .collection = true ∧ (id, time) ∈ (manualEvents b q).map Event.mark ∨
    (q.wants .collection = true ∧
      (id, time) ∈ (collectionEndedEvents text hash b q).map Event.mark) ∨
    q.wants .alert = true ∧ (id, time) ∈ (alertEvents b q).map Event.mark ∨
    q.wants .error = true ∧ (id, time) ∈ (metricEvents b q).map Event.mark ∨
    q.wants .error = true ∧ (id, time) ∈ (errorHistoryEvents text shown b q).map Event.mark := by
  have hmark : (Event.mark ∘ withRecording b q) = Event.mark := rfl
  unfold historyEvents
  rw [List.map_map, hmark]
  simp only [List.map_append, List.mem_append]
  cases q.wants .collection <;> cases q.wants .alert <;> cases q.wants .error <;> simp [or_assoc]

/-- **The history tells what is to be told, and nothing else.** -/
theorem mem_sortedEvents : (id, time) ∈ (sortedEvents text hash shown b q).map Event.mark ↔
    IsTold text hash b q id time := by
  have hperm := (sortedBy_perm (fun event : Event => OrderDual.toDual event.occurredAt)
    (historyEvents text hash shown b q)).map Event.mark
  unfold sortedEvents IsTold
  rw [hperm.mem_iff, mem_historyEvents, mem_collectionEndedEvents]
  constructor
  · rintro (⟨hwants, hmem⟩ | hended | ⟨hwants, hmem⟩ | ⟨hwants, hmem⟩ | ⟨hwants, hmem⟩)
    · obtain ⟨log, hlog, ⟨hpit, hrange⟩, rfl, rfl⟩ := mem_manualEvents.1 hmem
      exact .inl ⟨.manualCollection, log.id, ⟨.manualCollection log hlog hpit, hwants, hrange,
        fun h => by cases h⟩, rfl⟩
    · exact .inr hended
    · obtain ⟨alert, halert, ⟨hpit, hrange⟩, rfl, rfl⟩ := mem_alertEvents.1 hmem
      exact .inl ⟨.alert, alert.id, ⟨.alert alert halert hpit, hwants, hrange,
        fun h => by cases h⟩, rfl⟩
    · obtain ⟨metric, hmetric, ⟨hpit, hinvalid, hrange⟩, rfl, rfl⟩ := mem_metricEvents.1 hmem
      exact .inl ⟨.legacyError, metric.id, ⟨.legacyError metric hmetric hpit hinvalid, hwants,
        hrange, fun h => by cases h⟩, rfl⟩
    · obtain ⟨source, t, hsource, ht, hvalid, rfl, rfl⟩ := mem_errorHistoryEvents.1 hmem
      obtain ⟨ht, hof, hkind | hkind, hnow, hrange⟩ := mem_changeRows.1 ht
      · exact .inl ⟨.deviceStateChanged, t.id, ⟨.deviceStateChanged source t hsource ht hof hkind
          hvalid, hwants, hrange, fun _ => hnow⟩, rfl⟩
      · exact .inl ⟨.measurementValidityChanged, t.id, ⟨.measurementValidityChanged source t hsource
          ht hof hkind hvalid, hwants, hrange, fun _ => hnow⟩, rfl⟩
  · rintro (⟨kind, n, ⟨hpoint, hwants, hrange, hnow⟩, rfl⟩ | hended)
    · cases hpoint with
      | manualCollection log hlog hpit =>
        exact .inl ⟨hwants, mem_manualEvents.2 ⟨log, hlog, ⟨hpit, hrange⟩, rfl, rfl⟩⟩
      | alert alert halert hpit =>
        exact .inr (.inr (.inl ⟨hwants,
          mem_alertEvents.2 ⟨alert, halert, ⟨hpit, hrange⟩, rfl, rfl⟩⟩))
      | legacyError metric hmetric hpit hinvalid =>
        exact .inr (.inr (.inr (.inl ⟨hwants,
          mem_metricEvents.2 ⟨metric, hmetric, ⟨hpit, hinvalid, hrange⟩, rfl, rfl⟩⟩)))
      | deviceStateChanged source t hsource ht hof hkind hvalid =>
        exact .inr (.inr (.inr (.inr ⟨hwants, mem_errorHistoryEvents.2 ⟨source, t, hsource,
          mem_changeRows.2 ⟨ht, hof, .inl hkind, hnow rfl, hrange⟩, hvalid, rfl, rfl⟩⟩)))
      | measurementValidityChanged source t hsource ht hof hkind hvalid =>
        exact .inr (.inr (.inr (.inr ⟨hwants, mem_errorHistoryEvents.2 ⟨source, t, hsource,
          mem_changeRows.2 ⟨ht, hof, .inr hkind, hnow rfl, hrange⟩, hvalid, rfl, rfl⟩⟩)))
    · exact .inr (.inl hended)

/-! ## Each event once -/

theorem numbered_ended :
    Numbered [endedTag] ((collectionEndedEvents text hash b q).map Event.id) := by
  unfold collectionEndedEvents
  cases b.source q with
  | none => exact .nil _
  | some source =>
    dsimp only
    split_ifs
    · exact .nil _
    · rw [List.map_map]
      refine Numbered.of_key EdgeV2Transition.id ?_ endedTag
      exact b.store.transitions_nodup.sublist (List.filter_sublist.map _)

/-- The identifiers of the changes are those of their rows, where an event is made. -/
theorem ids_changes (rows : List EdgeV2Transition) :
    ((rows.filterMap (changeEvent shown)).map Event.id).Sublist
      (rows.map fun t => numbered changeTag t.id) := by
  induction rows with
  | nil => exact .slnil
  | cons t rows ih =>
    cases hevent : changeEvent shown t with
    | none =>
      rw [List.filterMap_cons_none hevent, List.map_cons]
      exact ih.cons _
    | some event =>
      have hid : event.id = numbered changeTag t.id := by
        unfold changeEvent at hevent
        obtain ⟨error, -, rfl⟩ := Option.map_eq_some_iff.1 hevent
        rfl
      rw [List.filterMap_cons_some hevent, List.map_cons, List.map_cons, hid]
      exact ih.cons_cons _

theorem numbered_changes :
    Numbered [changeTag] ((errorHistoryEvents text shown b q).map Event.id) := by
  unfold errorHistoryEvents
  cases b.source q with
  | none => exact .nil _
  | some source =>
    refine (Numbered.of_key EdgeV2Transition.id ?_ changeTag).sublist (ids_changes _)
    exact b.store.transitions_nodup.sublist (List.filter_sublist.map _)

theorem numbered_manual : Numbered ["evt-col"] ((manualEvents b q).map Event.id) := by
  unfold manualEvents
  rw [List.map_map]
  refine Numbered.of_key CollectionLog.id ?_ "evt-col"
  exact b.store.collections_nodup.sublist (List.filter_sublist.map _)

theorem numbered_alerts : Numbered ["evt-alt"] ((alertEvents b q).map Event.id) := by
  unfold alertEvents
  rw [List.map_map]
  refine Numbered.of_key AlertLog.id ?_ "evt-alt"
  exact b.store.alerts_nodup.sublist (List.filter_sublist.map _)

theorem numbered_metrics : Numbered ["evt-err"] ((metricEvents b q).map Event.id) := by
  unfold metricEvents
  rw [List.map_map]
  refine Numbered.of_key ScrapMetric.id ?_ "evt-err"
  exact b.store.metrics_nodup.sublist (List.filter_sublist.map _)

/-- The tags of the history. -/
def historyTags : List String := ["evt-col", endedTag, "evt-alt", "evt-err", changeTag]

theorem numbered_history :
    Numbered historyTags ((sortedEvents text hash shown b q).map Event.id) := by
  have hids : (historyEvents text hash shown b q).map Event.id =
      (if q.wants .collection then
        (manualEvents b q).map Event.id ++ (collectionEndedEvents text hash b q).map Event.id
        else []) ++
      (if q.wants .alert then (alertEvents b q).map Event.id else []) ++
      (if q.wants .error then
        (metricEvents b q).map Event.id ++ (errorHistoryEvents text shown b q).map Event.id
        else []) := by
    have hid : (Event.id ∘ withRecording b q) = Event.id := rfl
    unfold historyEvents
    rw [List.map_map, hid, List.map_append, List.map_append, apply_ite (List.map Event.id),
      apply_ite (List.map Event.id), apply_ite (List.map Event.id), List.map_append,
      List.map_append]
    rfl
  refine Numbered.perm ?_ ((sortedBy_perm _ _).map Event.id)
  rw [hids]
  exact (((numbered_manual.append numbered_ended (by decide)).ite _).append
    (numbered_alerts.ite _) (by decide)).append
      ((numbered_metrics.append numbered_changes (by decide)).ite _) (by decide)

/-! ## Pages -/

/-- The event without its link. -/
def Event.unlinked (event : Event) : Event := { event with recordingEventId := none }

/-- What an event of the history is made of. -/
inductive Made (shown : Option Json → String) (b : HistoryBackend) : Event → Prop
  | manual (log : CollectionLog) : Made shown b (manualEvent b.store log)
  | ended (scope : Option String) (t : EdgeV2Transition) : Made shown b (endedEvent scope t)
  | alert (alert : AlertLog) : Made shown b (alertEvent b alert)
  | metric (metric : ScrapMetric) : Made shown b (metricEvent metric)
  | change (t : EdgeV2Transition) (event : Event) (h : changeEvent shown t = some event) :
      Made shown b event

theorem made_of_ended (h : event ∈ collectionEndedEvents text hash b q) : Made shown b event := by
  unfold collectionEndedEvents at h
  cases hsource : b.source q with
  | none =>
    rw [hsource] at h
    exact absurd h List.not_mem_nil
  | some source =>
    rw [hsource] at h
    dsimp only at h
    split_ifs at h
    · exact absurd h List.not_mem_nil
    · obtain ⟨t, -, rfl⟩ := List.mem_map.1 h
      exact .ended _ t

theorem made_of_change (h : event ∈ errorHistoryEvents text shown b q) : Made shown b event := by
  unfold errorHistoryEvents at h
  cases hsource : b.source q with
  | none =>
    rw [hsource] at h
    exact absurd h List.not_mem_nil
  | some source =>
    rw [hsource] at h
    obtain ⟨t, -, hevent⟩ := List.mem_filterMap.1 h
    exact .change t event hevent

theorem made_of_mem (h : event ∈ sortedEvents text hash shown b q) :
    ∃ made, Made shown b made ∧ event = withRecording b q made := by
  have hmem := (mem_sortedBy _ _).1 h
  unfold historyEvents at hmem
  obtain ⟨made, hmade, rfl⟩ := List.mem_map.1 hmem
  refine ⟨made, ?_, rfl⟩
  simp only [List.mem_append, List.mem_ite_nil_right] at hmade
  rcases hmade with (⟨-, hmade | hmade⟩ | ⟨-, hmade⟩) | ⟨-, hmade | hmade⟩
  · obtain ⟨log, -, rfl⟩ := List.mem_map.1 hmade
    exact .manual log
  · exact made_of_ended hmade
  · obtain ⟨alert, -, rfl⟩ := List.mem_map.1 hmade
    exact .alert alert
  · obtain ⟨metric, -, rfl⟩ := List.mem_map.1 hmade
    exact .metric metric
  · exact made_of_change hmade

theorem unlinked_of_mem (h : event ∈ sortedEvents text hash shown b q) :
    event.unlinked = event := by
  obtain ⟨made, hmade, rfl⟩ := made_of_mem h
  cases hmade with
  | manual => rfl
  | ended => rfl
  | alert => rfl
  | metric => rfl
  | change t event hevent =>
    unfold changeEvent at hevent
    obtain ⟨error, -, rfl⟩ := Option.map_eq_some_iff.1 hevent
    rfl

theorem items_listEvents (page pageSize : ℕ) :
    (listEvents text hash shown b q page pageSize).items.map Event.unlinked =
      pageOf pageSize page (sortedEvents text hash shown b q) := by
  unfold listEvents
  dsimp only
  rw [pageOf_eq, List.map_map]
  have hmem : ∀ event ∈ ((sortedEvents text hash shown b q).drop ((page - 1) * pageSize)).take
      pageSize, event.unlinked = event := fun event hevent =>
    unlinked_of_mem (List.mem_of_mem_drop (List.mem_of_mem_take hevent))
  refine (List.map_congr_left fun event hevent => ?_).trans (List.map_id _)
  exact hmem event hevent

/-- **The pages of the history are the history.** For every pit, range, category and page size, the
pages together hold every event that is to be told, once and nothing else, the latest first; each
page has the number of all events and of the pages that hold them. -/
theorem history_exact (text hash : Json → String) (shown : Option Json → String)
    (b : HistoryBackend) (q : HistoryQuery) {pageSize : ℕ} (hsize : 0 < pageSize) :
    ∃ events : List Event,
      (∀ id time, (id, time) ∈ events.map Event.mark ↔ IsTold text hash b q id time) ∧
      (events.map Event.id).Nodup ∧
      events.Pairwise (fun event event' => event'.occurredAt ≤ event.occurredAt) ∧
      (∀ page, (listEvents text hash shown b q page pageSize).totalItems = events.length ∧
        (listEvents text hash shown b q page pageSize).totalPages =
          totalPages events.length pageSize) ∧
      (List.range (totalPages events.length pageSize)).flatMap (fun k =>
        (listEvents text hash shown b q (k + 1) pageSize).items.map Event.unlinked) = events := by
  refine ⟨sortedEvents text hash shown b q, fun id time => mem_sortedEvents,
    numbered_history.nodup, ?_, fun page => ⟨rfl, ?_⟩, ?_⟩
  · exact (pairwise_sortedBy (fun event : Event => OrderDual.toDual event.occurredAt) _).imp
      fun h => h
  · unfold listEvents
    dsimp only
    split_ifs with htotal
    · rfl
    · unfold totalPages
      refine (Nat.div_eq_of_lt ?_).symm
      omega
  · simp only [items_listEvents]
    exact pages_flatten hsize _

/-! ### The history of a collection

The collection from second 100 to second 160 that is confirmed by hand at second 120. -/

def sampleHistory : HistoryStore :=
  { sampleStore with
    operatorName := fun _ => "operator"
    notes := fun _ => none
    message := fun _ => ""
    jobs := [] }

def sampleHistoryBackend : HistoryBackend where
  settings := ⟨true, true, "pit", [⟨"pit", "site", "edge"⟩]⟩
  config := Collection.sampleConfiguration
  pitConfig := none
  store := sampleHistory
  lifecycle := fun _ => .unknown

def sampleHistoryQuery : HistoryQuery where
  pit := "pit"
  fromTime := none
  toTime := none
  category := .all
  allScopes := true
  endedNow := sampleTime 300
  errorsNow := sampleTime 300
  linksNow := sampleTime 300

def sampleHistoryPage (page : ℕ) : EventPage :=
  listEvents (fun _ => "") (fun _ => "") (fun _ => "") sampleHistoryBackend sampleHistoryQuery
    page 1

theorem history_exact_sample :
    (sampleHistoryPage 1).items.map Event.id = ["evt-auto-col-2"] ∧
    (sampleHistoryPage 2).items.map Event.id = ["evt-col-1"] ∧
    ∃ events : List Event, (events.map Event.id).Nodup ∧
      ∀ page, (sampleHistoryPage page).totalItems = events.length := by
  obtain ⟨events, -, hnodup, -, htotal, -⟩ := history_exact (fun _ => "") (fun _ => "")
    (fun _ => "") sampleHistoryBackend sampleHistoryQuery Nat.one_pos
  exact ⟨by decide +kernel, by decide +kernel, events, hnodup, fun page => (htotal page).1⟩

end ScrapMonitoring.Events
