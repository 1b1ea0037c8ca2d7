import Mathlib.Data.Rat.Cast.Order
import ScrapMonitoring.Events.Table
import ScrapMonitoring.Foundations.Tagged

/-!
# The listing is exact

Which events the table of a query holds: the point events of the pit (`PointEvent`) whose time is
in the context of the range (`pointEvent_of_mem`, `exists_row_of_pointEvent`), and the starts of
cycles, each with its first end if it has one (`mem_cycles`, `firstEnd_of_closed`). A time is in the
context exactly if its reference window overlaps the range (`inContext_iff`), and a closed cycle is
in the range exactly if it overlaps it (`inCycle_iff`).

Identifiers are unique (`nodup_eventIds`), so one arrangement of the rows is in order
(`arranged_unique`) and the pages fit together (`pages_recordings`). `listing_exact` puts this
together, and `listEventRecordings_page` says that a request is answered with such a page.
-/

namespace ScrapMonitoring.Events

open Monitoring (MonitoringSource)

variable {text : Json → String} {store : Store} {q : EventQuery} {source : MonitoringSource}
variable {t start : EdgeV2Transition} {ended : Datetime} {row : EventRow}
variable {kind : EventKind} {n : ℕ} {time lower upper : Datetime}

/-! ## Point events -/

/-- A value of which the database gives a text that is none of a state is that state itself. -/
theorem column_eq_state (hstates : ∀ value, text value ∉ deviceStates) {payload : Fields}
    {key state : String} (hstate : state ∈ deviceStates) :
    column text payload key = some state ↔ payload.lookup key = some (.str state) := by
  have htext : ∀ value, text value ≠ state := fun value h => hstates value (h ▸ hstate)
  unfold column
  cases payload.lookup key with
  | none => simp
  | some value => cases value <;> simp [asString, htext]

theorem deviceOccurrence_isSome (preparing : Bool) (current : String) :
    (deviceOccurrence preparing current).isSome = true ↔ current ∈ deviceStates := by
  unfold deviceOccurrence deviceStates
  simp only [List.mem_cons, List.not_mem_nil, or_false]
  split_ifs <;> simp_all

/-- The database and `error_transition_event` say the same of the change of a device. -/
theorem deviceChanged_iff (hstates : ∀ value, text value ∉ deviceStates) :
    deviceChanged text t = true ↔
      t.kind = .deviceStateChanged ∧ (errorTransitionEvent t.kind t.payload).isSome = true := by
  unfold deviceChanged
  rw [decide_eq_true_iff]
  refine and_congr_right fun hkind => ?_
  have hall : ∀ state ∈ deviceStates, (column text t.payload "previous").all (· ≠ state) = true ↔
      t.payload.lookup "previous" ≠ some (.str state) := by
    intro state hstate
    rw [ne_eq, ← column_eq_state hstates hstate]
    cases column text t.payload "previous" <;> simp
  rw [hkind, Option.any_eq_true]
  unfold errorTransitionEvent occurrence
  rw [Option.isSome_map]
  dsimp only
  constructor
  · rintro ⟨current, hcolumn, hcond⟩
    obtain ⟨hmem, hprevious⟩ := of_decide_eq_true hcond
    rw [(column_eq_state hstates hmem).1 hcolumn]
    dsimp only
    rw [if_neg ((hall current hmem).1 hprevious)]
    exact (deviceOccurrence_isSome _ _).2 hmem
  · intro hsome
    split at hsome
    · rename_i current hlookup
      split_ifs at hsome with hprevious
      · cases hsome
      · have hmem := (deviceOccurrence_isSome _ _).1 hsome
        exact ⟨current, (column_eq_state hstates hmem).2 hlookup,
          decide_eq_true ⟨hmem, (hall current hmem).2 hprevious⟩⟩
    · cases hsome

/-- So they do of the validity of measurements. -/
theorem validityChanged_iff : validityChanged t = true ↔
    t.kind = .measurementValidityChanged ∧
      (errorTransitionEvent t.kind t.payload).isSome = true := by
  unfold validityChanged
  rw [decide_eq_true_iff]
  refine and_congr_right fun hkind => ?_
  rw [hkind]
  unfold errorTransitionEvent occurrence jsonBoolean
  rw [Option.isSome_map]
  simp only [decide_eq_true_eq]
  constructor
  · rintro (⟨hprevious, hcurrent⟩ | ⟨hprevious, hcurrent⟩) <;> rw [hprevious, hcurrent] <;> rfl
  · intro hsome
    split at hsome
    · rename_i previous current hprevious hcurrent
      rw [hprevious, hcurrent]
      split_ifs at hsome with hsame
      · cases hsome
      · cases previous <;> cases current <;> simp at hsame ⊢
    · cases hsome

/-- A valid point event of the pit, with its primary key and its time. -/
inductive PointEvent (text : Json → String) (store : Store) (q : EventQuery) :
    EventKind → ℕ → Datetime → Prop
  | manualCollection (log : CollectionLog) (hlog : log ∈ store.collections)
      (hpit : log.pitId = q.pit) : PointEvent text store q .manualCollection log.id log.completedAt
  | alert (alert : AlertLog) (halert : alert ∈ store.alerts) (hpit : alert.pitId = q.pit) :
      PointEvent text store q .alert alert.id alert.triggeredAt
  | legacyError (metric : ScrapMetric) (hmetric : metric ∈ store.metrics)
      (hpit : metric.pitId = q.pit) (hinvalid : metric.isValid = false) :
      PointEvent text store q .legacyError metric.id metric.measuredAt
  | deviceStateChanged (source : MonitoringSource) (t : EdgeV2Transition)
      (hsource : q.source = some source) (ht : t ∈ store.transitions)
      (hof : attributed text q source t = true) (hkind : t.kind = .deviceStateChanged)
      (hvalid : (errorTransitionEvent t.kind t.payload).isSome = true) :
      PointEvent text store q .deviceStateChanged t.id t.occurredAt
  | measurementValidityChanged (source : MonitoringSource) (t : EdgeV2Transition)
      (hsource : q.source = some source) (ht : t ∈ store.transitions)
      (hof : attributed text q source t = true) (hkind : t.kind = .measurementValidityChanged)
      (hvalid : (errorTransitionEvent t.kind t.payload).isSome = true) :
      PointEvent text store q .measurementValidityChanged t.id t.occurredAt

/-- A comparison with two texts makes them one. -/
theorem eq_of_sqlEq {a a' b : Option String} (h : sqlEq a b = true) (h' : sqlEq a' b = true) :
    a = a' := by
  obtain ⟨s, rfl, hb⟩ := sqlEq_iff.1 h
  obtain ⟨s', rfl, hb'⟩ := sqlEq_iff.1 h'
  exact hb.symm.trans hb'

theorem alertSource_fst (source : MonitoringSource) :
    (alertSource text store q source).map (fun r => r.1.1.1) = store.alerts := by
  have hfst : (alertSource text store q source).map (fun r => r.1.1.1) =
      (((alertSource text store q source).map Prod.fst).map Prod.fst).map Prod.fst := by
    rw [List.map_map, List.map_map]
    rfl
  have hkeys : ((firstCreated text store q source).map Prod.fst).Nodup := nodup_groupMin
  rw [hfst]
  unfold alertSource
  dsimp only
  rw [outerJoin_map_fst EdgeV2Transition.id store.transitions_nodup,
    outerJoin_map_fst Prod.fst hkeys, outerJoin_map_fst EdgeV2AlertLink.alertId store.links_nodup]
  · intro alert _ link link' h h'
    exact (of_decide_eq_true h).1.trans (of_decide_eq_true h').1.symm
  · intro r _ created created' h h'
    exact eq_of_sqlEq h h'
  · intro r _ earliest earliest' h h'
    cases hcreated : r.2 with
    | none => rw [hcreated] at h; cases h
    | some created =>
      rw [hcreated] at h h'
      exact (of_decide_eq_true h).trans (of_decide_eq_true h').symm

/-- **The joins keep the alerts as they are.** -/
theorem alertPayloads_fst (text : Json → String) (store : Store) (q : EventQuery) :
    (alertPayloads text store q).map Prod.fst = store.alerts := by
  unfold alertPayloads
  cases q.source with
  | none =>
    rw [List.map_map]
    exact List.map_id _
  | some source =>
    dsimp only
    rw [List.map_map]
    exact alertSource_fst source

/-! ## Rows of the table -/

/-- The six selections of a listing of all categories. -/
theorem mem_eventTable (hall : q.category = .all) : row ∈ eventTable text store q ↔
    ((∃ source, q.source = some source ∧ row ∈ collectionRows text store q source) ∨
      row ∈ manualCollectionRows store q) ∨ row ∈ alertRows text store q ∨
    row ∈ legacyErrorRows store q ∨ ∃ source, q.source = some source ∧
      (row ∈ transitionRows text store q source .deviceStateChanged (deviceChanged text) ∨
        row ∈ transitionRows text store q source .measurementValidityChanged validityChanged) := by
  unfold eventTable
  rw [hall]
  simp only [true_or, if_true, List.mem_append]
  cases q.source with
  | none => simp [or_assoc]
  | some source => simp [or_assoc]

theorem mem_manualCollectionRows : row ∈ manualCollectionRows store q ↔
    ∃ log ∈ store.collections, (log.pitId = q.pit ∧ q.inContext log.completedAt = true) ∧
      { kind := .manualCollection, number := log.id, occurredAt := log.completedAt } = row := by
  simp [manualCollectionRows, and_assoc]

theorem mem_legacyErrorRows : row ∈ legacyErrorRows store q ↔
    ∃ metric ∈ store.metrics, (metric.pitId = q.pit ∧ metric.isValid = false ∧
      q.inContext metric.measuredAt = true) ∧
      { kind := .legacyError, number := metric.id, occurredAt := metric.measuredAt } = row := by
  simp [legacyErrorRows, and_assoc]

theorem mem_transitionRows {condition : EdgeV2Transition → Bool} :
    row ∈ transitionRows text store q source kind condition ↔
      ∃ t ∈ store.transitions, (attributed text q source t = true ∧ condition t = true ∧
        q.inContext t.occurredAt = true) ∧
        { kind := kind, number := t.id, occurredAt := t.occurredAt, payload := some t.payload } =
          row := by
  simp [transitionRows, and_assoc]

theorem mem_alertRows : row ∈ alertRows text store q ↔
    ∃ r ∈ alertPayloads text store q, (r.1.pitId = q.pit ∧ q.inContext r.1.triggeredAt = true) ∧
      { kind := .alert, number := r.1.id, occurredAt := r.1.triggeredAt, payload := r.2 } =
        row := by
  simp [alertRows, and_assoc]

theorem mem_collectionRows : row ∈ collectionRows text store q source ↔
    ∃ r ∈ outerJoin (endOf text) store.transitions (cycleEnds text store q source),
      (recorded text q source .collectionDetected r.1 = true ∧
        q.inCycle text r.1 (r.2.map Prod.snd) = true) ∧
      ⟨.collection, r.1.id, r.1.occurredAt, r.2.map Prod.snd, some r.1.payload⟩ = row := by
  simp [collectionRows, and_assoc]

/-- A row that is not of a cycle is of a point event of the pit, in the context of the range. -/
theorem pointEvent_of_mem (hstates : ∀ value, text value ∉ deviceStates) (hall : q.category = .all)
    (hrow : row ∈ eventTable text store q) (hkind : row.kind ≠ .collection) :
    PointEvent text store q row.kind row.number row.occurredAt ∧
      q.inContext row.occurredAt = true := by
  rcases (mem_eventTable hall).1 hrow with
    (⟨source, -, hmem⟩ | hmem) | hmem | hmem | ⟨source, hsource, hmem | hmem⟩
  · obtain ⟨r, -, -, rfl⟩ := mem_collectionRows.1 hmem
    exact absurd rfl hkind
  · obtain ⟨log, hlog, ⟨hpit, hcontext⟩, rfl⟩ := mem_manualCollectionRows.1 hmem
    exact ⟨.manualCollection log hlog hpit, hcontext⟩
  · obtain ⟨r, hr, ⟨hpit, hcontext⟩, rfl⟩ := mem_alertRows.1 hmem
    have halert : r.1 ∈ store.alerts := by
      rw [← alertPayloads_fst text store q]
      exact List.mem_map_of_mem hr
    exact ⟨.alert r.1 halert hpit, hcontext⟩
  · obtain ⟨metric, hmetric, ⟨hpit, hinvalid, hcontext⟩, rfl⟩ := mem_legacyErrorRows.1 hmem
    exact ⟨.legacyError metric hmetric hpit hinvalid, hcontext⟩
  · obtain ⟨t, ht, ⟨hof, hchanged, hcontext⟩, rfl⟩ := mem_transitionRows.1 hmem
    obtain ⟨hkind, hvalid⟩ := (deviceChanged_iff hstates).1 hchanged
    exact ⟨.deviceStateChanged source t hsource ht hof hkind hvalid, hcontext⟩
  · obtain ⟨t, ht, ⟨hof, hchanged, hcontext⟩, rfl⟩ := mem_transitionRows.1 hmem
    obtain ⟨hkind, hvalid⟩ := validityChanged_iff.1 hchanged
    exact ⟨.measurementValidityChanged source t hsource ht hof hkind hvalid, hcontext⟩

/-- A point event in the context of the range has a row. -/
theorem exists_row_of_pointEvent (hstates : ∀ value, text value ∉ deviceStates)
    (hall : q.category = .all) (hpoint : PointEvent text store q kind n time)
    (hcontext : q.inContext time = true) :
    ∃ row ∈ eventTable text store q, row.kind = kind ∧ row.number = n ∧ row.occurredAt = time := by
  cases hpoint with
  | manualCollection log hlog hpit =>
    exact ⟨_, (mem_eventTable hall).2 (.inl (.inr
      (mem_manualCollectionRows.2 ⟨log, hlog, ⟨hpit, hcontext⟩, rfl⟩))), rfl, rfl, rfl⟩
  | alert alert halert hpit =>
    rw [← alertPayloads_fst text store q] at halert
    obtain ⟨r, hr, rfl⟩ := List.mem_map.1 halert
    exact ⟨_, (mem_eventTable hall).2 (.inr (.inl
      (mem_alertRows.2 ⟨r, hr, ⟨hpit, hcontext⟩, rfl⟩))), rfl, rfl, rfl⟩
  | legacyError metric hmetric hpit hinvalid =>
    exact ⟨_, (mem_eventTable hall).2 (.inr (.inr (.inl
      (mem_legacyErrorRows.2 ⟨metric, hmetric, ⟨hpit, hinvalid, hcontext⟩, rfl⟩)))), rfl, rfl, rfl⟩
  | deviceStateChanged source t hsource ht hof hkind hvalid =>
    have hchanged := (deviceChanged_iff hstates).2 ⟨hkind, hvalid⟩
    exact ⟨_, (mem_eventTable hall).2 (.inr (.inr (.inr ⟨source, hsource, .inl
      (mem_transitionRows.2 ⟨t, ht, ⟨hof, hchanged, hcontext⟩, rfl⟩)⟩))), rfl, rfl, rfl⟩
  | measurementValidityChanged source t hsource ht hof hkind hvalid =>
    have hchanged := validityChanged_iff.2 ⟨hkind, hvalid⟩
    exact ⟨_, (mem_eventTable hall).2 (.inr (.inr (.inr ⟨source, hsource, .inr
      (mem_transitionRows.2 ⟨t, ht, ⟨hof, hchanged, hcontext⟩, rfl⟩)⟩))), rfl, rfl, rfl⟩

/-! ## Cycles -/

/-- The first end that goes with a start. -/
def firstEnd (text : Json → String) (store : Store) (q : EventQuery) (source : MonitoringSource)
    (start : EdgeV2Transition) : Option Datetime :=
  ((cycleEnds text store q source).find? (endOf text start)).map Prod.snd

theorem endOf_key {e : (Option String × Option String) × Datetime}
    (h : endOf text start e = true) : e.1 = cycleKey text start := by
  obtain ⟨hdetection, hscope, -⟩ := of_decide_eq_true h
  obtain ⟨s, hs, hs'⟩ := sqlEq_iff.1 hdetection
  obtain ⟨u, hu, hu'⟩ := sqlEq_iff.1 hscope
  exact Prod.ext (hs.trans hs'.symm) (hu.trans hu'.symm)

theorem ends_join : outerJoin (endOf text) store.transitions (cycleEnds text store q source) =
    store.transitions.map fun start =>
      (start, (cycleEnds text store q source).find? (endOf text start)) := by
  have hon : ∀ start ∈ store.transitions, ∀ e e', endOf text start e → endOf text start e' →
      e.1 = e'.1 := fun start _ e e' h h' => (endOf_key h).trans (endOf_key h').symm
  exact outerJoin_eq_map Prod.fst nodup_groupMin hon

/-- A start has one row at most, with its first end. -/
theorem mem_cycles : row ∈ collectionRows text store q source ↔
    ∃ start ∈ store.transitions, (recorded text q source .collectionDetected start = true ∧
      q.inCycle text start (firstEnd text store q source start) = true) ∧
      ⟨.collection, start.id, start.occurredAt, firstEnd text store q source start,
        some start.payload⟩ = row := by
  rw [mem_collectionRows, ends_join]
  simp only [List.mem_map]
  constructor
  · rintro ⟨r, ⟨start, hstart, rfl⟩, hcond, rfl⟩
    exact ⟨start, hstart, hcond, rfl⟩
  · rintro ⟨start, hstart, hcond, rfl⟩
    exact ⟨_, ⟨start, hstart, rfl⟩, hcond, rfl⟩

/-- A cycle of collection that is closed by now: a recorded start with its detection and its scope,
and the first of the recorded ends of that detection and scope. -/
structure ClosedCycle (text : Json → String) (store : Store) (q : EventQuery)
    (source : MonitoringSource) (start : EdgeV2Transition) (ended : Datetime) : Prop where
  source_eq : q.source = some source
  mem : start ∈ store.transitions
  started : recorded text q source .collectionDetected start = true
  identity : (cycleIdentity start.payload).isSome = true
  settled : ∃ t ∈ store.transitions, recorded text q source .collectionSettled t = true ∧
    cycleKey text t = cycleKey text start ∧ t.occurredAt = ended
  first : ∀ t ∈ store.transitions, recorded text q source .collectionSettled t = true →
    cycleKey text t = cycleKey text start → ended ≤ t.occurredAt
  by_now : ended ≤ q.now

/-- Texts are read as they are. -/
theorem cycleKey_of_identity (text : Json → String)
    (h : (cycleIdentity start.payload).isSome = true) :
    ∃ detection scope, cycleIdentity start.payload = some (detection, scope) ∧
      cycleKey text start = (some detection, some scope) := by
  have hcolumn : ∀ {key s : String}, textMember start.payload key = some s →
      column text start.payload key = some s := by
    intro key s hs
    unfold textMember at hs
    unfold column
    split at hs
    · rename_i value hlookup
      rw [hlookup]
      exact hs
    · cases hs
  obtain ⟨⟨detection, scope⟩, hidentity⟩ := Option.isSome_iff_exists.1 h
  have hmembers := hidentity
  unfold cycleIdentity at hmembers
  simp only [Option.bind_eq_bind, Option.bind_eq_some_iff] at hmembers
  obtain ⟨d, hd, s, hs, heq⟩ := hmembers
  obtain ⟨rfl, rfl⟩ := Prod.ext_iff.1 (Option.some.inj heq)
  exact ⟨d, s, hidentity, Prod.ext (hcolumn hd) (hcolumn hs)⟩

/-- **The first end of a closed cycle** is the one that its row has. -/
theorem firstEnd_of_closed (hclosed : ClosedCycle text store q source start ended)
    (hordered : start.occurredAt ≤ ended) :
    firstEnd text store q source start = some ended := by
  obtain ⟨detection, scope, -, hkey⟩ := cycleKey_of_identity text hclosed.identity
  have hmem : (cycleKey text start, ended) ∈ cycleEnds text store q source := by
    obtain ⟨t, ht, hrecorded, htkey, rfl⟩ := hclosed.settled
    refine mem_groupMin.2 ⟨⟨t, List.mem_filter.2 ⟨ht, decide_eq_true ⟨hrecorded, hclosed.by_now⟩⟩,
      htkey, rfl⟩, fun t' ht' hkey' => ?_⟩
    obtain ⟨ht', hcond⟩ := List.mem_filter.1 ht'
    exact hclosed.first t' ht' (of_decide_eq_true hcond).1 hkey'
  have hends : endOf text start (cycleKey text start, ended) = true := by
    refine decide_eq_true ⟨?_, ?_, hordered⟩ <;> rw [hkey, sqlEq_iff] <;> exact ⟨_, rfl, rfl⟩
  obtain ⟨found, hfound⟩ : ∃ found, (cycleEnds text store q source).find? (endOf text start) =
      some found := Option.isSome_iff_exists.1 (List.find?_isSome.2 ⟨_, hmem, hends⟩)
  -- one row of the ends has the key
  have hsame : found = (cycleKey text start, ended) :=
    List.inj_on_of_nodup_map nodup_groupMin (List.mem_of_find?_eq_some hfound) hmem
      (endOf_key (List.find?_some hfound))
  unfold firstEnd
  rw [hfound, hsame]
  rfl

/-! ## Times and windows

Windows are spans of continuous time, so that two of them overlap when they share any moment. -/

/-- The time between two instants. -/
def span (first last : Datetime) : Set ℚ := Set.Ioo (first.1 : ℚ) last.1

/-- The time from an instant on, up to another one. -/
def cycleSpan (first last : Datetime) : Set ℚ := Set.Ico (first.1 : ℚ) last.1

/-- A query over a range, as a listing makes it: the range is not empty, the context of a point
event is not empty, and the shifted bounds of the range are datetimes. -/
structure Ranged (q : EventQuery) (lower upper : Datetime) : Prop where
  lower_eq : q.lower = some lower
  upper_eq : q.upper = some upper
  lt : lower < upper
  context : 0 < q.before + q.after
  lower_shifted : datetimeMin ≤ lower.1 - seconds q.after
  upper_shifted : upper.1 + seconds q.before ≤ datetimeMax

theorem Ranged.cast_lt (h : Ranged q lower upper) : (lower.1 : ℚ) < upper.1 :=
  Int.cast_lt.2 h.lt

/-- **A time is in the context of the range exactly if its reference window overlaps the range.** -/
theorem inContext_iff (h : Ranged q lower upper) (hnow : time ≤ q.now) :
    q.inContext time = true ↔
      (span (shifted time (-q.before)) (shifted time q.after) ∩ span lower upper).Nonempty := by
  have hlt : lower.1 < upper.1 := h.lt
  have hcontext := h.context
  have hlow := h.lower_shifted
  have hup := h.upper_shifted
  obtain ⟨hmin, hmax⟩ := time.2
  unfold span
  rw [Ioo_overlap h.cast_lt, Int.cast_lt, Int.cast_lt, Int.cast_lt]
  unfold EventQuery.inContext
  rw [h.lower_eq, h.upper_eq, decide_eq_true_iff, Option.all_some, Option.all_some,
    decide_eq_true_iff, decide_eq_true_iff, ← Subtype.coe_lt_coe, ← Subtype.coe_lt_coe,
    shifted_val, shifted_val, shifted_val, shifted_val]
  unfold seconds at *
  constructor
  · rintro ⟨hl, hu, -⟩
    omega
  · rintro ⟨hab, hl, hu⟩
    refine ⟨?_, ?_, hnow⟩ <;> omega

/-- **A cycle with an end is in the range exactly if it overlaps it.** -/
theorem inCycle_iff (h : Ranged q lower upper) (hcycle : start.occurredAt < ended)
    (hnow : ended ≤ q.now) : q.inCycle text start (some ended) = true ↔
      (cycleSpan start.occurredAt ended ∩ span lower upper).Nonempty := by
  unfold cycleSpan span
  rw [Ico_overlap h.cast_lt (Int.cast_lt.2 hcycle), Int.cast_lt, Int.cast_lt]
  unfold EventQuery.inCycle
  rw [h.lower_eq, h.upper_eq, decide_eq_true_iff, Option.all_some, Option.all_some,
    decide_eq_true_iff, decide_eq_true_iff]
  constructor
  · rintro ⟨hl, hu, -⟩
    exact ⟨hl, hu⟩
  · rintro ⟨hl, hu⟩
    exact ⟨hl, hu, hcycle.le.trans hnow⟩

/-! ## Identifiers -/

/-- An identifier tells what it begins with, and the primary key. -/
theorem eventId_inj {kind' : EventKind} {n' : ℕ} (h : eventId kind n = eventId kind' n') :
    kind.idPrefix = kind'.idPrefix ∧ n = n' := by
  have hsplit : ∀ (front : String) (n : ℕ),
      (front ++ "-" ++ toString n).toList = front.toList ++ '-' :: Nat.toDigits 10 n := by
    intro front n
    simp
  have hlist := congrArg String.toList h
  unfold eventId at hlist
  rw [hsplit, hsplit] at hlist
  obtain ⟨hfront, hnumber⟩ := tagged_inj (by decide) hlist
  exact ⟨String.toList_injective hfront, hnumber⟩

/-- Rows with one identifier each, of some kinds. -/
structure Selection (kinds : List EventKind) (rows : List EventRow) : Prop where
  nodup : (rows.map EventRow.eventId).Nodup
  mem_kinds : ∀ row ∈ rows, row.kind ∈ kinds

theorem Selection.nil (kinds : List EventKind) : Selection kinds [] where
  nodup := List.nodup_nil
  mem_kinds := by simp

/-- What is selected from a table by its primary key. -/
theorem Selection.of_key {α : Type*} (key : α → ℕ) {l : List α} {p : α → Bool} {f : α → EventRow}
    (hkeys : (l.map key).Nodup) (hkind : ∀ a, (f a).kind = kind)
    (hnumber : ∀ a, (f a).number = key a) : Selection [kind] ((l.filter p).map f) where
  nodup := by
    have hids : ((l.filter p).map f).map EventRow.eventId =
        ((l.filter p).map key).map (eventId kind) := by
      rw [List.map_map, List.map_map]
      refine List.map_congr_left fun a _ => ?_
      rw [Function.comp_apply, Function.comp_apply, EventRow.eventId, hkind, hnumber]
    rw [hids]
    refine List.Nodup.map (fun n n' h => (eventId_inj h).2) ?_
    exact hkeys.sublist (List.filter_sublist.map key)
  mem_kinds := by
    intro row hrow
    obtain ⟨a, -, rfl⟩ := List.mem_map.1 hrow
    rw [hkind]
    exact List.mem_singleton_self kind

/-- Selections whose identifiers begin with different texts. -/
theorem Selection.append {kinds kinds' : List EventKind} {rows rows' : List EventRow}
    (h : Selection kinds rows) (h' : Selection kinds' rows')
    (hkinds : ∀ kind ∈ kinds, ∀ kind' ∈ kinds', kind.idPrefix ≠ kind'.idPrefix) :
    Selection (kinds ++ kinds') (rows ++ rows') where
  nodup := by
    rw [List.map_append, List.nodup_append]
    refine ⟨h.nodup, h'.nodup, ?_⟩
    intro id hid id' hid' heq
    obtain ⟨row, hrow, rfl⟩ := List.mem_map.1 hid
    obtain ⟨row', hrow', rfl⟩ := List.mem_map.1 hid'
    exact hkinds _ (h.mem_kinds row hrow) _ (h'.mem_kinds row' hrow') (eventId_inj heq).1
  mem_kinds := by
    intro row hrow
    rcases List.mem_append.1 hrow with hrow | hrow
    · exact List.mem_append_left _ (h.mem_kinds row hrow)
    · exact List.mem_append_right _ (h'.mem_kinds row hrow)

theorem Selection.ite {kinds : List EventKind} {rows : List EventRow} (h : Selection kinds rows)
    (p : Prop) [Decidable p] : Selection kinds (if p then rows else []) := by
  split_ifs
  · exact h
  · exact .nil kinds

theorem selection_collectionRows (source : MonitoringSource) :
    Selection [.collection] (collectionRows text store q source) := by
  unfold collectionRows
  refine .of_key (fun r => r.1.id) ?_ (fun _ => rfl) fun _ => rfl
  rw [ends_join, List.map_map]
  exact store.transitions_nodup

theorem selection_alertRows : Selection [.alert] (alertRows text store q) := by
  unfold alertRows
  refine .of_key (fun r => r.1.id) ?_ (fun _ => rfl) fun _ => rfl
  have hids : (alertPayloads text store q).map (fun r => r.1.id) =
      ((alertPayloads text store q).map Prod.fst).map AlertLog.id := by
    rw [List.map_map]
    rfl
  rw [hids, alertPayloads_fst]
  exact store.alerts_nodup

theorem selection_transitionRows (source : MonitoringSource) (kind : EventKind)
    (condition : EdgeV2Transition → Bool) :
    Selection [kind] (transitionRows text store q source kind condition) :=
  .of_key EdgeV2Transition.id store.transitions_nodup (fun _ => rfl) fun _ => rfl

/-- A transition is a change of the device or of its measurements, not both. -/
theorem selection_changes (source : MonitoringSource) :
    Selection [.deviceStateChanged, .measurementValidityChanged]
      (transitionRows text store q source .deviceStateChanged (deviceChanged text) ++
        transitionRows text store q source .measurementValidityChanged validityChanged) where
  nodup := by
    rw [List.map_append, List.nodup_append]
    refine ⟨(selection_transitionRows ..).nodup, (selection_transitionRows ..).nodup, ?_⟩
    intro id hid id' hid' heq
    obtain ⟨row, hrow, rfl⟩ := List.mem_map.1 hid
    obtain ⟨row', hrow', rfl⟩ := List.mem_map.1 hid'
    obtain ⟨t, ht, ⟨-, hchanged, -⟩, rfl⟩ := mem_transitionRows.1 hrow
    obtain ⟨t', ht', ⟨-, hchanged', -⟩, rfl⟩ := mem_transitionRows.1 hrow'
    obtain rfl := List.inj_on_of_nodup_map store.transitions_nodup ht ht' (eventId_inj heq).2
    have hkind := (of_decide_eq_true hchanged).1
    rw [(of_decide_eq_true hchanged').1] at hkind
    cases hkind
  mem_kinds := by
    intro row hrow
    rcases List.mem_append.1 hrow with hrow | hrow
    · rw [List.mem_singleton.1 ((selection_transitionRows ..).mem_kinds row hrow)]
      decide
    · rw [List.mem_singleton.1 ((selection_transitionRows ..).mem_kinds row hrow)]
      decide

/-- **The identifiers of a table are unique.** -/
theorem nodup_eventIds (text : Json → String) (store : Store) (q : EventQuery) :
    ((eventTable text store q).map EventRow.eventId).Nodup := by
  have hmanual : Selection [.manualCollection] (manualCollectionRows store q) :=
    .of_key CollectionLog.id store.collections_nodup (fun _ => rfl) fun _ => rfl
  have herrors : Selection [.legacyError] (legacyErrorRows store q) :=
    .of_key ScrapMetric.id store.metrics_nodup (fun _ => rfl) fun _ => rfl
  unfold eventTable
  refine (((((?cycles : Selection [.collection] _).append hmanual (by decide)).ite _).append
    (selection_alertRows.ite _) (by decide)).append ((herrors.append
      (?changes : Selection [.deviceStateChanged, .measurementValidityChanged] _)
        (by decide)).ite _) (by decide)).nodup
  case cycles =>
    cases q.source with
    | none => exact .nil _
    | some source => exact selection_collectionRows source
  case changes =>
    cases q.source with
    | none => exact .nil _
    | some source => exact selection_changes source

/-! ## The order of the rows -/

theorem arranged_perm (rows : List EventRow) : (arranged rows).Perm rows := sortedBy_perm _ _

theorem rank_le_iff {row row' : EventRow} : row.rank ≤ row'.rank ↔
    row'.occurredAt < row.occurredAt ∨
      row'.occurredAt = row.occurredAt ∧ row'.eventId ≤ row.eventId := by
  unfold EventRow.rank
  rw [OrderDual.toDual_le_toDual, Prod.Lex.toLex_le_toLex]

/-- **One arrangement of the rows is in order**, whatever a database does with rows that tie. -/
theorem arranged_unique {rows rows' : List EventRow} (hids : (rows.map EventRow.eventId).Nodup)
    (hperm : rows'.Perm rows)
    (hordered : rows'.Pairwise fun row row' => row.rank ≤ row'.rank) : rows' = arranged rows := by
  refine List.Perm.eq_of_pairwise (fun a b ha hb hab hba => ?_) hordered (pairwise_sortedBy _ _)
    (hperm.trans (arranged_perm rows).symm)
  have hrank : toLex (a.occurredAt, a.eventId) = toLex (b.occurredAt, b.eventId) :=
    congrArg OrderDual.ofDual (le_antisymm hab hba)
  have hid : a.eventId = b.eventId := (Prod.ext_iff.1 (toLex.injective hrank)).2
  exact List.inj_on_of_nodup_map hids (hperm.mem_iff.1 ha) ((arranged_perm rows).mem_iff.1 hb) hid

/-! ## References -/

@[simp] theorem reference_eventId (row : EventRow) (pit : String) (before after : ℕ)
    (active : Option (String × String)) :
    (reference row pit before after active).eventId = row.eventId := by
  unfold reference
  split_ifs <;> rfl

@[simp] theorem reference_occurredAt (row : EventRow) (pit : String) (before after : ℕ)
    (active : Option (String × String)) :
    (reference row pit before after active).occurredAt = row.occurredAt := by
  unfold reference
  split_ifs <;> rfl

/-- The reference of an event that is a point in time has the window around it. -/
theorem reference_point (hkind : row.kind ≠ .collection) (pit : String) (before after : ℕ)
    (active : Option (String × String)) :
    (reference row pit before after active).windowFrom = shifted row.occurredAt (-before) ∧
      (reference row pit before after active).windowTo = some (shifted row.occurredAt after) := by
  unfold reference
  rw [if_neg hkind]
  exact ⟨rfl, rfl⟩

/-- The reference of a closed cycle has the end that its row has. -/
theorem reference_cycle {payload : Fields} (hidentity : (cycleIdentity payload).isSome = true)
    (n : ℕ) (time ended : Datetime) (pit : String) (before after : ℕ)
    (active : Option (String × String)) :
    (reference ⟨.collection, n, time, some ended, some payload⟩ pit before after
        active).windowFrom = time ∧
      (reference ⟨.collection, n, time, some ended, some payload⟩ pit before after
        active).windowTo = some ended ∧
      (reference ⟨.collection, n, time, some ended, some payload⟩ pit before after
        active).eventTo = some ended ∧
      (reference ⟨.collection, n, time, some ended, some payload⟩ pit before after
        active).windowState = .closed := by
  simp [reference, cycleReference, hidentity]

/-! ## The listing -/

/-- The events of a query, in their order. -/
def recordings (text : Json → String) (store : Store) (q : EventQuery) : List EventRecording :=
  (arranged (eventTable text store q)).map fun row =>
    reference row q.pit q.before q.after q.active

theorem mem_recordings {event : EventRecording} : event ∈ recordings text store q ↔
    ∃ row ∈ eventTable text store q,
      reference row q.pit q.before q.after q.active = event := by
  unfold recordings
  rw [List.mem_map]
  simp only [(arranged_perm _).mem_iff]

/-- An event with that identifier is listed. -/
def Listed (text : Json → String) (store : Store) (q : EventQuery) (id : String) : Prop :=
  ∃ event ∈ recordings text store q, event.eventId = id

/-- What a listing of all categories over a range is. -/
structure ExactListing (text : Json → String) (store : Store) (q : EventQuery)
    (lower upper : Datetime) : Prop where
  /-- A point event is listed exactly if its reference window overlaps the range. -/
  point : ∀ kind n time, PointEvent text store q kind n time → time ≤ q.now →
    (Listed text store q (eventId kind n) ↔
      (span (shifted time (-q.before)) (shifted time q.after) ∩ span lower upper).Nonempty)
  /-- That window is the one that its reference has. -/
  window : ∀ kind n time, PointEvent text store q kind n time →
    ∀ event ∈ recordings text store q, event.eventId = eventId kind n →
      event.occurredAt = time ∧ event.windowFrom = shifted time (-q.before) ∧
        event.windowTo = some (shifted time q.after)
  /-- A closed cycle is listed exactly if it overlaps the range. -/
  cycle : ∀ source start ended, ClosedCycle text store q source start ended →
    start.occurredAt < ended → (Listed text store q (eventId .collection start.id) ↔
      (cycleSpan start.occurredAt ended ∩ span lower upper).Nonempty)
  /-- Its reference has exactly its start and its end. -/
  cycleWindow : ∀ source start ended, ClosedCycle text store q source start ended →
    start.occurredAt < ended → ∀ event ∈ recordings text store q,
      event.eventId = eventId .collection start.id → event.windowFrom = start.occurredAt ∧
        event.windowTo = some ended ∧ event.eventTo = some ended ∧ event.windowState = .closed
  /-- Nothing else is listed than point events and recorded starts of cycles. -/
  selected : ∀ event ∈ recordings text store q,
    (∃ kind n time, PointEvent text store q kind n time ∧ time ≤ q.now ∧
      event.eventId = eventId kind n) ∨
    ∃ source, q.source = some source ∧ ∃ start ∈ store.transitions,
      recorded text q source .collectionDetected start = true ∧ start.occurredAt ≤ q.now ∧
        event.eventId = eventId .collection start.id
  unique : ((recordings text store q).map EventRecording.eventId).Nodup
  /-- By time and identifier, the greatest first. -/
  ordered : (recordings text store q).Pairwise fun event event' =>
    event'.occurredAt < event.occurredAt ∨
      event'.occurredAt = event.occurredAt ∧ event'.eventId < event.eventId
  /-- The pages hold the listing, nothing lost or repeated. -/
  pages : ∀ size > 0, (List.range (totalPages (recordings text store q).length size)).flatMap
    (fun k => (eventPage text store q lower upper (k + 1) size).items) = recordings text store q

/-! ### One event for each identifier -/

theorem kind_eq_collection (h : kind.idPrefix = EventKind.collection.idPrefix) :
    kind = .collection := by
  cases kind with
  | collection => rfl
  | manualCollection | alert | legacyError | deviceStateChanged | measurementValidityChanged =>
    exact absurd h (by decide)

theorem PointEvent.kind_ne (h : PointEvent text store q kind n time) : kind ≠ .collection := by
  cases h <;> simp

/-- **A point event is told by its identifier.** -/
theorem PointEvent.unique {kind' : EventKind} {n' : ℕ} {time' : Datetime}
    (h : PointEvent text store q kind n time) (h' : PointEvent text store q kind' n' time')
    (hfront : kind.idPrefix = kind'.idPrefix) (hnumber : n = n') : kind = kind' ∧ time = time' := by
  cases h with
  | manualCollection log hlog =>
    cases h' with
    | manualCollection log' hlog' =>
      obtain rfl := List.inj_on_of_nodup_map store.collections_nodup hlog hlog' hnumber
      exact ⟨rfl, rfl⟩
    | alert | legacyError | deviceStateChanged | measurementValidityChanged =>
      exact absurd hfront (by decide)
  | alert alert halert =>
    cases h' with
    | alert alert' halert' =>
      obtain rfl := List.inj_on_of_nodup_map store.alerts_nodup halert halert' hnumber
      exact ⟨rfl, rfl⟩
    | manualCollection | legacyError | deviceStateChanged | measurementValidityChanged =>
      exact absurd hfront (by decide)
  | legacyError metric hmetric =>
    cases h' with
    | legacyError metric' hmetric' =>
      obtain rfl := List.inj_on_of_nodup_map store.metrics_nodup hmetric hmetric' hnumber
      exact ⟨rfl, rfl⟩
    | manualCollection | alert | deviceStateChanged | measurementValidityChanged =>
      exact absurd hfront (by decide)
  | deviceStateChanged source t hsource ht hof hkind =>
    cases h' with
    | deviceStateChanged source' t' hsource' ht' =>
      obtain rfl := List.inj_on_of_nodup_map store.transitions_nodup ht ht' hnumber
      exact ⟨rfl, rfl⟩
    | measurementValidityChanged source' t' hsource' ht' hof' hkind' =>
      obtain rfl := List.inj_on_of_nodup_map store.transitions_nodup ht ht' hnumber
      rw [hkind] at hkind'
      cases hkind'
    | manualCollection | alert | legacyError => exact absurd hfront (by decide)
  | measurementValidityChanged source t hsource ht hof hkind =>
    cases h' with
    | measurementValidityChanged source' t' hsource' ht' =>
      obtain rfl := List.inj_on_of_nodup_map store.transitions_nodup ht ht' hnumber
      exact ⟨rfl, rfl⟩
    | deviceStateChanged source' t' hsource' ht' hof' hkind' =>
      obtain rfl := List.inj_on_of_nodup_map store.transitions_nodup ht ht' hnumber
      rw [hkind] at hkind'
      cases hkind'
    | manualCollection | alert | legacyError => exact absurd hfront (by decide)

/-- The row that is listed under the identifier of a point event. -/
theorem row_of_point (hstates : ∀ value, text value ∉ deviceStates) (hall : q.category = .all)
    (hpoint : PointEvent text store q kind n time) (hrow : row ∈ eventTable text store q)
    (hid : row.eventId = eventId kind n) :
    row.kind ≠ .collection ∧ row.occurredAt = time ∧ q.inContext time = true := by
  obtain ⟨hfront, hnumber⟩ := eventId_inj hid
  have hkind : row.kind ≠ .collection := fun h => by
    rw [h] at hfront
    exact hpoint.kind_ne (kind_eq_collection hfront.symm)
  obtain ⟨hrowPoint, hcontext⟩ := pointEvent_of_mem hstates hall hrow hkind
  obtain ⟨-, htime⟩ := hrowPoint.unique hpoint hfront hnumber
  rw [htime] at hcontext
  exact ⟨hkind, htime, hcontext⟩

/-- The row of a cycle is in the selection of cycles. -/
theorem mem_of_collection (hall : q.category = .all) (hrow : row ∈ eventTable text store q)
    (hkind : row.kind = .collection) :
    ∃ source, q.source = some source ∧ row ∈ collectionRows text store q source := by
  rcases (mem_eventTable hall).1 hrow with
    (hcycle | hmem) | hmem | hmem | ⟨source, -, hmem | hmem⟩
  · exact hcycle
  · obtain ⟨log, -, -, rfl⟩ := mem_manualCollectionRows.1 hmem
    cases hkind
  · obtain ⟨r, -, -, rfl⟩ := mem_alertRows.1 hmem
    cases hkind
  · obtain ⟨metric, -, -, rfl⟩ := mem_legacyErrorRows.1 hmem
    cases hkind
  · obtain ⟨t, -, -, rfl⟩ := mem_transitionRows.1 hmem
    cases hkind
  · obtain ⟨t, -, -, rfl⟩ := mem_transitionRows.1 hmem
    cases hkind

/-- The row that is listed under the identifier of a recorded start. -/
theorem row_of_start (hall : q.category = .all) (hsource : q.source = some source)
    (hstart : start ∈ store.transitions) (hrow : row ∈ eventTable text store q)
    (hid : row.eventId = eventId .collection start.id) :
    row = ⟨.collection, start.id, start.occurredAt, firstEnd text store q source start,
        some start.payload⟩ ∧
      q.inCycle text start (firstEnd text store q source start) = true := by
  obtain ⟨hfront, hnumber⟩ := eventId_inj hid
  obtain ⟨source', hsource', hmem⟩ := mem_of_collection hall hrow (kind_eq_collection hfront)
  obtain rfl := Option.some.inj (hsource.symm.trans hsource')
  obtain ⟨start', hstart', ⟨-, hcycle⟩, rfl⟩ := mem_cycles.1 hmem
  obtain rfl := List.inj_on_of_nodup_map store.transitions_nodup hstart' hstart hnumber
  exact ⟨rfl, hcycle⟩

/-! ### The theorem -/

theorem listed_iff {id : String} :
    Listed text store q id ↔ ∃ row ∈ eventTable text store q, row.eventId = id := by
  unfold Listed
  constructor
  · rintro ⟨event, hevent, rfl⟩
    obtain ⟨row, hrow, rfl⟩ := mem_recordings.1 hevent
    exact ⟨row, hrow, (reference_eventId ..).symm⟩
  · rintro ⟨row, hrow, rfl⟩
    exact ⟨_, mem_recordings.2 ⟨row, hrow, rfl⟩, reference_eventId ..⟩

theorem listed_point (hstates : ∀ value, text value ∉ deviceStates) (hall : q.category = .all)
    (hpoint : PointEvent text store q kind n time) :
    Listed text store q (eventId kind n) ↔ q.inContext time = true := by
  rw [listed_iff]
  constructor
  · rintro ⟨row, hrow, hid⟩
    exact (row_of_point hstates hall hpoint hrow hid).2.2
  · intro hcontext
    obtain ⟨row, hrow, rfl, rfl, -⟩ := exists_row_of_pointEvent hstates hall hpoint hcontext
    exact ⟨row, hrow, rfl⟩

theorem listed_cycle (hall : q.category = .all)
    (hclosed : ClosedCycle text store q source start ended) :
    Listed text store q (eventId .collection start.id) ↔
      q.inCycle text start (firstEnd text store q source start) = true := by
  rw [listed_iff]
  constructor
  · rintro ⟨row, hrow, hid⟩
    exact (row_of_start hall hclosed.source_eq hclosed.mem hrow hid).2
  · intro hcycle
    exact ⟨_, (mem_eventTable hall).2 (.inl (.inl ⟨source, hclosed.source_eq,
      mem_cycles.2 ⟨start, hclosed.mem, ⟨hclosed.started, hcycle⟩, rfl⟩⟩)), rfl⟩

theorem recordings_ordered (text : Json → String) (store : Store) (q : EventQuery) :
    (recordings text store q).Pairwise fun event event' =>
      event'.occurredAt < event.occurredAt ∨
        event'.occurredAt = event.occurredAt ∧ event'.eventId < event.eventId := by
  have hids : ((arranged (eventTable text store q)).map EventRow.eventId).Nodup :=
    ((arranged_perm _).map _).nodup_iff.2 (nodup_eventIds text store q)
  have hsorted := (pairwise_sortedBy EventRow.rank (eventTable text store q)).and
    (List.pairwise_map.1 hids)
  unfold recordings
  rw [List.pairwise_map]
  refine hsorted.imp fun {row row'} h => ?_
  rw [reference_eventId, reference_eventId, reference_occurredAt, reference_occurredAt]
  refine (rank_le_iff.1 h.1).imp_right fun hle => ⟨hle.1, lt_of_le_of_ne hle.2 (Ne.symm h.2)⟩

theorem pages_recordings {size : ℕ} (hsize : 0 < size) :
    (List.range (totalPages (recordings text store q).length size)).flatMap
      (fun k => (eventPage text store q lower upper (k + 1) size).items) =
      recordings text store q := by
  have hpages := congrArg (List.map fun row => reference row q.pit q.before q.after q.active)
    (pages_flatten hsize (arranged (eventTable text store q)))
  rw [List.map_flatMap] at hpages
  have hlength : (recordings text store q).length = (arranged (eventTable text store q)).length :=
    List.length_map _
  rw [hlength]
  exact hpages

/-- **A listing holds exactly the events that overlap its range**, and its pages lose nothing. -/
theorem listing_exact (hstates : ∀ value, text value ∉ deviceStates) (hall : q.category = .all)
    (hrange : Ranged q lower upper) : ExactListing text store q lower upper where
  point := by
    intro kind n time hpoint hnow
    rw [listed_point hstates hall hpoint, inContext_iff hrange hnow]
  window := by
    intro kind n time hpoint event hevent hid
    obtain ⟨row, hrow, rfl⟩ := mem_recordings.1 hevent
    rw [reference_eventId] at hid
    obtain ⟨hkind, rfl, -⟩ := row_of_point hstates hall hpoint hrow hid
    exact ⟨reference_occurredAt .., reference_point hkind ..⟩
  cycle := by
    intro source start ended hclosed hlt
    rw [listed_cycle hall hclosed, firstEnd_of_closed hclosed hlt.le,
      inCycle_iff hrange hlt hclosed.by_now]
  cycleWindow := by
    intro source start ended hclosed hlt event hevent hid
    obtain ⟨row, hrow, rfl⟩ := mem_recordings.1 hevent
    rw [reference_eventId] at hid
    obtain ⟨rfl, -⟩ := row_of_start hall hclosed.source_eq hclosed.mem hrow hid
    rw [firstEnd_of_closed hclosed hlt.le]
    exact reference_cycle hclosed.identity ..
  selected := by
    intro event hevent
    obtain ⟨row, hrow, rfl⟩ := mem_recordings.1 hevent
    rw [reference_eventId]
    by_cases hkind : row.kind = .collection
    · right
      obtain ⟨source, hsource, hmem⟩ := mem_of_collection hall hrow hkind
      obtain ⟨start, hstart, ⟨hrecorded, hcycle⟩, rfl⟩ := mem_cycles.1 hmem
      exact ⟨source, hsource, start, hstart, hrecorded, (of_decide_eq_true hcycle).2.2, rfl⟩
    · left
      obtain ⟨hpoint, hcontext⟩ := pointEvent_of_mem hstates hall hrow hkind
      exact ⟨row.kind, row.number, row.occurredAt, hpoint, (of_decide_eq_true hcontext).2.2, rfl⟩
  unique := by
    have hids : (recordings text store q).map EventRecording.eventId =
        (arranged (eventTable text store q)).map EventRow.eventId := by
      unfold recordings
      rw [List.map_map]
      exact List.map_congr_left fun row _ => reference_eventId ..
    rw [hids]
    exact ((arranged_perm _).map _).nodup_iff.2 (nodup_eventIds text store q)
  ordered := recordings_ordered text store q
  pages := fun _ hsize => pages_recordings hsize

/-- A request that is answered is answered with a page of a listing, over a range that is not empty
and with a context that is not empty. -/
theorem listEventRecordings_page {hash : Json → String} {backend : Backend} {now : Datetime}
    {pitId : Option String} {category : EventCategory} {fromTime toTime : Option Datetime}
    {page pageSize before after : ℕ} {answer : EventRecordingPage}
    (h : listEventRecordings text hash backend now pitId category fromTime toTime page pageSize
      before after = .ok answer) :
    ∃ pit source active lower upper, lower < upper ∧ 0 < before + after ∧
      answer = eventPage text backend.store
        ⟨pit, source, category, some lower, some upper, now, before, after, active⟩ lower upper page
        pageSize := by
  unfold listEventRecordings at h
  unfold contextError at h
  split_ifs at h with hcontext
  · simp only at h
    split_ifs at h with hrange
    · cases h
    · cases hscope : playbackScope backend.settings pitId with
      | error => rw [hscope] at h; cases h
      | ok scope =>
        rw [hscope] at h
        exact ⟨_, _, _, _, _, not_le.1 fun hle => hrange (.inl hle), hcontext.2.2,
          (Except.ok.inj h).symm⟩
  · cases h

/-! ### A collection and its confirmation

A collection goes on from second 100 to second 160 and is confirmed by hand at second 120. -/

/-- The instant of a second. -/
def sampleTime (n : ℤ) : Datetime := shifted ⟨0, by decide⟩ n

def sampleTransition (id : ℕ) (kind : TransitionKind) (time : Datetime) : EdgeV2Transition where
  id := id
  siteId := "site"
  edgeId := "edge"
  occurredAt := time
  kind := kind
  payload := [("pitId", .str "pit"), ("detectionId", .str "d"), ("scopeToken", .str "s")]

def sampleStore : Store where
  transitions := [sampleTransition 1 .collectionDetected (sampleTime 100),
    sampleTransition 2 .collectionSettled (sampleTime 160)]
  alerts := []
  links := []
  collections := [⟨1, "pit", sampleTime 120⟩]
  metrics := []
  transitions_nodup := by decide
  alerts_nodup := by decide
  links_nodup := by decide
  collections_nodup := by decide
  metrics_nodup := by decide

def sampleQuery : EventQuery where
  pit := "pit"
  source := some ⟨"pit", "site", "edge"⟩
  category := .all
  lower := some (sampleTime 130)
  upper := some (sampleTime 200)
  now := sampleTime 300
  before := 30
  after := 30
  active := none

/-- The theorem where the range begins in the context of the confirmation. -/
theorem listing_exact_collection :
    (recordings (fun _ => "") sampleStore sampleQuery).map EventRecording.eventId =
        ["evt-col-1", "evt-auto-col-start-1"] ∧
      ExactListing (fun _ => "") sampleStore sampleQuery (sampleTime 130) (sampleTime 200) :=
  ⟨by decide +kernel, listing_exact (fun _ => by decide) rfl ⟨rfl, rfl, by decide, by decide,
    by decide, by decide⟩⟩

end ScrapMonitoring.Events
