import ScrapMonitoring.Events.HistoryPages
import ScrapMonitoring.Foundations.Dict

/-!
# Links from the history to the recordings

`recording_event_links` gives the events of a page the references under which they can be replayed.
An end of a collection leads to the start of the one cycle that ended with it; every other event
leads to itself (`LinksTo`). So a link leads to an event of the listing of recordings, and no two
events of the history lead to the same one (`recordingLinks_exact`).
-/

namespace ScrapMonitoring.Events

open Monitoring (MonitoringSource)

variable {text hash : Json → String} {shown : Option Json → String} {b : HistoryBackend}
  {q : HistoryQuery} {event event' item : Event} {events : List Event} {source : MonitoringSource}
  {t t' start start' : EdgeV2Transition} {row : EventRow} {id target : String}

/-! ## Where a link leads -/

/-- The start of a cycle whose first recorded end is that row. -/
structure StartOf (text : Json → String) (b : HistoryBackend) (q : HistoryQuery)
    (source : MonitoringSource) (t start : EdgeV2Transition) : Prop where
  mem : start ∈ b.store.transitions
  started : recorded text (linkQuery b q .collection) source .collectionDetected start = true
  by_now : start.occurredAt ≤ q.linksNow
  same_key : cycleKey text start = cycleKey text t
  first : firstEnd text b.store.toStore (linkQuery b q .collection) source start =
    some t.occurredAt

/-- Where the event leads. -/
inductive LinksTo (text : Json → String) (b : HistoryBackend) (q : HistoryQuery) (event : Event) :
    String → Prop
  | itself (row : EventRow) (hsource : event.collectionSource ≠ some .heightSettled)
      (hrow : row ∈ eventTable text b.store.toStore (linkQuery b q .all))
      (hid : row.eventId = event.id) : LinksTo text b q event event.id
  | cycle (source : MonitoringSource) (t start : EdgeV2Transition)
      (hended : event.collectionSource = some .heightSettled)
      (hid : event.id = numbered endedTag t.id) (hsource : b.source q = some source)
      (ht : t ∈ b.store.transitions) (hidentified : identified text q source t = true)
      (halone : duplicateEnd text b q t = false) (hstart : StartOf text b q source t start)
      (honly : ∀ start', StartOf text b q source t start' → start' = start) :
      LinksTo text b q event (eventId .collection start.id)

/-- Recordings are kept of the pit. -/
def Linkable (b : HistoryBackend) (q : HistoryQuery) : Prop :=
  (b.settings.dailyServiceConfigured = true ∨ b.settings.serviceConfigured = true) ∧
    q.pit = b.settings.mediaPitId

/-! ## Cycles that end with a row -/

theorem identified_key (h : identified text q source t = true) :
    ∃ detection scope, cycleKey text t = (some detection, some scope) := by
  obtain ⟨-, -, -, hdetection, hscope⟩ := of_decide_eq_true h
  obtain ⟨detection, hdetection, -⟩ := (Option.any_eq_true ..).1 hdetection
  obtain ⟨scope, hscope, -⟩ := (Option.any_eq_true ..).1 hscope
  exact ⟨detection, scope, Prod.ext hdetection hscope⟩

/-- The columns of the database are compared one by one. -/
theorem sqlEq_key (h : identified text q source t = true) (u : EdgeV2Transition) :
    (sqlEq (column text t.payload "detectionId") (column text u.payload "detectionId") = true ∧
      sqlEq (column text t.payload "scopeToken") (column text u.payload "scopeToken") = true) ↔
    cycleKey text u = cycleKey text t := by
  obtain ⟨detection, scope, hkey⟩ := identified_key h
  obtain ⟨hdetection, hscope⟩ := Prod.ext_iff.1 hkey
  dsimp only [cycleKey] at hdetection hscope
  rw [sqlEq_iff, sqlEq_iff, hkey, hdetection, hscope]
  unfold cycleKey
  rw [Prod.ext_iff]
  constructor
  · rintro ⟨⟨s, hs, hu⟩, ⟨s', hs', hu'⟩⟩
    exact ⟨hu.trans hs.symm, hu'.trans hs'.symm⟩
  · rintro ⟨hu, hu'⟩
    exact ⟨⟨detection, rfl, hu⟩, ⟨scope, rfl, hu'⟩⟩

/-- The row of the table for a start. -/
def startRow (text : Json → String) (b : HistoryBackend) (q : HistoryQuery)
    (source : MonitoringSource) (start : EdgeV2Transition) : EventRow :=
  ⟨.collection, start.id, start.occurredAt,
    firstEnd text b.store.toStore (linkQuery b q .collection) source start, some start.payload⟩

/-- The rows of cycles in the table of collections. -/
theorem mem_collectionTable (hsource : b.source q = some source) :
    (row ∈ eventTable text b.store.toStore (linkQuery b q .collection) ∧ row.kind = .collection) ↔
      ∃ start ∈ b.store.transitions,
        (recorded text (linkQuery b q .collection) source .collectionDetected start = true ∧
          start.occurredAt ≤ q.linksNow) ∧ startRow text b q source start = row := by
  have htable : eventTable text b.store.toStore (linkQuery b q .collection) =
      collectionRows text b.store.toStore (linkQuery b q .collection) source ++
        manualCollectionRows b.store.toStore (linkQuery b q .collection) := by
    have hlink : (linkQuery b q .collection).source = some source := hsource
    unfold eventTable
    rw [hlink]
    simp [linkQuery]
  have hcycle : ∀ start, (linkQuery b q .collection).inCycle text start
      (firstEnd text b.store.toStore (linkQuery b q .collection) source start) = true ↔
        start.occurredAt ≤ q.linksNow := by
    intro start
    simp [EventQuery.inCycle, linkQuery]
  rw [htable, List.mem_append, mem_cycles]
  simp only [hcycle]
  constructor
  · rintro ⟨⟨start, hstart, hcond, rfl⟩ | hmanual, hkind⟩
    · exact ⟨start, hstart, hcond, rfl⟩
    · obtain ⟨log, -, -, rfl⟩ := mem_manualCollectionRows.1 hmanual
      cases hkind
  · rintro ⟨start, hstart, hcond, rfl⟩
    exact ⟨.inl ⟨start, hstart, hcond, rfl⟩, rfl⟩

theorem mem_cyclesOf (hsource : b.source q = some source)
    (hidentified : identified text q source t = true) : row ∈ cyclesOf text b q t ↔
      ∃ start, StartOf text b q source t start ∧ startRow text b q source start = row := by
  unfold cyclesOf
  rw [List.mem_filter, decide_eq_true_eq]
  constructor
  · rintro ⟨hrow, hkind, hended, hkeys⟩
    obtain ⟨start, hstart, ⟨hstarted, hnow⟩, rfl⟩ :=
      (mem_collectionTable hsource).1 ⟨hrow, hkind⟩
    exact ⟨start, ⟨hstart, hstarted, hnow,
      (sqlEq_key hidentified start).1 (of_decide_eq_true hkeys), hended⟩, rfl⟩
  · rintro ⟨start, hstart, rfl⟩
    obtain ⟨hrow, hkind⟩ := (mem_collectionTable hsource).2
      ⟨start, hstart.mem, ⟨hstart.started, hstart.by_now⟩, rfl⟩
    exact ⟨hrow, hkind, hstart.first,
      decide_eq_true ((sqlEq_key hidentified start).2 hstart.same_key)⟩

/-- A list without repetitions has one entry if it has one and no other. -/
theorem eq_singleton_iff {α : Type*} {l : List α} {a : α} (h : l.Nodup) :
    l = [a] ↔ a ∈ l ∧ ∀ b ∈ l, b = a := by
  constructor
  · rintro rfl
    exact ⟨List.mem_singleton_self a, fun b hb => List.mem_singleton.1 hb⟩
  · rintro ⟨ha, hall⟩
    refine List.perm_singleton.1 ((List.perm_ext_iff_of_nodup h (List.nodup_singleton a)).2 ?_)
    intro c
    rw [List.mem_singleton]
    exact ⟨hall c, fun hc => hc ▸ ha⟩

/-- An end has a link if one cycle ended with it, and no other. -/
theorem endLink_eq (hsource : b.source q = some source)
    (hidentified : identified text q source t = true) :
    endLink text b q t = some (id, target) ↔ id = numbered endedTag t.id ∧
      ∃ start, StartOf text b q source t start ∧ target = eventId .collection start.id ∧
        ∀ start', StartOf text b q source t start' → start' = start := by
  have hnodup : (cyclesOf text b q t).Nodup :=
    (List.Nodup.of_map _ (nodup_eventIds text b.store.toStore (linkQuery b q .collection))).sublist
      List.filter_sublist
  have hone : endLink text b q t = some (id, target) ↔
      ∃ row, cyclesOf text b q t = [row] ∧ numbered endedTag t.id = id ∧ row.eventId = target := by
    unfold endLink
    cases hcycles : cyclesOf text b q t with
    | nil => simp
    | cons row rows =>
      cases rows with
      | nil => simp
      | cons row' rows => simp
  rw [hone]
  constructor
  · rintro ⟨row, hrow, rfl, rfl⟩
    obtain ⟨hmem, honly⟩ := (eq_singleton_iff hnodup).1 hrow
    obtain ⟨start, hstart, rfl⟩ := (mem_cyclesOf hsource hidentified).1 hmem
    refine ⟨rfl, start, hstart, rfl, fun start' hstart' => ?_⟩
    have hrow' := honly _ ((mem_cyclesOf hsource hidentified).2 ⟨start', hstart', rfl⟩)
    exact List.inj_on_of_nodup_map b.store.transitions_nodup hstart'.mem hstart.mem
      (congrArg EventRow.number hrow')
  · rintro ⟨rfl, start, hstart, rfl, honly⟩
    refine ⟨startRow text b q source start, (eq_singleton_iff hnodup).2
      ⟨(mem_cyclesOf hsource hidentified).2 ⟨start, hstart, rfl⟩, fun row hrow => ?_⟩, rfl, rfl⟩
    obtain ⟨start', hstart', rfl⟩ := (mem_cyclesOf hsource hidentified).1 hrow
    rw [honly start' hstart']

/-! ## The links of a page -/

theorem mem_ordinaryLinks : (id, target) ∈ ordinaryLinks text b q events ↔
    ∃ event ∈ events, event.collectionSource ≠ some .heightSettled ∧ event.id = id ∧
      (∃ row ∈ eventTable text b.store.toStore (linkQuery b q .all), row.eventId = id) ∧
        target = id := by
  unfold ordinaryLinks
  simp only [List.mem_map, List.mem_filter, decide_eq_true_eq, Prod.mk.injEq]
  constructor
  · rintro ⟨id', ⟨hrow, event, ⟨hevent, hsource⟩, hid⟩, rfl, rfl⟩
    exact ⟨event, hevent, hsource, hid, hrow, rfl⟩
  · rintro ⟨event, hevent, hsource, hid, hrow, rfl⟩
    exact ⟨target, ⟨hrow, event, ⟨hevent, hsource⟩, hid⟩, rfl, rfl⟩

theorem mem_endLinks : (id, target) ∈ endLinks text b q events ↔
    ∃ event ∈ events, ∃ source t start, event.collectionSource = some .heightSettled ∧
      event.id = numbered endedTag t.id ∧ b.source q = some source ∧ t ∈ b.store.transitions ∧
      identified text q source t = true ∧ duplicateEnd text b q t = false ∧
      StartOf text b q source t start ∧
      (∀ start', StartOf text b q source t start' → start' = start) ∧
      id = event.id ∧ target = eventId .collection start.id := by
  unfold endLinks
  cases hsource : b.source q with
  | none => simp
  | some source =>
    dsimp only
    simp only [List.mem_filterMap, List.mem_filter, List.mem_map, decide_eq_true_eq]
    constructor
    · rintro ⟨t, ⟨ht, hidentified, halone, event, ⟨hevent, hended⟩, hid⟩, hlink⟩
      obtain ⟨rfl, start, hstart, rfl, honly⟩ := (endLink_eq hsource hidentified).1 hlink
      exact ⟨event, hevent, source, t, start, hended, hid, rfl, ht, hidentified, halone, hstart,
        honly, hid.symm, rfl⟩
    · rintro ⟨event, hevent, source', t, start, hended, hid, hsource', ht, hidentified, halone,
        hstart, honly, rfl, rfl⟩
      obtain rfl := Option.some.inj hsource'
      exact ⟨t, ⟨ht, hidentified, halone, event, ⟨hevent, hended⟩, hid⟩,
        (endLink_eq hsource hidentified).2 ⟨hid, start, hstart, rfl, honly⟩⟩

/-- **The links of a page** are those of its events. -/
theorem mem_recordingEventLinks : (id, target) ∈ recordingEventLinks text b q events ↔
    Linkable b q ∧ ∃ event ∈ events, event.id = id ∧ LinksTo text b q event target := by
  unfold recordingEventLinks
  by_cases hnone : events = [] ∨
      (¬b.settings.dailyServiceConfigured ∧ ¬b.settings.serviceConfigured) ∨
      q.pit ≠ b.settings.mediaPitId
  · rw [if_pos hnone]
    refine iff_of_false List.not_mem_nil ?_
    rintro ⟨⟨hconfigured, hpit⟩, event, hevent, -⟩
    rcases hnone with rfl | ⟨hdaily, hservice⟩ | hother
    · exact absurd hevent List.not_mem_nil
    · exact hconfigured.elim hdaily hservice
    · exact hother hpit
  · rw [if_neg hnone, List.mem_append, mem_ordinaryLinks, mem_endLinks]
    have hlinkable : Linkable b q := by
      obtain ⟨-, hconfigured, hpit⟩ := not_or.1 hnone |>.imp_right not_or.1
      refine ⟨?_, not_not.1 hpit⟩
      by_contra hneither
      exact hconfigured (not_or.1 hneither)
    rw [and_iff_right hlinkable]
    constructor
    · rintro (⟨event, hevent, hsource, hid, ⟨row, hrow, hrowid⟩, rfl⟩ |
        ⟨event, hevent, source, t, start, hended, hid, hsource, ht, hidentified, halone, hstart,
          honly, rfl, rfl⟩)
      · exact ⟨event, hevent, hid, hid ▸ .itself row hsource hrow (hrowid.trans hid.symm)⟩
      · exact ⟨event, hevent, rfl, .cycle source t start hended hid hsource ht hidentified halone
          hstart honly⟩
    · rintro ⟨event, hevent, rfl, hlinks⟩
      cases hlinks with
      | itself row hsource hrow hid =>
        exact .inl ⟨event, hevent, hsource, rfl, ⟨row, hrow, hid⟩, rfl⟩
      | cycle source t start hended hid hsource ht hidentified halone hstart honly =>
        exact .inr ⟨event, hevent, source, t, start, hended, hid, hsource, ht, hidentified, halone,
          hstart, honly, rfl, rfl⟩

/-! ## One link for each event, one event for each link -/

/-- The tags of the events that are not ends of collections. -/
def ordinaryTags : List String := ["evt-col", "evt-alt", "evt-err", changeTag]

/-- Of what kind an event is shows in its tag. -/
theorem tag_of_mem (h : event ∈ sortedEvents text hash shown b q) :
    (event.collectionSource = some .heightSettled ∧ ∃ n, event.id = numbered endedTag n) ∨
    (event.collectionSource ≠ some .heightSettled ∧
      ∃ tag ∈ ordinaryTags, ∃ n, event.id = numbered tag n) := by
  obtain ⟨made, hmade, rfl⟩ := made_of_mem h
  cases hmade with
  | manual log => exact .inr ⟨nofun, "evt-col", by decide, log.id, rfl⟩
  | ended scope t => exact .inl ⟨rfl, t.id, rfl⟩
  | alert alert => exact .inr ⟨nofun, "evt-alt", by decide, alert.id, rfl⟩
  | metric metric => exact .inr ⟨nofun, "evt-err", by decide, metric.id, rfl⟩
  | change t event hevent =>
    unfold changeEvent at hevent
    obtain ⟨error, -, rfl⟩ := Option.map_eq_some_iff.1 hevent
    exact .inr ⟨nofun, changeTag, by decide, t.id, rfl⟩

theorem eq_of_id (h : event ∈ sortedEvents text hash shown b q)
    (h' : event' ∈ sortedEvents text hash shown b q) (hid : event.id = event'.id) :
    event = event' :=
  List.inj_on_of_nodup_map numbered_history.nodup h h' hid

/-- An event leads to one reference at most. -/
theorem LinksTo.unique {target' : String} (h : LinksTo text b q event target)
    (h' : LinksTo text b q event target') : target = target' := by
  cases h with
  | itself row hsource =>
    cases h' with
    | itself => rfl
    | cycle _ _ _ hended => exact absurd hended hsource
  | cycle source t start hended hid hsource ht hidentified halone hstart honly =>
    cases h' with
    | itself _ hother => exact absurd hended hother
    | cycle source' t' start' _ hid' hsource' ht' _ _ hstart' =>
      obtain rfl := Option.some.inj (hsource.symm.trans hsource')
      obtain rfl := List.inj_on_of_nodup_map b.store.transitions_nodup ht ht'
        (numbered_inj (hid.symm.trans hid')).2
      rw [honly start' hstart']

/-- Ends of one detection at one time are one row, or none of them has a link. -/
theorem same_end (ht' : t' ∈ b.store.transitions)
    (hidentified : identified text q source t = true)
    (hidentified' : identified text q source t' = true)
    (halone : duplicateEnd text b q t = false) (hkey : cycleKey text t' = cycleKey text t)
    (htime : t'.occurredAt = t.occurredAt) : t'.id = t.id := by
  by_contra hne
  obtain ⟨hof, -⟩ := of_decide_eq_true hidentified
  obtain ⟨hof', hkind', hpit', -⟩ := of_decide_eq_true hidentified'
  obtain ⟨hsite, hedge⟩ := of_decide_eq_true hof
  obtain ⟨hsite', hedge'⟩ := of_decide_eq_true hof'
  obtain ⟨hdetection, hscope⟩ := (sqlEq_key hidentified' t).2 hkey.symm
  have hduplicate : duplicateEnd text b q t = true :=
    List.any_eq_true.2 ⟨t', ht', decide_eq_true ⟨hne, hsite'.trans hsite.symm,
      hedge'.trans hedge.symm, hkind', htime, hpit', hdetection, hscope⟩⟩
  rw [halone] at hduplicate
  cases hduplicate

/-- **No two events of the history lead to the same reference.** -/
theorem LinksTo.injective (hevent : event ∈ sortedEvents text hash shown b q)
    (hevent' : event' ∈ sortedEvents text hash shown b q) (h : LinksTo text b q event target)
    (h' : LinksTo text b q event' target) : event = event' := by
  -- an event that is no end of a collection does not have the identifier of a start
  have hstartId : ∀ {event : Event} {n : ℕ}, event ∈ sortedEvents text hash shown b q →
      event.collectionSource ≠ some .heightSettled → event.id ≠ eventId .collection n := by
    intro event n hevent hsource hid
    rcases tag_of_mem hevent with ⟨hended, -⟩ | ⟨-, tag, htag, m, hm⟩
    · exact hsource hended
    · have htags : ∀ tag ∈ ordinaryTags, tag ≠ EventKind.collection.idPrefix := by decide
      exact htags tag htag (numbered_inj (hm.symm.trans hid)).1
  generalize htarget : target = target' at h'
  cases h with
  | itself row hsource hrow hid =>
    cases h' with
    | itself row' => exact eq_of_id hevent hevent' htarget
    | cycle => exact absurd htarget (hstartId hevent hsource)
  | cycle source t start hended hid hsource ht hidentified halone hstart honly =>
    cases h' with
    | itself _ hsource' => exact absurd htarget.symm (hstartId hevent' hsource')
    | cycle source' t' start' hended' hid' hsource' ht' hidentified' halone' hstart' =>
      obtain rfl := Option.some.inj (hsource.symm.trans hsource')
      obtain rfl := List.inj_on_of_nodup_map b.store.transitions_nodup hstart.mem hstart'.mem
        (eventId_inj htarget).2
      have htime := Option.some.inj (hstart'.first.symm.trans hstart.first)
      have hkey := hstart'.same_key.symm.trans hstart.same_key
      have hnumber := same_end ht' hidentified hidentified' halone hkey htime
      refine eq_of_id hevent hevent' ?_
      rw [hid, hid', hnumber]

/-- The links of a page by their events: no event has two. -/
theorem lookup_links (hevents : ∀ event ∈ events, event ∈ sortedEvents text hash shown b q)
    (hevent : event ∈ events) :
    (recordingEventLinks text b q events).lookup event.id = some target ↔
      Linkable b q ∧ LinksTo text b q event target := by
  have hmem : ∀ {target}, (event.id, target) ∈ recordingEventLinks text b q events ↔
      Linkable b q ∧ LinksTo text b q event target := by
    intro target
    rw [mem_recordingEventLinks]
    refine and_congr_right fun _ => ⟨?_, fun h => ⟨event, hevent, rfl, h⟩⟩
    rintro ⟨event', hevent', hid, hlinks⟩
    rwa [eq_of_id (hevents event' hevent') (hevents event hevent) hid] at hlinks
  constructor
  · exact fun h => hmem.1 (mem_of_lookup h)
  · rintro ⟨hlinkable, hlinks⟩
    obtain ⟨found, hfound⟩ := exists_lookup (List.mem_map_of_mem (f := Prod.fst)
      (hmem.2 ⟨hlinkable, hlinks⟩))
    have hsame := hlinks.unique (hmem.1 (mem_of_lookup hfound)).2
    rw [hfound, hsame]

/-! ## The theorem -/

theorem item_of_mem {page pageSize : ℕ}
    (h : item ∈ (listEvents text hash shown b q page pageSize).items) :
    ∃ event ∈ sortedEvents text hash shown b q, item.id = event.id ∧
      item.collectionSource = event.collectionSource ∧ item.occurredAt = event.occurredAt ∧
      ∀ target, item.recordingEventId = some target ↔
        Linkable b q ∧ LinksTo text b q event target := by
  unfold listEvents at h
  obtain ⟨event, hevent, rfl⟩ := List.mem_map.1 h
  have hevents : ∀ event ∈ ((sortedEvents text hash shown b q).drop ((page - 1) * pageSize)).take
      pageSize, event ∈ sortedEvents text hash shown b q := fun event hevent =>
    List.mem_of_mem_drop (List.mem_of_mem_take hevent)
  exact ⟨event, hevents event hevent, rfl, rfl, rfl, fun target => lookup_links hevents hevent⟩

/-- A link does not change where its event leads. -/
theorem LinksTo.congr (hid : item.id = event.id)
    (hsource : item.collectionSource = event.collectionSource) :
    LinksTo text b q item target ↔ LinksTo text b q event target := by
  constructor
  · intro h
    cases h with
    | itself row hother hrow hrowid =>
      rw [hid] at hrowid ⊢
      exact .itself row (hsource ▸ hother) hrow hrowid
    | cycle source t start hended hitem hsource' ht hidentified halone hstart honly =>
      exact .cycle source t start (hsource ▸ hended) (hid.symm.trans hitem) hsource' ht hidentified
        halone hstart honly
  · intro h
    cases h with
    | itself row hother hrow hrowid =>
      rw [← hid] at hrowid ⊢
      exact .itself row (hsource.symm ▸ hother) hrow hrowid
    | cycle source t start hended hitem hsource' ht hidentified halone hstart honly =>
      exact .cycle source t start (hsource.symm ▸ hended) (hid.trans hitem) hsource' ht hidentified
        halone hstart honly

/-- What is no end of a collection is a point event. -/
theorem point_of_mem (hevent : event ∈ sortedEvents text hash shown b q)
    (hsource : event.collectionSource ≠ some .heightSettled) :
    ∃ kind n, PointEvent text b.store.toStore (linkQuery b q .all) kind n event.occurredAt ∧
      event.id = eventId kind n := by
  have htold : IsTold text hash b q event.id event.occurredAt :=
    mem_sortedEvents.1 (List.mem_map_of_mem hevent)
  rcases htold with ⟨kind, n, htold, hid⟩ | ⟨source, t, -, hid, -⟩
  · exact ⟨kind, n, htold.event, hid⟩
  · rcases tag_of_mem hevent with ⟨hended, -⟩ | ⟨-, tag, htag, m, hm⟩
    · exact absurd hended hsource
    · have htags : ∀ tag ∈ ordinaryTags, tag ≠ endedTag := by decide
      exact absurd (numbered_inj (hm.symm.trans hid)).1 (htags tag htag)

/-- **Links lead where they should.** On every page of the history an event has a link exactly if
recordings are kept of the pit and the event leads somewhere, and then it has that link: an end of a
collection leads to the start of the one cycle that ended with it, another event to itself. No two
events, of whatever pages, have one link; and what is no end of a collection has its link by the
time of its event. -/
theorem recordingLinks_exact (text hash : Json → String) (shown : Option Json → String)
    (b : HistoryBackend) (q : HistoryQuery) (hstates : ∀ value, text value ∉ deviceStates) :
    (∀ page pageSize, ∀ item ∈ (listEvents text hash shown b q page pageSize).items, ∀ target,
      item.recordingEventId = some target ↔ Linkable b q ∧ LinksTo text b q item target) ∧
    (∀ page pageSize, ∀ item ∈ (listEvents text hash shown b q page pageSize).items,
      ∀ page' pageSize', ∀ item' ∈ (listEvents text hash shown b q page' pageSize').items,
      ∀ target, item.recordingEventId = some target → item'.recordingEventId = some target →
        item.id = item'.id) ∧
    (Linkable b q → ∀ page pageSize,
      ∀ item ∈ (listEvents text hash shown b q page pageSize).items,
      item.collectionSource ≠ some .heightSettled → item.occurredAt ≤ q.linksNow →
        item.recordingEventId = some item.id) := by
  refine ⟨fun page pageSize item hitem target => ?_, ?_, ?_⟩
  · obtain ⟨event, -, hid, hsource, -, hlink⟩ := item_of_mem hitem
    rw [hlink, LinksTo.congr hid hsource]
  · intro page pageSize item hitem page' pageSize' item' hitem' target htarget htarget'
    obtain ⟨event, hevent, hid, -, -, hlink⟩ := item_of_mem hitem
    obtain ⟨event', hevent', hid', -, -, hlink'⟩ := item_of_mem hitem'
    rw [hid, hid', ((hlink target).1 htarget).2.injective hevent hevent'
      ((hlink' target).1 htarget').2]
  · intro hlinkable page pageSize item hitem hother hnow
    obtain ⟨event, hevent, hid, hsource, htime, hlink⟩ := item_of_mem hitem
    rw [hsource] at hother
    obtain ⟨kind, n, hpoint, hpointId⟩ := point_of_mem hevent hother
    have hcontext : (linkQuery b q .all).inContext event.occurredAt = true := by
      rw [htime] at hnow
      simpa [EventQuery.inContext, linkQuery] using hnow
    obtain ⟨row, hrow, hkind, hnumber, -⟩ := exists_row_of_pointEvent hstates rfl hpoint hcontext
    have hrowId : row.eventId = event.id := by
      rw [hpointId, EventRow.eventId, hkind, hnumber]
    rw [hlink, hid]
    exact ⟨hlinkable, .itself row hother hrow hrowId⟩

/-- The end leads to its start, the confirmation to itself. -/
theorem recordingLinks_exact_sample :
    (sampleHistoryPage 1).items.map Event.recordingEventId = [some "evt-auto-col-start-1"] ∧
    (sampleHistoryPage 2).items.map Event.recordingEventId = [some "evt-col-1"] ∧
    ∀ page, ∀ item ∈ (sampleHistoryPage page).items, ∀ target,
      item.recordingEventId = some target ↔ Linkable sampleHistoryBackend sampleHistoryQuery ∧
        LinksTo (fun _ => "") sampleHistoryBackend sampleHistoryQuery item target := by
  have hexact := recordingLinks_exact (fun _ => "") (fun _ => "") (fun _ => "")
    sampleHistoryBackend sampleHistoryQuery fun _ => by decide
  exact ⟨by decide +kernel, by decide +kernel, fun page => hexact.1 page 1⟩

end ScrapMonitoring.Events
