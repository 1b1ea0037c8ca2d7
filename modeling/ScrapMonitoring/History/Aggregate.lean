import ScrapMonitoring.History.Summary
import Mathlib.Data.String.Basic
import ScrapMonitoring.Foundations.Dict

/-!
# The reader that aggregates in SQL

`compactSamples` leaves the whole minutes of a range to the database: `compactAggregateQuery` groups
their slots by bucket and returns for each bucket the aggregates and, by a join with the newest
minute, the newest slot. The slots of the minutes that the ends of the range cut are added one by
one. The groups represent the slots of the range, so the points are those of the reader of the
original rows (`compact_samples_eq`).
-/

namespace ScrapMonitoring.History

/-! ## The query -/

/-- A row of the selected minutes joined with `json_each` of its values. -/
structure SlotRow where
  minute : EdgeV2Minute
  key : ℤ
  value : Option ℚ

namespace SlotRow

def bucket (interval : ℤ) (row : SlotRow) : ℤ := bucketOf interval row.minute.bucketStart

def method (row : SlotRow) : Option String := row.minute.payload.slotMethod row.key

/-- `coalesce(slot_source, 'EDGE_STATE')`. -/
def inputSource (row : SlotRow) : String := row.minute.payload.slotSource row.key

def valid (row : SlotRow) : Bool := row.value.isSome

/-- `substr(method, 1, length(prefix)) = prefix`. -/
def simulated (row : SlotRow) : Bool :=
  row.method.any fun m => simulationPrefixes.any fun p => m.toList.take p.toList.length = p.toList

end SlotRow

/-- The row of a bucket that the query returns. -/
structure Aggregate where
  bucket : ℤ
  total : Option ℚ
  count : ℕ
  invalid : ℕ
  minimum : Option ℚ
  maximum : Option ℚ
  sourceCount : ℕ
  source : Option String
  methodCount : ℕ
  method : Option String
  simulated : Bool
  stamp : ℤ
  value : Option ℚ
  lastSource : Option String
  lastMethod : Option String
  metadata : Option Retained
  fallback : Retained

/-- The aggregates of the rows of a bucket, joined with the minute that began last. -/
def aggregate (minutes : List EdgeV2Minute) (bucket : ℤ) (rows : List SlotRow) :
    Option Aggregate :=
  let values := rows.filterMap SlotRow.value
  let sources := (rows.filter SlotRow.valid).map SlotRow.inputSource
  let methods := (rows.filter SlotRow.valid).filterMap SlotRow.method
  (rows.map SlotRow.key).max?.bind fun stamp =>
    (rows.map fun row => row.minute.bucketStart).max?.bind fun lastMinute =>
      (minutes.find? fun minute => minute.bucketStart = lastMinute).map fun minute =>
        { bucket := bucket
          total := if values = [] then none else some values.sum
          count := values.length
          invalid := rows.length - values.length
          minimum := values.min?
          maximum := values.max?
          sourceCount := sources.toFinset.card
          source := sources.min?
          methodCount := methods.toFinset.card
          method := methods.min?
          simulated := rows.any SlotRow.simulated
          stamp := stamp
          value := (minute.payload.values.lookup stamp).join
          lastSource := minute.payload.sources.lookup stamp
          lastMethod := (minute.payload.methods.lookup stamp).join
          metadata := minute.payload.metadata.lookup stamp
          fallback := minute.payload.last }

/-- One row for every bucket of the minutes of `[start, stop)`. -/
def compactAggregateQuery (store : EdgeV2Minutes) (source : MonitoringSource)
    (start stop interval : ℤ) : List Aggregate :=
  let minutes := store.ofSource source
  let rows := (minutes.filter fun minute => start ≤ minute.bucketStart ∧ minute.bucketStart < stop)
    |>.flatMap fun minute => minute.payload.values.map fun v => SlotRow.mk minute v.1 v.2
  ((rows.map (SlotRow.bucket interval)).toFinset.sort (· ≤ ·)).filterMap fun bucket =>
    aggregate minutes bucket (rows.filter fun row => row.bucket interval = bucket)

/-! ## The reader -/

/-- The group of a row of the query. -/
def Aggregate.group (summary : Aggregate) : Group :=
  let precise := summary.metadata.filter fun metadata =>
    metadata.generatedAt.tdiv 1000000 = summary.stamp
  { total := summary.total.getD 0
    count := summary.count
    invalid := summary.invalid
    minimum := summary.minimum
    maximum := summary.maximum
    sources := (summary.source.map fun source => {source}).getD ∅
    methods := (summary.method.map fun method => {method}).getD ∅
    mixed := decide (1 < summary.sourceCount) || decide (1 < summary.methodCount)
    simulated := summary.simulated
    lastSlot := some
      { lastTime := (precise.map Retained.generatedAt).getD (seconds summary.stamp)
        value := summary.value
        last := (precise.getD summary.fallback).fields
        lastSource := .str ((summary.lastSource.filter fun source => source ≠ "").getD "EDGE_STATE")
        lastMethod := (summary.lastMethod.map Json.str).getD .null } }

/-- A slot of a minute that an end of the range cuts; all sources and methods are kept. -/
def Group.addBoundarySlot (group : Group) (stamp : ℤ) (value : Option ℚ)
    (payload : MinutePayload) : Group :=
  let method := payload.slotMethod stamp
  let group := { group with simulated := group.simulated || isSimulation method }
  let group :=
    match value with
    | some q =>
      { group with
        total := group.total + q
        count := group.count + 1
        minimum := group.minimum.merge min (some q)
        maximum := group.maximum.merge max (some q)
        sources := insert (payload.slotSource stamp) group.sources
        methods := (method.map fun m => insert m group.methods).getD group.methods }
    | none => { group with invalid := group.invalid + 1 }
  group.last stamp value payload

/-- The minutes that the ends of a range cut. -/
def boundaries (start stop : ℤ) : List ℤ :=
  (if start ≠ floorMinute start then [floorMinute start] else []) ++
    (if stop ≠ floorMinute stop then [floorMinute stop] else [])

/-- The first minute that begins in a range. -/
def wholeStart (start : ℤ) : ℤ :=
  if start ≠ floorMinute start then floorMinute start + seconds 60 else start

/-- The groups of a range: those of the query, with the slots of the minutes that the ends of the
range cut. -/
def sqlGroups (store : EdgeV2Minutes) (source : MonitoringSource) (start stop interval : ℤ) :
    Groups :=
  let query := compactAggregateQuery store source (wholeStart start) (floorMinute stop) interval
  let grouped : Groups := query.foldl
    (fun grouped summary => Function.update grouped summary.bucket (some summary.group))
    fun _ => none
  let rows := ((store.ofSource source).filter fun minute =>
    minute.bucketStart ∈ boundaries start stop).insertionSort
      fun a b => a.bucketStart ≤ b.bucketStart
  rows.foldl (fun grouped row =>
    row.payload.values.foldl (fun grouped v =>
      let time := (slotTime v.1 row.payload.metadata).1
      if start ≤ time ∧ time < stop then
        grouped.modify (bucketOf interval time) fun group =>
          group.addBoundarySlot v.1 v.2 row.payload
      else grouped) grouped) grouped

/-- The points of a range. -/
def compactSamples (store : EdgeV2Minutes) (source : MonitoringSource)
    (start stop interval : ℤ) : ℤ → Option (Option (ℤ × HistorySample)) :=
  compactResult (sqlGroups store source start stop interval) start stop

/-! ## What a row of the query says -/

/-- The slot of a joined row. -/
def SlotRow.slot (row : SlotRow) : Slot := row.minute.payload.slot (row.key, row.value)

theorem simulated_eq (row : SlotRow) : row.simulated = isSimulation row.slot.method := by
  simp only [SlotRow.simulated, isSimulation, SlotRow.slot, MinutePayload.slot, SlotRow.method]
  congr 1
  funext m
  congr 1
  funext p
  rw [Bool.eq_iff_iff, decide_eq_true_eq, List.isPrefixOf_iff_prefix, List.prefix_iff_eq_take,
    eq_comm]

theorem validValues_map (rows : List SlotRow) :
    validValues (rows.map SlotRow.slot) = rows.filterMap SlotRow.value := by
  rw [validValues, List.filterMap_map]
  rfl

theorem inputSources_map (rows : List SlotRow) :
    inputSources (rows.map SlotRow.slot) = (rows.filter SlotRow.valid).map SlotRow.inputSource := by
  rw [inputSources, List.filter_map, List.map_map]
  rfl

theorem methodVersions_map (rows : List SlotRow) :
    methodVersions (rows.map SlotRow.slot) =
      (rows.filter SlotRow.valid).filterMap SlotRow.method := by
  rw [methodVersions, List.filter_map, List.filterMap_map]
  rfl

/-- The least of the values, and whether they are several. -/
theorem sketch_min (l : List String) {more : Prop} (h : 1 < l.toFinset.card → more) :
    Sketch ((l.min?.map fun a => {a}).getD ∅) l.toFinset more := by
  cases hmin : l.min? with
  | none =>
    rw [List.min?_eq_none_iff.1 hmin]
    exact Sketch.refl _ _
  | some a =>
    have ha : a ∈ l := List.min?_mem hmin
    exact ⟨by simpa using ha, fun _ => Finset.singleton_nonempty a, fun hcard => Or.inl (h hcard)⟩

theorem floorMinute_mono {a b : ℤ} (h : a ≤ b) : floorMinute a ≤ floorMinute b := by
  simp only [floorMinute, seconds]
  omega

/-- The minute and the stamp of the newest slot are the greatest. -/
theorem max_of_lastMax {rows : List SlotRow} {row : SlotRow}
    (hwritten : ∀ row ∈ rows, Located row.minute ∧
      (row.key, row.value) ∈ row.minute.payload.values)
    (hrow : row ∈ rows) (hnewest : ∀ r ∈ rows, r.slot.time ≤ row.slot.time) :
    (rows.map SlotRow.key).max? = some row.key ∧
      (rows.map fun row => row.minute.bucketStart).max? = some row.minute.bucketStart := by
  constructor
  · refine List.max?_eq_some_iff.2 ⟨List.mem_map_of_mem hrow, fun key hkey => ?_⟩
    obtain ⟨r, hr, rfl⟩ := List.mem_map.1 hkey
    have hmono := tdiv_mono (hnewest r hr)
    rwa [SlotRow.slot, SlotRow.slot, slot_stamp, slot_stamp] at hmono
  · refine List.max?_eq_some_iff.2 ⟨List.mem_map_of_mem hrow, fun minute hminute => ?_⟩
    obtain ⟨r, hr, rfl⟩ := List.mem_map.1 hminute
    have hmono := floorMinute_mono (hnewest r hr)
    rwa [SlotRow.slot, SlotRow.slot, (hwritten r hr).1.floorMinute_slot (hwritten r hr).2,
      (hwritten row hrow).1.floorMinute_slot (hwritten row hrow).2] at hmono

/-- The newest slot, from the columns that are joined. -/
theorem joined_lastSlot {minute : EdgeV2Minute} (h : Located minute) {stamp : ℤ} {value : Option ℚ}
    (hv : (stamp, value) ∈ minute.payload.values) {summary : Aggregate}
    (hstamp : summary.stamp = stamp)
    (hvalue : summary.value = (minute.payload.values.lookup stamp).join)
    (hsource : summary.lastSource = minute.payload.sources.lookup stamp)
    (hmethod : summary.lastMethod = (minute.payload.methods.lookup stamp).join)
    (hmetadata : summary.metadata = minute.payload.metadata.lookup stamp)
    (hfallback : summary.fallback = minute.payload.last) :
    summary.group.lastSlot = some (minute.payload.slot (stamp, value)).lastSlot := by
  have hsource' : (summary.lastSource.filter fun source => source ≠ "").getD "EDGE_STATE" =
      minute.payload.slotSource stamp := by
    rw [hsource, MinutePayload.slotSource]
    cases hlookup : minute.payload.sources.lookup stamp with
    | none => rfl
    | some source =>
      have hne : source ≠ "" := h.sources _ (mem_of_lookup hlookup)
      rw [Option.filter_some_pos (by simpa using hne)]
  have hvalue' : summary.value = value := by
    rw [hvalue, lookup_of_mem h.stamps hv]
    rfl
  simp only [Aggregate.group, hsource', hvalue', hmethod, hmetadata, hfallback, hstamp,
    Slot.lastSlot, MinutePayload.slot, MinutePayload.slotMethod, slotTime]
  cases hr : minute.payload.metadata.lookup stamp with
  | none => simp
  | some r =>
    by_cases hsecond : r.generatedAt.tdiv 1000000 = stamp <;> simp [Option.filter, hsecond]

/-- **The row of a bucket represents the slots of the bucket.** -/
theorem aggregate_represents {store : EdgeV2Minutes} {source : MonitoringSource} (bucket : ℤ)
    {rows : List SlotRow} (hne : rows ≠ [])
    (hrows : ∀ row ∈ rows, row.minute ∈ store.ofSource source ∧
      (row.key, row.value) ∈ row.minute.payload.values)
    (hwritten : ∀ row ∈ store.rows, Located row) :
    ∃ summary, aggregate (store.ofSource source) bucket rows = some summary ∧
      summary.bucket = bucket ∧ Represents summary.group (rows.map SlotRow.slot) := by
  have hwritten' : ∀ row ∈ rows, Located row.minute ∧
      (row.key, row.value) ∈ row.minute.payload.values := fun row hrow =>
    ⟨hwritten _ (List.mem_filter.1 (hrows row hrow).1).1, (hrows row hrow).2⟩
  cases hlast : lastMax Slot.time (rows.map SlotRow.slot) with
  | none => exact absurd (lastMax_eq_none.1 hlast) (by simpa using hne)
  | some slot =>
    obtain ⟨row, hrow, rfl⟩ := List.mem_map.1 (lastMax_mem hlast)
    obtain ⟨hstamp, hminute⟩ := max_of_lastMax hwritten' hrow fun r hr =>
      le_lastMax hlast (List.mem_map_of_mem hr)
    have hfind := find_bucketStart (fun _ h => h) (hrows row hrow).1
    refine ⟨_, by rw [aggregate, hstamp, Option.bind_some, hminute, Option.bind_some, hfind,
      Option.map_some], rfl, ?_⟩
    refine ⟨?_, ?_, ?_, ?_, ?_, ?_, ?_, ?_, ?_, ?_⟩
    · simp only [Aggregate.group, tally, validValues_map]
      split_ifs with hempty
      · rw [hempty, Option.getD_none, List.sum_nil]
      · rw [Option.getD_some]
    · simp only [Aggregate.group, tally, validValues_map]
    · rw [invalid_eq, validValues_map, List.length_map]
      rfl
    · simp only [Aggregate.group, tally, validValues_map]
    · simp only [Aggregate.group, tally, validValues_map]
    · simp only [Aggregate.group, tally, inputSources_map]
      exact sketch_min _ fun hcard => by simp [hcard]
    · simp only [Aggregate.group, tally, methodVersions_map]
      exact sketch_min _ fun hcard => by simp [hcard]
    · intro hmixed
      rw [isMixed_iff]
      simp only [Aggregate.group, Bool.or_eq_true, decide_eq_true_eq] at hmixed
      simp only [tally, inputSources_map, methodVersions_map]
      exact Or.inr hmixed
    · simp only [Aggregate.group, tally, List.any_map]
      congr 1
      funext r
      exact simulated_eq r
    · rw [joined_lastSlot (hwritten' row hrow).1 (hwritten' row hrow).2 rfl rfl rfl rfl rfl rfl]
      simp only [tally, hlast, Option.map_some]
      rfl

/-- A dictionary filled with the rows of a list of buckets. -/
theorem foldl_update {agg : ℤ → Option Aggregate}
    (hbucket : ∀ bucket summary, agg bucket = some summary → summary.bucket = bucket)
    (buckets : List ℤ) (groups : Groups) (bucket : ℤ) :
    (buckets.filterMap agg).foldl
        (fun (grouped : Groups) summary =>
          Function.update grouped summary.bucket (some summary.group)) groups bucket =
      if bucket ∈ buckets then ((agg bucket).map Aggregate.group).or (groups bucket)
      else groups bucket := by
  induction buckets generalizing groups with
  | nil => rfl
  | cons b buckets ih =>
    rw [List.filterMap_cons]
    cases hb : agg b with
    | none =>
      simp only [ih]
      by_cases heq : bucket = b
      · subst heq
        simp [hb]
      · simp [heq]
    | some summary =>
      simp only [List.foldl_cons, ih, hbucket b summary hb]
      by_cases heq : bucket = b
      · subst heq
        simp [hb]
      · simp [heq]

/-- The joined rows of some minutes. -/
def slotRows (minutes : List EdgeV2Minute) : List SlotRow :=
  minutes.flatMap fun minute => minute.payload.values.map fun v => SlotRow.mk minute v.1 v.2

/-- The joined rows of a bucket are the slots of the bucket. -/
theorem slotRows_inBucket {minutes : List EdgeV2Minute} (hwritten : ∀ m ∈ minutes, Located m)
    {interval : ℤ} (hinterval : 60 ∣ interval) (bucket : ℤ) :
    ((slotRows minutes).filter fun row => row.bucket interval = bucket).map SlotRow.slot =
      inBucket interval bucket (minutes.flatMap fun minute => minute.payload.slots) := by
  have hslots : (minutes.flatMap fun minute => minute.payload.slots) =
      (slotRows minutes).map SlotRow.slot := by
    rw [slotRows, List.map_flatMap]
    congr 1
    funext minute
    rw [List.map_map]
    rfl
  rw [inBucket, hslots, List.filter_map]
  congr 1
  refine List.filter_congr fun row hrow => ?_
  obtain ⟨minute, hminute, hrow⟩ := List.mem_flatMap.1 hrow
  obtain ⟨v, hv, rfl⟩ := List.mem_map.1 hrow
  refine decide_eq_decide.2 ?_
  rw [SlotRow.bucket, SlotRow.slot, (hwritten minute hminute).bucketOf_slot hinterval hv]

/-- The groups of the query represent the slots of the selected minutes. -/
theorem query_represents {store : EdgeV2Minutes} {source : MonitoringSource} (start stop : ℤ)
    {interval : ℤ} (hinterval : 60 ∣ interval) (hwritten : ∀ row ∈ store.rows, Located row) :
    Groups.Represents ((compactAggregateQuery store source start stop interval).foldl
        (fun (grouped : Groups) summary =>
          Function.update grouped summary.bucket (some summary.group)) fun _ => none) interval
      (((store.ofSource source).filter fun minute =>
        start ≤ minute.bucketStart ∧ minute.bucketStart < stop).flatMap
          fun minute => minute.payload.slots) := by
  intro bucket
  generalize hminutes : ((store.ofSource source).filter fun minute =>
    start ≤ minute.bucketStart ∧ minute.bucketStart < stop) = minutes
  have hsub : ∀ m ∈ minutes, m ∈ store.ofSource source := by
    intro m hm
    rw [← hminutes] at hm
    exact (List.mem_filter.1 hm).1
  have hw : ∀ m ∈ minutes, Located m := fun m hm =>
    hwritten m (List.mem_filter.1 (hsub m hm)).1
  rw [← slotRows_inBucket hw hinterval bucket]
  simp only [compactAggregateQuery, hminutes]
  rw [show (minutes.flatMap fun minute => minute.payload.values.map
    fun v => SlotRow.mk minute v.1 v.2) = slotRows minutes from rfl]
  have hrows : ∀ b, ∀ row ∈ (slotRows minutes).filter (fun row => row.bucket interval = b),
      row.minute ∈ store.ofSource source ∧ (row.key, row.value) ∈ row.minute.payload.values := by
    intro b row hrow
    obtain ⟨m, hm, hrow⟩ := List.mem_flatMap.1 (List.mem_filter.1 hrow).1
    obtain ⟨v, hv, rfl⟩ := List.mem_map.1 hrow
    exact ⟨hsub m hm, hv⟩
  rw [foldl_update]
  · by_cases hempty : (slotRows minutes).filter (fun row => row.bucket interval = bucket) = []
    · have hnot : ¬ bucket ∈ ((slotRows minutes).map
          (SlotRow.bucket interval)).toFinset.sort (· ≤ ·) := by
        rw [Finset.mem_sort, List.mem_toFinset]
        intro hmem
        obtain ⟨row, hrow, hb⟩ := List.mem_map.1 hmem
        exact List.filter_eq_nil_iff.1 hempty row hrow (decide_eq_true hb)
      rw [if_neg hnot, hempty]
      exact Or.inl ⟨rfl, rfl⟩
    · have hin : bucket ∈ ((slotRows minutes).map
          (SlotRow.bucket interval)).toFinset.sort (· ≤ ·) := by
        rw [Finset.mem_sort, List.mem_toFinset]
        obtain ⟨row, hrow⟩ := List.exists_mem_of_ne_nil _ hempty
        obtain ⟨hrow, hb⟩ := List.mem_filter.1 hrow
        exact List.mem_map.2 ⟨row, hrow, of_decide_eq_true hb⟩
      obtain ⟨summary, hsummary, -, hrep⟩ :=
        aggregate_represents bucket hempty (hrows bucket) hwritten
      rw [if_pos hin, hsummary]
      exact Or.inr ⟨_, rfl, by simpa using hempty, hrep⟩
  · intro b summary hsummary
    simp only [aggregate, Option.bind_eq_some_iff, Option.map_eq_some_iff] at hsummary
    obtain ⟨_, _, _, _, _, _, rfl⟩ := hsummary
    rfl

/-! ## The range -/

theorem addBoundarySlot_eq (group : Group) (v : ℤ × Option ℚ) (payload : MinutePayload) :
    group.addBoundarySlot v.1 v.2 payload =
      group.absorb (tally [payload.slot v])
        (group.sources ∪ (tally [payload.slot v]).sources)
        (group.methods ∪ (tally [payload.slot v]).methods) := by
  cases hvalue : v.2 with
  | none =>
    simp [Group.addBoundarySlot, Group.absorb, Group.stats, Group.last, Group.setLast, tally,
      validValues, inputSources, methodVersions, lastMax, MinutePayload.slot, Slot.lastSlot, hvalue]
  | some q =>
    cases hmethod : payload.slotMethod v.1 <;>
      simp [Group.addBoundarySlot, Group.absorb, Group.stats, Group.last, Group.setLast, tally,
        validValues, inputSources, methodVersions, lastMax, MinutePayload.slot, Slot.lastSlot,
        hvalue, hmethod]

/-- The slots of a whole minute are all in the range. -/
theorem Located.inWindow_whole {row : EdgeV2Minute} (h : Located row) {start stop : ℤ}
    (hrow : wholeStart start ≤ row.bucketStart ∧ row.bucketStart < floorMinute stop) :
    inWindow start stop row.payload.slots = row.payload.slots := by
  refine List.filter_eq_self.2 fun slot hslot => decide_eq_true ?_
  obtain ⟨v, hv, rfl⟩ := List.mem_map.1 hslot
  obtain ⟨hle, hlt⟩ := h.slot_time hv
  have haligned := h.aligned
  obtain ⟨hstart, hstop⟩ := hrow
  simp only [wholeStart, floorMinute, seconds] at *
  split_ifs at hstart <;> omega

theorem mem_boundaries {start stop minute : ℤ} :
    minute ∈ boundaries start stop ↔
      start ≠ floorMinute start ∧ minute = floorMinute start ∨
        stop ≠ floorMinute stop ∧ minute = floorMinute stop := by
  rw [boundaries, List.mem_append]
  split_ifs with h h' <;> simp [*]

/-- No other minute has slots in the range, but those that the ends cut. -/
theorem Located.inWindow_other {row : EdgeV2Minute} (h : Located row) {start stop : ℤ}
    (hwhole : ¬ (wholeStart start ≤ row.bucketStart ∧ row.bucketStart < floorMinute stop))
    (hcut : row.bucketStart ∉ boundaries start stop) :
    inWindow start stop row.payload.slots = [] := by
  refine List.filter_eq_nil_iff.2 fun slot hslot hin => ?_
  obtain ⟨v, hv, rfl⟩ := List.mem_map.1 hslot
  obtain ⟨hle, hlt⟩ := h.slot_time hv
  obtain ⟨hstart, hstop⟩ := of_decide_eq_true hin
  have haligned := h.aligned
  rw [mem_boundaries] at hcut
  simp only [wholeStart, floorMinute, seconds] at *
  split_ifs at hwhole <;> omega

/-- A minute that an end of the range cuts is no whole one. -/
theorem not_whole_of_boundary {start stop minute : ℤ} (h : minute ∈ boundaries start stop) :
    ¬ (wholeStart start ≤ minute ∧ minute < floorMinute stop) := by
  rw [mem_boundaries] at h
  simp only [wholeStart, floorMinute, seconds] at *
  split_ifs <;> omega

/-- Rows without slots in the range do not matter. -/
theorem rangeSlots_filter {rows : List EdgeV2Minute} {start stop : ℤ} {p : EdgeV2Minute → Bool}
    (h : ∀ row ∈ rows, p row = false → inWindow start stop row.payload.slots = []) :
    rangeSlots (rows.filter p) start stop = rangeSlots rows start stop := by
  induction rows with
  | nil => rfl
  | cons row rows ih =>
    have htail := ih fun r hr => h r (List.mem_cons_of_mem _ hr)
    rw [rangeSlots, rangeSlots, List.flatMap_cons, List.filter_cons]
    rw [rangeSlots, rangeSlots] at htail
    cases hp : p row with
    | true => rw [if_pos rfl, List.flatMap_cons, htail]
    | false => rw [if_neg Bool.false_ne_true, h row List.mem_cons_self hp, List.nil_append, htail]

/-- The selected minutes have all slots of the range. -/
theorem rangeSlots_between {store : EdgeV2Minutes} {source : MonitoringSource}
    (hwritten : ∀ row ∈ store.rows, Located row) (start stop : ℤ) :
    rangeSlots (store.between source start stop) start stop =
      rangeSlots (store.ofSource source) start stop := by
  refine rangeSlots_filter fun row hrow hout => ?_
  have h := hwritten row (List.mem_filter.1 hrow).1
  refine List.filter_eq_nil_iff.2 fun slot hslot hin => ?_
  obtain ⟨v, hv, rfl⟩ := List.mem_map.1 hslot
  obtain ⟨hle, hlt⟩ := h.slot_time hv
  obtain ⟨hstart, hstop⟩ := of_decide_eq_true hin
  have haligned := h.aligned
  have hout' := of_decide_eq_false hout
  simp only [floorMinute, seconds] at *
  omega

/-- The slots of the range are those of the whole minutes and those of the minutes that the ends
cut. -/
theorem rangeSlots_split {store : EdgeV2Minutes} {source : MonitoringSource}
    (hwritten : ∀ row ∈ store.rows, Located row) (start stop : ℤ) :
    ((((store.ofSource source).filter fun minute => wholeStart start ≤ minute.bucketStart ∧
          minute.bucketStart < floorMinute stop).flatMap fun minute => minute.payload.slots) ++
        rangeSlots ((store.ofSource source).filter fun minute =>
          minute.bucketStart ∈ boundaries start stop) start stop).Perm
      (rangeSlots (store.between source start stop) start stop) := by
  have hw : ∀ row ∈ store.ofSource source, Located row := fun row hrow =>
    hwritten row (List.mem_filter.1 hrow).1
  rw [rangeSlots_between hwritten]
  have hwhole : ∀ rows : List EdgeV2Minute, (∀ row ∈ rows, Located row) →
      (rows.filter fun minute => wholeStart start ≤ minute.bucketStart ∧
        minute.bucketStart < floorMinute stop).flatMap (fun minute => minute.payload.slots) =
      rangeSlots (rows.filter fun minute => wholeStart start ≤ minute.bucketStart ∧
        minute.bucketStart < floorMinute stop) start stop := by
    intro rows hrows
    refine List.flatMap_congr fun row hrow => ?_
    obtain ⟨hrow, hin⟩ := List.mem_filter.1 hrow
    exact ((hrows row hrow).inWindow_whole (of_decide_eq_true hin)).symm
  have hcut : rangeSlots ((store.ofSource source).filter fun minute =>
        minute.bucketStart ∈ boundaries start stop) start stop =
      rangeSlots ((store.ofSource source).filter fun minute =>
        !decide (wholeStart start ≤ minute.bucketStart ∧
          minute.bucketStart < floorMinute stop)) start stop := by
    have hfilter : ((store.ofSource source).filter fun minute =>
          !decide (wholeStart start ≤ minute.bucketStart ∧
            minute.bucketStart < floorMinute stop)).filter
          (fun minute => minute.bucketStart ∈ boundaries start stop) =
        (store.ofSource source).filter fun minute =>
          minute.bucketStart ∈ boundaries start stop := by
      rw [List.filter_filter]
      refine List.filter_congr fun row _ => ?_
      by_cases hb : row.bucketStart ∈ boundaries start stop
      · simp [hb, not_whole_of_boundary hb]
      · simp [hb]
    rw [← hfilter]
    refine rangeSlots_filter fun row hrow hb => ?_
    obtain ⟨hrow, hnot⟩ := List.mem_filter.1 hrow
    exact (hw row hrow).inWindow_other
      (of_decide_eq_false (by simpa only [Bool.not_eq_true'] using hnot)) (of_decide_eq_false hb)
  rw [hwhole _ hw, hcut, rangeSlots, rangeSlots, ← List.flatMap_append]
  exact rangeSlots_perm (List.filter_append_perm _ _) start stop

theorem sql_represents {store : EdgeV2Minutes} {source : MonitoringSource}
    (hwritten : ∀ row ∈ store.rows, Located row) (start stop : ℤ) {interval : ℤ}
    (hinterval : 60 ∣ interval) :
    (sqlGroups store source start stop interval).Represents interval
      ((((store.ofSource source).filter fun minute => wholeStart start ≤ minute.bucketStart ∧
          minute.bucketStart < floorMinute stop).flatMap fun minute => minute.payload.slots) ++
        rangeSlots (((store.ofSource source).filter fun minute =>
          minute.bucketStart ∈ boundaries start stop).insertionSort
            fun a b => a.bucketStart ≤ b.bucketStart) start stop) := by
  refine foldl_represents _ (fun row _ groups slots h => ?_)
    (query_represents (wholeStart start) (floorMinute stop) hinterval hwritten)
  refine foldl_slots (fun group l v hrep => ?_) row.payload.values h
  rw [addBoundarySlot_eq]
  exact hrep.absorb (represents_tally _) (Adds.union _ _) (Adds.union _ _)

/-- **The points that SQL aggregates are those of the reader of the original rows.** -/
theorem compact_samples_eq {store : EdgeV2Minutes} {source : MonitoringSource}
    {start stop interval : ℤ} (hinterval : 60 ∣ interval)
    (hwritten : ∀ row ∈ store.rows, Written row) {pages : List (List EdgeV2Minute)}
    (hpages : pages.flatten.Perm (store.between source start stop)) :
    compactSamples store source start stop interval =
      compactResult (legacyStreamGroups pages start stop interval) start stop := by
  have hlocated : ∀ row ∈ store.rows, Located row := fun row hrow => (hwritten row hrow).located
  have hsorted := rangeSlots_perm (List.perm_insertionSort (fun a b : EdgeV2Minute =>
    a.bucketStart ≤ b.bucketStart) ((store.ofSource source).filter fun minute =>
      minute.bucketStart ∈ boundaries start stop)) start stop
  rw [compactSamples, (sql_represents hlocated start stop hinterval).result_eq,
    legacy_result_eq hinterval hlocated hpages,
    tallies_range hlocated interval
      ((hsorted.append_left _).trans (rangeSlots_split hlocated start stop))]

/-- A whole minute, and one that the end of the range cuts. -/
theorem compact_samples_eq_demo :
    (compactSamples demoStore ⟨"site-demo", "edge-demo"⟩ 1767225600000000 1767225690000000 300
        5890752).isSome ∧
      compactSamples demoStore ⟨"site-demo", "edge-demo"⟩ 1767225600000000 1767225690000000 300 =
        compactResult (legacyStreamGroups [demoStore.rows] 1767225600000000 1767225690000000 300)
          1767225600000000 1767225690000000 :=
  ⟨by decide +kernel, compact_samples_eq (by decide) demoStore_written (List.Perm.refl _)⟩

end ScrapMonitoring.History
