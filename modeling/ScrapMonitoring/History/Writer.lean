import Mathlib.Data.Int.Interval
import ScrapMonitoring.Filtering.Onset
import ScrapMonitoring.Foundations.Run
import ScrapMonitoring.History.Conservation

/-!
# The writer of the minutes

Every projection of an observation writes a slot of the minute at which it was generated: the
filtered value, its source and method, and what is retained of the observation, under the second.
The statistics and the summary of the row are made anew with each of them. `Consistent` is what a
row is after any such write (`consistent_of_run`), and with it the readers may trust the statistics
and the summary (`minute_rows`).
-/

namespace ScrapMonitoring.History

open Monitoring (FilterPayload InputSource)
open Filtering (Projection projectInput FilterTransition)

/-! ## Inputs -/

/-- A time that a datetime can be. -/
def Representable (t : ℤ) : Prop :=
  1 ≤ (civil (t / dayLength)).year ∧ (civil (t / dayLength)).year ≤ 9999

instance (t : ℤ) : Decidable (Representable t) := inferInstanceAs (Decidable (_ ∧ _))

/-- An observation that `project_input` is given, with its data state. -/
structure MinuteInput where
  projection : Projection
  dataState : String
  representable : Representable projection.observation.generatedAt

def sourceText : InputSource → String
  | .edgeState => "EDGE_STATE"
  | .heightSections => "HEIGHT_SECTIONS"

theorem sourceText_ne (source : InputSource) : sourceText source ≠ "" := by
  cases source <;> decide

/-- The members of a sample that are retained under its second. -/
def retainedMembers : List String :=
  ["generatedAt", "observedAt", "assessmentId", "observationId", "dataState", "reasonCodes"]

def optionalText (text : Option String) : Json := (text.map Json.str).getD .null

namespace MinuteInput

variable (i : MinuteInput) (window : Filtering.Window)

def device : String × String := (i.projection.observation.siteId, i.projection.observation.edgeId)

def generatedAt : ℤ := i.projection.observation.generatedAt

/-- `int(generated_at.timestamp())`. -/
def second : ℤ := i.generatedAt.tdiv 1000000

def bucket : ℤ := floorMinute i.generatedAt

def key : String × String × ℤ :=
  (i.projection.observation.siteId, i.projection.observation.edgeId, i.bucket)

/-- The reasons, with that of a value that is not there. -/
def reason : List String :=
  if window.value.isSome then i.projection.observation.reasonCodes
  else
    (i.projection.observation.reasonCodes ++
      [if window.valid then "FILTER_WARMING" else "FILTER_INPUT_UNAVAILABLE"]).eraseDups

def sample : Fields :=
  let observation := i.projection.observation
  [("generatedAt", .str (isoformat i.generatedAt)),
    ("observedAt", optionalText (observation.observedTo.map isoformat)),
    ("assessmentId",
      if observation.source = .edgeState then .str observation.observationId else .null),
    ("observationId", .str observation.observationId),
    ("inputSource", .str (sourceText observation.source)),
    ("methodVersion", optionalText observation.methodVersion),
    ("valuePercent", number window.value),
    ("valid", .bool window.value.isSome),
    ("dataState", .str (if window.value.isSome then i.dataState else "UNKNOWN")),
    ("reasonCodes", .arr ((i.reason window).map Json.str))]

def metadata : Fields :=
  retainedMembers.filterMap fun key => ((i.sample window).lookup key).map (key, ·)

theorem instant_generatedAt : instant? (.str (isoformat i.generatedAt)) = some i.generatedAt :=
  fromisoformat_isoformat i.representable

def last : Retained where
  fields := i.sample window
  generatedAt := i.generatedAt
  parses := i.instant_generatedAt

def retained : Retained where
  fields := i.metadata window
  generatedAt := i.generatedAt
  parses := i.instant_generatedAt

theorem complete_last : Complete (i.last window).fields := by
  intro key hkey
  simp only [pointMembers, List.mem_cons, List.not_mem_nil, or_false] at hkey
  rcases hkey with rfl | rfl | rfl | rfl <;> rfl

theorem complete_retained : Complete (i.retained window).fields := by
  intro key hkey
  simp only [pointMembers, List.mem_cons, List.not_mem_nil, or_false] at hkey
  rcases hkey with rfl | rfl | rfl | rfl <;> rfl

end MinuteInput

/-! ## The row -/

/-- The payload with the slot of the input. -/
def MinuteInput.payload (i : MinuteInput) (window : Filtering.Window)
    (previous : Option MinutePayload) : MinutePayload :=
  let values :=
    setBy Prod.fst (i.second, window.value) ((previous.map MinutePayload.values).getD [])
  let metadata := ((previous.map MinutePayload.metadata).getD []).filter fun item =>
    item.1 ∈ values.map Prod.fst
  let valid := values.filterMap Prod.snd
  { values := values
    metadata := setBy Prod.fst (i.second, i.retained window) metadata
    sources := setBy Prod.fst (i.second, sourceText i.projection.observation.source)
      ((previous.map MinutePayload.sources).getD [])
    methods := setBy Prod.fst (i.second, i.projection.observation.methodVersion)
      ((previous.map MinutePayload.methods).getD [])
    last := i.last window
    validCount := some valid.length
    invalidCount := some (values.length - valid.length)
    sum := some valid.sum
    minimum := valid.min?
    maximum := valid.max? }

def MinuteInput.row (i : MinuteInput) (window : Filtering.Window)
    (previous : Option EdgeV2Minute) : EdgeV2Minute where
  siteId := i.projection.observation.siteId
  edgeId := i.projection.observation.edgeId
  bucketStart := i.bucket
  generatedAt := i.generatedAt
  payload := i.payload window (previous.map EdgeV2Minute.payload)
  historySummary := some (buildMinuteSummary i.bucket i.generatedAt
    (i.payload window (previous.map EdgeV2Minute.payload)))

namespace EdgeV2Minutes

def empty : EdgeV2Minutes := ⟨[], List.nodup_nil⟩

def get (store : EdgeV2Minutes) (key : String × String × ℤ) : Option EdgeV2Minute :=
  store.rows.find? fun row => row.key = key

def set (store : EdgeV2Minutes) (row : EdgeV2Minute) : EdgeV2Minutes where
  rows := setBy EdgeV2Minute.key row store.rows
  primaryKey := nodup_setBy row store.primaryKey

end EdgeV2Minutes

/-! ## The machine -/

/-- The filters of the devices, and the minutes. -/
structure ProjectionState where
  filters : String × String → Option FilterPayload := fun _ => none
  minutes : EdgeV2Minutes := .empty

/-- What happens to the filter of a device. -/
inductive ProjectionOp
  | project (input : MinuteInput)
  | reset (device : String × String)

/-- `project_input`, with the minute. -/
def projectionStep (s : ProjectionState) (op : ProjectionOp) :
    Option (ProjectionState × List FilterTransition) :=
  match op with
  | .project i =>
    let previous := s.filters i.device
    some (
      { filters := Function.update s.filters i.device (some (projectInput i.projection previous).1)
        minutes := s.minutes.set (i.row (i.projection.window previous) (s.minutes.get i.key)) },
      (projectInput i.projection previous).2)
  | .reset device => some ({ s with filters := Function.update s.filters device none }, [])

/-! ## What a row is -/

/-- The four maps of a minute have the same seconds, all of the minute, and retain times of
these. -/
structure Parallel (bucket : ℤ) (values : List (ℤ × Option ℚ)) (metadata : List (ℤ × Retained))
    (sources : List (ℤ × String)) (methods : List (ℤ × Option String)) : Prop where
  stamps : (values.map Prod.fst).Nodup
  placed : ∀ v ∈ values, bucket ≤ seconds v.1 ∧ seconds v.1 < bucket + seconds 60
  metadataKeys : metadata.map Prod.fst = values.map Prod.fst
  sourceKeys : sources.map Prod.fst = values.map Prod.fst
  methodKeys : methods.map Prod.fst = values.map Prod.fst
  retained : ∀ m ∈ metadata, m.2.generatedAt.tdiv 1000000 = m.1 ∧ Representable m.2.generatedAt ∧
    floorMinute m.2.generatedAt = bucket ∧ Complete m.2.fields
  names : ∀ s ∈ sources, s.2 ≠ ""

/-- The four maps of a minute have the same seconds, and retain times of these; what they are of any
times, before the epoch too. -/
structure Keyed (bucket : ℤ) (values : List (ℤ × Option ℚ)) (metadata : List (ℤ × Retained))
    (sources : List (ℤ × String)) (methods : List (ℤ × Option String)) : Prop where
  stamps : (values.map Prod.fst).Nodup
  metadataKeys : metadata.map Prod.fst = values.map Prod.fst
  sourceKeys : sources.map Prod.fst = values.map Prod.fst
  methodKeys : methods.map Prod.fst = values.map Prod.fst
  retained : ∀ m ∈ metadata, m.2.generatedAt.tdiv 1000000 = m.1 ∧ Representable m.2.generatedAt ∧
    floorMinute m.2.generatedAt = bucket ∧ Complete m.2.fields
  names : ∀ s ∈ sources, s.2 ≠ ""

/-- What a row is after any write, of any time. -/
structure Kept (row : EdgeV2Minute) : Prop where
  aligned : floorMinute row.bucketStart = row.bucketStart
  slots : Keyed row.bucketStart row.payload.values row.payload.metadata row.payload.sources
    row.payload.methods
  last : Complete row.payload.last.fields
  statistics : row.payload.sum = some row.payload.valid.sum ∧
    row.payload.minimum = row.payload.valid.min? ∧ row.payload.maximum = row.payload.valid.max?
  summary : row.historySummary =
    some (buildMinuteSummary row.bucketStart row.generatedAt row.payload)

/-- **What a row is** after any write. -/
structure Consistent (row : EdgeV2Minute) : Prop where
  aligned : floorMinute row.bucketStart = row.bucketStart
  slots : Parallel row.bucketStart row.payload.values row.payload.metadata row.payload.sources
    row.payload.methods
  nonempty : row.payload.values ≠ []
  last : Complete row.payload.last.fields
  validCount : row.payload.validCount = some row.payload.valid.length
  invalidCount : row.payload.invalidCount =
    some (row.payload.values.length - row.payload.valid.length)
  statistics : row.payload.sum = some row.payload.valid.sum ∧
    row.payload.minimum = row.payload.valid.min? ∧ row.payload.maximum = row.payload.valid.max?
  summary : row.historySummary =
    some (buildMinuteSummary row.bucketStart row.generatedAt row.payload)

section

variable {bucket : ℤ} {values : List (ℤ × Option ℚ)} {metadata : List (ℤ × Retained)}
variable {sources : List (ℤ × String)} {methods : List (ℤ × Option String)} {row : EdgeV2Minute}
variable {i : MinuteInput} {window : Filtering.Window}

theorem parallel_nil (bucket : ℤ) : Parallel bucket [] [] [] [] where
  stamps := List.nodup_nil
  placed v hv := by cases hv
  metadataKeys := rfl
  sourceKeys := rfl
  methodKeys := rfl
  retained m hm := by cases hm
  names s hs := by cases hs

/-- Dictionaries with the same keys have them when one more is set in each. -/
theorem keys_setBy {α β : Type*} {l : List (ℤ × α)} {l' : List (ℤ × β)} (k : ℤ) (a : α) (b : β)
    (h : l.map Prod.fst = l'.map Prod.fst) :
    (setBy Prod.fst (k, a) l).map Prod.fst = (setBy Prod.fst (k, b) l').map Prod.fst := by
  rw [map_setBy, map_setBy, h]

theorem floorMinute_floorMinute (t : ℤ) : floorMinute (floorMinute t) = floorMinute t := by
  unfold floorMinute seconds
  omega

/-- From the epoch on, a second lies in the minute of the time. -/
theorem second_placed (hepoch : 0 ≤ i.generatedAt) :
    i.bucket ≤ seconds i.second ∧ seconds i.second < i.bucket + seconds 60 := by
  unfold MinuteInput.bucket MinuteInput.second floorMinute seconds
  rw [Int.tdiv_eq_ediv_of_nonneg hepoch]
  omega

/-- **One more slot keeps the maps keyed.** -/
theorem Keyed.set (h : Keyed i.bucket values metadata sources methods) (window : Filtering.Window)
    (value : Option ℚ) :
    Keyed i.bucket (setBy Prod.fst (i.second, value) values)
      (setBy Prod.fst (i.second, i.retained window) (metadata.filter fun item =>
        item.1 ∈ (setBy Prod.fst (i.second, value) values).map Prod.fst))
      (setBy Prod.fst (i.second, sourceText i.projection.observation.source) sources)
      (setBy Prod.fst (i.second, i.projection.observation.methodVersion) methods) := by
  have hfilter : (metadata.filter fun item =>
      item.1 ∈ (setBy Prod.fst (i.second, value) values).map Prod.fst) = metadata := by
    refine List.filter_eq_self.2 fun item hitem => decide_eq_true ?_
    have hkey : item.1 ∈ values.map Prod.fst := h.metadataKeys ▸ List.mem_map_of_mem hitem
    rw [map_setBy]
    split_ifs
    · exact hkey
    · exact List.mem_append_left _ hkey
  rw [hfilter]
  constructor
  · exact nodup_setBy _ h.stamps
  · exact keys_setBy _ _ _ h.metadataKeys
  · exact keys_setBy _ _ _ h.sourceKeys
  · exact keys_setBy _ _ _ h.methodKeys
  · intro m hm
    rcases mem_setBy hm with rfl | hm
    · exact ⟨rfl, i.representable, rfl, i.complete_retained window⟩
    · exact h.retained m hm
  · intro s hs
    rcases mem_setBy hs with rfl | hs
    · exact sourceText_ne _
    · exact h.names s hs

theorem Parallel.keyed (h : Parallel bucket values metadata sources methods) :
    Keyed bucket values metadata sources methods :=
  ⟨h.stamps, h.metadataKeys, h.sourceKeys, h.methodKeys, h.retained, h.names⟩

/-- From the epoch on, one more slot keeps the maps parallel. -/
theorem Parallel.set (h : Parallel i.bucket values metadata sources methods)
    (hepoch : 0 ≤ i.generatedAt) (window : Filtering.Window) (value : Option ℚ) :
    Parallel i.bucket (setBy Prod.fst (i.second, value) values)
      (setBy Prod.fst (i.second, i.retained window) (metadata.filter fun item =>
        item.1 ∈ (setBy Prod.fst (i.second, value) values).map Prod.fst))
      (setBy Prod.fst (i.second, sourceText i.projection.observation.source) sources)
      (setBy Prod.fst (i.second, i.projection.observation.methodVersion) methods) := by
  obtain ⟨hstamps, hmetadata, hsources, hmethods, hretained, hnames⟩ := h.keyed.set window value
  refine ⟨hstamps, fun v hv => ?_, hmetadata, hsources, hmethods, hretained, hnames⟩
  rcases mem_setBy hv with rfl | hv
  · exact second_placed hepoch
  · exact h.placed v hv

/-- A write leaves a row as it should be, of any time. -/
theorem kept_row {previous : Option EdgeV2Minute}
    (hprevious : ∀ row, previous = some row → Kept row ∧ row.bucketStart = i.bucket) :
    Kept (i.row window previous) := by
  have hkeyed : Keyed i.bucket
      (((previous.map EdgeV2Minute.payload).map MinutePayload.values).getD [])
      (((previous.map EdgeV2Minute.payload).map MinutePayload.metadata).getD [])
      (((previous.map EdgeV2Minute.payload).map MinutePayload.sources).getD [])
      (((previous.map EdgeV2Minute.payload).map MinutePayload.methods).getD []) := by
    cases previous with
    | none => exact (parallel_nil _).keyed
    | some row =>
      obtain ⟨hrow, hbucket⟩ := hprevious row rfl
      rw [← hbucket]
      exact hrow.slots
  exact {
    aligned := floorMinute_floorMinute _
    slots := hkeyed.set window window.value
    last := i.complete_last window
    statistics := ⟨rfl, rfl, rfl⟩
    summary := rfl }

/-- **A write leaves a consistent row.** -/
theorem consistent_row {previous : Option EdgeV2Minute} (hepoch : 0 ≤ i.generatedAt)
    (hprevious : ∀ row, previous = some row → Consistent row ∧ row.bucketStart = i.bucket) :
    Consistent (i.row window previous) := by
  have hparallel : Parallel i.bucket
      (((previous.map EdgeV2Minute.payload).map MinutePayload.values).getD [])
      (((previous.map EdgeV2Minute.payload).map MinutePayload.metadata).getD [])
      (((previous.map EdgeV2Minute.payload).map MinutePayload.sources).getD [])
      (((previous.map EdgeV2Minute.payload).map MinutePayload.methods).getD []) := by
    cases previous with
    | none => exact parallel_nil _
    | some row =>
      obtain ⟨hrow, hbucket⟩ := hprevious row rfl
      rw [← hbucket]
      exact hrow.slots
  exact {
    aligned := floorMinute_floorMinute _
    slots := hparallel.set hepoch window window.value
    nonempty := List.ne_nil_of_mem (mem_setBy_self Prod.fst (i.second, window.value) _)
    last := i.complete_last window
    validCount := rfl
    invalidCount := rfl
    statistics := ⟨rfl, rfl, rfl⟩
    summary := rfl }

theorem EdgeV2Minutes.get_spec {store : EdgeV2Minutes} {key : String × String × ℤ}
    (h : store.get key = some row) : row ∈ store.rows ∧ row.key = key :=
  ⟨List.mem_of_find?_eq_some h, by simpa using List.find?_some h⟩

/-- What every write leaves of a row holds of every row, whatever was projected. -/
theorem rows_of_run {P : EdgeV2Minute → Prop}
    {es : List (Entry ProjectionState ProjectionOp (List FilterTransition))} {s : ProjectionState}
    (hrun : Run projectionStep {} es s)
    (hwrite : ∀ e ∈ es, ∀ i, e.op = .project i → ∀ window previous,
      (∀ row, previous = some row → P row ∧ row.bucketStart = i.bucket) →
      P (i.row window previous)) :
    ∀ row ∈ s.minutes.rows, P row := by
  induction hrun with
  | nil =>
    intro row hrow
    cases hrow
  | @snoc es s s' op out hrun hs ih =>
    have hbefore := ih fun e he => hwrite e (List.mem_append_left _ he)
    cases op with
    | reset device =>
      obtain ⟨rfl, -⟩ := Prod.mk.inj (Option.some.inj hs)
      exact hbefore
    | project i =>
      obtain ⟨rfl, -⟩ := Prod.mk.inj (Option.some.inj hs)
      intro row hrow
      rcases mem_setBy hrow with rfl | hrow
      · refine hwrite _ (List.mem_append_right _ List.mem_cons_self) i rfl _ _ ?_
        intro row hget
        obtain ⟨hmem, hkey⟩ := EdgeV2Minutes.get_spec hget
        exact ⟨hbefore row hmem, congrArg (fun key => key.2.2) hkey⟩
      · exact hbefore row hrow

/-- **Every row is consistent**, whatever was projected. -/
theorem consistent_of_run {es : List (Entry ProjectionState ProjectionOp (List FilterTransition))}
    {s : ProjectionState} (hrun : Run projectionStep {} es s)
    (hepoch : ∀ e ∈ es, ∀ i, e.op = .project i → 0 ≤ i.generatedAt) :
    ∀ row ∈ s.minutes.rows, Consistent row :=
  rows_of_run hrun fun e he i hop _ _ hprevious => consistent_row (hepoch e he i hop) hprevious

theorem kept_of_run {es : List (Entry ProjectionState ProjectionOp (List FilterTransition))}
    {s : ProjectionState} (hrun : Run projectionStep {} es s) : ∀ row ∈ s.minutes.rows, Kept row :=
  rows_of_run hrun fun _ _ _ _ _ _ hprevious => kept_row hprevious

/-! ## What the readers trust -/

theorem Consistent.written (h : Consistent row) : Written row where
  aligned := h.aligned
  stamps := h.slots.stamps
  placed := h.slots.placed
  retained _ _ _ hr := (h.slots.retained _ (mem_of_lookup hr)).2.2.1
  sources := h.slots.names
  statistics := .inr h.statistics

theorem Consistent.writerValid (h : Consistent row) : WriterValid row where
  toWritten := h.written
  last := h.last
  metadata entry hentry := (h.slots.retained entry hentry).2.2.2

/-- The time of a slot is that of the observation it is of, and retained with it. -/
theorem Kept.slot_retained (h : Kept row) {v : ℤ × Option ℚ} (hv : v ∈ row.payload.values) :
    ∃ r : Retained, (row.payload.slot v).time = r.generatedAt ∧
    (row.payload.slot v).last = r.fields ∧
      Representable r.generatedAt ∧ floorMinute r.generatedAt = row.bucketStart ∧
        Complete r.fields := by
  have hkey : v.1 ∈ row.payload.metadata.map Prod.fst := by
    rw [h.slots.metadataKeys]
    exact List.mem_map_of_mem hv
  obtain ⟨r, hr⟩ := exists_lookup hkey
  obtain ⟨hstamp, htime, hminute, hcomplete⟩ := h.slots.retained _ (mem_of_lookup hr)
  refine ⟨r, ?_, ?_, htime, hminute, hcomplete⟩
  all_goals
    simp only [MinutePayload.slot, slotTime, hr]
    rw [if_pos hstamp]
  rfl

theorem Kept.located (h : Kept row) : Located row where
  aligned := h.aligned
  stamps := h.slots.stamps
  slot_time := by
    intro v hv
    obtain ⟨r, htime, -, -, hminute, -⟩ := h.slot_retained hv
    rw [htime]
    simp only [floorMinute, seconds] at hminute ⊢
    omega
  sources := h.slots.names
  statistics := .inr h.statistics

theorem Consistent.kept (h : Consistent row) : Kept row :=
  ⟨h.aligned, h.slots.keyed, h.last, h.statistics, h.summary⟩

/-- A minute has sixty seconds at most. -/
theorem Consistent.length_le (h : Consistent row) : row.payload.values.length ≤ 60 := by
  have hsubset : (row.payload.values.map Prod.fst).toFinset ⊆
      Finset.Ico (row.bucketStart / 1000000) (row.bucketStart / 1000000 + 60) := by
    intro k hk
    obtain ⟨v, hv, rfl⟩ := List.mem_map.1 (List.mem_toFinset.1 hk)
    have hplaced := h.slots.placed v hv
    have haligned := h.aligned
    unfold floorMinute at haligned
    unfold seconds at hplaced haligned
    rw [Finset.mem_Ico]
    omega
  have hcard := Finset.card_le_card hsubset
  rw [List.toFinset_card_of_nodup h.slots.stamps, List.length_map, Int.card_Ico] at hcard
  omega

end

/-! ## The summary is restored -/

section

variable {group : Group} {fields : Fields} {slot : LastSlot} {minute : ℤ} {row : EdgeV2Minute}

theorem strings_of_sort {kept : Finset String} (h : kept.card ≤ 2) :
    strings? (.arr ((sortedTexts kept).map Json.str)) = some kept := by
  have hlength : ((sortedTexts kept).map Json.str).length ≤ 2 := by
    rw [List.length_map, length_sortedTexts]
    exact h
  rw [strings?, if_pos hlength, mapM_string, Option.map_some, toFinset_sortedTexts]

theorem optionalNumber_of_number (value : Option ℚ) :
    optionalNumber? (number value) = some value := by
  cases value <;> rfl

theorem sampleCount_of_le {n : ℕ} (h : n ≤ 60) : sampleCount? (.int n) = some n := by
  have hrange : (0 : ℤ) ≤ n ∧ (n : ℤ) ≤ 60 := ⟨by omega, by omega⟩
  rw [sampleCount?, if_pos hrange, Int.toNat_natCast]

/-- **The checks pass for the group of a minute.** -/
theorem checkGroup_of_dump (hdump : group.dump = some fields) (hslot : group.lastSlot = some slot)
    (hcount : 0 < group.count + group.invalid ∧ group.count + group.invalid ≤ 60)
    (htime : Representable slot.lastTime)
    (hrange : minute ≤ slot.lastTime ∧ slot.lastTime < minute + seconds 60)
    (hsources : group.sources.card ≤ 2) (hmethods : group.methods.card ≤ 2)
    (hextrema : group.count = 0 ∨ group.minimum.isSome ∧ group.maximum.isSome)
    (hlast : requiredLast.all fun key => (slot.last.lookup key).isSome) :
    checkGroup fields minute = some (some group) := by
  obtain ⟨slot', hslot', lcount, linvalid, ltotal, ltime, lsources, lmethods, llow, lhigh, lvalue,
    lsimulated, lmixed, llast, lsource, lmethod⟩ := dump_lookup hdump
  obtain rfl := Option.some.inj (hslot.symm.trans hslot')
  have hrequired : requiredMembers.all fun key => (fields.lookup key).isSome := by
    simp [requiredMembers, lcount, linvalid, ltotal, ltime, lsources, lmethods, llow, lhigh, lvalue,
      lsimulated, lmixed, llast, lsource, lmethod]
  have hinstant : instant? (.str (isoformat slot.lastTime)) = some slot.lastTime :=
    fromisoformat_isoformat htime
  unfold checkGroup
  simp only [lcount, linvalid, ltotal, ltime, lsources, lmethods, llow, lhigh, lvalue, lsimulated,
    lmixed, llast, lsource, lmethod, hinstant, strings_of_sort hsources, strings_of_sort hmethods,
    optionalNumber_of_number, sampleCount_of_le (by omega : group.count ≤ 60),
    sampleCount_of_le (by omega : group.invalid ≤ 60), number?, bool?, Option.bind_eq_bind,
    Option.bind_some, guard, hrequired, hcount, hrange, hextrema, hlast, if_true, and_self]
  exact congrArg (fun last => some (some { group with lastSlot := last })) hslot.symm

theorem card_distinct_le {kept : Finset String} (h : kept.card ≤ 2) (l : List String) :
    (l.foldl distinct kept).card ≤ 2 := by
  induction l generalizing kept with
  | nil => exact h
  | cons value l ih =>
    refine ih ?_
    unfold distinct
    split_ifs with hcard
    · have hinsert := Finset.card_insert_le value kept
      omega
    · exact h

/-- **The summary of a row is restored** as the group of its slots. -/
theorem Consistent.restore (h : Consistent row) :
    restoreSummary row.historySummary row.bucketStart row.generatedAt =
      some (some (row.payload.values.foldl (fun group v =>
        group.addSlot v.1 v.2 row.payload) {})) := by
  have hrepresents := represents_nil.absorbSlots row.payload.slots
  rw [List.nil_append] at hrepresents
  obtain ⟨slot, hslot⟩ : ∃ slot, lastMax Slot.time row.payload.slots = some slot :=
    Option.ne_none_iff_exists'.1 fun hnone =>
      h.nonempty (List.map_eq_nil_iff.1 (lastMax_eq_none.1 hnone))
  obtain ⟨v, hv, rfl⟩ := List.mem_map.1 (lastMax_mem hslot)
  have hlast : (Group.absorbSlots {} row.payload.slots).lastSlot =
      some (row.payload.slot v).lastSlot := by
    rw [hrepresents.lastSlot, tally, hslot]
    rfl
  obtain ⟨r, htime, hfields, hrepresentable, -, hcomplete⟩ := h.kept.slot_retained hv
  have hvalid : (validValues row.payload.slots).length ≤ row.payload.slots.length :=
    List.length_filterMap_le _ _
  have hlength : row.payload.slots.length = row.payload.values.length := List.length_map _
  have hpos : 0 < row.payload.values.length := List.length_pos_of_ne_nil h.nonempty
  have hle := h.length_le
  have hcount : (Group.absorbSlots {} row.payload.slots).count +
      (Group.absorbSlots {} row.payload.slots).invalid = row.payload.values.length := by
    have htally : (tally row.payload.slots).count = (validValues row.payload.slots).length := rfl
    rw [hrepresents.count, hrepresents.invalid, invalid_eq, htally]
    omega
  obtain ⟨fields, hdump⟩ :
      ∃ fields, (Group.absorbSlots {} row.payload.slots).dump = some fields := by
    rw [Group.dump, hlast]
    exact ⟨_, rfl⟩
  have hcheck : checkGroup fields row.bucketStart =
      some (some (Group.absorbSlots {} row.payload.slots)) := by
    refine checkGroup_of_dump hdump hlast (by omega) ?_ (h.written.located.slot_time hv)
      (card_distinct_le (by simp) _) (card_distinct_le (by simp) _) ?_ ?_
    · rw [← htime] at hrepresentable
      exact hrepresentable
    · rw [hrepresents.count, hrepresents.minimum, hrepresents.maximum]
      by_cases hnil : validValues row.payload.slots = []
      · exact .inl (List.length_eq_zero_iff.2 hnil)
      · refine .inr ⟨?_, ?_⟩
        · exact Option.isSome_iff_ne_none.2 fun hnone => hnil (List.min?_eq_none_iff.1 hnone)
        · exact Option.isSome_iff_ne_none.2 fun hnone => hnil (List.max?_eq_none_iff.1 hnone)
    · have hparses := r.parses
      obtain ⟨text, htext, -⟩ := Option.bind_eq_some_iff.1 hparses
      refine List.all_eq_true.2 fun key hkey => ?_
      change ((row.payload.slot v).last.lookup key).isSome
      rw [hfields]
      rcases List.mem_cons.1 hkey with rfl | hkey
      · rw [htext]
        rfl
      · exact hcomplete key hkey
  have hplaced : ∀ v ∈ row.payload.values,
      row.bucketStart ≤ seconds v.1 ∧ seconds v.1 < row.bucketStart + seconds 60 := h.slots.placed
  have hsize : ¬(row.payload.values = [] ∨ 60 < row.payload.values.length) := by
    rw [not_or]
    exact ⟨h.nonempty, by omega⟩
  rw [foldl_addSlot, h.summary]
  simp only [buildMinuteSummary]
  rw [if_neg hsize, if_neg (not_not.2 hplaced), wholeMinute_eq h.written.located _ _ h.nonempty,
    Groups.modify, Function.update_self, Option.getD_none, Option.bind_some, hdump]
  have hslots : row.payload.values.map row.payload.slot = row.payload.slots := rfl
  simp [restoreSummary, List.lookup_cons, dict?, hcheck, hslots]

/-- **The rows of the minutes**: four maps of one key set, of seconds of the minute, statistics of
the values, and a summary that is restored as the group of the slots. -/
theorem minute_rows {es : List (Entry ProjectionState ProjectionOp (List FilterTransition))}
    {s : ProjectionState} (hrun : Run projectionStep {} es s)
    (hepoch : ∀ e ∈ es, ∀ i, e.op = .project i → 0 ≤ i.generatedAt) :
    ∀ row ∈ s.minutes.rows,
      (row.payload.values.map Prod.fst).Nodup ∧
      row.payload.metadata.map Prod.fst = row.payload.values.map Prod.fst ∧
      row.payload.sources.map Prod.fst = row.payload.values.map Prod.fst ∧
      row.payload.methods.map Prod.fst = row.payload.values.map Prod.fst ∧
      (∀ v ∈ row.payload.values,
        row.bucketStart ≤ seconds v.1 ∧ seconds v.1 < row.bucketStart + seconds 60) ∧
      (∃ valid invalid, row.payload.validCount = some valid ∧
        row.payload.invalidCount = some invalid ∧ valid + invalid = row.payload.values.length ∧
        row.payload.values.length ≤ 60) ∧
      row.payload.sum = some row.payload.valid.sum ∧ row.payload.minimum = row.payload.valid.min? ∧
      row.payload.maximum = row.payload.valid.max? ∧
      restoreSummary row.historySummary row.bucketStart row.generatedAt =
        some (some (row.payload.values.foldl
          (fun group v => group.addSlot v.1 v.2 row.payload) {})) := by
  intro row hrow
  have h := consistent_of_run hrun hepoch row hrow
  obtain ⟨hsum, hminimum, hmaximum⟩ := h.statistics
  have hvalid : row.payload.valid.length ≤ row.payload.values.length := List.length_filterMap_le _ _
  exact ⟨h.slots.stamps, h.slots.metadataKeys, h.slots.sourceKeys, h.slots.methodKeys,
    h.slots.placed, ⟨_, _, h.validCount, h.invalidCount, by omega, h.length_le⟩, hsum, hminimum,
      hmaximum, h.restore⟩

end

/-! ## A run -/

def sampleInput (messageId : String) (time : ℤ) (h : Representable time) : MinuteInput :=
  ⟨Filtering.highProjection messageId time time, "AVAILABLE", h⟩

/-- Three observations fill the window; a fourth one falls in the second of the third. -/
def sampleProjections : List ProjectionOp :=
  [.project (sampleInput "m-1" 101000000 (by decide +kernel)),
    .project (sampleInput "m-2" 102000000 (by decide +kernel)),
    .project (sampleInput "m-3" 103000000 (by decide +kernel)),
    .project (sampleInput "m-4" 103500000 (by decide +kernel))]

theorem exec_projections : ∃ es s row, exec projectionStep {} sampleProjections = some (es, s) ∧
    s.minutes.rows = [row] ∧ row.bucketStart = 60000000 ∧
    row.payload.values = [(101, none), (102, none), (103, some 95)] :=
  ⟨_, _, _, rfl, rfl, by decide +kernel, by decide +kernel⟩

theorem minute_rows_sample : ∃ es s row, Run projectionStep {} es s ∧ row ∈ s.minutes.rows ∧
    row.payload.values = [(101, none), (102, none), (103, some 95)] ∧
    row.payload.sum = some row.payload.valid.sum ∧
    restoreSummary row.historySummary row.bucketStart row.generatedAt =
      some (some (row.payload.values.foldl
        (fun group v => group.addSlot v.1 v.2 row.payload) {})) := by
  obtain ⟨es, s, row, hexec, hrows, -, hvalues⟩ := exec_projections
  have hmem : row ∈ s.minutes.rows := by
    rw [hrows]
    exact List.mem_singleton_self row
  have hepoch : ∀ e ∈ es, ∀ i, e.op = .project i → 0 ≤ i.generatedAt := by
    intro e he i hop
    have hops : e.op ∈ sampleProjections := by
      rw [← exec_ops hexec]
      exact List.mem_map_of_mem he
    rw [hop] at hops
    simp only [sampleProjections, List.mem_cons, ProjectionOp.project.injEq, List.not_mem_nil,
      or_false] at hops
    rcases hops with rfl | rfl | rfl | rfl <;> decide
  obtain ⟨-, -, -, -, -, -, hsum, -, -, hrestore⟩ :=
    minute_rows (Run.of_exec hexec) hepoch row hmem
  exact ⟨es, s, row, .of_exec hexec, hmem, hvalues, hsum, hrestore⟩

end ScrapMonitoring.History
