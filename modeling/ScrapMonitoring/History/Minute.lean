import ScrapMonitoring.Foundations.Calendar
import ScrapMonitoring.Foundations.Json
import Mathlib.Data.Finset.Sort
import Mathlib.Data.List.MinMax
import Mathlib.Data.String.Basic

/-!
# Minutes of observations, and the reader of the original rows

A minute of a device is one row: a value for each second that was observed (a slot), and for every
slot its source, its method and what is retained of the observation. The history of a range is read
from the rows of its minutes. Every slot counts for the bucket of its time, and a bucket is a
`Group` of accumulated statistics; `compactResult` makes the points of the history of them.

`legacyStreamGroups` reads the original rows in pages. A minute that lies in the range as a whole
is added with the statistics that its writer stored (`wholeMinute`), the slots of any other are
added one by one.
-/

namespace ScrapMonitoring.History

/-! ## Rows -/

/-- The instant that a member of an object holds. -/
def instant? : Json → Option ℤ
  | .str text => fromisoformat text
  | _ => none

/-- What is retained of an observation, with the instant at which it was generated. -/
structure Retained where
  fields : Fields
  generatedAt : ℤ
  parses : (fields.lookup "generatedAt").bind instant? = some generatedAt

/-- The slots of a minute, under the seconds at which they were generated. The statistics are the
stored ones. -/
structure MinutePayload where
  values : List (ℤ × Option ℚ)
  metadata : List (ℤ × Retained)
  sources : List (ℤ × String)
  methods : List (ℤ × Option String)
  last : Retained
  validCount : Option ℕ := none
  invalidCount : Option ℕ := none
  sum : Option ℚ := none
  minimum : Option ℚ := none
  maximum : Option ℚ := none

structure EdgeV2Minute where
  siteId : String
  edgeId : String
  bucketStart : ℤ
  generatedAt : ℤ
  payload : MinutePayload
  historySummary : Option Json

/-- The primary key. -/
def EdgeV2Minute.key (minute : EdgeV2Minute) : String × String × ℤ :=
  (minute.siteId, minute.edgeId, minute.bucketStart)

/-- The table of the minutes. -/
structure EdgeV2Minutes where
  rows : List EdgeV2Minute
  primaryKey : (rows.map EdgeV2Minute.key).Nodup

structure MonitoringSource where
  siteId : String
  edgeId : String

/-- The minutes of one device. -/
def EdgeV2Minutes.ofSource (store : EdgeV2Minutes) (source : MonitoringSource) :
    List EdgeV2Minute :=
  store.rows.filter fun minute => minute.siteId = source.siteId ∧ minute.edgeId = source.edgeId

/-- `start.replace(second=0, microsecond=0)`. -/
def floorMinute (t : ℤ) : ℤ := t / seconds 60 * seconds 60

/-- The minutes of one device that a reader of a range selects. -/
def EdgeV2Minutes.between (store : EdgeV2Minutes) (source : MonitoringSource) (start stop : ℤ) :
    List EdgeV2Minute :=
  (store.ofSource source).filter fun minute =>
    floorMinute start ≤ minute.bucketStart ∧ minute.bucketStart < stop

/-! ## Slots -/

/-- The time of a slot. The retained time is more precise, if it is of the second of the slot. -/
def slotTime (stamp : ℤ) (metadata : List (ℤ × Retained)) : ℤ × Option Retained :=
  match metadata.lookup stamp with
  | none => (seconds stamp, none)
  | some retained =>
    if retained.generatedAt.tdiv 1000000 = stamp then (retained.generatedAt, some retained)
    else (seconds stamp, none)

def MinutePayload.slotSource (payload : MinutePayload) (stamp : ℤ) : String :=
  (payload.sources.lookup stamp).getD "EDGE_STATE"

def MinutePayload.slotMethod (payload : MinutePayload) (stamp : ℤ) : Option String :=
  (payload.methods.lookup stamp).join

def simulationPrefixes : List String :=
  ["SIMULATION_HEIGHT_SECTION_V1:", "SIMULATION_SENSOR_ANGLE_V1:"]

def isSimulation (method : Option String) : Bool :=
  method.any fun m => simulationPrefixes.any fun p => p.toList.isPrefixOf m.toList

/-! ## Groups -/

/-- The newest slot of a group. -/
structure LastSlot where
  lastTime : ℤ
  value : Option ℚ
  last : Fields
  lastSource : Json
  lastMethod : Json
  deriving DecidableEq

/-- The newer of two slots, the second one if they have the same time. -/
def later (last : Option LastSlot) (slot : LastSlot) : Option LastSlot :=
  if last.all fun last => last.lastTime ≤ slot.lastTime then some slot else last

/-- The statistics of a bucket. A new group has seen no slot. -/
structure Group where
  total : ℚ := 0
  count : ℕ := 0
  invalid : ℕ := 0
  minimum : Option ℚ := none
  maximum : Option ℚ := none
  sources : Finset String := ∅
  methods : Finset String := ∅
  mixed : Bool := false
  simulated : Bool := false
  lastSlot : Option LastSlot := none
  deriving DecidableEq

/-- The groups under their buckets. -/
abbrev Groups := ℤ → Option Group

/-- The group of a bucket, a new one if there is none, is changed. -/
def Groups.modify (groups : Groups) (bucket : ℤ) (f : Group → Group) : Groups :=
  Function.update groups bucket (some (f ((groups bucket).getD {})))

/-- Two values tell that a bucket is mixed, so no more are kept. -/
def distinct (kept : Finset String) (value : String) : Finset String :=
  if kept.card < 2 then insert value kept else kept

namespace Group

def stats (group : Group) (count invalid : ℕ) (total : ℚ) (low high : Option ℚ) : Group :=
  { group with
    total := group.total + total
    count := group.count + count
    invalid := group.invalid + invalid
    minimum := if count = 0 then group.minimum else group.minimum.merge min low
    maximum := if count = 0 then group.maximum else group.maximum.merge max high }

def setLast (group : Group) (slot : LastSlot) : Group :=
  { group with lastSlot := later group.lastSlot slot }

def last (group : Group) (stamp : ℤ) (value : Option ℚ) (payload : MinutePayload) : Group :=
  let time := slotTime stamp payload.metadata
  group.setLast
    { lastTime := time.1
      value := value
      last := (time.2.getD payload.last).fields
      lastSource := .str (payload.slotSource stamp)
      lastMethod := ((payload.slotMethod stamp).map Json.str).getD .null }

/-- Every slot tells whether it was simulated, only the valid ones their source and method. -/
def provenance (group : Group) (stamp : ℤ) (value : Option ℚ) (payload : MinutePayload) : Group :=
  let method := payload.slotMethod stamp
  let group := { group with simulated := group.simulated || isSimulation method }
  if value.isSome then
    { group with
      sources := distinct group.sources (payload.slotSource stamp)
      methods := (method.map (distinct group.methods)).getD group.methods }
  else group

end Group

/-! ## The reader -/

/-- The values of the valid slots. -/
def MinutePayload.valid (payload : MinutePayload) : List ℚ := payload.values.filterMap Prod.snd

/-- Whether the stored statistics are there, and count the slots that are there. -/
def MinutePayload.cached (payload : MinutePayload) : Bool :=
  payload.validCount = some payload.valid.length ∧
    payload.invalidCount = some (payload.values.length - payload.valid.length) ∧
    payload.sum.isSome ∧
    (payload.valid = [] ∨ payload.minimum.isSome ∧ payload.maximum.isSome)

/-- The statistics of a minute: the stored ones, or those of its slots. -/
def Group.minuteStats (group : Group) (payload : MinutePayload) : Group :=
  let count := payload.valid.length
  let invalid := payload.values.length - count
  if payload.cached then
    group.stats count invalid (payload.sum.getD 0) payload.minimum payload.maximum
  else
    group.stats count invalid payload.valid.sum payload.valid.min? payload.valid.max?

/-- A minute as a whole. -/
def wholeMinute (groups : Groups) (bucket : ℤ) (payload : MinutePayload) : Groups :=
  match payload.values.argmax Prod.fst with
  | none => groups
  | some (lastStamp, lastValue) => groups.modify bucket fun group =>
    let group := payload.values.foldl (fun g v => g.provenance v.1 v.2 payload) group
    (group.minuteStats payload).last lastStamp lastValue payload

/-- One slot. -/
def Group.addSlot (group : Group) (stamp : ℤ) (value : Option ℚ) (payload : MinutePayload) :
    Group :=
  let group := group.provenance stamp value payload
  let group := group.stats (if value.isSome then 1 else 0) (if value.isNone then 1 else 0)
    (value.getD 0) value value
  group.last stamp value payload

/-- The bucket of an instant. -/
def bucketOf (interval t : ℤ) : ℤ := t / seconds interval

/-- The row of a minute is added, as a whole if it lies in the range and its slots in it. -/
def accumulateMinute (groups : Groups) (minute : ℤ) (payload : MinutePayload)
    (start stop interval : ℤ) : Groups :=
  if (start ≤ minute ∧ minute + seconds 60 ≤ stop) ∧
      ∀ v ∈ payload.values, minute ≤ seconds v.1 ∧ seconds v.1 < minute + seconds 60 then
    wholeMinute groups (bucketOf interval minute) payload
  else
    payload.values.foldl (fun groups v =>
      let time := (slotTime v.1 payload.metadata).1
      if start ≤ time ∧ time < stop then
        groups.modify (bucketOf interval time) fun group => group.addSlot v.1 v.2 payload
      else groups) groups

/-- The groups of the rows that a query returned page by page. -/
def legacyStreamGroups (pages : List (List EdgeV2Minute)) (start stop interval : ℤ) : Groups :=
  pages.foldl (fun groups page =>
    page.foldl (fun groups row =>
      accumulateMinute groups row.bucketStart row.payload start stop interval) groups)
    fun _ => none

/-! ## The points of the history -/

structure HistorySample where
  generatedAt : Option ℤ
  observedAt : Json
  assessmentId : Json
  observationId : Json
  inputSource : Json
  simulated : Bool
  methodVersion : Json
  valuePercent : Option ℚ
  valid : Bool
  dataState : Json
  reasonCodes : Json
  averagePercent : Option ℚ
  minimumPercent : Option ℚ
  maximumPercent : Option ℚ
  validSamples : ℕ
  invalidSamples : ℕ
  valuePolicy : String
  deriving DecidableEq

/-- Whether the slots of a group differ in source or in method. -/
def Group.isMixed (group : Group) : Bool :=
  group.mixed || decide (1 < group.sources.card) || decide (1 < group.methods.card)

/-- `sorted(kept)`. -/
def sortedTexts (kept : Finset String) : List String := kept.sort (· ≤ ·)

@[simp] theorem toFinset_sortedTexts (kept : Finset String) : (sortedTexts kept).toFinset = kept :=
  Finset.sort_toFinset _ _

@[simp] theorem length_sortedTexts (kept : Finset String) : (sortedTexts kept).length = kept.card :=
  Finset.length_sort _

/-- The one value of a set that has no two. -/
def first? (kept : Finset String) : Option String := (sortedTexts kept).head?

/-- The point of a group; `none` is a missing member of its newest slot. -/
def Group.point (group : Group) (start stop : ℤ) : Option (ℤ × HistorySample) := do
  let slot ← group.lastSlot
  let generated ← (slot.last.lookup "generatedAt").bind instant?
  let retained : Bool := start ≤ generated ∧ generated < stop ∧
    generated.tdiv 1000000 = slot.lastTime.tdiv 1000000
  let mixed := group.isMixed
  let value := if mixed then none else slot.value
  let member (key : String) : Option Json :=
    if retained then slot.last.lookup key else some .null
  let observedAt ← member "observedAt"
  let assessmentId ← member "assessmentId"
  let dataState ←
    if mixed then some (.str "UNKNOWN")
    else if retained then slot.last.lookup "dataState"
    else some (.str (if value.isSome then "AVAILABLE" else "UNKNOWN"))
  let reasonCodes ←
    if mixed then some (.arr [.str "FILL_METHOD_CHANGED_WITHIN_BUCKET"])
    else if retained then slot.last.lookup "reasonCodes"
    else some (.arr [.str "COMPACT_SUBMINUTE_METADATA_NOT_RETAINED"])
  return (if retained then generated else slot.lastTime,
    { generatedAt := if retained then some generated else none
      observedAt := observedAt
      assessmentId := assessmentId
      observationId := (if retained then slot.last.lookup "observationId" else none).getD .null
      inputSource :=
        if mixed then .str "MIXED" else ((first? group.sources).map Json.str).getD slot.lastSource
      simulated := group.simulated
      methodVersion :=
        if mixed then .null else ((first? group.methods).map Json.str).getD slot.lastMethod
      valuePercent := value
      valid := value.isSome
      dataState := dataState
      reasonCodes := reasonCodes
      averagePercent :=
        if group.count ≠ 0 ∧ !mixed then some (group.total / group.count) else none
      minimumPercent := if mixed then none else group.minimum
      maximumPercent := if mixed then none else group.maximum
      validSamples := if mixed then 0 else group.count
      invalidSamples := if mixed then group.invalid + group.count else group.invalid
      valuePolicy := "MEDIAN_MINUTE" })

/-- The points under their buckets; `some none` is a group that the whole call fails on. -/
def compactResult (groups : Groups) (start stop : ℤ) : ℤ → Option (Option (ℤ × HistorySample)) :=
  fun bucket => (groups bucket).map fun group => group.point start stop

end ScrapMonitoring.History
