import ScrapMonitoring.Foundations.Traverse
import ScrapMonitoring.History.Aggregate
import ScrapMonitoring.History.Samples
import ScrapMonitoring.History.Window
import ScrapMonitoring.Monitoring.Snapshot

/-!
# Reading a history

The samples of a history are the buckets of its range, each with the newest observation in it: of
the messages that are stored in full the newest is selected in SQL, and of the minutes every bucket
has a point, which is shown if it is newer (`readHistory`). The buckets tile the range, so every
observation of the range belongs to one of them, and the sample of a bucket shows the newest
observation of either store (`history_samples`).
-/

namespace ScrapMonitoring.History

open Filtering (FilterTransition)
open Monitoring (Assessment FillEstimate roundSix)

/-! ## Messages -/

/-- The payload of a message, where it is a STATE assessment. -/
inductive MessagePayload
  | state (assessment : Assessment)
  | other

/-- A row of `edge_v2_messages`. -/
structure EdgeV2Message where
  id : ℕ
  siteId : String
  edgeId : String
  messageType : String
  generatedAt : ℤ
  compact : Bool
  payload : MessagePayload
  generatedAt_eq : ∀ assessment, payload = .state assessment → assessment.generatedAt = generatedAt

/-- The STATE assessment of a message. -/
def EdgeV2Message.assessment (message : EdgeV2Message) : Option Assessment :=
  match message.payload with
  | .state assessment => some assessment
  | .other => none

structure EdgeV2Messages where
  rows : List EdgeV2Message
  primaryKey : (rows.map EdgeV2Message.id).Nodup

/-- The STATE messages of a device that are stored in full. -/
def EdgeV2Messages.states (messages : EdgeV2Messages) (source : MonitoringSource) :
    List EdgeV2Message :=
  messages.rows.filter fun message => message.siteId = source.siteId ∧
    message.edgeId = source.edgeId ∧ message.messageType = "edge_assessment" ∧
      message.compact = false ∧ message.assessment.isSome

/-- The order of the ranks: the newest message first, and the smallest id of the newest. -/
def Ranked (a b : EdgeV2Message) : Prop :=
  b.generatedAt < a.generatedAt ∨ a.generatedAt = b.generatedAt ∧ a.id ≤ b.id

instance (a b : EdgeV2Message) : Decidable (Ranked a b) := inferInstanceAs (Decidable (_ ∨ _))

/-- The message of the first rank in a bucket. -/
def rankedState (messages : EdgeV2Messages) (source : MonitoringSource) (start stop interval : ℤ)
    (bucket : ℤ) : Option EdgeV2Message :=
  (((messages.states source).filter fun message =>
    start ≤ message.generatedAt ∧ message.generatedAt < stop ∧
      bucketOf interval message.generatedAt = bucket).insertionSort Ranked).head?

/-! ## Points -/

/-- How the points of the minutes are read: aggregated by SQLite, or from summaries, with the pages
in which the rows are returned. -/
inductive Reader (store : EdgeV2Minutes) (source : MonitoringSource) (start stop : ℤ)
  | sqlite
  | postgresql (pages : List (List EdgeV2Minute))
      (h : pages.flatten.Perm (store.between source start stop))

/-- `compact_samples`; `none` is an exception. -/
def Reader.points {store : EdgeV2Minutes} {source : MonitoringSource} {start stop : ℤ}
    (reader : Reader store source start stop) (interval : ℤ) :
    Option (ℤ → Option (Option (ℤ × HistorySample))) :=
  match reader with
  | .sqlite => some (compactSamples store source start stop interval)
  | .postgresql pages _ => (summaryStreamGroups store source pages start stop interval).map
      fun groups => compactResult groups start stop

/-! ## Samples -/

def dataStateText : HistoryDataState → String
  | .available => "AVAILABLE"
  | .limited => "LIMITED"
  | .unavailable => "UNAVAILABLE"
  | .stale => "STALE"
  | .unknown => "UNKNOWN"
  | .noData => "NO_DATA"

/-- `historical_value`: the validity of an assessment when it was generated. -/
def historicalValue (ttlSeconds : ℕ) (assessment : Assessment) (now : ℤ) :
    Option ℚ × HistoryDataState × List String :=
  let reasons := assessment.reasonCodes
  if now + seconds 5 < assessment.generatedAt ∨
      (assessment.observedTo.any fun observed => assessment.generatedAt < observed) then
    (none, .unknown, (reasons ++ ["ASSESSMENT_CLOCK_SKEW"]).eraseDups)
  else if assessment.observedTo.any fun observed =>
      seconds ttlSeconds ≤ assessment.generatedAt - observed then
    (none, .stale, (reasons ++ ["ASSESSMENT_STALE_AT_GENERATION"]).eraseDups)
  else
    match assessment.fillEstimate, assessment.decisionState with
    | none, _ => (none, .unavailable, reasons.eraseDups)
    | some _, .unavailable => (none, .unavailable, reasons.eraseDups)
    | some estimate, decision =>
      if assessment.observedTo.isNone then
        (none, .unknown, (reasons ++ ["OBSERVATION_TIME_UNAVAILABLE"]).eraseDups)
      else (some (roundSix (estimate.ratio * 100)),
        if decision = .limited then .limited else .available, reasons.eraseDups)

/-- What is shown of a bucket without an observation. -/
def noData : HistorySample where
  generatedAt := none
  observedAt := .null
  assessmentId := .null
  observationId := .null
  inputSource := .str "EDGE_STATE"
  simulated := false
  methodVersion := .null
  valuePercent := none
  valid := false
  dataState := .str (dataStateText .noData)
  reasonCodes := .arr [.str "STATE_NOT_RECEIVED"]
  averagePercent := none
  minimumPercent := none
  maximumPercent := none
  validSamples := 0
  invalidSamples := 0
  valuePolicy := "RAW_STATE"

/-- What is shown of an assessment. -/
def stateSample (ttlSeconds : ℕ) (now : ℤ) (assessment : Assessment) : HistorySample :=
  let (value, state, reasons) := historicalValue ttlSeconds assessment now
  { noData with
    generatedAt := some assessment.generatedAt
    observedAt := optionalText (assessment.observedTo.map isoformat)
    assessmentId := .str assessment.assessmentId
    methodVersion := optionalText (assessment.fillEstimate.map FillEstimate.methodVersion)
    valuePercent := value
    valid := value.isSome
    dataState := .str (dataStateText state)
    reasonCodes := .arr (reasons.map Json.str) }

/-- A sample, with the ends of its bucket. -/
structure BucketSample extends HistorySample where
  bucketStartAt : ℤ
  bucketEndAt : ℤ
  deriving DecidableEq

/-- The sample of a bucket: the assessment, or the point that is retained if it is newer. -/
def bucketSample (ttlSeconds : ℕ) (now : ℤ) (state : Option Assessment)
    (retained : Option (ℤ × HistorySample)) (span : ℤ × ℤ) : BucketSample :=
  let sample := (state.map (stateSample ttlSeconds now)).getD noData
  match retained with
  | some (time, data) =>
    if sample.generatedAt.all fun generated => generated < time then ⟨data, span.1, span.2⟩
    else ⟨sample, span.1, span.2⟩
  | none => ⟨sample, span.1, span.2⟩

/-- The sample of a bucket, from its message and the point that is retained. -/
def sampleOf (ttlSeconds : ℕ) (messages : EdgeV2Messages) (source : MonitoringSource)
    (start stop : ℤ) (interval : HistoryInterval) (now bucket : ℤ)
    (retained : Option (ℤ × HistorySample)) : BucketSample :=
  bucketSample ttlSeconds now ((rankedState messages source start stop interval.seconds bucket).bind
    EdgeV2Message.assessment) retained (cell start stop interval.width bucket)

/-- `_read_history`; `none` is an exception. -/
def readHistory (ttlSeconds : ℕ) (messages : EdgeV2Messages) {minutes : EdgeV2Minutes}
    {source : MonitoringSource} {start stop : ℤ} (reader : Reader minutes source start stop)
    (interval : HistoryInterval) (now : ℤ) : Option (List BucketSample) := do
  let compact ← reader.points interval.seconds
  (cellNumbers start stop interval.width).mapM fun bucket =>
    match compact bucket with
    | none => some (sampleOf ttlSeconds messages source start stop interval now bucket none)
    | some point => point.map fun point =>
        sampleOf ttlSeconds messages source start stop interval now bucket (some point)

/-! ## The newest message of a bucket -/

section

variable {messages : EdgeV2Messages} {minutes : EdgeV2Minutes} {source : MonitoringSource}
variable {start stop bucket interval now : ℤ} {message : EdgeV2Message}

instance : Std.Total Ranked where
  total a b := by
    unfold Ranked
    omega

instance : IsTrans EdgeV2Message Ranked where
  trans a b c := by
    unfold Ranked
    omega

theorem rankedState_spec
    (h : rankedState messages source start stop interval bucket = some message) :
    message ∈ messages.states source ∧ (start ≤ message.generatedAt ∧ message.generatedAt < stop ∧
      bucketOf interval message.generatedAt = bucket) ∧
    ∀ other ∈ messages.states source, start ≤ other.generatedAt → other.generatedAt < stop →
      bucketOf interval other.generatedAt = bucket → other.generatedAt ≤ message.generatedAt := by
  unfold rankedState at h
  generalize hl : (messages.states source).filter (fun message =>
    start ≤ message.generatedAt ∧ message.generatedAt < stop ∧
      bucketOf interval message.generatedAt = bucket) = l at h
  obtain ⟨rest, hsorted⟩ := List.head?_eq_some_iff.1 h
  have hmem : message ∈ l := by
    rw [← List.mem_insertionSort Ranked, hsorted]
    exact List.mem_cons_self
  have hpairwise := List.pairwise_insertionSort Ranked l
  rw [hsorted, List.pairwise_cons] at hpairwise
  obtain ⟨hstate, hrange⟩ := List.mem_filter.1 (hl ▸ hmem)
  refine ⟨hstate, of_decide_eq_true hrange, fun other hother hstart hstop hbucket => ?_⟩
  have hsame : other ∈ message :: rest := by
    rw [← hsorted, List.mem_insertionSort, ← hl]
    exact List.mem_filter.2 ⟨hother, decide_eq_true ⟨hstart, hstop, hbucket⟩⟩
  rcases List.mem_cons.1 hsame with rfl | hrest
  · exact le_rfl
  · have hranked := hpairwise.1 other hrest
    unfold Ranked at hranked
    omega

theorem rankedState_none (h : rankedState messages source start stop interval bucket = none) :
    ∀ other ∈ messages.states source, start ≤ other.generatedAt → other.generatedAt < stop →
      bucketOf interval other.generatedAt ≠ bucket := by
  intro other hother hstart hstop hbucket
  unfold rankedState at h
  have hnil := List.head?_eq_none_iff.1 h
  have hmem : other ∈ ((messages.states source).filter fun message =>
      start ≤ message.generatedAt ∧ message.generatedAt < stop ∧
        bucketOf interval message.generatedAt = bucket).insertionSort Ranked := by
    rw [List.mem_insertionSort]
    exact List.mem_filter.2 ⟨hother, decide_eq_true ⟨hstart, hstop, hbucket⟩⟩
  rw [hnil] at hmem
  cases hmem

theorem exists_assessment (h : message ∈ messages.states source) :
    ∃ assessment, message.assessment = some assessment ∧
      assessment.generatedAt = message.generatedAt := by
  have hsome := (of_decide_eq_true (List.mem_filter.1 h).2).2.2.2.2
  obtain ⟨assessment, hassessment⟩ := Option.isSome_iff_exists.1 hsome
  refine ⟨assessment, hassessment, message.generatedAt_eq assessment ?_⟩
  unfold EdgeV2Message.assessment at hassessment
  cases hpayload : message.payload with
  | state payload =>
    rw [hpayload] at hassessment
    exact congrArg MessagePayload.state (Option.some.inj hassessment)
  | other =>
    rw [hpayload] at hassessment
    cases hassessment

end

/-! ## The point of a bucket -/

section

variable {minutes : EdgeV2Minutes} {source : MonitoringSource} {start stop interval bucket : ℤ}
variable {group : Group} {slot : LastSlot} {row : EdgeV2Minute}

/-- The point shows the slot. -/
structure Shows (data : HistorySample) (time : ℤ) (value : Option ℚ) (fields : Fields) : Prop where
  generatedAt : data.generatedAt = some time
  observedAt : fields.lookup "observedAt" = some data.observedAt
  assessmentId : fields.lookup "assessmentId" = some data.assessmentId
  observationId : data.observationId = (fields.lookup "observationId").getD .null
  valuePercent : data.valuePercent = value ∨
    data.valuePercent = none ∧ data.inputSource = .str "MIXED"

/-- The point of a group whose newest slot is retained. -/
theorem point_of_retained (hslot : group.lastSlot = some slot) (hcomplete : Complete slot.last)
    (hgenerated : (slot.last.lookup "generatedAt").bind instant? = some slot.lastTime)
    (hstart : start ≤ slot.lastTime) (hstop : slot.lastTime < stop) :
    ∃ data, group.point start stop = some (slot.lastTime, data) ∧
      Shows data slot.lastTime slot.value slot.last := by
  obtain ⟨observedAt, hobserved⟩ := Option.isSome_iff_exists.1 (hcomplete "observedAt" (by decide))
  obtain ⟨assessmentId, hassessment⟩ :=
    Option.isSome_iff_exists.1 (hcomplete "assessmentId" (by decide))
  obtain ⟨dataState, hstate⟩ := Option.isSome_iff_exists.1 (hcomplete "dataState" (by decide))
  obtain ⟨reasonCodes, hreasons⟩ := Option.isSome_iff_exists.1 (hcomplete "reasonCodes" (by decide))
  obtain ⟨generated, hinstant, htime⟩ :
      ∃ generated, (slot.last.lookup "generatedAt").bind instant? = some generated ∧
        generated = slot.lastTime := ⟨_, hgenerated, rfl⟩
  have hretained : decide (start ≤ generated ∧ generated < stop ∧
      generated.tdiv 1000000 = slot.lastTime.tdiv 1000000) = true := by
    rw [htime]
    exact decide_eq_true ⟨hstart, hstop, rfl⟩
  unfold Group.point
  rw [hslot]
  simp only [Option.bind_eq_bind, Option.bind_some, hinstant, hobserved, hassessment, hstate,
    hreasons]
  rw [hretained]
  subst htime
  cases group.isMixed with
  | true => exact ⟨_, rfl, rfl, hobserved, hassessment, rfl, .inr ⟨rfl, rfl⟩⟩
  | false => exact ⟨_, rfl, rfl, hobserved, hassessment, rfl, .inl rfl⟩

/-- What the slots of kept rows retain. -/
theorem Kept.slot_readable (h : Kept row) {slot : Slot} (hslot : slot ∈ row.payload.slots) :
    Complete slot.last ∧ (slot.last.lookup "generatedAt").bind instant? = some slot.time := by
  obtain ⟨v, hv, rfl⟩ := List.mem_map.1 hslot
  obtain ⟨r, htime, hfields, -, -, hcomplete⟩ := h.slot_retained hv
  rw [hfields, htime]
  exact ⟨hcomplete, r.parses⟩

/-- The slots of a device. -/
def EdgeV2Minutes.slots (minutes : EdgeV2Minutes) (source : MonitoringSource) : List Slot :=
  (minutes.ofSource source).flatMap fun row => row.payload.slots

theorem mem_rangeSlots {slot : Slot} :
    slot ∈ rangeSlots (minutes.ofSource source) start stop ↔
      slot ∈ minutes.slots source ∧ start ≤ slot.time ∧ slot.time < stop := by
  unfold rangeSlots EdgeV2Minutes.slots inWindow
  simp only [List.mem_flatMap, List.mem_filter, decide_eq_true_eq]
  constructor
  · rintro ⟨row, hrow, hslot, hrange⟩
    exact ⟨⟨row, hrow, hslot⟩, hrange⟩
  · rintro ⟨⟨row, hrow, hslot⟩, hrange⟩
    exact ⟨row, hrow, hslot, hrange⟩

/-- Both readers have the points of the tallies. -/
theorem points_eq (hkept : ∀ row ∈ minutes.rows, Kept row)
    (reader : Reader minutes source start stop) (hinterval : 60 ∣ interval) :
    reader.points interval = some (compactResult (tallies interval
      (rangeSlots (minutes.ofSource source) start stop)) start stop) := by
  have hlocated : ∀ row ∈ minutes.rows, Located row := fun row hrow => (hkept row hrow).located
  have hsummary : ∀ row ∈ minutes.rows, Summarized row := fun row hrow =>
    .inr (.inr (hkept row hrow).summary)
  rw [← rangeSlots_between hlocated]
  cases reader with
  | sqlite =>
    have hsorted := rangeSlots_perm (List.perm_insertionSort (fun a b : EdgeV2Minute =>
      a.bucketStart ≤ b.bucketStart) ((minutes.ofSource source).filter fun minute =>
        minute.bucketStart ∈ boundaries start stop)) start stop
    show some (compactSamples minutes source start stop interval) = _
    rw [compactSamples, (sql_represents hlocated start stop hinterval).result_eq,
      tallies_range hlocated interval
        ((hsorted.append_left _).trans (rangeSlots_split hlocated start stop))]
  | postgresql pages h =>
    have hmem : ∀ row ∈ pages.flatten, row ∈ minutes.ofSource source :=
      fun row hrow => (List.mem_filter.1 (h.mem_iff.1 hrow)).1
    obtain ⟨groups, hgroups, hrep⟩ := summary_represents hmem hinterval hlocated hsummary
    show (summaryStreamGroups minutes source pages start stop interval).map _ = _
    rw [hgroups, Option.map_some, hrep.result_eq,
      tallies_range hlocated interval (rangeSlots_perm h start stop)]

variable (source start stop) in
/-- **The point of a bucket** shows the newest slot in it. -/
theorem point_spec (hkept : ∀ row ∈ minutes.rows, Kept row) (interval bucket : ℤ) :
    (compactResult (tallies interval (rangeSlots (minutes.ofSource source) start stop)) start stop
        bucket = none ∧ ∀ slot ∈ minutes.slots source, start ≤ slot.time → slot.time < stop →
          bucketOf interval slot.time ≠ bucket) ∨
    ∃ slot ∈ minutes.slots source, ∃ data, (start ≤ slot.time ∧ slot.time < stop ∧
        bucketOf interval slot.time = bucket) ∧
      compactResult (tallies interval (rangeSlots (minutes.ofSource source) start stop)) start stop
        bucket = some (some (slot.time, data)) ∧
      Shows data slot.time slot.value slot.last ∧
      ∀ other ∈ minutes.slots source, start ≤ other.time → other.time < stop →
        bucketOf interval other.time = bucket → other.time ≤ slot.time := by
  have hmem : ∀ slot, slot ∈ inBucket interval bucket
      (rangeSlots (minutes.ofSource source) start stop) ↔ slot ∈ minutes.slots source ∧
        start ≤ slot.time ∧ slot.time < stop ∧ bucketOf interval slot.time = bucket := by
    intro slot
    rw [inBucket, List.mem_filter, mem_rangeSlots, decide_eq_true_eq, and_assoc, and_assoc]
  unfold compactResult tallies
  cases hlast : lastMax Slot.time (inBucket interval bucket
      (rangeSlots (minutes.ofSource source) start stop)) with
  | none =>
    have hnil := lastMax_eq_none.1 hlast
    left
    rw [if_pos hnil]
    refine ⟨rfl, fun slot hslot hstart hstop hbucket => ?_⟩
    have hin := (hmem slot).2 ⟨hslot, hstart, hstop, hbucket⟩
    rw [hnil] at hin
    cases hin
  | some slot =>
    obtain ⟨hslot, hstart, hstop, hbucket⟩ := (hmem slot).1 (lastMax_mem hlast)
    obtain ⟨row, hrow, hin⟩ := List.mem_flatMap.1 hslot
    obtain ⟨hcomplete, hgenerated⟩ :=
      (hkept row (List.mem_filter.1 hrow).1).slot_readable hin
    have hgroup : (tally (inBucket interval bucket
        (rangeSlots (minutes.ofSource source) start stop))).lastSlot = some slot.lastSlot := by
      unfold tally
      rw [hlast]
      rfl
    obtain ⟨data, hpoint, hshows⟩ := point_of_retained hgroup hcomplete
      hgenerated hstart hstop
    have hne : inBucket interval bucket (rangeSlots (minutes.ofSource source) start stop) ≠ [] :=
      List.ne_nil_of_mem (lastMax_mem hlast)
    right
    refine ⟨slot, hslot, data, ⟨hstart, hstop, hbucket⟩, ?_, hshows, ?_⟩
    · rw [if_neg hne, Option.map_some, hpoint]
      rfl
    · intro other hother hstart hstop hbucket
      exact le_lastMax hlast ((hmem other).2 ⟨hother, hstart, hstop, hbucket⟩)

end

/-! ## Observations -/

/-- A stored observation of a device: a STATE message that is stored in full, or a slot of a
minute. -/
inductive Observation
  | state (message : EdgeV2Message)
  | slot (slot : Slot)

def Observation.time : Observation → ℤ
  | .state message => message.generatedAt
  | .slot second => second.time

def observations (messages : EdgeV2Messages) (minutes : EdgeV2Minutes) (source : MonitoringSource) :
    List Observation :=
  (messages.states source).map .state ++ (minutes.slots source).map .slot

def BucketSample.span (sample : BucketSample) : Set ℤ :=
  Set.Ico sample.bucketStartAt sample.bucketEndAt

/-- The observation is the one that the sample shows. -/
def Observation.ShownIn (ttlSeconds : ℕ) (now : ℤ) (sample : BucketSample) : Observation → Prop
  | .state message => ∃ assessment, message.assessment = some assessment ∧
      sample.toHistorySample = stateSample ttlSeconds now assessment
  | .slot second => Shows sample.toHistorySample second.time second.value second.last

/-- The sample shows the newest of the observations in its bucket, if there are any. -/
def Newest (ttlSeconds : ℕ) (now : ℤ) (observed : List Observation) (sample : BucketSample) :
    Prop :=
  ((∀ o ∈ observed, o.time ∉ sample.span) ∧ sample.toHistorySample = noData) ∨
    ∃ o ∈ observed, o.time ∈ sample.span ∧
      (∀ other ∈ observed, other.time ∈ sample.span → other.time ≤ o.time) ∧
      sample.generatedAt = some o.time ∧ o.ShownIn ttlSeconds now sample

section

variable {messages : EdgeV2Messages} {minutes : EdgeV2Minutes} {source : MonitoringSource}
variable {start stop bucket now : ℤ} {interval : HistoryInterval} {ttlSeconds : ℕ}

theorem mem_observations {o : Observation} : o ∈ observations messages minutes source ↔
    (∃ message ∈ messages.states source, o = .state message) ∨
      ∃ slot ∈ minutes.slots source, o = .slot slot := by
  unfold observations
  rw [List.mem_append, List.mem_map, List.mem_map]
  simp only [eq_comm]

variable (now ttlSeconds) in
theorem bucketSample_span (state : Option Assessment) (retained : Option (ℤ × HistorySample))
    (span : ℤ × ℤ) :
    (bucketSample ttlSeconds now state retained span).bucketStartAt = span.1 ∧
      (bucketSample ttlSeconds now state retained span).bucketEndAt = span.2 := by
  unfold bucketSample
  cases retained with
  | none => exact ⟨rfl, rfl⟩
  | some point =>
    dsimp only
    split_ifs <;> exact ⟨rfl, rfl⟩

section

variable {sample : BucketSample} {message : EdgeV2Message} {slot : Slot}

variable (hspan : ∀ t, t ∈ sample.span ↔
  start ≤ t ∧ t < stop ∧ bucketOf interval.seconds t = bucket)

include hspan

theorem newest_of_none
    (hmessages : ∀ message ∈ messages.states source, start ≤ message.generatedAt →
      message.generatedAt < stop → bucketOf interval.seconds message.generatedAt ≠ bucket)
    (hslots : ∀ slot ∈ minutes.slots source, start ≤ slot.time → slot.time < stop →
      bucketOf interval.seconds slot.time ≠ bucket)
    (hsample : sample.toHistorySample = noData) :
    Newest ttlSeconds now (observations messages minutes source) sample := by
  refine .inl ⟨fun o ho ht => ?_, hsample⟩
  obtain ⟨hstart, hstop, hbucket⟩ := (hspan _).1 ht
  obtain ⟨message, hmessage, rfl⟩ | ⟨slot, hslot, rfl⟩ := mem_observations.1 ho
  · exact hmessages message hmessage hstart hstop hbucket
  · exact hslots slot hslot hstart hstop hbucket

/-- A message of the first rank is shown, where no slot is newer. -/
theorem newest_of_state {assessment : Assessment}
    (hstate : rankedState messages source start stop interval.seconds bucket = some message)
    (hslots : ∀ slot ∈ minutes.slots source, start ≤ slot.time → slot.time < stop →
      bucketOf interval.seconds slot.time = bucket → slot.time ≤ message.generatedAt)
    (hassessment : message.assessment = some assessment)
    (htime : assessment.generatedAt = message.generatedAt)
    (hsample : sample.toHistorySample = stateSample ttlSeconds now assessment) :
    Newest ttlSeconds now (observations messages minutes source) sample := by
  obtain ⟨hmessage, hin, hmax⟩ := rankedState_spec hstate
  refine .inr ⟨.state message, mem_observations.2 (.inl ⟨message, hmessage, rfl⟩),
    (hspan _).2 hin, fun other hother ht => ?_, ?_, assessment, hassessment, hsample⟩
  · obtain ⟨hstart, hstop, hbucket⟩ := (hspan _).1 ht
    obtain ⟨message', hmessage', rfl⟩ | ⟨slot, hslot, rfl⟩ := mem_observations.1 hother
    · exact hmax message' hmessage' hstart hstop hbucket
    · exact hslots slot hslot hstart hstop hbucket
  · rw [hsample]
    exact congrArg some htime

/-- The newest slot is shown, where no message is newer. -/
theorem newest_of_slot (hslot : slot ∈ minutes.slots source)
    (hin : start ≤ slot.time ∧ slot.time < stop ∧ bucketOf interval.seconds slot.time = bucket)
    (hnewest : ∀ other ∈ minutes.slots source, start ≤ other.time → other.time < stop →
      bucketOf interval.seconds other.time = bucket → other.time ≤ slot.time)
    (hmessages : ∀ message ∈ messages.states source, start ≤ message.generatedAt →
      message.generatedAt < stop → bucketOf interval.seconds message.generatedAt = bucket →
        message.generatedAt ≤ slot.time)
    (hshows : Shows sample.toHistorySample slot.time slot.value slot.last) :
    Newest ttlSeconds now (observations messages minutes source) sample := by
  refine .inr ⟨.slot slot, mem_observations.2 (.inr ⟨slot, hslot, rfl⟩), (hspan _).2 hin,
    fun other hother ht => ?_, hshows.generatedAt, hshows⟩
  obtain ⟨hstart, hstop, hbucket⟩ := (hspan _).1 ht
  obtain ⟨message, hmessage, rfl⟩ | ⟨slot', hslot', rfl⟩ := mem_observations.1 hother
  · exact hmessages message hmessage hstart hstop hbucket
  · exact hnewest slot' hslot' hstart hstop hbucket

end

variable (messages source start stop bucket now interval ttlSeconds) in
theorem sampleOf_span (retained : Option (ℤ × HistorySample)) (t : ℤ) :
    t ∈ (sampleOf ttlSeconds messages source start stop interval now bucket retained).span ↔
      start ≤ t ∧ t < stop ∧ bucketOf interval.seconds t = bucket := by
  unfold BucketSample.span sampleOf
  obtain ⟨hstart, hend⟩ := bucketSample_span now ttlSeconds
    ((rankedState messages source start stop interval.seconds bucket).bind EdgeV2Message.assessment)
    retained (cell start stop interval.width bucket)
  rw [hstart, hend, mem_cell interval.width_pos, and_assoc]
  exact Iff.rfl

variable (messages source start stop now interval ttlSeconds) in
/-- **The sample of a bucket** shows the newest observation of either store. -/
theorem sampleOf_newest (hkept : ∀ row ∈ minutes.rows, Kept row) (bucket : ℤ) :
    ∃ retained, compactResult (tallies interval.seconds (rangeSlots (minutes.ofSource source) start
        stop)) start stop bucket = retained.map some ∧
      Newest ttlSeconds now (observations messages minutes source)
        (sampleOf ttlSeconds messages source start stop interval now bucket retained) := by
  obtain ⟨hpoint, hslots⟩ | ⟨slot, hslot, data, hin, hpoint, hshows, hnewest⟩ :=
    point_spec source start stop hkept interval.seconds bucket
  · refine ⟨none, hpoint, ?_⟩
    have hspan := sampleOf_span messages source start stop bucket now interval ttlSeconds none
    cases hstate : rankedState messages source start stop interval.seconds bucket with
    | none =>
      refine newest_of_none hspan (rankedState_none hstate) hslots ?_
      unfold sampleOf
      rw [hstate]
      rfl
    | some message =>
      obtain ⟨assessment, hassessment, htime⟩ := exists_assessment (rankedState_spec hstate).1
      refine newest_of_state hspan hstate (fun slot hslot hstart hstop hbucket =>
        absurd hbucket (hslots slot hslot hstart hstop)) hassessment htime ?_
      unfold sampleOf
      rw [hstate, Option.bind_some, hassessment]
      rfl
  · refine ⟨some (slot.time, data), hpoint, ?_⟩
    have hspan := sampleOf_span messages source start stop bucket now interval ttlSeconds
      (some (slot.time, data))
    cases hstate : rankedState messages source start stop interval.seconds bucket with
    | none =>
      refine newest_of_slot hspan hslot hin hnewest (fun message hmessage hstart hstop hbucket =>
        absurd hbucket (rankedState_none hstate message hmessage hstart hstop)) ?_
      unfold sampleOf
      rw [hstate]
      exact hshows
    | some message =>
      obtain ⟨hmessage, -, hmax⟩ := rankedState_spec hstate
      obtain ⟨assessment, hassessment, htime⟩ := exists_assessment hmessage
      by_cases hnewer : message.generatedAt < slot.time
      · refine newest_of_slot hspan hslot hin hnewest (fun other hother hstart hstop hbucket =>
          (hmax other hother hstart hstop hbucket).trans hnewer.le) ?_
        have hsample : (sampleOf ttlSeconds messages source start stop interval now bucket
            (some (slot.time, data))).toHistorySample = data := by
          unfold sampleOf
          rw [hstate, Option.bind_some, hassessment]
          exact congrArg BucketSample.toHistorySample (if_pos (decide_eq_true (htime ▸ hnewer)))
        rw [hsample]
        exact hshows
      · refine newest_of_state hspan hstate (fun other hother hstart hstop hbucket =>
          (hnewest other hother hstart hstop hbucket).trans (not_lt.1 hnewer)) hassessment htime ?_
        unfold sampleOf
        rw [hstate, Option.bind_some, hassessment]
        exact congrArg BucketSample.toHistorySample
          (if_neg fun h => hnewer (htime ▸ of_decide_eq_true h))

/-! ## The samples -/

/-- What the samples of a range satisfy. -/
structure Samples (ttlSeconds : ℕ) (now start stop : ℤ) (observed : List Observation)
    (samples : List BucketSample) : Prop where
  nonempty : ∀ sample ∈ samples, sample.bucketStartAt < sample.bucketEndAt
  contiguous : samples.IsChain fun a b => a.bucketEndAt = b.bucketStartAt
  tiles : Tiles (samples.map fun sample => (sample.bucketStartAt, sample.bucketEndAt))
    (Set.Ico start stop)
  bounded : samples.length ≤ maxPoints
  unique : ∀ o ∈ observed, o.time ∈ Set.Ico start stop →
    ∃! sample, sample ∈ samples ∧ o.time ∈ sample.span
  newest : ∀ sample ∈ samples, Newest ttlSeconds now observed sample

theorem readHistory_samples (hkept : ∀ row ∈ minutes.rows, Kept row)
    (haccepted : Accepted start stop now interval) (reader : Reader minutes source start stop) :
    ∃ samples, readHistory ttlSeconds messages reader interval now = some samples ∧
      Samples ttlSeconds now start stop (observations messages minutes source) samples := by
  have hbucket := sampleOf_newest messages source start stop now interval ttlSeconds hkept
  choose retained hpoint hnewest using hbucket
  have hread : readHistory ttlSeconds messages reader interval now =
      some ((cellNumbers start stop interval.width).map fun bucket =>
        sampleOf ttlSeconds messages source start stop interval now bucket (retained bucket)) := by
    unfold readHistory
    rw [points_eq hkept reader interval.minute_dvd, Option.bind_eq_bind, Option.bind_some]
    refine mapM_eq_some fun bucket _ => ?_
    rw [hpoint bucket]
    cases retained bucket with
    | none => rfl
    | some point => rfl
  have hcell : ∀ bucket, ((sampleOf ttlSeconds messages source start stop interval now bucket
      (retained bucket)).bucketStartAt, (sampleOf ttlSeconds messages source start stop interval now
        bucket (retained bucket)).bucketEndAt) = cell start stop interval.width bucket := by
    intro bucket
    obtain ⟨hstart, hend⟩ := bucketSample_span now ttlSeconds
      ((rankedState messages source start stop interval.seconds bucket).bind
        EdgeV2Message.assessment) (retained bucket) (cell start stop interval.width bucket)
    exact Prod.ext hstart hend
  have hcells : ((cellNumbers start stop interval.width).map fun bucket =>
      sampleOf ttlSeconds messages source start stop interval now bucket (retained bucket)).map
        (fun sample => (sample.bucketStartAt, sample.bucketEndAt)) =
      cells start stop interval.width := by
    rw [List.map_map]
    exact List.map_congr_left fun bucket _ => hcell bucket
  refine ⟨_, hread, ?_, ?_, ?_, ?_, ?_, ?_⟩
  · intro sample hsample
    obtain ⟨bucket, hmem, rfl⟩ := List.mem_map.1 hsample
    have hlt := cell_lt interval.width_pos haccepted.started hmem
    rw [← hcell bucket] at hlt
    exact hlt
  · have hchain := cells_chain interval.width_pos start stop
    rw [← hcells, List.isChain_map] at hchain
    exact hchain
  · rw [hcells]
    exact cells_tiles interval.width_pos start stop
  · have hbounded := haccepted.bounded
    rw [List.length_map, length_cellNumbers]
    unfold points maxPoints at hbounded
    unfold maxPoints
    omega
  · rintro o - ⟨hstart, hstop⟩
    have hmem := cellNumber_mem interval.width_pos hstart hstop
    refine ⟨_, ⟨List.mem_map_of_mem hmem, (sampleOf_span ..).2 ⟨hstart, hstop, rfl⟩⟩, ?_⟩
    rintro sample ⟨hsample, ht⟩
    obtain ⟨bucket, -, rfl⟩ := List.mem_map.1 hsample
    obtain ⟨-, -, rfl⟩ := (sampleOf_span ..).1 ht
    rfl
  · intro sample hsample
    obtain ⟨bucket, -, rfl⟩ := List.mem_map.1 hsample
    exact hnewest bucket

/-- **The samples of a history tile the requested range and show the newest observation of each
bucket.** -/
theorem history_samples {es : List (Entry ProjectionState ProjectionOp (List FilterTransition))}
    {s : ProjectionState} (hrun : Run projectionStep {} es s) :
    (∀ fromTime toTime requested now start stop interval,
      historyWindow fromTime toTime requested now = .ok (start, stop, interval) →
      ∀ (ttlSeconds : ℕ) (messages : EdgeV2Messages) (source : MonitoringSource)
        (reader : Reader s.minutes source start stop),
      ∃ samples, readHistory ttlSeconds messages reader interval now = some samples ∧
        Samples ttlSeconds now start stop (observations messages s.minutes source) samples) ∧
    ∀ fromTime toTime now start stop, utcRange fromTime toTime now = .ok (start, stop) →
      stop ≤ now + seconds 5 → start < stop → stop - start ≤ 90 * dayLength →
        ∃ interval, historyWindow fromTime toTime none now = .ok (start, stop, interval) :=
  ⟨fun _ _ _ _ _ _ _ hwindow _ _ _ reader =>
      readHistory_samples (kept_of_run hrun) (accepted_of_window hwindow).1 reader,
    fun _ _ _ _ _ hutc hpast hstarted hwithin =>
      historyWindow_auto hutc hpast hstarted hwithin⟩

end

/-! ### Two buckets -/

/-- A message at 130 s. -/
def sampleMessages : EdgeV2Messages where
  rows := [{
    id := 1
    siteId := "site"
    edgeId := "edge"
    messageType := "edge_assessment"
    generatedAt := seconds 130
    compact := false
    payload := .state ⟨"site", "edge", "m-5", seconds 130, "cfg", "a-5", some (seconds 129), none,
      .available, [], none⟩
    generatedAt_eq := by
      rintro assessment h
      obtain rfl := MessagePayload.state.inj h
      rfl }]
  primaryKey := by decide

/-- The minutes show the first bucket of the range, and the message the second one. -/
theorem history_samples_projected : ∃ es s samples, Run projectionStep {} es s ∧
    readHistory 30 sampleMessages
      (.sqlite : Reader s.minutes ⟨"site", "edge"⟩ (seconds 100) (seconds 160)) .minute
        (seconds 200) =
        some samples ∧
    Samples 30 (seconds 200) (seconds 100) (seconds 160)
      (observations sampleMessages s.minutes ⟨"site", "edge"⟩) samples ∧
    historyWindow (some ⟨true, some (seconds 100)⟩) (some ⟨true, some (seconds 160)⟩) none
      (seconds 200) = .ok (seconds 100, seconds 160, .minute) := by
  obtain ⟨es, s, row, hexec, -⟩ := exec_projections
  have hwindow :
      historyWindow (some ⟨true, some (seconds 100)⟩) (some ⟨true, some (seconds 160)⟩) none
        (seconds 200) = .ok (seconds 100, seconds 160, .minute) := by decide +kernel
  obtain ⟨samples, hread, hsamples⟩ := (history_samples (Run.of_exec hexec)).1 _ _ _ _ _ _ _ hwindow
    30 sampleMessages ⟨"site", "edge"⟩ .sqlite
  exact ⟨es, s, samples, .of_exec hexec, hread, hsamples, hwindow⟩

end ScrapMonitoring.History
