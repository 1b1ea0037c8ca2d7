import ScrapMonitoring.Collection.Episodes
import ScrapMonitoring.Filtering.Heights
import ScrapMonitoring.Foundations.Median
import ScrapMonitoring.Monitoring.Snapshot

/-!
# The sweep of the collection worker

`process_collection_source` of `services/collection_detection_service.py` reads the tracker of a
device, which is one row, and the snapshot of the pit that the device is assigned to. From the
configuration, the row and the snapshot it decides whether to leave the tracker as it is, to
`invalidate` it, to begin a fresh one or to `advance` it. A tracker belongs to a pit and a scope
(`collectionScope`); for a sweep of another pit or scope the row is no tracker at all
(`SweepInput.state`).

A sweep that fails or whose commit fails is rolled back and is no step of a run. What a sweep has
called is recorded beside the row and the event rows that it writes.
-/

namespace ScrapMonitoring.Collection

open Monitoring (MonitoringSource MonitoringSnapshotV2 PitConfig FillObservation)

/-! ## Configuration -/

inductive HeightBasis
  | upper
  | representative
  deriving DecidableEq, Repr

def HeightBasis.name : HeightBasis → String
  | upper => "UPPER"
  | representative => "REPRESENTATIVE"

/-- The settings of the process that a sweep reads. -/
structure Configuration where
  enabled : Bool
  heightBasis : HeightBasis
  monitoring : Monitoring.Settings
  detection : Settings

def maxGapSeconds : ℤ := 3

def detectionVersion : String := "UPPER_RISING_BASELINE_V3"

/-- `collection_profile`: only the geometry of a simulation selects the short timing. -/
def collectionProfile (config : Configuration) (source : MonitoringSource) : Profile :=
  if (config.monitoring.heightReference source.pitId).any Monitoring.HeightContext.isSimulation then
    .simulation
  else .field

/-- `collection_settle_seconds`. -/
def collectionSettleSeconds (config : Configuration) (source : MonitoringSource) : ℤ :=
  config.detection.collectionSettleSeconds (collectionProfile config source)

/-- The source as `model_dump` writes it. -/
def sourceDump (source : MonitoringSource) : Json :=
  .obj [("pit_id", .str source.pitId), ("site_id", .str source.siteId),
    ("edge_id", .str source.edgeId)]

/-- `collection_scope`: the name of everything a tracker depends on. There is none without a
method or without a drop. -/
def collectionScope (hash : Json → String) (config : Configuration) (source : MonitoringSource)
    (pit : Option PitConfig) : Option String := do
  let depth := pit.map PitConfig.totalDepthCm
  let method ← Monitoring.heightMethod hash config.monitoring source depth
  let drop ← config.detection.dropMeters
  return EdgeV2.digest hash (.arr [.str detectionVersion, sourceDump source, .str method,
    .str config.heightBasis.name, .float drop, .float config.detection.stableBandMeters,
    .int config.detection.confirmSeconds, .int config.detection.baselineSeconds,
    .int (collectionSettleSeconds config source)])

/-! ## The input of a sweep -/

/-- `HeightWindow`, with the message of its row. -/
structure HeightWindow where
  messageId : String
  scope : String
  sensors : String → Option Filtering.SensorWindow

/-- Everything a sweep reads beside the row of the tracker. -/
structure SweepInput where
  config : Configuration
  source : MonitoringSource
  /-- What `build_snapshot` returns at the time of the sweep. -/
  snapshot : MonitoringSnapshotV2
  pit : Option PitConfig
  heightWindow : Option HeightWindow
  /-- What `window_scope` returns at the time of the sweep. -/
  windowScope : String
  /-- The `time_basis` of the observation. -/
  timeBasis : String

/-- The upper height that a sensor's window supports, and the time of its newest frame. -/
def windowHeight (size : ℕ) (window : Filtering.SensorWindow) : Option (ℚ × ℤ) := do
  if window.frames.length = size then
    let maxima ← window.frames.mapM Filtering.HeightFrame.maximumCm
    let value ← median maxima
    let last ← window.frames.getLast?
    return (value, last.time)
  else none

namespace SweepInput

variable (hash : Json → String) (i : SweepInput)

def scope : Option String := collectionScope hash i.config i.source i.pit

def depth : Option ℚ :=
  Monitoring.referenceDepth (i.config.monitoring.heightReference i.source.pitId)
    (i.pit.map PitConfig.totalDepthCm)

/-- The UPPER height of `collection_height`: the median of the maxima of each sensor, then the
maximum over the sensors, all of windows that end at the observation. -/
def upperHeight (observation : FillObservation) : Option ℚ := do
  let reference ← i.config.monitoring.heightReference i.source.pitId
  let window ← i.heightWindow
  if window.messageId = observation.messageId ∧ window.scope = i.windowScope then
    let readings ← reference.sensors.mapM fun sensor => do
      windowHeight i.config.monitoring.medianWindowSeconds (← window.sensors sensor)
    if (readings.map Prod.snd).max? = observation.observedTo then (readings.map Prod.fst).max?
    else none
  else none

/-- `collection_height`. -/
def collectionHeight (observation : FillObservation) (representativeCm : ℚ) : Option ℚ :=
  match i.config.heightBasis with
  | .representative => some representativeCm
  | .upper => i.upperHeight observation

/-- `height_cm` of `read_collection_input`. -/
def heightCm : Option ℚ := do
  let observation ← i.snapshot.fillObservation
  let depth ← i.depth
  let loadPercent ← i.snapshot.summary.loadPercent
  i.collectionHeight observation (loadPercent * depth / 100)

end SweepInput

/-- What a valid input comes to. -/
structure ValidInput where
  scope : String
  observation : FillObservation
  observed : ℤ
  heightCm : ℚ

/-- `valid`, with the values that the assertions after it name. -/
def SweepInput.valid? (hash : Json → String) (i : SweepInput) : Option ValidInput := do
  let scope ← i.scope hash
  let _ ← i.depth
  let observation ← i.snapshot.fillObservation
  let observed ← observation.observedTo
  let heightCm ← i.heightCm
  if i.snapshot.dataState = .fresh ∧ i.snapshot.summary.filterState = .ready ∧
      i.snapshot.summary.loadPercent.isSome ∧ observation.source = .heightSections ∧
      observation.simulated = (collectionProfile i.config i.source = .simulation) then
    some ⟨scope, observation, observed, heightCm⟩
  else none

/-! ## The sweep -/

/-- The row of `edge_v2_latest` that keeps the tracker of a device. -/
structure TrackerRow where
  messageId : String
  generatedAt : ℤ
  payload : CollectionTracker
  deriving DecidableEq

/-- A row of `edge_v2_transitions` that records an event of the detector. -/
structure CollectionTransition where
  siteId : String
  edgeId : String
  occurredAt : ℤ
  event : DetectionEvent
  pitId : String
  scopeToken : String
  simulated : Bool
  methodVersion : Option String
  observationId : String
  timeBasis : String
  detectionVersion : String
  heightBasis : HeightBasis
  detectionProfile : Profile
  settleSeconds : ℤ
  endPolicy : String
  deriving DecidableEq

/-- The row of an event of a valid input. -/
def SweepInput.transition (i : SweepInput) (input : ValidInput) (simulated : Bool)
    (event : DetectionEvent) : CollectionTransition where
  siteId := i.source.siteId
  edgeId := i.source.edgeId
  occurredAt := input.observed
  event := event
  pitId := i.source.pitId
  scopeToken := input.scope
  simulated := simulated
  methodVersion := input.observation.methodVersion
  observationId := input.observation.observationId
  timeBasis := i.timeBasis
  detectionVersion := detectionVersion
  heightBasis := i.config.heightBasis
  detectionProfile := collectionProfile i.config i.source
  settleSeconds := collectionSettleSeconds i.config i.source
  endPolicy := "NO_FURTHER_DROP"

/-- What a sweep has done with trackers: to begin one, and the two operations on one. -/
inductive TrackerCall
  | begin
  | invalidate
  | advance (heightCm : ℚ) (observed : ℤ)
  deriving DecidableEq, Repr

/-- What a sweep leaves behind beside the row of the tracker: its calls, in order, and the event
rows it has added. -/
structure Swept where
  calls : List TrackerCall
  events : List CollectionTransition
  deriving DecidableEq

/-- A sweep that changes nothing. -/
def Swept.idle : Swept := ⟨[], []⟩

/-- `state` of a sweep: the tracker of the row, if it is of the pit and of the scope. -/
def SweepInput.state (hash : Json → String) (i : SweepInput) (row : Option TrackerRow) :
    Option CollectionTracker := do
  let row ← row
  if row.payload.pitId = i.source.pitId ∧ some row.payload.scopeToken = i.scope hash then
    some row.payload
  else none

/-- The sweep of an input that is not valid. -/
def outage (row : Option TrackerRow) (state : Option CollectionTracker) :
    Option TrackerRow × Swept :=
  match row, state with
  | some row, some state =>
    if state.inputValid then
      (some { row with payload := invalidate state }, ⟨[.invalidate], []⟩)
    else (some row, .idle)
  | row, _ => (row, .idle)

/-- Whether the row has already seen the observation, or a newer one. -/
def seenBefore (row : Option TrackerRow) (state : Option CollectionTracker)
    (input : ValidInput) : Bool :=
  match row, state with
  | some row, some state =>
    input.observed ≤ state.observedAt ∨ input.observation.generatedAt ≤ row.generatedAt
  | _, _ => false

/-- The tracker that is advanced, and what has been called for it. -/
def prepare (source : MonitoringSource) (input : ValidInput) :
    Option CollectionTracker → CollectionTracker × List TrackerCall
  | none =>
    (.fresh source.pitId input.scope input.observed input.observation.simulated, [.begin])
  | some state =>
    if seconds maxGapSeconds < input.observed - state.observedAt then
      (invalidate state, [.invalidate])
    else (state, [])

variable (hash : Json → String) (digest : String → ℤ → String)

/-- The sweep of a valid input that is new. -/
def SweepInput.observe (i : SweepInput) (input : ValidInput) (state : Option CollectionTracker) :
    Option (Option TrackerRow × Swept) := do
  let (ready, calls) := prepare i.source input state
  let (next, events) ← advance i.config.detection digest ready input.heightCm input.observed
    (some (collectionSettleSeconds i.config i.source))
  return (some ⟨input.observation.messageId, input.observation.generatedAt, next⟩,
    ⟨calls ++ [.advance input.heightCm input.observed],
      events.map (i.transition input next.simulated)⟩)

/-- `process_collection_source`, on the row of the device. -/
def processCollectionSource (row : Option TrackerRow) (i : SweepInput) :
    Option (Option TrackerRow × Swept) :=
  if i.config.enabled then
    match i.valid? hash with
    | none => some (outage row (i.state hash row))
    | some input =>
      if seenBefore row (i.state hash row) input then some (row, .idle)
      else i.observe digest input (i.state hash row)
  else some (row, .idle)

end ScrapMonitoring.Collection
