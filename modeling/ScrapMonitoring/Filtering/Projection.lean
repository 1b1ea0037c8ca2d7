import ScrapMonitoring.Filtering.Windows
import ScrapMonitoring.Foundations.Median
import ScrapMonitoring.Monitoring.Snapshot

/-!
# The filter of a device

In compact storage every new observation of the fill is projected onto the filter row of its device,
in the transaction that stores it. `projectInput` keeps a window of samples, filters it by its
median and keeps the time since when the filtered value has been above the threshold. A status
report of another instance or of a device that is not well, and whatever else `project` takes for
the end of a series, empties the row.
-/

namespace ScrapMonitoring.Filtering

open Monitoring EdgeV2

/-! ## What is projected -/

/-- An observation with what `project_input` reads besides the row: the settings, the time of the
receipt, the status of the device and the settings of the pits. The height is filtered elsewhere. -/
structure Projection where
  settings : Settings
  observation : FillObservation
  receivedAt : ℤ
  status : DeviceStatus
  pitConfig : String → Option PitConfig
  heightFilteredPercent : Option ℚ

/-- The payload of a transition that a projection adds. -/
inductive FilterTransitionPayload
  | fillInputChanged (inputSource : InputSource) (methodVersion : Option String)
      (previousInputSource : InputSource) (previousMethodVersion : Option String)
      (messageId observationId : String)
  | measurementValidityChanged (previousValid : Bool) (pitId : Option String)
      (simulated currentValid : Bool) (assessmentId : Option String) (observationId : String)
      (inputSource : InputSource) (messageId : String) (reasonCodes : List String)
  deriving DecidableEq

structure FilterTransition where
  siteId : String
  edgeId : String
  occurredAt : ℤ
  payload : FilterTransitionPayload
  deriving DecidableEq

namespace Projection

variable (i : Projection)

/-- The source that the device is assigned to. -/
def assignment : Option MonitoringSource :=
  i.settings.monitoringSources.find? fun source =>
    source.device = (i.observation.siteId, i.observation.edgeId)

def threshold : ℚ :=
  i.settings.threshold (i.assignment.bind fun source => i.pitConfig source.pitId)

/-- What the samples of a window have in common with the observation. -/
def scope : FilterScope where
  configRevision := i.observation.configRevision
  ruleVersion := i.observation.ruleVersion
  methodVersion := i.observation.methodVersion
  orchestratorInstanceId :=
    i.status.snapshot.map fun message => message.report.orchestratorInstanceId
  pitId := i.assignment.map MonitoringSource.pitId
  threshold := i.threshold
  source := i.observation.source
  scopeToken := i.observation.scopeToken

/-- The number of samples that the filter needs. -/
def size : ℕ := i.settings.medianWindowSeconds

/-- The observation is fresh, and of a device that reports, is well and has its configuration. -/
def trusted (observed : ℤ) : Bool :=
  observed ≤ i.receivedAt ∧ i.receivedAt - observed < i.settings.ttl ∧
    i.status.connectionState = .reporting ∧ i.status.effectiveState ∈ [.healthy, .degraded] ∧
    i.status.snapshot.any fun message =>
      message.payload.configRevision = i.observation.configRevision

/-- The sample of an observation that is valid by itself. -/
def sample : Option Sample :=
  match i.observation.valuePercent, i.observation.observedTo with
  | some value, some observed => if i.trusted observed then some ⟨observed, value⟩ else none
  | _, _ => none

end Projection

/-! ## The window -/

/-- What becomes of the window with an observation. -/
structure Window where
  valid : Bool
  samples : List Sample
  anchor : Option ℤ
  value : Option ℚ
  state : FilterState

/-- A later time of generation does not turn an old observation into a new sample. -/
def stale (previous : Option FilterPayload) (sample : Sample) : Bool :=
  (previous.bind FilterPayload.observedAt).any fun last => sample.time ≤ last

def Window.rejected : Window := ⟨false, [], none, none, .unavailable⟩

namespace Projection

variable (i : Projection)

/-- The filtered value of a whole window. -/
def filtered (samples : List Sample) : Option ℚ :=
  if samples.length = i.size then
    match i.observation.source with
    | .heightSections => i.heightFilteredPercent
    | .edgeState => median (samples.map Sample.value)
  else none

/-- The row goes on with the sample: of one scope, and without a gap. -/
def continues (row : FilterPayload) (sample : Sample) : Bool :=
  row.scope = i.scope ∧ ¬row.observedAt.any fun last => gapLimit < sample.time - last

/-- The samples with a new one, before its window is selected. -/
def extended (previous : Option FilterPayload) (sample : Sample) : List Sample :=
  ((previous.filter fun row => i.continues row sample).map FilterPayload.samples).getD [] ++
    [sample]

/-- The positions of the samples in the new window, and its anchor. -/
def slots (previous : Option FilterPayload) (sample : Sample) : List ℕ × ℤ :=
  observationSlots ((i.extended previous sample).map Sample.time) sample.time i.size
    ((previous.filter fun row => i.continues row sample).bind FilterPayload.slotAnchorAt)

/-- The window with a sample that is newer than the row. -/
def admitted (previous : Option FilterPayload) (sample : Sample) : Window :=
  let samples := pick (i.extended previous sample) (i.slots previous sample).1
  { valid := true
    samples := samples
    anchor := some (i.slots previous sample).2
    value := i.filtered samples
    state := if (i.filtered samples).isSome then .ready else .warming }

def window (previous : Option FilterPayload) : Window :=
  match i.sample with
  | none => .rejected
  | some sample => if stale previous sample then .rejected else i.admitted previous sample

/-- Since when the filtered value has been at or above the threshold. -/
def aboveSince (previous : Option FilterPayload) (window : Window) : Option ℤ :=
  if window.value.any fun value => i.threshold ≤ value then
    let kept := previous.filter fun row => row.scope = i.scope ∧ row.state = .ready ∧
      window.samples ≠ [] ∧ window.samples.length = i.size
    (kept.bind FilterPayload.aboveSince).or i.observation.observedTo
  else none

/-! ## The row -/

def row (previous : Option FilterPayload) : FilterPayload where
  scope := i.scope
  samples := (i.window previous).samples
  slotAnchorAt := (i.window previous).anchor
  state := (i.window previous).state
  messageId := i.observation.messageId
  value := (i.window previous).value
  observedAt := i.observation.observedTo
  aboveSince := i.aboveSince previous (i.window previous)
  threshold := i.threshold
  inputValid := (i.window previous).valid
  inputSource := i.observation.source
  methodVersion := i.observation.methodVersion

def transition (payload : FilterTransitionPayload) : FilterTransition :=
  ⟨i.observation.siteId, i.observation.edgeId, i.observation.generatedAt, payload⟩

/-- The transition of an input that differs from the one before in its source or method. -/
def inputTransition (previous : FilterPayload) : List FilterTransition :=
  if previous.inputSource ≠ i.observation.source ∨
      previous.methodVersion ≠ i.observation.methodVersion then
    [i.transition (.fillInputChanged i.observation.source i.observation.methodVersion
      previous.inputSource previous.methodVersion i.observation.messageId
      i.observation.observationId)]
  else []

/-- The transition of an input that is valid where the one before was not, or the other way. -/
def validityTransition (previous : FilterPayload) (valid : Bool) : List FilterTransition :=
  if previous.inputValid ≠ valid then
    [i.transition (.measurementValidityChanged previous.inputValid
      (i.assignment.map MonitoringSource.pitId) i.observation.simulated valid
      (if i.observation.source = .edgeState then some i.observation.observationId else none)
      i.observation.observationId i.observation.source i.observation.messageId
      i.observation.reasonCodes)]
  else []

end Projection

/-- `project_input`: the new row, and the transitions that are added. -/
def projectInput (i : Projection) (previous : Option FilterPayload) :
    FilterPayload × List FilterTransition :=
  (i.row previous, previous.toList.flatMap i.inputTransition ++
    previous.toList.flatMap fun row => i.validityTransition row (i.window previous).valid)

/-! ## The machine -/

/-- What happens to the row of a device; a row that is empty is `none`. -/
inductive FilterOp
  | project (input : Projection)
  | reset

def filterStep (state : Option FilterPayload) (op : FilterOp) :
    Option (Option FilterPayload × List FilterTransition) :=
  match op with
  | .project input =>
    some (some (projectInput input state).1, (projectInput input state).2)
  | .reset => some (none, [])

end ScrapMonitoring.Filtering
