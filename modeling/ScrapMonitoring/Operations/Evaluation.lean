import ScrapMonitoring.Operations.Store

/-!
# One evaluation of a source

`processSource` reads the snapshot of a source and updates the rows of the worker in one
transaction: the cursor, the state with its hysteresis, the critical episode, the transitions and
the alert. The programs here are those of `edge_v2_operations.py` and `alert_lifecycle_service.py`;
each `await` is a call that may fail.
-/

namespace ScrapMonitoring.Operations

open Monitoring

variable (hash : Json → String) (e : Evaluation)

/-! ## Conditions -/

/-- The condition of the fill, where it is fresh and the policy of the pit does not suppress it. -/
def fillCondition (fillState : Option OperationalState) : Tx Store (List (String × String)) := do
  if e.snapshot.dataState ≠ .fresh then return []
  else
    match fillState with
    | some .critical =>
      Tx.call
      return [("fill-critical:" ++ e.source.pitId, "CRITICAL")]
    | some .warning =>
      Tx.call
      return if e.preAlertEnabled ≠ some false then [("fill-warning:" ++ e.source.pitId, "WARNING")]
        else []
    | _ => return []

/-- The times since when the conditions are shown. -/
def startEntries (old : Option Starts) (conditions : List (String × String)) :
    List (String × StartEntry) :=
  let old := old.filter fun old => old.pitId = e.source.pitId
  let continuous := old.filter fun old => 0 ≤ e.now - old.evaluatedAt ∧
    e.now - old.evaluatedAt < seconds (min 30 e.settings.assessmentTtlSeconds : ℕ)
  conditions.map fun condition =>
    let token := signature hash e.snapshot condition.1 condition.2
    let previous := continuous.bind fun old => old.entries.lookup condition.1
    let start := (previous.filter fun entry => entry.signature = token).map StartEntry.startedAt
    (condition.1, ⟨token, start.getD e.now⟩)

/-- `record_starts`: whether the row has changed. -/
def recordStarts (fillState : Option OperationalState) : Tx Store Bool := do
  let row ← Tx.query fun s => s.starts e.source.device
  let conditions ← fillCondition e fillState
  let starts : Starts :=
    ⟨e.source.pitId, e.now, startEntries hash e row (e.healthConditions ++ conditions)⟩
  if row = some starts then return false
  else
    Tx.modify fun s => s.setStarts e.source.device starts
    return true

/-! ## Episodes -/

/-- `invalidate_episode`: whether the row has changed. -/
def invalidateEpisode (source : MonitoringSource) : Tx Store Bool := do
  match ← Tx.query fun s => s.tracker source.device with
  | none => return false
  | some row =>
    if row.pitId ≠ source.pitId then return false
    else if row.episodeId = none ∧ row.inputValid = false then return false
    else
      Tx.modify fun s =>
        s.setTracker source.device { row with episodeId := none, inputValid := false }
      return true

/-- The tracker is of an evaluation that this one follows: of the same pit and scope, with valid
input, and not long before. -/
def Tracker.compatible (row : Tracker) (scope : String) (observed : ℤ) : Bool :=
  row.pitId = e.source.pitId ∧ row.scopeToken = scope ∧ row.inputValid ∧
    0 < observed - row.observedAt ∧ observed - row.observedAt < e.settings.ttl

/-- What becomes of the critical episode. -/
structure Advance where
  identifier : Option String
  hasAlert : Bool
  resolved : Option String

def advance (row : Option Tracker) (scope : String) (observed : ℤ)
    (previous current : OperationalState) : Advance :=
  let old := row.filter fun row => row.compatible e scope observed
  let identifier := old.bind Tracker.episodeId
  let hasAlert := identifier.isSome && old.any Tracker.hasAlert
  if current = .critical then ⟨some (identifier.getD e.uuid), hasAlert, none⟩
  else ⟨none, false, if hasAlert && previous = .critical then identifier else none⟩

/-- `advance_episode`. -/
def advanceEpisode (observation : FillObservation) (observed : ℤ)
    (previous current : OperationalState) : Tx Store (Option String) := do
  let row ← Tx.query fun s => s.tracker e.source.device
  let scope := lifecycleScope hash e.snapshot
  let next := advance e row scope observed previous current
  match next.resolved with
  | none => pure ()
  | some identifier =>
    Tx.modify fun s => s.addTransition ⟨e.source.siteId, e.source.edgeId, e.now,
      .alertResolved e.source.pitId identifier scope observed⟩
  if row.isNone ∧ next.identifier = none then return none
  else
    Tx.modify fun s => s.setTracker e.source.device
      ⟨observation.messageId, observation.generatedAt, e.source.pitId, scope, next.identifier,
        observed, true, next.hasAlert⟩
    return next.identifier

/-- `record_alert`. -/
def recordAlert (observation : FillObservation) (observed : ℤ) (episode : String) (alertId : ℕ) :
    Tx Store Unit := do
  Tx.modify fun s =>
    match s.tracker e.source.device with
    | none => s
    | some row => s.setTracker e.source.device { row with hasAlert := true }
  Tx.modify fun s => s.addTransition ⟨e.source.siteId, e.source.edgeId, e.now,
    .alertCreated e.source.pitId alertId episode (lifecycleScope hash e.snapshot) observed
      observation.simulated⟩

/-! ## The judgment -/

def Evaluation.warn : ℚ := e.snapshot.summary.warningThresholdPercent

def Evaluation.critical : ℚ := e.snapshot.summary.collectionThresholdPercent

def Evaluation.recovery : ℚ := e.critical - 5

def Evaluation.thresholdsValid : Bool :=
  0 ≤ e.warn ∧ e.warn ≤ e.recovery ∧ e.recovery < e.critical ∧ e.critical ≤ 100

/-- The row was last evaluated for this source. -/
def Evaluation.sameSource (row : Option EdgeV2Operation) : Bool :=
  row.any fun row => row.device = e.source.device

/-- The cursor of the source is not before the observation. -/
def Evaluation.replayed (row : Option EdgeV2Operation) (observation : FillObservation)
    (observed : ℤ) : Bool :=
  row.any fun row => row.device = e.source.device ∧
    (observation.generatedAt ≤ row.generatedAt ∨ observed ≤ row.observedAt)

/-- The state before the evaluation; a source that is newly attached begins normal. -/
def Evaluation.previous (row : Option EdgeV2Operation) : OperationalState :=
  match row.filter fun row => row.device = e.source.device with
  | some row => row.state
  | none => .normal

/-- Since when the filter has been above the threshold, if it is of this observation. -/
def Evaluation.filterSince (observation : FillObservation) : Option ℤ :=
  (e.filtered.filter fun filtered => filtered.messageId = observation.messageId ∧
    filtered.threshold = e.critical).bind FilterPayload.aboveSince

/-- A fill that is critical must have been so for a while, where the filter is ready. -/
def Evaluation.awaitsConfirmation (previous : OperationalState) : Bool :=
  e.snapshot.summary.filterState = .ready ∧ previous ≠ .critical

/-- Since when the fill has been critical. -/
def Evaluation.pending (previous : OperationalState) (observation : FillObservation) (observed : ℤ)
    (fill : ℚ) : Option ℤ :=
  if e.awaitsConfirmation previous ∧ e.critical ≤ fill then
    some ((e.filterSince observation).getD observed)
  else none

def Evaluation.confirmed (previous : OperationalState) (observation : FillObservation)
    (observed : ℤ) (fill : ℚ) : Bool :=
  if e.awaitsConfirmation previous then
    (e.pending previous observation observed fill).any fun since =>
      seconds e.settings.criticalConfirmSeconds ≤ observed - since
  else e.critical ≤ fill

/-- The state after the evaluation. -/
def Evaluation.current (previous : OperationalState) (observation : FillObservation)
    (observed : ℤ) (fill : ℚ) : OperationalState :=
  if previous = .critical ∧ e.recovery < fill then .critical
  else if e.critical ≤ fill ∧ e.confirmed previous observation observed fill then .critical
  else if e.warn ≤ fill then .warning
  else .normal

/-! ## The evaluation -/

/-- The row after the evaluation; what is known of the last alert is kept. -/
def operationRow (row : Option EdgeV2Operation) (observation : FillObservation) (observed : ℤ)
    (fill : ℚ) : EdgeV2Operation where
  pitId := e.source.pitId
  siteId := e.source.siteId
  edgeId := e.source.edgeId
  state := e.current (e.previous row) observation observed fill
  messageId := observation.messageId
  generatedAt := observation.generatedAt
  observedAt := observed
  criticalSince := e.pending (e.previous row) observation observed fill
  lastAlertAt := row.bind EdgeV2Operation.lastAlertAt
  lastAlertId := row.bind EdgeV2Operation.lastAlertId

/-- The transition of a filtered fill that changes the state. -/
def fillTransition (observation : FillObservation) (previous current : OperationalState)
    (observed : ℤ) (fill : ℚ) : EdgeV2Transition :=
  ⟨e.source.siteId, e.source.edgeId, observed,
    .fillStateChanged previous current fill
      (if observation.source = .edgeState then some observation.observationId else none)
      observation.observationId observation.source observation.methodVersion observation.simulated
      observation.messageId⟩

/-- The last alert of the pit was long enough ago. -/
def cooledDown (row : EdgeV2Operation) : Bool :=
  match row.lastAlertAt with
  | none => true
  | some last => seconds e.settings.alertCooldownSeconds ≤ e.now - last

/-- The alert, its link and its episode. -/
def raiseAlert (row : EdgeV2Operation) (observation : FillObservation) (observed : ℤ) (fill : ℚ)
    (episode : Option String) : Tx Store Unit := do
  -- the number that the database gives an alert is a new one
  if ← Tx.query fun s => s.alerts.any fun alert => alert.id = e.alertId then Tx.fail
  else
    Tx.modify fun s => s.addAlert
      ⟨e.alertId, e.source.pitId, e.now, fill, observation.simulated, observation.source⟩
    Tx.modify fun s => s.addLink
      ⟨e.alertId, e.source.pitId, e.source.siteId, e.source.edgeId, observation.observationId,
        observation.messageId, observed⟩
    Tx.modify fun s => s.setOperation e.source.pitId
      { row with lastAlertAt := some e.now, lastAlertId := some e.alertId }
    match episode with
    | none => Tx.fail
    | some episode => recordAlert hash e observation observed episode e.alertId

/-- What follows from the judgment `next`: the episode, the alert and the conditions. -/
def conclude (next : EdgeV2Operation) (observation : FillObservation) (observed : ℤ) (fill : ℚ)
    (previous : OperationalState) : Tx Store Unit := do
  let episode ← advanceEpisode hash e observation observed previous next.state
  Tx.when (next.state = .critical ∧ cooledDown e next) <|
    raiseAlert hash e next observation observed fill episode
  let _ ← recordStarts hash e (some next.state)
  Tx.commit

/-- The evaluation of an observation that is new, with thresholds that are valid. -/
def judge (row : Option EdgeV2Operation) (observation : FillObservation) (observed : ℤ) (fill : ℚ) :
    Tx Store Unit := do
  let previous := e.previous row
  let next := operationRow e row observation observed fill
  Tx.when (e.awaitsConfirmation previous) Tx.call
  Tx.modify fun s => s.setOperation e.source.pitId next
  Tx.when (e.snapshot.summary.filterState = .ready ∧ previous ≠ next.state) <|
    Tx.modify fun s => s.addTransition
      (fillTransition e observation previous next.state observed fill)
  conclude hash e next observation observed fill previous

/-- There is nothing fresh to evaluate. -/
def gap (row : Option EdgeV2Operation) : Tx Store Unit := do
  let started ← recordStarts hash e none
  let invalidated ← invalidateEpisode e.source
  match row.filter fun row => row.criticalSince.isSome with
  | some row =>
    Tx.modify fun s => s.setOperation e.source.pitId { row with criticalSince := none }
    Tx.commit
  | none => Tx.when (invalidated || started) Tx.commit

/-- `snapshot.operations.effectiveState`, as far as conditions depend on it. -/
def Evaluation.shownState : Option OperationalState :=
  e.snapshot.operations.bind fun status =>
    match status.effectiveState with
    | .operational state => some state
    | _ => none

/-- Display rounding must not move a value across a threshold: without a filter the value itself is
judged. -/
def Evaluation.fill (value load : ℚ) : ℚ :=
  if e.snapshot.summary.filterState = .disabled then value else load

/-- `process_source`. -/
def processSource : Tx Store Unit := do
  let row ← Tx.query fun s => s.operation e.source.pitId
  Tx.call
  match e.input with
  | none => gap hash e row
  | some (observation, load) =>
    match observation.observedTo, observation.valuePercent with
    | some observed, some value =>
      if e.replayed row observation observed then
        let started ← recordStarts hash e e.shownState
        Tx.when started Tx.commit
      else if !e.thresholdsValid then
        let started ← recordStarts hash e none
        let invalidated ← invalidateEpisode e.source
        Tx.when (invalidated || started) Tx.commit
      else judge hash e row observation observed (e.fill value load)
    | _, _ => Tx.fail

end ScrapMonitoring.Operations
