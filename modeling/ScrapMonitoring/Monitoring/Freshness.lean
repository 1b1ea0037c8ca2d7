import ScrapMonitoring.Monitoring.Snapshot

/-!
# What a fresh snapshot vouches for

A snapshot is fresh exactly when it shows a percentage. Then the observation is recent, the device
reports that it is healthy or degraded, with the configuration of the observation, and the filter
is ready for this very message. An operational state is shown only with a fresh snapshot and when
the worker has evaluated the message, or one just before it (`snapshot_gate`).
-/

namespace ScrapMonitoring.Monitoring

open EdgeV2

variable {H : Type*} {reader : Reader} {settings : Settings} {db : Database H}
  {source : MonitoringSource} {device : DeviceStatus} {now : ℤ}

/-! ## What is required -/

/-- The observation is recent, and the device reports that it measures with this configuration. -/
structure Trusted (settings : Settings) (device : DeviceStatus) (now : ℤ) (measuredAt : Option ℤ)
    (configRevision : String) : Prop where
  timely : ∃ measured, measuredAt = some measured ∧ 0 ≤ now - measured ∧
    now - measured < settings.ttl
  reporting : device.connectionState = .reporting
  health : device.effectiveState = .healthy ∨ device.effectiveState = .degraded
  revision : ∃ report, device.snapshot = some report ∧
    report.payload.configRevision = configRevision

/-- The filter is ready for the message, and gives the percentage. -/
structure Filtered (row : FilterPayload) (messageId : String) (percent : Option ℚ) : Prop where
  message : row.messageId = messageId
  ready : row.state = .ready
  value : row.value = percent

/-- The judgment of the row is recent and compatible with the observation that came after it. -/
structure Recent (settings : Settings) (db : Database H) (source : MonitoringSource)
    (row : EdgeV2Operation) (current : CurrentObservation) (measuredAt : Option ℤ)
    (messageType : MessageType) (now : ℤ) : Prop where
  age : 0 ≤ now - row.observedAt ∧ now - row.observedAt < min (seconds 3) settings.ttl
  generated : row.generatedAt < current.generatedAt
  observed : ∃ measured, measuredAt = some measured ∧ row.observedAt < measured
  receipt : ∃ message ∈ db.messages,
    message.key = (source.siteId, source.edgeId, row.messageId) ∧
      message.configRevision = current.configRevision ∧ message.messageType = messageType
  unchanged : ∀ config ∈ db.pitConfig source.pitId, config.updatedAt ≤ row.observedAt

/-! ## The device -/

/-- A device that reports a health has a report. -/
theorem deviceStatus_snapshot {validate : Json → Option StatusMessage} {store : StatusStore H}
    {key : String × String} (h : deviceStatus validate store key now = some device)
    (hknown : device.effectiveState ≠ .unknown) : device.snapshot.isSome := by
  unfold deviceStatus at h
  cases hsnapshot : statusSnapshot validate store key with
  | none => simp [hsnapshot] at h
  | some snapshot =>
    simp only [hsnapshot, Option.bind_eq_bind, Option.bind_some, Option.pure_def,
      Option.some.injEq] at h
    subst h
    cases snapshot with
    | none => exact absurd rfl hknown
    | some report => rfl

/-! ## Assessments -/

/-- A percentage comes with a fresh assessment only. -/
theorem assessmentReading_iff (settings : Settings) (device : DeviceStatus) (now : ℤ)
    (assessment : Assessment) :
    (assessmentReading settings device now assessment).1 = .fresh ↔
      (assessmentReading settings device now assessment).2.2.isSome := by
  unfold assessmentReading
  cases assessment.fillEstimate with
  | none =>
    dsimp only
    split_ifs <;> simp
  | some estimate =>
    dsimp only
    split_ifs <;> simp

theorem assessmentReading_fresh {assessment : Assessment}
    (h : (assessmentReading settings device now assessment).1 = .fresh)
    (hreport : device.effectiveState ≠ .unknown → device.snapshot.isSome) :
    Trusted settings device now assessment.observedTo assessment.configRevision := by
  unfold assessmentReading at h
  cases hestimate : assessment.fillEstimate with
  | none =>
    rw [hestimate] at h
    dsimp only at h
    split_ifs at h
  | some estimate =>
    rw [hestimate] at h
    dsimp only at h
    split_ifs at h with hskew hstale hreporting hhealth hrevision hdecision hobserved
    obtain ⟨measured, hmeasured⟩ := Option.ne_none_iff_exists'.1 hobserved
    rw [hmeasured, Option.getD_some] at hskew hstale
    have hknown : device.effectiveState ≠ .unknown := fun heq => hhealth (by simp [heq])
    obtain ⟨report, hsnapshot⟩ := Option.isSome_iff_exists.1 (hreport hknown)
    refine ⟨⟨measured, hmeasured, ?_, ?_⟩, not_not.1 hreporting, ?_, report, hsnapshot, ?_⟩
    · omega
    · omega
    · cases hstate : device.effectiveState <;> simp [hstate] at hhealth ⊢
    · simpa [hsnapshot] using hrevision

theorem filteredReading_iff (db : Database H) (key : String × String) (message : EdgeV2Message H)
    {state : DashboardDataState} {reasons : List String} {raw : Option ℚ}
    (h : state = .fresh ↔ raw.isSome) :
    (filteredReading db key message state reasons raw).state = .fresh ↔
      (filteredReading db key message state reasons raw).percent.isSome := by
  unfold filteredReading
  split_ifs with hcompact hfresh
  · split
    · split <;> simp
    · simp
  · simp [hfresh]
  · exact h

theorem filteredReading_fresh {key : String × String} {message : EdgeV2Message H}
    {state : DashboardDataState} {reasons : List String} {raw : Option ℚ}
    (h : (filteredReading db key message state reasons raw).state = .fresh) :
    state = .fresh ∧ (message.compact → ∃ row, db.filter key = some row ∧
      Filtered row message.messageId
        (filteredReading db key message state reasons raw).percent) := by
  revert h
  unfold filteredReading
  split_ifs with hcompact hfresh
  · split
    · rename_i row hrow
      obtain ⟨hrow, hmessage⟩ := Option.filter_eq_some_iff.1 hrow
      split
      · rename_i value hready hvalue
        exact fun _ => ⟨hfresh, fun _ => ⟨row, hrow, by simpa using hmessage, hready, hvalue⟩⟩
      · exact fun h => by cases h
      · exact fun h => by cases h
    · exact fun h => by cases h
  · exact fun h => absurd h hfresh
  · exact fun h => ⟨h, fun hc => absurd hc hcompact⟩

/-! ## Heights -/

theorem heightState_fresh {pit : Option PitConfig} {observation : FillObservation}
    (h : (heightState reader settings source device pit now observation).1 = .fresh) :
    Trusted settings device now observation.observedTo observation.configRevision := by
  unfold heightState at h
  split_ifs at h with hskew hstale hcontext hvalue
  obtain ⟨-, hobserved⟩ := not_or.1 hvalue
  obtain ⟨measured, hmeasured⟩ := Option.ne_none_iff_exists'.1 hobserved
  rw [hmeasured, Option.getD_some] at hstale
  simp only [hmeasured, Option.any_some, decide_eq_true_eq] at hskew
  simp only [heightContextAvailable, Bool.not_eq_true', decide_eq_false_iff_not, not_not,
    Option.any_eq_true, decide_eq_true_eq] at hcontext
  obtain ⟨-, -, -, hreporting, hhealth, report, hsnapshot, hrevision, -⟩ := hcontext
  refine ⟨⟨measured, hmeasured, ?_, ?_⟩, hreporting, ?_, report, hsnapshot, hrevision⟩
  · omega
  · omega
  · simpa using hhealth

theorem heightSnapshot_iff (reader : Reader) (settings : Settings) (db : Database H)
    (source : MonitoringSource) (device : DeviceStatus) (pit : Option PitConfig) (now : ℤ) :
    (heightSnapshot reader settings db source device pit now).2.state = .fresh ↔
      (heightSnapshot reader settings db source device pit now).2.percent.isSome := by
  unfold heightSnapshot
  cases db.heightFill source.device with
  | none => simp
  | some observation =>
    dsimp only
    split_ifs with hfresh
    · simp [hfresh]
    · split
      · simp
      · split <;> simp

/-- What a fresh height vouches for. -/
theorem heightSnapshot_fresh {pit : Option PitConfig}
    (h : (heightSnapshot reader settings db source device pit now).2.state = .fresh) :
    ∃ observation row,
      (heightSnapshot reader settings db source device pit now).1 = some observation ∧
      Trusted settings device now observation.observedTo observation.configRevision ∧
      db.filter source.device = some row ∧
      Filtered row observation.messageId
        (heightSnapshot reader settings db source device pit now).2.percent ∧
      row.inputSource = .heightSections ∧ row.methodVersion = observation.methodVersion ∧
      row.threshold = settings.threshold pit := by
  revert h
  unfold heightSnapshot
  cases db.heightFill source.device with
  | none => exact fun h => by cases h
  | some observation =>
    dsimp only
    split_ifs with hfresh
    · exact fun h => absurd h hfresh
    · split
      · exact fun h => by cases h
      · rename_i row hrow
        obtain ⟨hrow, hmatch⟩ := Option.filter_eq_some_iff.1 hrow
        obtain ⟨hmessage, hinput, hmethod, hthreshold⟩ := of_decide_eq_true hmatch
        split
        · rename_i value hready hvalue
          exact fun _ => ⟨observation, row, rfl, heightState_fresh (not_not.1 hfresh), hrow,
            ⟨hmessage, hready, hvalue⟩, hinput, hmethod, hthreshold⟩
        · exact fun h => by cases h
        · exact fun h => by cases h

/-! ## The input -/

/-- What a fresh input vouches for: of the observation itself, and of the filter. -/
structure FreshInput (settings : Settings) (db : Database H) (source : MonitoringSource)
    (device : DeviceStatus) (now : ℤ) (message : Option (EdgeV2Message H)) (input : Input) :
    Prop where
  trusted : ∃ current, input.current = some current ∧
    Trusted settings device now input.measuredAt current.configRevision
  heights : settings.heightFillEnabled → ∃ observation row,
    input.fillObservation = some observation ∧ db.filter source.device = some row ∧
      Filtered row observation.messageId input.reading.percent ∧
      row.inputSource = .heightSections ∧ row.methodVersion = observation.methodVersion ∧
      row.threshold = settings.threshold (db.pitConfig source.pitId)
  compact : settings.heightFillEnabled = false → ∀ received ∈ message, received.compact →
    ∃ row, db.filter source.device = some row ∧
      Filtered row received.messageId input.reading.percent

theorem edgeReading_iff (settings : Settings) (db : Database H) (source : MonitoringSource)
    (device : DeviceStatus) (now : ℤ) (message : Option (EdgeV2Message H))
    (assessment : Option Assessment) :
    (edgeReading settings db source device now message assessment).state = .fresh ↔
      (edgeReading settings db source device now message assessment).percent.isSome := by
  unfold edgeReading
  split
  · exact filteredReading_iff db source.device _ (assessmentReading_iff settings device now _)
  · simp

theorem currentInput_iff (reader : Reader) (settings : Settings) (db : Database H)
    (source : MonitoringSource) (device : DeviceStatus) (now : ℤ)
    (message : Option (EdgeV2Message H)) (assessment : Option Assessment) :
    (currentInput reader settings db source device now message assessment).reading.state = .fresh ↔
      (currentInput reader settings db source device now message
        assessment).reading.percent.isSome := by
  unfold currentInput
  split_ifs
  · exact heightSnapshot_iff reader settings db source device (db.pitConfig source.pitId) now
  · exact edgeReading_iff settings db source device now message assessment

theorem currentInput_fresh {message : Option (EdgeV2Message H)} {assessment : Option Assessment}
    (hreport : device.effectiveState ≠ .unknown → device.snapshot.isSome)
    (h : (currentInput reader settings db source device now message assessment).reading.state =
      .fresh) :
    FreshInput settings db source device now message
      (currentInput reader settings db source device now message assessment) := by
  revert h
  unfold currentInput
  split_ifs with henabled
  · intro h
    obtain ⟨observation, row, hobservation, htrusted, hrow, hfiltered, hrest⟩ :=
      heightSnapshot_fresh h
    dsimp only
    refine ⟨⟨observation.current, by rw [hobservation]; rfl, ?_⟩, ?_, ?_⟩
    · rw [hobservation]
      exact htrusted
    · exact fun _ => ⟨observation, row, hobservation, hrow, hfiltered, hrest⟩
    · exact fun hdisabled => absurd henabled (by simp [hdisabled])
  · intro h
    dsimp only at h
    cases message with
    | none => cases h
    | some message =>
      cases assessment with
      | none => cases h
      | some assessment =>
        obtain ⟨hfresh, hfiltered⟩ := filteredReading_fresh h
        refine ⟨⟨assessment.current, rfl, assessmentReading_fresh hfresh hreport⟩, ?_, ?_⟩
        · exact fun h' => absurd h' henabled
        · rintro - received hreceived
          obtain rfl := Option.some.inj hreceived
          exact hfiltered

/-! ## The operational state -/

theorem recentOperationMatches_iff (settings : Settings) (db : Database H)
    (source : MonitoringSource) (row : EdgeV2Operation) (current : CurrentObservation)
    (measured now : ℤ) (h : recentOperationMatches settings db source row current measured now) :
    Recent settings db source row current (some measured) (inputType settings) now := by
  simp only [recentOperationMatches, decide_eq_true_eq, Option.any_eq_true, not_exists,
    not_and, not_lt] at h
  obtain ⟨⟨hage, hage', hgenerated, hobserved⟩, hconfig, receipt, hreceipt, hsame⟩ := h
  obtain ⟨hrevision, htype⟩ := Prod.mk.inj hsame
  have hkey := List.find?_some hreceipt
  refine ⟨⟨hage, ?_⟩, hgenerated, ⟨measured, rfl, hobserved⟩, ⟨receipt,
    List.mem_of_find?_eq_some hreceipt, of_decide_eq_true hkey, hrevision, htype⟩, hconfig⟩
  have hmin : seconds ((min maxPendingEvaluationSeconds settings.assessmentTtlSeconds : ℕ) : ℤ) =
      min (seconds 3) settings.ttl := by
    simp only [seconds, Settings.ttl, maxPendingEvaluationSeconds]
    omega
  omega

/-- An operational state is that of a row of the source, which has evaluated the current observation
or one just before it. -/
theorem operationStatus_operational {input : Input} {state : OperationalState}
    (h : (operationStatus settings db source input now).1.effectiveState = .operational state) :
    input.reading.state = .fresh ∧ ∃ row current, db.operation source.pitId = some row ∧
      row.device = source.device ∧ row.state = state ∧ input.current = some current ∧
        (row.messageId = current.messageId ∨
          Recent settings db source row current input.measuredAt (inputType settings) now) := by
  simp only [operationStatus] at h
  cases hrow : (db.operation source.pitId).filter fun row => row.device = source.device with
  | none =>
    rw [hrow] at h
    dsimp only at h
    split_ifs at h
  | some row =>
    obtain ⟨hoperation, hdevice⟩ := Option.filter_eq_some_iff.1 hrow
    rw [hrow] at h
    dsimp only at h
    split_ifs at h with heffective
    obtain rfl := EffectiveState.operational.inj h
    simp only [Option.any_some, Bool.and_eq_true, Bool.or_eq_true, decide_eq_true_eq,
      Option.any_eq_true] at heffective
    obtain ⟨hcause, hfresh⟩ := heffective
    refine ⟨hfresh, row, ?_⟩
    obtain ⟨current, hcurrent, hmessage⟩ | ⟨-, current, hcurrent, measured, hmeasured, hrecent⟩ :=
      hcause
    · exact ⟨current, hoperation, of_decide_eq_true hdevice, rfl, hcurrent, .inl hmessage⟩
    · refine ⟨current, hoperation, of_decide_eq_true hdevice, rfl, hcurrent, .inr ?_⟩
      rw [hmeasured]
      exact recentOperationMatches_iff settings db source row current measured now hrecent

/-! ## The snapshot -/

/-- The observation that a snapshot shows. -/
def MonitoringSnapshotV2.input (settings : Settings) (snapshot : MonitoringSnapshotV2) : Input where
  fillObservation := snapshot.fillObservation
  reading :=
    { state := snapshot.dataState
      reasons := snapshot.reasonCodes
      raw := snapshot.summary.rawLoadPercent
      percent := snapshot.summary.loadPercent
      filterState := snapshot.summary.filterState }
  measuredAt := snapshot.measuredAt
  current :=
    if settings.heightFillEnabled then snapshot.fillObservation.map FillObservation.current
    else snapshot.assessment.map Assessment.current

/-- What a snapshot vouches for. -/
structure Gate (settings : Settings) (db : Database H) (source : MonitoringSource) (now : ℤ)
    (snapshot : MonitoringSnapshotV2) : Prop where
  fresh_iff : snapshot.dataState = .fresh ↔ snapshot.summary.loadPercent.isSome
  fresh : snapshot.dataState = .fresh → FreshInput settings db source snapshot.deviceStatus now
    (newestState db source.device) (snapshot.input settings)
  threshold : snapshot.summary.collectionThresholdPercent =
    settings.threshold (db.pitConfig source.pitId)
  operational : ∀ status state, snapshot.operations = some status →
    status.effectiveState = .operational state → snapshot.dataState = .fresh ∧
      ∃ row current, db.operation source.pitId = some row ∧ row.device = source.device ∧
        row.state = state ∧ (snapshot.input settings).current = some current ∧
          (row.messageId = current.messageId ∨
            Recent settings db source row current snapshot.measuredAt (inputType settings) now)

theorem currentInput_current (reader : Reader) (settings : Settings) (db : Database H)
    (source : MonitoringSource) (device : DeviceStatus) (now : ℤ)
    (message : Option (EdgeV2Message H)) (assessment : Option Assessment) :
    (currentInput reader settings db source device now message assessment).current =
      if settings.heightFillEnabled then
        (currentInput reader settings db source device now message
          assessment).fillObservation.map FillObservation.current
      else assessment.map Assessment.current := by
  unfold currentInput
  split_ifs <;> rfl

/-- **A snapshot is fresh exactly when it shows a percentage, and a fresh snapshot and an
operational state are shown only with the evidence for them.** -/
theorem snapshot_gate {snapshot : MonitoringSnapshotV2}
    (h : buildSnapshot reader settings db source now = some snapshot) :
    Gate settings db source now snapshot := by
  unfold buildSnapshot at h
  simp only [Option.bind_eq_bind, Option.bind_eq_some_iff] at h
  obtain ⟨assessment, -, device, hdevice, h⟩ := h
  rw [Option.ite_none_right_eq_some] at h
  obtain rfl := Option.some.inj h.2
  have hcurrent := currentInput_current reader settings db source device now
    (newestState db source.device) assessment
  constructor
  · exact currentInput_iff reader settings db source device now _ assessment
  · intro hfresh
    obtain ⟨htrusted, hheights, hcompact⟩ :=
      currentInput_fresh (deviceStatus_snapshot hdevice) hfresh
    rw [hcurrent] at htrusted
    exact ⟨htrusted, hheights, hcompact⟩
  · rfl
  · intro status state hstatus hstate
    dsimp only at hstatus
    rw [Option.ite_none_right_eq_some] at hstatus
    obtain rfl := Option.some.inj hstatus.2
    obtain ⟨hfresh, row, current, hrow, hdevice, hstate, hinput, hcause⟩ :=
      operationStatus_operational hstate
    rw [hcurrent] at hinput
    exact ⟨hfresh, row, current, hrow, hdevice, hstate, hinput, hcause⟩

/-! ### A judgment of the message before

In compact storage the filter is ready for the newest state; the worker has made its judgment of the
state a second before. -/

def sampleSettings : Settings where
  monitoringSources := [⟨"pit", "site", "edge"⟩]
  assessmentTtlSeconds := 30
  operationsEnabled := true
  criticalThreshold := 90
  defaultWarningThreshold := 75
  defaultCriticalThreshold := 85
  heightFillEnabled := false
  heightReferences := []
  medianWindowSeconds := 5
  criticalConfirmSeconds := 3
  alertCooldownSeconds := 1800
  ttl_range := by decide
  window_range := by decide
  window_odd := by decide

def sampleStatus : StatusMessage where
  payload := ⟨"status", "site", "edge", seconds 99, "cfg", .statusReport
    ⟨"instance", 1, .healthy, [], []⟩, []⟩
  report := ⟨"instance", 1, .healthy, [], []⟩
  isReport := rfl

def sampleAssessment : Assessment where
  siteId := "site"
  edgeId := "edge"
  messageId := "state-2"
  generatedAt := seconds 100
  configRevision := "cfg"
  assessmentId := "assessment-2"
  observedTo := some (seconds 100)
  ruleVersion := some "rule"
  decisionState := .available
  reasonCodes := []
  fillEstimate := some ⟨9 / 10, "method", by norm_num⟩

def sampleReceipt (messageId : String) (messageType : MessageType) (time : ℤ) (payload : Json) :
    EdgeV2Message String :=
  ⟨"site", "edge", messageId, messageType, "cfg", time, time, "", payload, true, some "instance",
    some 1⟩

def sampleDatabase : Database String where
  messages :=
    [sampleReceipt "status" .edgeStatus (seconds 99) .null,
      sampleReceipt "state-1" .edgeAssessment (seconds 99) .null,
      sampleReceipt "state-2" .edgeAssessment (seconds 100)
        (.obj [("assessment_type", .str "STATE")])]
  latest _ kind :=
    match kind with
    | .status => some ⟨"status", seconds 99, .null⟩
    | .state => some ⟨"state-2", seconds 100, .null⟩
    | .measurement => none
  heightFill _ := none
  filter _ := some {
    scope := ⟨"cfg", some "rule", some "method", some "instance", some "pit", 90, .edgeState, none⟩
    samples := []
    slotAnchorAt := some (seconds 96)
    state := .ready
    messageId := "state-2"
    value := some 91
    observedAt := some (seconds 100)
    aboveSince := some (seconds 96)
    threshold := 90
    inputValid := true
    inputSource := .edgeState
    methodVersion := some "method" }
  pitConfig _ := none
  operation _ := some
    ⟨"pit", "site", "edge", .critical, "state-1", seconds 99, seconds 99, none, none, none⟩

def sampleReader : Reader where
  validate _ := some sampleStatus
  validateAssessment _ := some sampleAssessment
  details _ := ⟨[], "SYNCED"⟩
  hash _ := ""

example : (buildSnapshot sampleReader sampleSettings sampleDatabase ⟨"pit", "site", "edge"⟩
    (seconds 101)).map (fun snapshot => (snapshot.dataState, snapshot.summary.loadPercent,
      snapshot.operations.map fun status => (status.effectiveState, status.evaluationSource))) =
    some (.fresh, some 91, some (.operational .critical, some .recentPersisted)) := by
  decide +kernel

theorem snapshot_gate_pending : ∃ snapshot, buildSnapshot sampleReader sampleSettings sampleDatabase
    ⟨"pit", "site", "edge"⟩ (seconds 101) = some snapshot ∧
      Gate sampleSettings sampleDatabase ⟨"pit", "site", "edge"⟩ (seconds 101) snapshot := by
  have hsome : (buildSnapshot sampleReader sampleSettings sampleDatabase ⟨"pit", "site", "edge"⟩
      (seconds 101)).isSome := by
    decide +kernel
  obtain ⟨snapshot, h⟩ := Option.isSome_iff_exists.1 hsome
  exact ⟨snapshot, h, snapshot_gate h⟩

end ScrapMonitoring.Monitoring
