import ScrapMonitoring.Foundations.Float64
import ScrapMonitoring.Foundations.Run

/-!
# The collection tracker

`collection_detection_service.advance` and `invalidate`, the two operations on the durable
`CollectionTracker`: an observation of the pit's height, and an outage of the input. The tracker
prepares a baseline height, takes a drop below it that lasts for the confirm duration for a
collection, and ends the collection when no further drop has been confirmed for the settle
duration.

Heights are in centimetres and exact. The test of the drop is that of the code, in doubles: there
the rounding of the difference lets a height pass that lies above the baseline less the drop
(`advanceIdle`). The differences to the band and the middle of the window are exact, where the code
rounds them too. An `assert` of the source that fails is `none`.

`advance` keeps the order of the source: the stability window (`stableWindow`), the reference
level (`sustainedReference`), then one branch for each phase (`advanceBaselining`,
`advanceCollecting`, `advanceIdle`).
-/

namespace ScrapMonitoring.Collection

/-- The settings the detector reads, with what their validation promises. The upper bounds of the
validators play no role. -/
structure Settings where
  dropMeters : Option ℚ
  stableBandMeters : ℚ
  confirmSeconds : ℤ
  baselineSeconds : ℤ
  settleSeconds : ℤ
  simulationSettleSeconds : ℤ
  band_pos : 0 < stableBandMeters
  confirm_pos : 0 < confirmSeconds
  baseline_pos : 0 < baselineSeconds
  settle_pos : 0 < settleSeconds
  simulationSettle_pos : 0 < simulationSettleSeconds
  band_lt_drop : ∀ d ∈ dropMeters, stableBandMeters < d

inductive Profile
  | field
  | simulation
  deriving DecidableEq, Repr

def Settings.collectionSettleSeconds (cfg : Settings) : Profile → ℤ
  | .simulation => cfg.simulationSettleSeconds
  | .field => cfg.settleSeconds

/-- The drop in centimetres. -/
def dropThreshold (dropMeters : ℚ) : ℚ := round64 (dropMeters * 100)

def Settings.bandCm (cfg : Settings) : ℚ := cfg.stableBandMeters * 100

inductive DetectionPhase
  | baselining
  | idle
  | candidate
  | collecting
  deriving DecidableEq, Repr

/-- The durable detector state. -/
structure CollectionTracker where
  pitId : String
  scopeToken : String
  phase : DetectionPhase := .baselining
  observedAt : ℤ
  inputValid : Bool := true
  baselineCm : Option ℚ := none
  currentCm : Option ℚ := none
  stableSince : Option ℤ := none
  stableMinCm : Option ℚ := none
  stableMaxCm : Option ℚ := none
  candidateSince : Option ℤ := none
  episodeId : Option String := none
  simulated : Bool := false
  quietSince : Option ℤ := none
  progressAnchorCm : Option ℚ := none
  progressCandidateSince : Option ℤ := none
  referenceCandidateCm : Option ℚ := none
  referenceCandidateSince : Option ℤ := none
  referencePeakCm : Option ℚ := none
  deriving DecidableEq, Repr

/-- A tracker as `process_collection_source` creates it, every other field at its default. -/
def CollectionTracker.fresh (pitId scopeToken : String) (observedAt : ℤ) (simulated : Bool) :
    CollectionTracker :=
  { pitId, scopeToken, observedAt, simulated }

/-- The events an observation may record, with their details. -/
inductive DetectionEvent
  | detected (detectionId : Option String) (baselineHeightCm heightCm dropCm : ℚ)
      (confirmedCompletion : Bool)
  | settled (detectionId : Option String) (heightCm : ℚ) (confirmedCompletion : Bool)
  deriving DecidableEq, Repr

/-- An outage is never elapsed stable time and never confirms a fresh drop. -/
def invalidate (state : CollectionTracker) : CollectionTracker :=
  let state := { state with
    inputValid := false
    stableSince := none, stableMinCm := none, stableMaxCm := none
    candidateSince := none
    quietSince := none, progressAnchorCm := none, progressCandidateSince := none
    referenceCandidateCm := none, referenceCandidateSince := none
    referencePeakCm := none }
  if state.phase = .collecting then state
  else { state with phase := .baselining, baselineCm := none }

/-- A level that the heights have supported: the candidate, since when, and the peak since then. -/
structure ReferenceLevel where
  candidate : ℚ
  since : ℤ
  peak : ℚ
  deriving DecidableEq, Repr

/-- The candidate level with a new observation: it starts again when the observation drops by more
than the noise band below the peak. -/
def referenceLevel (cfg : Settings) (state : CollectionTracker) (heightCm : ℚ) (observed : ℤ) :
    ReferenceLevel :=
  match state.referenceCandidateCm, state.referenceCandidateSince, state.referencePeakCm with
  | some candidate, some since, some peak =>
    if heightCm < peak - cfg.bandCm then ⟨heightCm, observed, heightCm⟩
    else ⟨candidate, since, max peak heightCm⟩
  | _, _, _ => ⟨heightCm, observed, heightCm⟩

/-- Confirm a level from below while loading continues: the candidate level is accepted once it
has been supported, within the noise band, for the whole baseline duration. The first component is
what the reference fields of the state are set to. -/
def sustainedReference (cfg : Settings) (state : CollectionTracker) (heightCm : ℚ)
    (observed : ℤ) : ReferenceLevel × Option ℚ :=
  let r := referenceLevel cfg state heightCm observed
  if observed - r.since < seconds cfg.baselineSeconds then (r, none)
  else (⟨heightCm, observed, heightCm⟩, some r.candidate)

/-- The reference fields of the state. -/
def setReference (state : CollectionTracker) (r : ReferenceLevel) : CollectionTracker :=
  { state with
    referenceCandidateCm := some r.candidate
    referenceCandidateSince := some r.since
    referencePeakCm := some r.peak }

/-- The window of heights within the stability band: since when, the lowest and the highest. -/
structure StableWindow where
  since : ℤ
  low : ℚ
  high : ℚ
  deriving DecidableEq, Repr

/-- The stability window with a new observation: it starts again when the observation leaves the
band. -/
def stableWindow (cfg : Settings) (state : CollectionTracker) (heightCm : ℚ) (observed : ℤ) :
    StableWindow :=
  let low := match state.stableMinCm with
    | some low => min low heightCm
    | none => heightCm
  let high := match state.stableMaxCm with
    | some high => max high heightCm
    | none => heightCm
  match state.stableSince with
  | some since =>
    if high - low > cfg.bandCm then ⟨observed, heightCm, heightCm⟩ else ⟨since, low, high⟩
  | none => ⟨observed, heightCm, heightCm⟩

/-- `stable_height`: the middle of the window. -/
def StableWindow.height (w : StableWindow) : ℚ := (w.low + w.high) / 2

/-- The window has lasted for the baseline duration. -/
def StableWindow.Prepared (cfg : Settings) (w : StableWindow) (observed : ℤ) : Prop :=
  seconds cfg.baselineSeconds ≤ observed - w.since

instance (cfg : Settings) (w : StableWindow) (observed : ℤ) :
    Decidable (w.Prepared cfg observed) :=
  inferInstanceAs (Decidable (_ ≤ _))

/-- The fields every valid observation sets before the phase is looked at. -/
def observe (state : CollectionTracker) (w : StableWindow) (heightCm : ℚ) (observed : ℤ) :
    CollectionTracker :=
  { state with
    stableSince := some w.since, stableMinCm := some w.low, stableMaxCm := some w.high
    currentCm := some heightCm, observedAt := observed, inputValid := true }

/-- BASELINING: the first baseline is a level that was stable, or one that was sustained. -/
def advanceBaselining (cfg : Settings) (state : CollectionTracker) (w : StableWindow)
    (supported : Option ℚ) (observed : ℤ) : CollectionTracker :=
  if w.Prepared cfg observed then { state with baselineCm := some w.height, phase := .idle }
  else
    match supported with
    | some level => { state with baselineCm := some level, phase := .idle }
    | none => state

/-- COLLECTING, the further drops: a drop of at least the band below the anchor that lasts for
the confirm duration moves the anchor down and starts the quiet interval again. -/
def trackDrop (cfg : Settings) (state : CollectionTracker) (w : StableWindow) (heightCm : ℚ)
    (observed : ℤ) (anchor : ℚ) (quiet : ℤ) : CollectionTracker :=
  let anchor := if anchor < heightCm ∧ w.Prepared cfg observed then max anchor w.height else anchor
  if cfg.bandCm ≤ anchor - heightCm then
    let since := state.progressCandidateSince.getD observed
    if seconds cfg.confirmSeconds ≤ observed - since then
      { state with
        progressAnchorCm := some heightCm, quietSince := some observed
        progressCandidateSince := none }
    else
      { state with
        progressAnchorCm := some anchor, quietSince := some quiet
        progressCandidateSince := some since }
  else
    { state with
      progressAnchorCm := some anchor, quietSince := some quiet
      progressCandidateSince := none }

/-- The anchor and the quiet interval start with the observation when there are none. -/
def trackProgress (cfg : Settings) (state : CollectionTracker) (w : StableWindow) (heightCm : ℚ)
    (observed : ℤ) : CollectionTracker :=
  match state.progressAnchorCm, state.quietSince with
  | some anchor, some quiet => trackDrop cfg state w heightCm observed anchor quiet
  | _, _ => trackDrop cfg state w heightCm observed heightCm observed

/-- The collection ends: no further drop is pending and the quiet interval has lasted for `wait`
seconds. -/
def settles (state : CollectionTracker) (observed : ℤ) (wait : ℤ) : Prop :=
  state.progressCandidateSince = none ∧
    ∃ quiet ∈ state.quietSince, seconds wait ≤ observed - quiet

instance (state : CollectionTracker) (observed : ℤ) (wait : ℤ) :
    Decidable (settles state observed wait) :=
  inferInstanceAs (Decidable (_ ∧ _))

def advanceCollecting (cfg : Settings) (state : CollectionTracker) (w : StableWindow)
    (heightCm : ℚ) (observed : ℤ) (wait : ℤ) : CollectionTracker × List DetectionEvent :=
  let state := trackProgress cfg state w heightCm observed
  if settles state observed wait then
    ({ state with
        baselineCm := some w.height, phase := .idle
        episodeId := none
        candidateSince := none
        quietSince := none, progressAnchorCm := none, progressCandidateSince := none
        referenceCandidateCm := none, referenceCandidateSince := none
        referencePeakCm := none },
      [.settled state.episodeId heightCm false])
  else (state, [])

/-- IDLE and CANDIDATE: the baseline rises to a higher level that was sustained or stable. -/
def raisedBaseline (cfg : Settings) (baseline : ℚ) (w : StableWindow) (supported : Option ℚ)
    (heightCm : ℚ) (observed : ℤ) : ℚ :=
  let baseline := match supported with
    | some level => max baseline level
    | none => baseline
  if baseline < heightCm ∧ w.Prepared cfg observed then max baseline w.height else baseline

/-- IDLE and CANDIDATE: a drop below the baseline that lasts for the confirm duration is a
collection. The difference is rounded before it is compared. -/
def advanceIdle (cfg : Settings) (digest : String → ℤ → String) (drop : ℚ)
    (state : CollectionTracker) (baseline heightCm : ℚ) (observed : ℤ) :
    CollectionTracker × List DetectionEvent :=
  let state := { state with baselineCm := some baseline }
  if round64 (baseline - heightCm) < drop then
    ({ state with candidateSince := none, phase := .idle }, [])
  else
    let (since, phase) := match state.candidateSince with
      | none => (observed, DetectionPhase.candidate)
      | some since => (since, state.phase)
    let state := { state with candidateSince := some since, phase := phase }
    if seconds cfg.confirmSeconds ≤ observed - since then
      let episodeId := "detected-" ++ digest state.scopeToken observed
      ({ state with
          episodeId := some episodeId
          phase := .collecting
          quietSince := some observed, progressAnchorCm := some heightCm
          progressCandidateSince := none
          referenceCandidateCm := none, referenceCandidateSince := none
          referencePeakCm := none
          stableSince := some observed, stableMinCm := some heightCm
          stableMaxCm := some heightCm },
        [.detected (some episodeId) baseline heightCm (round64 (baseline - heightCm)) false])
    else (state, [])

/-- A new valid observation. `digest` stands for the digest of the scope token and the text of the
observation time. -/
def advance (cfg : Settings) (digest : String → ℤ → String) (state : CollectionTracker)
    (heightCm : ℚ) (observed : ℤ) (settleSeconds : Option ℤ) :
    Option (CollectionTracker × List DetectionEvent) :=
  match cfg.dropMeters with
  | none => none
  | some dropMeters =>
    let w := stableWindow cfg state heightCm observed
    let state := observe state w heightCm observed
    if state.phase = .collecting then
      match state.baselineCm with
      | none => none
      | some _ =>
        some (advanceCollecting cfg state w heightCm observed
          (settleSeconds.getD cfg.settleSeconds))
    else
      let (r, supported) := sustainedReference cfg state heightCm observed
      let state := setReference state r
      if state.phase = .baselining then
        some (advanceBaselining cfg state w supported observed, [])
      else
        match state.baselineCm with
        | none => none
        | some baseline =>
          some (advanceIdle cfg digest (dropThreshold dropMeters) state
            (raisedBaseline cfg baseline w supported heightCm observed) heightCm observed)

end ScrapMonitoring.Collection
