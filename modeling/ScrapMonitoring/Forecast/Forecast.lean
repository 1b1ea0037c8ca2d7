import ScrapMonitoring.Collection.Tracker
import ScrapMonitoring.Forecast.Trend
import ScrapMonitoring.Monitoring.Freshness

/-!
# The forecast of the collection threshold

`fill_forecast`: the snapshot of the pit decides whether there is a load to project, the summary of
its collections from when on, and the history of the last minutes gives the points. The observation
of the snapshot is the last of them.
-/

namespace ScrapMonitoring.Forecast

open History (HistorySampleV2)
open Monitoring (MonitoringSource MonitoringSnapshotV2 Settings)

inductive DetectionState
  | phase (phase : Collection.DetectionPhase)
  | disabled
  | unknown
  deriving DecidableEq

/-- What a forecast reads of the summary of the collections. -/
structure CollectionSummaryV2 where
  detectionEnabled : Bool
  detectionState : DetectionState
  lastCollectionActivityAt : Option ℤ

def windowSeconds : ℤ := 600

section

variable (settings : Settings) (source : MonitoringSource) (snapshot : MonitoringSnapshotV2)
variable (collections : CollectionSummaryV2) (history : List HistorySampleV2) (now : ℤ)

/-- The forecast before anything is known. -/
def newForecast : FillForecastV2 where
  pitId := source.pitId
  computedAt := now
  validUntil := now
  simulated := snapshot.summary.simulated
  inputSource := snapshot.summary.inputSource
  currentLoadPercent := snapshot.summary.loadPercent
  targetThresholdPercent := snapshot.summary.collectionThresholdPercent
  windowFrom := now - seconds windowSeconds
  windowTo := now

/-- The method of the current observation. -/
def currentMethod : Option String :=
  match snapshot.fillObservation with
  | some observation => observation.methodVersion
  | none => (snapshot.assessment.bind fun assessment => assessment.fillEstimate).map
      fun estimate => estimate.methodVersion

/-- Collections end the trend before them. -/
def trendScope : TrendScope where
  inputSource := snapshot.summary.inputSource
  methodVersion := currentMethod snapshot
  simulated := snapshot.summary.simulated
  cutoff :=
    match collections.lastCollectionActivityAt with
    | some activity => max (now - seconds windowSeconds) activity
    | none => now - seconds windowSeconds
  now := now

/-- The points of the history, if the current observation goes on with them. -/
def kept (points : List (ℤ × ℚ)) (measuredAt : ℤ) (current : ℚ) : List (ℤ × ℚ) :=
  match points.getLast? with
  | none => points
  | some last =>
    if maxGapSeconds < totalSeconds (measuredAt - last.1) ∨ current < last.2 - dropPercent then []
    else points

/-- The points of the trend: the last one is the current observation. -/
def trendPoints (measuredAt : ℤ) (current : ℚ) : List (ℤ × ℚ) :=
  let scope := trendScope snapshot collections now
  let points := kept (recentPoints history scope) measuredAt current
  if (scope.cutoff ≤ measuredAt ∧ measuredAt ≤ now) ∧
      ∀ last ∈ points.getLast?, last.1 < measuredAt then points ++ [(measuredAt, current)]
  else points

/-- `fill_forecast`. -/
def fillForecast : Except TrendError FillForecastV2 :=
  let result := newForecast source snapshot now
  match snapshot.summary.loadPercent, snapshot.measuredAt with
  | some current, some measuredAt =>
    if snapshot.dataState ≠ .fresh then
      .ok { result with reasonCodes := "CURRENT_LOAD_UNAVAILABLE" :: snapshot.reasonCodes }
    else
      let result :=
        { result with validUntil := min (now + seconds 60) (measuredAt + settings.ttl) }
      if result.targetThresholdPercent ≤ current then .ok
        { result with
          state := .reached
          expectedThresholdAt := some now
          remainingSeconds := some 0
          reasonCodes := ["THRESHOLD_ALREADY_REACHED"] }
      else if collections.detectionEnabled ∧
          collections.detectionState ∈ [.phase .candidate, .phase .collecting] then
        .ok { result with reasonCodes := ["COLLECTION_IN_PROGRESS"] }
      else if collections.detectionEnabled ∧ collections.detectionState = .unknown then
        .ok { result with reasonCodes := ["COLLECTION_STATE_UNAVAILABLE"] }
      else if history.any fun sample => sample.observedAt.any fun observed => measuredAt < observed
        then .ok { result with reasonCodes := ["OBSERVATION_CHANGED_DURING_FORECAST"] }
      else projectTrend result (trendPoints snapshot collections history now measuredAt current)
  | _, _ => .ok { result with reasonCodes := "CURRENT_LOAD_UNAVAILABLE" :: snapshot.reasonCodes }

/-- A forecast ends before the trend, or is a projection of a known load. -/
theorem fillForecast_cases :
    (∃ r, fillForecast settings source snapshot collections history now = .ok r ∧
      r.state ≠ .available) ∨
    ∃ result points, result.state ≠ .available ∧ result.currentLoadPercent ≠ none ∧
      fillForecast settings source snapshot collections history now =
        projectTrend result points := by
  unfold fillForecast
  split
  · next current measuredAt hcurrent hmeasured =>
    dsimp only
    split_ifs
    · exact .inl ⟨_, rfl, by rintro ⟨⟩⟩
    · exact .inl ⟨_, rfl, by rintro ⟨⟩⟩
    · exact .inl ⟨_, rfl, by rintro ⟨⟩⟩
    · exact .inl ⟨_, rfl, by rintro ⟨⟩⟩
    · exact .inl ⟨_, rfl, by rintro ⟨⟩⟩
    · refine .inr ⟨_, _, by rintro ⟨⟩, ?_, rfl⟩
      exact fun hnone => Option.some_ne_none current (hcurrent.symm.trans hnone)
  · exact .inl ⟨_, rfl, by rintro ⟨⟩⟩

/-- No forecast fails. -/
theorem fillForecast_total :
    ∃ r, fillForecast settings source snapshot collections history now = .ok r := by
  rcases fillForecast_cases settings source snapshot collections history now with ⟨r, hr, -⟩ |
    ⟨result, points, -, hload, hproject⟩
  · exact ⟨r, hr⟩
  · rcases projectTrend_total result points with ⟨r, hr⟩ | ⟨hnone, -⟩
    · exact ⟨r, hproject.trans hr⟩
    · exact absurd hnone hload

end

variable {settings : Settings} {source : MonitoringSource} {snapshot : MonitoringSnapshotV2}
variable {collections : CollectionSummaryV2} {history : List HistorySampleV2} {now : ℤ}
variable {forecast : FillForecastV2}

/-- An available forecast is that of a trend. -/
theorem fillForecast_available
    (h : fillForecast settings source snapshot collections history now = .ok forecast)
    (havailable : forecast.state = .available) :
    ∃ points, ∃ first ∈ points.head?, Projected points first forecast := by
  rcases fillForecast_cases settings source snapshot collections history now with ⟨r, hr, hstate⟩ |
    ⟨result, points, hstate, -, hproject⟩
  · obtain rfl := Except.ok.inj (h.symm.trans hr)
    exact absurd havailable hstate
  · exact ⟨points, projectTrend_available hstate (hproject.symm.trans h) havailable⟩

/-- **The forecast is sound**: its points are the longest contiguous suffix of the history, the
projection never divides by zero and its squared correlation needs no clamp, and an available
forecast is the time at which a rising line reaches the threshold. -/
theorem forecast_sound :
    (∀ samples scope, ∃ t, t <:+ samples ∧ Contiguous scope t (recentPoints samples scope) ∧
      ∀ t' points, t' <:+ samples → Contiguous scope t' points → t' <:+ t) ∧
    (∀ result points, projectTrend result points ≠ .error .zeroDivision) ∧
    (∀ points first, rSquared points first ∈ Set.Icc 0 1) ∧
    (∀ result points r, result.state ≠ .available → projectTrend result points = .ok r →
      r.state = .available → ∃ first ∈ points.head?, Projected points first r) ∧
    (∀ settings source snapshot collections history now forecast,
      fillForecast settings source snapshot collections history now = .ok forecast →
      forecast.state = .available → ∃ points, ∃ first ∈ points.head?,
        Projected points first forecast) := by
  refine ⟨recentPoints_longest, fun result points h => ?_, rSquared_mem_Icc,
    fun result points r => projectTrend_available,
    fun settings source snapshot collections history now forecast => fillForecast_available⟩
  rcases projectTrend_total result points with ⟨r, hr⟩ | ⟨-, herror⟩
  · rw [hr] at h
    cases h
  · rw [herror] at h
    cases h

/-! ## A rising load

The load rises by ten percent a minute and is twenty percent below the threshold. -/

def risingSample (time : ℤ) (value : ℚ) : HistorySampleV2 where
  bucketStartAt := time
  bucketEndAt := time + seconds 60
  generatedAt := some time
  observedAt := some time
  valuePercent := some value
  valid := true
  dataState := .available
  validSamples := 1

def risingSnapshot : MonitoringSnapshotV2 where
  source := ⟨"pit", "site", "edge"⟩
  measuredAt := some (seconds 120)
  assessmentReceivedAt := some (seconds 120)
  dataState := .fresh
  reasonCodes := []
  summary :=
    { inputSource := .edgeState
      simulated := false
      loadPercent := some 70
      rawLoadPercent := some 70
      filterState := .ready
      warningThresholdPercent := 75
      collectionThresholdPercent := 90
      recoveryThresholdPercent := 85 }
  assessment := none
  deviceStatus := ⟨"site", "edge", .reporting, some (seconds 120), .healthy, [], none⟩
  operations := none
  fillObservation := none

def risingForecast : Except TrendError FillForecastV2 :=
  fillForecast Monitoring.sampleSettings risingSnapshot.source risingSnapshot
    ⟨true, .phase .idle, none⟩ [risingSample 0 50, risingSample (seconds 60) 60] (seconds 120)

theorem forecast_sound_rising : ∃ forecast, risingForecast = .ok forecast ∧
    forecast.state = .available ∧ forecast.remainingSeconds = some 120 ∧
    ∃ points, ∃ first ∈ points.head?, Projected points first forecast := by
  have hmap : risingForecast.map (fun forecast => (forecast.state, forecast.remainingSeconds)) =
      .ok (.available, some 120) := by decide +kernel
  obtain ⟨forecast, hforecast⟩ : ∃ forecast, risingForecast = .ok forecast :=
    fillForecast_total _ _ _ _ _ _
  rw [hforecast] at hmap
  obtain ⟨hstate, hremaining⟩ := Prod.mk.inj (Except.ok.inj hmap)
  exact ⟨forecast, hforecast, hstate, hremaining,
    forecast_sound.2.2.2.2 _ _ _ _ _ _ forecast hforecast hstate⟩

end ScrapMonitoring.Forecast
