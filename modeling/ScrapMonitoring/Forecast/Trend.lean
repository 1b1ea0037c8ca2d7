import ScrapMonitoring.Foundations.LongestSuffix
import ScrapMonitoring.Foundations.Regression
import ScrapMonitoring.History.Samples
import ScrapMonitoring.Monitoring.Snapshot

/-!
# The trend of the load

`recent_points` and `project_trend` of `services/fill_forecast_service.py`, in exact arithmetic. A
division by zero, an index out of range and a failed assertion are errors here as they are there.

* `recentPoints_isLongest`: the points are those of the longest suffix of the history whose samples
  pass and follow each other closely enough.
* `projectTrend_total`: of these errors only the assertion is left, that the current load is known.
* `projectTrend_available`: what a projection says.
-/

namespace ScrapMonitoring.Forecast

open History (HistorySampleV2 SampleSource HistoryDataState)
open Monitoring (InputSource)

def maxGapSeconds : ℚ := 90

def minSpanSeconds : ℚ := 60

def minSamples : ℕ := 3

def dropPercent : ℚ := 1

def minRSquared : ℚ := 8 / 10

def maxRemainingSeconds : ℚ := 24 * 3600

/-- The source of a sample that was made with this input. -/
def sampleSource : InputSource → SampleSource
  | .edgeState => .edgeState
  | .heightSections => .heightSections

/-! ## The recent points -/

/-- What the samples of a trend have in common, and its time. -/
structure TrendScope where
  inputSource : InputSource
  methodVersion : Option String
  simulated : Bool
  cutoff : ℤ
  now : ℤ

/-- The time and the value of a sample, if it passes the checks. -/
def TrendScope.point (scope : TrendScope) (sample : HistorySampleV2) : Option (ℤ × ℚ) :=
  match sample.observedAt, sample.generatedAt, sample.valuePercent with
  | some observed, some generated, some value =>
    if !sample.valid ∨ 0 < sample.invalidSamples ∨ sample.dataState ≠ .available ∨
        ¬(scope.cutoff ≤ observed ∧ observed ≤ generated ∧ generated ≤ scope.now) ∨
        sample.inputSource ≠ sampleSource scope.inputSource ∨
        sample.methodVersion ≠ scope.methodVersion ∨ sample.simulated ≠ scope.simulated then none
    else some (observed, value)
  | _, _, _ => none

/-- A point may follow another: it is later, by no more than the gap, and has not dropped. -/
def follows (last point : ℤ × ℚ) : Bool :=
  let gap := totalSeconds (point.1 - last.1)
  ¬(gap ≤ 0 ∨ maxGapSeconds < gap ∨ point.2 < last.2 - dropPercent)

/-- `recent_points`. -/
def recentPoints (samples : List HistorySampleV2) (scope : TrendScope) : List (ℤ × ℚ) :=
  keepSuffix scope.point follows samples

/-- What it takes for a sample to pass, with its point. -/
structure TrendScope.Passes (scope : TrendScope) (sample : HistorySampleV2) (point : ℤ × ℚ) :
    Prop where
  valid : sample.valid = true
  invalidSamples : sample.invalidSamples = 0
  dataState : sample.dataState = .available
  value : sample.valuePercent = some point.2
  observed : sample.observedAt = some point.1
  generated : ∃ generated ∈ sample.generatedAt,
    scope.cutoff ≤ point.1 ∧ point.1 ≤ generated ∧ generated ≤ scope.now
  inputSource : sample.inputSource = sampleSource scope.inputSource
  methodVersion : sample.methodVersion = scope.methodVersion
  simulated : sample.simulated = scope.simulated

theorem TrendScope.point_eq_some {scope : TrendScope} {sample : HistorySampleV2} {point : ℤ × ℚ} :
    scope.point sample = some point ↔ scope.Passes sample point := by
  constructor
  · intro h
    unfold TrendScope.point at h
    split at h
    · next observed generated value hobserved hgenerated hvalue =>
      split_ifs at h with hchecks
      obtain rfl := Option.some.inj h
      simp only [not_or, not_not, not_lt, Nat.le_zero, Bool.not_eq_true, Bool.not_eq_false',
        ne_eq] at hchecks
      obtain ⟨hvalid, hinvalid, hstate, htimes, hsource, hmethod, hsimulated⟩ := hchecks
      exact ⟨by simpa using hvalid, hinvalid, hstate, hvalue, hobserved,
        ⟨generated, hgenerated, htimes⟩, hsource, hmethod, hsimulated⟩
    · cases h
  · rintro ⟨hvalid, hinvalid, hstate, hvalue, hobserved, ⟨generated, hgenerated, htimes⟩, hsource,
      hmethod, hsimulated⟩
    rw [TrendScope.point, hobserved, hgenerated, hvalue]
    refine if_neg ?_
    simp only [hvalid, hinvalid, hstate, hsource, hmethod, hsimulated, htimes, ne_eq, not_true,
      lt_irrefl, Bool.not_true, Bool.false_eq_true, and_self, or_self, not_false_eq_true]

/-- The gap and the drop that are allowed between neighbours. -/
def Follows (last point : ℤ × ℚ) : Prop :=
  0 < totalSeconds (point.1 - last.1) ∧ totalSeconds (point.1 - last.1) ≤ maxGapSeconds ∧
    last.2 - dropPercent ≤ point.2

theorem follows_eq_true {last point : ℤ × ℚ} : follows last point = true ↔ Follows last point := by
  unfold follows Follows
  rw [decide_eq_true_iff, not_or, not_or, not_le, not_lt, not_lt]

/-- A suffix that may be shown as a trend, with its points. -/
structure Contiguous (scope : TrendScope) (samples : List HistorySampleV2)
    (points : List (ℤ × ℚ)) : Prop where
  passes : List.Forall₂ scope.Passes samples points
  follows : points.IsChain Follows

theorem unbroken_iff {scope : TrendScope} {samples : List HistorySampleV2}
    {points : List (ℤ × ℚ)} :
    Unbroken scope.point follows samples points ↔ Contiguous scope samples points := by
  have hpasses : samples.map scope.point = points.map some ↔
      List.Forall₂ scope.Passes samples points := by
    rw [← List.forall₂_eq_eq_eq, List.forall₂_map_left_iff, List.forall₂_map_right_iff]
    simp only [TrendScope.point_eq_some]
  have hfollows : (points.IsChain fun a b => follows a b = true) ↔ points.IsChain Follows := by
    simp only [follows_eq_true]
  exact ⟨fun h => ⟨hpasses.1 h.passes, hfollows.1 h.chain⟩,
    fun h => ⟨hpasses.2 h.passes, hfollows.2 h.follows⟩⟩

/-- The points are those of the longest contiguous suffix. -/
theorem recentPoints_longest (samples : List HistorySampleV2) (scope : TrendScope) :
    ∃ t, t <:+ samples ∧ Contiguous scope t (recentPoints samples scope) ∧
      ∀ t' points, t' <:+ samples → Contiguous scope t' points → t' <:+ t := by
  obtain ⟨t, hsuffix, hunbroken, hlongest⟩ := keepSuffix_isLongest scope.point follows samples
  refine ⟨t, hsuffix, unbroken_iff.1 hunbroken, fun t' points hsuffix' hcontiguous => ?_⟩
  exact hlongest t' points hsuffix' (unbroken_iff.2 hcontiguous)

/-! ## The projection -/

inductive ForecastState
  | available
  | reached
  | unavailable
  deriving DecidableEq

structure FillForecastV2 where
  pitId : String
  computedAt : ℤ
  validUntil : ℤ
  state : ForecastState := .unavailable
  simulated : Bool := false
  inputSource : InputSource
  currentLoadPercent : Option ℚ := none
  targetThresholdPercent : ℚ
  expectedThresholdAt : Option ℤ := none
  remainingSeconds : Option ℤ := none
  increasePercentPerMinute : Option ℚ := none
  trendRSquared : Option ℚ := none
  windowFrom : ℤ
  windowTo : ℤ
  sampleCount : ℕ := 0
  reasonCodes : List String := []
  deriving DecidableEq

/-- The exceptions that the projection could raise. -/
inductive TrendError
  | zeroDivision
  | index
  | assertion
  deriving DecidableEq

/-- `a / b`. -/
def divide (a b : ℚ) : Except TrendError ℚ := if b = 0 then .error .zeroDivision else .ok (a / b)

/-- Sums of squares and of products of the deviations from the means. -/
structure Moments where
  xx : ℚ
  yy : ℚ
  xy : ℚ

/-- The moments of a list of points with these coordinates. -/
def moments (xs ys : List ℚ) : Except TrendError Moments := do
  let meanX ← divide xs.sum xs.length
  let meanY ← divide ys.sum ys.length
  return {
    xx := (xs.map fun x => (x - meanX) ^ 2).sum
    yy := (ys.map fun y => (y - meanY) ^ 2).sum
    xy := ((xs.zip ys).map fun p => (p.1 - meanX) * (p.2 - meanY)).sum }

/-- The seconds of a point since the first one. -/
def elapsed (first point : ℤ × ℚ) : ℚ := totalSeconds (point.1 - first.1)

/-- What is left of `project_trend` once the slope is known. -/
def project (result : FillForecastV2) (slope rSquared : ℚ) : Except TrendError FillForecastV2 := do
  let trend := min 1 (max 0 rSquared)
  let result := { result with trendRSquared := some trend }
  if trend < minRSquared then return { result with reasonCodes := ["UNSTABLE_LOAD_TREND"] }
  match result.currentLoadPercent with
  | none => throw .assertion
  | some current =>
    let remaining ← divide (result.targetThresholdPercent - current) slope
    if maxRemainingSeconds < remaining then
      return { result with reasonCodes := ["FORECAST_HORIZON_EXCEEDED"] }
    let seconds' := max 0 ⌈remaining - 1 / 1000000000⌉
    return { result with
      remainingSeconds := some seconds'
      expectedThresholdAt := some (result.computedAt + seconds seconds')
      state := .available }

/-- `project_trend`. -/
def projectTrend (result : FillForecastV2) (points : List (ℤ × ℚ)) :
    Except TrendError FillForecastV2 := do
  let result := { result with sampleCount := points.length }
  if points.length < minSamples then
    return { result with reasonCodes := ["INSUFFICIENT_TREND_SAMPLES"] }
  match points.head?, points.getLast? with
  | some first, some last =>
    let result := { result with windowFrom := first.1, windowTo := last.1 }
    if totalSeconds (last.1 - first.1) < minSpanSeconds then
      return { result with reasonCodes := ["INSUFFICIENT_TREND_SPAN"] }
    let m ← moments (points.map (elapsed first)) (points.map Prod.snd)
    let slope ← divide m.xy m.xx
    let result := { result with increasePercentPerMinute := some (slope * 60) }
    if slope ≤ 0 ∨ m.yy = 0 then return { result with reasonCodes := ["LOAD_NOT_INCREASING"] }
    let rSquared ← divide (m.xy * m.xy) (m.xx * m.yy)
    project result slope rSquared
  | _, _ => throw .index

/-! ## The moments -/

section

variable (points : List (ℤ × ℚ)) (first : ℤ × ℚ)

def meanX : ℚ := (points.map (elapsed first)).sum / points.length

def meanY : ℚ := (points.map Prod.snd).sum / points.length

/-- The moments of the points, by their times and values. -/
def trendMoments : Moments where
  xx := (points.map fun point => (elapsed first point - meanX points first) ^ 2).sum
  yy := (points.map fun point => (point.2 - meanY points) ^ 2).sum
  xy := (points.map fun point =>
    (elapsed first point - meanX points first) * (point.2 - meanY points)).sum

/-- The slope of the regression line, in percent a second. -/
def trendSlope : ℚ := (trendMoments points first).xy / (trendMoments points first).xx

/-- The squared correlation, as computed before it is clamped. -/
def rSquared : ℚ :=
  (trendMoments points first).xy * (trendMoments points first).xy /
    ((trendMoments points first).xx * (trendMoments points first).yy)

end

variable {points : List (ℤ × ℚ)} {first last : ℤ × ℚ}

theorem divide_of_ne_zero {a b : ℚ} (h : b ≠ 0) : divide a b = .ok (a / b) := if_neg h

theorem moments_eq (h : points ≠ []) :
    moments (points.map (elapsed first)) (points.map Prod.snd) =
      .ok (trendMoments points first) := by
  have hlength : (points.length : ℚ) ≠ 0 := by
    rw [Nat.cast_ne_zero]
    exact mt List.length_eq_zero_iff.1 h
  simp only [moments, List.length_map, divide_of_ne_zero hlength, List.zip_map', List.map_map,
    bind, Except.bind, pure, Except.pure]
  rfl

/-- The squared correlation needs no clamp. -/
theorem rSquared_mem_Icc (points : List (ℤ × ℚ)) (first : ℤ × ℚ) :
    rSquared points first ∈ Set.Icc 0 1 := by
  have h := correlation_mem_Icc points (fun point => elapsed first point - meanX points first)
    fun point => point.2 - meanY points
  rw [sq] at h
  exact h

/-- Points that span some time vary in time. -/
theorem xx_pos (hfirst : first ∈ points) (hlast : last ∈ points)
    (hspan : 0 < totalSeconds (last.1 - first.1)) : 0 < (trendMoments points first).xx := by
  refine sum_sq_pos hfirst hlast ?_ (meanX points first)
  have hself : elapsed first first = 0 := by
    rw [elapsed, sub_self]
    exact zero_div _
  rw [hself]
  exact hspan.ne

/-! ## What a projection says -/

/-- An available forecast, by the trend of its points. -/
structure Projected (points : List (ℤ × ℚ)) (first : ℤ × ℚ) (result : FillForecastV2) : Prop where
  slope_pos : 0 < trendSlope points first
  increase : result.increasePercentPerMinute = some (trendSlope points first * 60)
  correlation : result.trendRSquared = some (rSquared points first)
  correlation_ge : minRSquared ≤ rSquared points first
  /-- The remaining time is within a day, and the first whole second at which the line reaches the
  threshold. -/
  remaining : ∃ current ∈ result.currentLoadPercent, ∃ n ∈ result.remainingSeconds,
    n ≤ 86400 ∧ result.expectedThresholdAt = some (result.computedAt + seconds n) ∧
    IsLeast {n : ℤ | 0 ≤ n ∧ result.targetThresholdPercent ≤
      current + trendSlope points first * (n + 1 / 1000000000)} n

/-- The whole seconds after which a line that rises by `slope` a second has gained `rise`. -/
theorem isLeast_ceil {slope : ℚ} (hslope : 0 < slope) (rise ε : ℚ) :
    IsLeast {n : ℤ | 0 ≤ n ∧ rise ≤ slope * (n + ε)} (max 0 ⌈rise / slope - ε⌉) := by
  have hreach : ∀ n : ℤ, rise ≤ slope * (n + ε) ↔ ⌈rise / slope - ε⌉ ≤ n := by
    intro n
    rw [Int.ceil_le, sub_le_iff_le_add, div_le_iff₀' hslope]
  constructor
  · exact ⟨le_max_left _ _, (hreach _).2 (le_max_right _ _)⟩
  · rintro n ⟨hn, hrise⟩
    exact max_le hn ((hreach n).1 hrise)

/-- The projection of a positive slope: it fails only without a current load. -/
theorem project_cases (result : FillForecastV2) {slope r : ℚ} (hslope : 0 < slope)
    (hr : r ∈ Set.Icc (0 : ℚ) 1) :
    (result.currentLoadPercent = none ∧ project result slope r = .error .assertion) ∨
    (∃ reason, project result slope r =
      .ok { result with trendRSquared := some r, reasonCodes := reason }) ∨
    ∃ current ∈ result.currentLoadPercent, minRSquared ≤ r ∧
      (result.targetThresholdPercent - current) / slope ≤ maxRemainingSeconds ∧
      project result slope r = .ok
        { result with
          trendRSquared := some r
          remainingSeconds := some
            (max 0 ⌈(result.targetThresholdPercent - current) / slope - 1 / 1000000000⌉)
          expectedThresholdAt := some (result.computedAt + seconds
            (max 0 ⌈(result.targetThresholdPercent - current) / slope - 1 / 1000000000⌉))
          state := .available } := by
  have hclamp : min 1 (max 0 r) = r := by
    rw [max_eq_right hr.1, min_eq_right hr.2]
  unfold project
  simp only [hclamp]
  by_cases hstable : r < minRSquared
  · rw [if_pos hstable]
    exact .inr (.inl ⟨_, rfl⟩)
  · rw [if_neg hstable]
    cases hcurrent : result.currentLoadPercent with
    | none => exact .inl ⟨rfl, rfl⟩
    | some current =>
      simp only [divide_of_ne_zero hslope.ne']
      by_cases hfar : maxRemainingSeconds < (result.targetThresholdPercent - current) / slope
      · exact .inr (.inl ⟨["FORECAST_HORIZON_EXCEEDED"], if_pos hfar⟩)
      · exact .inr (.inr ⟨current, rfl, not_lt.1 hstable, not_lt.1 hfar, if_neg hfar⟩)

/-- `project_trend` ends early, or comes to the projection of a positive slope. -/
theorem projectTrend_cases (result : FillForecastV2) (points : List (ℤ × ℚ)) :
    (∃ r, projectTrend result points = .ok r ∧ r.state = result.state) ∨
    ∃ first ∈ points.head?, ∃ updated : FillForecastV2, 0 < trendSlope points first ∧
      updated.state = result.state ∧ updated.currentLoadPercent = result.currentLoadPercent ∧
      updated.increasePercentPerMinute = some (trendSlope points first * 60) ∧
      projectTrend result points =
        project updated (trendSlope points first) (rSquared points first) := by
  unfold projectTrend
  by_cases hshort : points.length < minSamples
  · exact .inl ⟨_, if_pos hshort, rfl⟩
  have hne : points ≠ [] := by
    rintro rfl
    exact hshort (by decide)
  obtain ⟨first, hfirst⟩ := Option.ne_none_iff_exists'.1 (mt List.head?_eq_none_iff.1 hne)
  obtain ⟨last, hlast⟩ := Option.ne_none_iff_exists'.1 (mt List.getLast?_eq_none_iff.1 hne)
  simp only [if_neg hshort, hfirst, hlast]
  by_cases hspan : totalSeconds (last.1 - first.1) < minSpanSeconds
  · exact .inl ⟨_, if_pos hspan, rfl⟩
  have hxx : 0 < (trendMoments points first).xx := by
    refine xx_pos (List.mem_of_head? hfirst) (List.mem_of_getLast? hlast) ?_
    exact lt_of_lt_of_le (by norm_num [minSpanSeconds]) (not_lt.1 hspan)
  have hslope : divide (trendMoments points first).xy (trendMoments points first).xx =
      .ok (trendSlope points first) := divide_of_ne_zero hxx.ne'
  rw [if_neg hspan, moments_eq hne]
  simp only [bind, Except.bind, hslope]
  by_cases hrising : trendSlope points first ≤ 0 ∨ (trendMoments points first).yy = 0
  · exact .inl ⟨_, if_pos hrising, rfl⟩
  · refine .inr ⟨first, rfl,
      { result with
        sampleCount := points.length
        windowFrom := first.1
        windowTo := last.1
        increasePercentPerMinute := some (trendSlope points first * 60) },
      not_le.1 fun h => hrising (.inl h), rfl, rfl, rfl, ?_⟩
    have hyy : (trendMoments points first).yy ≠ 0 := fun h => hrising (.inr h)
    rw [if_neg hrising, divide_of_ne_zero (mul_ne_zero hxx.ne' hyy)]
    rfl

/-- Of the errors only the assertion is left, that the current load is known. -/
theorem projectTrend_total (result : FillForecastV2) (points : List (ℤ × ℚ)) :
    (∃ r, projectTrend result points = .ok r) ∨
      result.currentLoadPercent = none ∧ projectTrend result points = .error .assertion := by
  rcases projectTrend_cases result points with ⟨r, hr, -⟩ |
    ⟨first, -, updated, hslope, -, hload, -, hproject⟩
  · exact .inl ⟨r, hr⟩
  · rw [hproject, ← hload]
    rcases project_cases updated hslope (rSquared_mem_Icc points first) with ⟨hnone, herror⟩ |
      ⟨_, hok⟩ | ⟨_, _, _, _, hok⟩
    · exact .inr ⟨hnone, herror⟩
    · exact .inl ⟨_, hok⟩
    · exact .inl ⟨_, hok⟩

/-- A forecast that becomes available is that of the trend. -/
theorem projectTrend_available {result r : FillForecastV2} {points : List (ℤ × ℚ)}
    (hstate : result.state ≠ .available) (h : projectTrend result points = .ok r)
    (hr : r.state = .available) : ∃ first ∈ points.head?, Projected points first r := by
  rcases projectTrend_cases result points with ⟨r', hr', hsame⟩ |
    ⟨first, hfirst, updated, hslope, hsame, -, hincrease, hproject⟩
  · obtain rfl := Except.ok.inj (h.symm.trans hr')
    exact absurd (hsame.symm.trans hr) hstate
  · rw [hproject] at h
    rcases project_cases updated hslope (rSquared_mem_Icc points first) with ⟨-, herror⟩ |
      ⟨_, hok⟩ | ⟨current, hcurrent, hcorrelation, hnear, hok⟩
    · rw [herror] at h
      cases h
    · obtain rfl := Except.ok.inj (h.symm.trans hok)
      exact absurd (hsame.symm.trans hr) hstate
    · obtain rfl := Except.ok.inj (h.symm.trans hok)
      refine ⟨first, hfirst, hslope, hincrease, rfl, hcorrelation, current, hcurrent, _, rfl, ?_,
        rfl, ?_⟩
      · refine max_le (by norm_num) (Int.ceil_le.2 ?_)
        refine (sub_le_self _ (by norm_num)).trans (hnear.trans ?_)
        norm_num [maxRemainingSeconds]
      · have hleast :=
          isLeast_ceil hslope (updated.targetThresholdPercent - current) (1 / 1000000000)
        simp only [sub_le_iff_le_add'] at hleast
        exact hleast

end ScrapMonitoring.Forecast
