import ScrapMonitoring.Filtering.Heights
import ScrapMonitoring.Foundations.Median

/-!
# The page of filtered heights

`filtered_page` replaces the heights of a page of profiles by their medians over the windows of the
sensors: the height of each spatial bin, or the mean of the received points. It shows a value only
where the window is full and ends with the profile shown, and every frame of it is valid there
(`height_windows`).

A list that is indexed out of range is `none`.
-/

namespace ScrapMonitoring.Filtering

/-- A reference for the heights of a pit. -/
inductive HeightContext
  | field (minimumCoverage : ℚ)
  | simulation (minimumCoverage topZCm floorZCm : ℚ)
  deriving DecidableEq, Repr

def HeightContext.minimumCoverage : HeightContext → ℚ
  | .field minimum => minimum
  | .simulation minimum _ _ => minimum

/-- `reference_depth`. -/
def referenceDepth (reference : Option HeightContext) (pitDepth : Option ℚ) : Option ℚ :=
  match reference with
  | some (.simulation _ top floor) => some (top - floor)
  | _ => pitDepth

structure LidarProfilePage where
  pitId : String
  profiles : List LidarProfile
  meanSectionFillPercent : Option ℚ := none
  meanSectionReasonCodes : List String := []
  deriving DecidableEq, Repr

/-- The windows of the sensors. -/
abbrev SensorWindows := String → Option SensorWindow

def fmean (values : List ℚ) : ℚ := values.sum / values.length

def warmingOrMissing : String := "HEIGHT_TEMPORAL_WARMING_OR_MISSING"

/-- `list(dict.fromkeys([*codes, code]))`. -/
def addReason (codes : List String) (code : String) : List String := (codes ++ [code]).eraseDups

/-- The window ends with a frame of the time of the profile. -/
def SensorWindow.endsAt (window : SensorWindow) (profile : LidarProfile) : Bool :=
  window.frames.getLast?.any fun frame => some frame.time = profile.measuredAt

/-- The window from which the bins of a profile are filtered, if it is ready. -/
def readyWindow (size : ℕ) (profile : LidarProfile) (history : Option SensorWindow) :
    Option SensorWindow :=
  history.filter fun window => window.frames.length = size ∧ window.endsAt profile ∧
    window.positions.map some = profile.samples.map ProfileSample.positionRatio ∧
    window.basis = .spatialBins ∧ profile.calibrated

/-- The filtered value of a bin. -/
def binValue (ready : Option SensorWindow) (index : ℕ) (sample : ProfileSample) :
    Option (Option ℚ) :=
  match ready with
  | none => some none
  | some window =>
    (window.frames.mapM fun frame => frame.heights[index]?).map fun heights =>
      if sample.valid ∧ ∀ value ∈ heights, value ≠ none then median (heights.filterMap id) else none

def filteredSample (ready : Option SensorWindow) (entry : ProfileSample × ℕ) :
    Option ProfileSample :=
  (binValue ready entry.2 entry.1).map fun value =>
    { entry.1 with height := value, valid := value.isSome }

/-- The profile with its bins filtered. -/
def filterBins (size : ℕ) (reference : Option HeightContext) (depth : Option ℚ)
    (profile : LidarProfile) (history : Option SensorWindow) : Option LidarProfile :=
  (profile.samples.zipIdx.mapM (filteredSample (readyWindow size profile history))).map
    fun samples =>
    let values := samples.filterMap ProfileSample.height
    let coverageRatio := if values = [] then 0 else (values.length : ℚ) / samples.length
    let section_ :=
      if reference.any (·.minimumCoverage ≤ coverageRatio) ∧ values ≠ [] then
        (depth.filter (· ≠ 0)).map fun depth => fmean values / depth * 100
      else none
    { profile with
      valuePolicy := .spatialTemporalMedian
      average := if values = [] then none else some (fmean values)
      minimum := values.min?
      maximum := values.max?
      coverageRatio := coverageRatio
      samples := samples
      sectionFillPercent := section_
      reasonCodes :=
        if profile.calibrated ∧ section_ = none then addReason profile.reasonCodes warmingOrMissing
        else profile.reasonCodes }

/-- The value of a frame of received points. -/
def HeightFrame.mean? (frame : HeightFrame) : Option ℚ :=
  match frame.heights with
  | [value] => value
  | _ => none

/-- The window from which the mean of a profile is filtered, if it is ready. -/
def readyMeans (size : ℕ) (profile : LidarProfile) (history : Option SensorWindow)
    (depth : Option ℚ) : Option (List ℚ) :=
  if profile.calibrated ∧ profile.average ≠ none ∧ depth.any (· ≠ 0) then
    (history.filter fun window => window.basis = .receivedPoints ∧ window.frames.length = size ∧
      window.endsAt profile).bind fun window => window.frames.mapM HeightFrame.mean?
  else none

/-- `filter_scan_mean`. -/
def filterScanMean (size : ℕ) (depth : Option ℚ) (profile : LidarProfile)
    (history : Option SensorWindow) : LidarProfile :=
  let filtered := (readyMeans size profile history depth).bind median
  { profile with
    valuePolicy := .sensorAngle
    summaryValuePolicy := .scanMeanTemporalMedian
    filteredAverage := filtered
    sectionFillPercent := filtered.bind fun value => depth.map fun depth => value / depth * 100
    reasonCodes :=
      if filtered = none ∧ profile.calibrated then addReason profile.reasonCodes warmingOrMissing
      else profile.reasonCodes }

def filterProfile (size : ℕ) (reference : Option HeightContext) (depth : Option ℚ)
    (windows : SensorWindows) (profile : LidarProfile) : Option LidarProfile :=
  match profile.coverageBasis with
  | .receivedPoints => some (filterScanMean size depth profile (windows profile.sensorId))
  | .spatialBins => filterBins size reference depth profile (windows profile.sensorId)

/-- `filtered_page`. -/
def filteredPage (size : ℕ) (heightReference : String → Option HeightContext)
    (page : LidarProfilePage) (windows : SensorWindows) (pitDepth : Option ℚ) :
    Option LidarProfilePage :=
  let reference := heightReference page.pitId
  let depth := referenceDepth reference pitDepth
  (page.profiles.mapM (filterProfile size reference depth windows)).map fun profiles =>
    let ratios := profiles.filterMap LidarProfile.sectionFillPercent
    if ratios.length = 2 ∧ page.meanSectionReasonCodes = [] then
      { page with profiles, meanSectionFillPercent := some (fmean ratios) }
    else
      { page with
        profiles
        meanSectionFillPercent := none
        meanSectionReasonCodes :=
          if page.meanSectionReasonCodes = [] then [warmingOrMissing]
          else page.meanSectionReasonCodes }

/-! ## The values that are shown -/

/-- The windows that the profiles of the sensors lead to. -/
def SensorWindows.Reached (size : ℕ) (windows : SensorWindows) : Prop :=
  ∀ sensorId window, windows sensorId = some window → ∃ es, Run (heightStep size) {} es window

/-- The valid samples of the bins are medians, each of the values of its bin in the frames of a full
window that ends with the profile. -/
def BinMedians (size : ℕ) (windows : SensorWindows) (page result : LidarProfilePage) : Prop :=
  ∀ (i j : ℕ) (profile profile' : LidarProfile) (sample : ProfileSample),
    page.profiles[i]? = some profile → profile.coverageBasis = .spatialBins →
    result.profiles[i]? = some profile' → profile'.samples[j]? = some sample → sample.valid →
    ∃ window last values height, windows profile.sensorId = some window ∧
      window.frames.length = size ∧ window.frames.getLast? = some last ∧
      profile.measuredAt = some last.time ∧
      window.frames.map (·.heights[j]?) = values.map (fun value => some (some value)) ∧
      sample.height = some height ∧ median values = some height

section

variable {size : ℕ} {window : SensorWindow} {profile : LidarProfile} {history : Option SensorWindow}
variable {windows : SensorWindows} {sample : ProfileSample} {index : ℕ}

/-- No bin is out of range of the frames of a window that is ready. -/
theorem exists_binValue (hformed : ∀ window, history = some window → Formed size window)
    (hindex : index < profile.samples.length) :
    ∃ value, binValue (readyWindow size profile history) index sample = some value := by
  cases hready : readyWindow size profile history with
  | none => exact ⟨none, rfl⟩
  | some window =>
    obtain ⟨hhistory, hcond⟩ := Option.filter_eq_some_iff.1 hready
    obtain ⟨-, -, hpositions, -⟩ := of_decide_eq_true hcond
    have hlength : window.positions.length = profile.samples.length := by
      simpa using congrArg List.length hpositions
    have hheights := (hformed window hhistory).heights
    obtain ⟨heights, hmap⟩ : ∃ heights, (window.frames.mapM fun frame => frame.heights[index]?) =
        some heights := exists_mapM fun frame hframe => by
      refine ⟨_, List.getElem?_eq_getElem ?_⟩
      rw [hheights frame hframe, hlength]
      exact hindex
    exact ⟨_, congrArg (Option.map _) hmap⟩

theorem map_some_filterMap {heights : List (Option ℚ)} (h : ∀ value ∈ heights, value ≠ none) :
    (heights.filterMap id).map some = heights := by
  induction heights with
  | nil => rfl
  | cons value rest ih =>
    obtain ⟨height, rfl⟩ := Option.ne_none_iff_exists'.1 (h value List.mem_cons_self)
    have hcons : (some height :: rest).filterMap id = height :: rest.filterMap id := rfl
    rw [hcons, List.map_cons, ih fun v hv => h v (List.mem_cons_of_mem _ hv)]

/-- The filtered value of a bin is a median of its window. -/
theorem binValue_some {height : ℚ} (h : binValue (readyWindow size profile history) index sample =
    some (some height)) :
    ∃ window last values, history = some window ∧ window.frames.length = size ∧
      window.frames.getLast? = some last ∧ profile.measuredAt = some last.time ∧
      window.frames.map (·.heights[index]?) = values.map (fun value => some (some value)) ∧
      median values = some height := by
  cases hready : readyWindow size profile history with
  | none =>
    rw [hready] at h
    cases h
  | some window =>
    obtain ⟨hhistory, hcond⟩ := Option.filter_eq_some_iff.1 hready
    obtain ⟨hfull, hends, -⟩ := of_decide_eq_true hcond
    obtain ⟨last, hlast, htime⟩ := (Option.any_eq_true _ _).1 hends
    rw [hready] at h
    obtain ⟨heights, hmap, hvalue⟩ := Option.map_eq_some_iff.1 h
    split_ifs at hvalue with hvalid
    have hsome := map_some_filterMap hvalid.2
    refine ⟨window, last, heights.filterMap id, hhistory, hfull, hlast,
      (of_decide_eq_true htime).symm, ?_, hvalue⟩
    rw [map_of_mapM hmap]
    conv_lhs => rw [← hsome]
    rw [List.map_map]
    rfl

/-- A filtered profile has the samples of the profile, each with the filtered value of its bin. -/
theorem filterBins_samples {reference : Option HeightContext} {depth : Option ℚ}
    {result : LidarProfile} (h : filterBins size reference depth profile history = some result) :
    profile.samples.zipIdx.mapM (filteredSample (readyWindow size profile history)) =
      some result.samples := by
  obtain ⟨samples, hsamples, rfl⟩ := Option.map_eq_some_iff.1 h
  exact hsamples

theorem exists_filterProfile (reference : Option HeightContext) (depth : Option ℚ)
    (hformed : ∀ window, windows profile.sensorId = some window → Formed size window) :
    ∃ result, filterProfile size reference depth windows profile = some result := by
  unfold filterProfile
  cases profile.coverageBasis with
  | receivedPoints => exact ⟨_, rfl⟩
  | spatialBins =>
    obtain ⟨samples, hsamples⟩ : ∃ samples, profile.samples.zipIdx.mapM (filteredSample
        (readyWindow size profile (windows profile.sensorId))) = some samples :=
      exists_mapM fun entry hentry => by
        have hindex := List.snd_lt_of_mem_zipIdx hentry
        obtain ⟨value, hvalue⟩ : ∃ value, binValue (readyWindow size profile
            (windows profile.sensorId)) entry.2 entry.1 = some value :=
          exists_binValue hformed (by omega)
        exact ⟨_, congrArg (Option.map _) hvalue⟩
    exact ⟨_, congrArg (Option.map _) hsamples⟩

/-- **A valid bin of a filtered profile is a median of its window.** -/
theorem filterBins_valid {reference : Option HeightContext} {depth : Option ℚ}
    {result : LidarProfile} (h : filterBins size reference depth profile history = some result)
    (hsample : result.samples[index]? = some sample) (hvalid : sample.valid) :
    ∃ window last values height, history = some window ∧ window.frames.length = size ∧
      window.frames.getLast? = some last ∧ profile.measuredAt = some last.time ∧
      window.frames.map (·.heights[index]?) = values.map (fun value => some (some value)) ∧
      sample.height = some height ∧ median values = some height := by
  rw [getElem?_mapM (filterBins_samples h), List.getElem?_zipIdx] at hsample
  obtain ⟨entry, hentry, hfiltered⟩ := Option.bind_eq_some_iff.1 hsample
  obtain ⟨bin, -, rfl⟩ := Option.map_eq_some_iff.1 hentry
  obtain ⟨value, hvalue, rfl⟩ := Option.map_eq_some_iff.1 hfiltered
  obtain ⟨height, rfl⟩ := Option.isSome_iff_exists.1 hvalid
  rw [Nat.zero_add] at hvalue
  obtain ⟨window, last, values, hhistory, hfull, hlast, htime, hvalues, hmedian⟩ :=
    binValue_some hvalue
  exact ⟨window, last, values, height, hhistory, hfull, hlast, htime, hvalues, rfl, hmedian⟩

/-- A filtered page has the profiles of the page, filtered. -/
theorem filteredPage_profiles {heightReference : String → Option HeightContext}
    {pitDepth : Option ℚ} {page result : LidarProfilePage}
    (h : filteredPage size heightReference page windows pitDepth = some result) :
    page.profiles.mapM (filterProfile size (heightReference page.pitId)
      (referenceDepth (heightReference page.pitId) pitDepth) windows) = some result.profiles := by
  obtain ⟨profiles, hprofiles, hresult⟩ := Option.map_eq_some_iff.1 h
  dsimp only at hresult
  split_ifs at hresult <;> (subst hresult; exact hprofiles)

/-! ## The windows of heights -/

/-- **The windows of heights, and the page that is filtered with them.** -/
theorem height_windows (hsize : 0 < size) :
    (∀ es window, Run (heightStep size) {} es window →
      Chronological HeightFrame.time window.frames ∧
      (∀ last, window.frames.getLast? = some last → ∀ frame ∈ window.frames,
        last.time - seconds size < frame.time ∧ frame.time ≤ last.time) ∧
      window.frames.length ≤ size ∧
      (∀ frame ∈ window.frames, frame.heights.length = window.positions.length) ∧
      (∀ first last, window.frames.length = size → window.frames.head? = some first →
        window.frames.getLast? = some last → seconds (size - 2) < last.time - first.time) ∧
      Held es window) ∧
    ∀ windows, SensorWindows.Reached size windows → ∀ heightReference page pitDepth,
      ∃ result, filteredPage size heightReference page windows pitDepth = some result ∧
        BinMedians size windows page result := by
  refine ⟨fun es window hrun => ?_, fun windows hreached heightReference page pitDepth => ?_⟩
  · have hformed := formed_of_run hsize hrun
    have hheld := held_of_run hsize hrun
    cases hlast : window.frames.getLast? with
    | none =>
      have hnil := List.getLast?_eq_none_iff.1 hlast
      rw [hnil]
      exact ⟨List.Pairwise.nil, by simp, by simp, by simp, by simp, hheld⟩
    | some last =>
      obtain ⟨anchor, -, hselected⟩ := hformed.selected last hlast
      refine ⟨hselected.chronological, fun last' hlast' frame hframe => ?_, hselected.length_le,
        hformed.heights, fun first last' hfull hfirst hlast' => ?_, hheld⟩
      · obtain rfl := Option.some.inj hlast'
        obtain ⟨hle, hlt⟩ := hselected.recent frame hframe
        exact ⟨by omega, hle⟩
      · obtain rfl := Option.some.inj hlast'
        exact hselected.full_span hfull hfirst
  · have hformed : ∀ sensorId window, windows sensorId = some window → Formed size window := by
      intro sensorId window hwindow
      obtain ⟨es, hrun⟩ := hreached sensorId window hwindow
      exact formed_of_run hsize hrun
    obtain ⟨profiles, hprofiles⟩ := exists_mapM fun profile (_ : profile ∈ page.profiles) =>
      exists_filterProfile (heightReference page.pitId)
        (referenceDepth (heightReference page.pitId) pitDepth)
        (hformed profile.sensorId)
    obtain ⟨result, hresult⟩ : ∃ result,
        filteredPage size heightReference page windows pitDepth = some result :=
      ⟨_, congrArg (Option.map _) hprofiles⟩
    refine ⟨result, hresult, ?_⟩
    intro i j profile profile' sample hprofile hbasis hprofile' hsample hvalid
    rw [getElem?_mapM (filteredPage_profiles hresult), hprofile, Option.bind_some] at hprofile'
    unfold filterProfile at hprofile'
    rw [hbasis] at hprofile'
    exact filterBins_valid hprofile' hsample hvalid

end

/-! ## A run -/

/-- A profile of one bin. -/
def sampleProfile (time : ℤ) (height : ℚ) : LidarProfile where
  sensorId := "lidar-1"
  measuredAt := some time
  calibrationState := .verified
  samples := [⟨some 0, some height, true⟩]

def samplePage : LidarProfilePage where
  pitId := "pit-1"
  profiles := [sampleProfile 2900000 9]

/-- Three scans, a second apart and less, fill a window. -/
theorem exec_height_sample : ∃ es window result,
    exec (heightStep 3) {}
      [sampleProfile 1000000 7, sampleProfile 1950000 5, sampleProfile 2900000 9] =
      some (es, window) ∧ window.frames.length = 3 ∧
    filteredPage 3 (fun _ => none) samplePage (fun _ => some window) none = some result ∧
    result.profiles.map (·.samples) = [[⟨some 0, some 7, true⟩]] :=
  ⟨_, _, _, rfl, by decide +kernel, rfl, by decide +kernel⟩

theorem height_windows_sample : ∃ es window result,
    Run (heightStep 3) {} es window ∧ window.frames.length = 3 ∧
    Chronological HeightFrame.time window.frames ∧ Held es window ∧
    filteredPage 3 (fun _ => none) samplePage (fun _ => some window) none = some result ∧
    result.profiles.map (·.samples) = [[⟨some 0, some 7, true⟩]] ∧
    BinMedians 3 (fun _ => some window) samplePage result := by
  obtain ⟨es, window, result, hexec, hfull, hresult, hbins⟩ := exec_height_sample
  have hrun := Run.of_exec hexec
  have hreached : SensorWindows.Reached 3 fun _ => some window := by
    intro _ window' hwindow
    obtain rfl := Option.some.inj hwindow
    exact ⟨es, hrun⟩
  obtain ⟨hchronological, -, -, -, -, hheld⟩ := (height_windows (by decide)).1 es window hrun
  obtain ⟨result', hresult', hmedians⟩ :=
    (height_windows (by decide)).2 _ hreached (fun _ => none) samplePage none
  obtain rfl := Option.some.inj (hresult.symm.trans hresult')
  exact ⟨es, window, result, hrun, hfull, hchronological, hheld, hresult, hbins, hmedians⟩

end ScrapMonitoring.Filtering
