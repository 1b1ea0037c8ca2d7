import Mathlib.Algebra.Order.BigOperators.Group.List
import ScrapMonitoring.EdgeV2.Angles
import ScrapMonitoring.Filtering.HeightPages
import ScrapMonitoring.Foundations.Bins

/-!
# The height profile of a scan

`height_profile` of `services/lidar_height.py`: a scan whose calibration and configuration are
those of the reference is cut into bins along one axis of the region, and a bin with enough points
has the median of their heights. Coordinates are exact; the wire values are whole millimetres and
the reference is in centimetres.

A result of `none` is an exception of the source: an index out of range, or an assertion.
-/

namespace ScrapMonitoring.Lidar

open EdgeV2.Angles (AngleInterval Position TransformState)
open Filtering (CalibrationState ProfileSample fmean)

/-! ## Inputs -/

inductive ProfileAxis
  | x
  | y
  deriving DecidableEq

/-- `HeightReference`, with the bounds of its fields. -/
structure HeightReference where
  configRevision : String
  coordinateFrameId : String
  calibrationVersions : List (String × String)
  verified : Bool
  floorZCm : ℚ
  xMinCm : ℚ
  xMaxCm : ℚ
  yMinCm : ℚ
  yMaxCm : ℚ
  profileAxis : ProfileAxis
  binCount : ℕ
  minimumPointsPerBin : ℕ
  minimumCoverage : ℚ
  minimumQuality : Option ℤ
  bin_range : 2 ≤ binCount ∧ binCount ≤ 200
  points_range : 1 ≤ minimumPointsPerBin ∧ minimumPointsPerBin ≤ 1000
  coverage_range : 0 < minimumCoverage ∧ minimumCoverage ≤ 1
  /-- The validator `positive_region`. -/
  positive_region : xMinCm < xMaxCm ∧ yMinCm < yMaxCm

structure Point where
  distanceMm : ℤ
  quality : ℤ
  positionMm : Option Position
  calculationReasonCodes : List String

structure Scan where
  acquiredAt : ℤ
  clockState : String
  points : List Point

structure SensorObservation where
  sensorId : String
  calibrationVersion : Option String
  transformState : TransformState
  transformReasonCodes : List String
  angleIntervalsMdeg : List AngleInterval
  scan : Option Scan

structure Measurement where
  siteId : String
  edgeId : String
  configRevision : String
  coordinateFrameId : String
  periodic : Bool
  generatedAt : ℤ

structure Calibration where
  version : String
  verified : Bool

structure SensorConfiguration where
  sensorId : String
  angleIntervalsMdeg : List AngleInterval
  calibration : Option Calibration

structure Configuration where
  siteId : String
  edgeId : String
  configRevision : String
  coordinateFrameId : String
  sensors : List SensorConfiguration

/-- `LidarProfileV2`, with the fields that the projection writes. -/
structure LidarProfileV2 where
  sensorId : String
  measuredAt : Option ℤ
  configRevision : Option String
  calibrationVersion : Option String
  referenceDistanceCm : ℚ
  calibrationState : CalibrationState := .unverified
  average : Option ℚ := none
  minimum : Option ℚ := none
  maximum : Option ℚ := none
  samples : List ProfileSample := []
  reasonCodes : List String := ["HEIGHT_REFERENCE_UNVERIFIED"]
  coverageRatio : ℚ := 0
  sectionFillPercent : Option ℚ := none
  deriving DecidableEq

/-! ## The bins -/

/-- `int(value)`. -/
def truncate (value : ℚ) : ℤ := if 0 ≤ value then ⌊value⌋ else ⌈value⌉

namespace HeightReference

variable (reference : HeightReference)

def low : ℚ := if reference.profileAxis = .x then reference.xMinCm else reference.yMinCm

def high : ℚ := if reference.profileAxis = .x then reference.xMaxCm else reference.yMaxCm

/-- Whether a position is in the region, in millimetres. -/
def inRegion (depthCm : ℚ) (position : Position) : Bool :=
  (reference.xMinCm * 10 ≤ position.x ∧ position.x ≤ reference.xMaxCm * 10) ∧
    (reference.yMinCm * 10 ≤ position.y ∧ position.y ≤ reference.yMaxCm * 10) ∧
    reference.floorZCm * 10 ≤ position.z ∧ position.z ≤ (reference.floorZCm + depthCm) * 10

/-- The position of a point that is accepted. -/
def accepted (depthCm : ℚ) (point : Point) : Option Position :=
  match point.positionMm with
  | none => none
  | some position =>
    if point.distanceMm ≤ 0 ∨ point.calculationReasonCodes ≠ [] ∨
        reference.minimumQuality.any fun quality => point.quality < quality then none
    else if !reference.inRegion depthCm position then none
    else some position

/-- The bin and the height of a position. -/
def entry (position : Position) : ℤ × ℚ :=
  let coordinate : ℚ := (if reference.profileAxis = .x then position.x else position.y) / 10
  (min (reference.binCount - 1)
      (truncate ((coordinate - reference.low) / (reference.high - reference.low) *
        reference.binCount)),
    position.z / 10 - reference.floorZCm)

/-- What the accepted points contribute, in the order of the scan. -/
def entries (depthCm : ℚ) (points : List Point) : List (ℤ × ℚ) :=
  (points.filterMap (reference.accepted depthCm)).map reference.entry

/-- The sample of a bin. -/
def sample (bin : List ℚ × ℕ) : ProfileSample :=
  let value := if reference.minimumPointsPerBin ≤ bin.1.length then median bin.1 else none
  { positionRatio := some ((bin.2 + 1 / 2) / reference.binCount)
    height := value
    valid := value.isSome }

/-- The profile of the bins. -/
def summarize (result : LidarProfileV2) (depthCm : ℚ) (bins : List (List ℚ)) : LidarProfileV2 :=
  let samples := bins.zipIdx.map reference.sample
  let values := samples.filterMap ProfileSample.height
  let coverageRatio : ℚ := values.length / bins.length
  { result with
    samples := samples
    coverageRatio := coverageRatio
    average := if values = [] then none else some (fmean values)
    minimum := values.min?
    maximum := values.max?
    reasonCodes :=
      if values = [] then ["HEIGHT_NO_VALID_BINS"]
      else if coverageRatio < reference.minimumCoverage then ["HEIGHT_INSUFFICIENT_COVERAGE"]
      else []
    sectionFillPercent :=
      if values = [] ∨ coverageRatio < reference.minimumCoverage then none
      else some (fmean values / depthCm * 100) }

end HeightReference

/-! ## The profile -/

section

variable (measurement : Measurement) (sensor : SensorObservation)
variable (configuration : Option Configuration) (reference : HeightReference)
variable (depthCm : Option ℚ) (now ttlSeconds : ℤ) (referenceDistanceCm : ℚ)

/-- The configured sensor has the calibration of the observation and of the reference. -/
def calibrated (configuration : Configuration) : Bool :=
  (configuration.sensors.find? fun s => s.sensorId = sensor.sensorId).any fun configured =>
    configured.calibration.any fun calibration =>
      sensor.transformState = .verified ∧ sensor.transformReasonCodes = [] ∧
        calibration.verified ∧ sensor.calibrationVersion = some calibration.version ∧
        reference.calibrationVersions.lookup sensor.sensorId = some calibration.version ∧
        sensor.angleIntervalsMdeg = configured.angleIntervalsMdeg

/-- Why there are no heights. -/
def unavailableReason : Option String :=
  if !reference.verified then some "HEIGHT_REFERENCE_UNVERIFIED"
  else
    match configuration with
    | none => some "HEIGHT_CONFIGURATION_UNAVAILABLE"
    | some configuration =>
      if (measurement.siteId, measurement.edgeId) ≠ (configuration.siteId, configuration.edgeId) ∨
          measurement.configRevision ≠ reference.configRevision ∨
          configuration.configRevision ≠ reference.configRevision ∨
          measurement.coordinateFrameId ≠ reference.coordinateFrameId ∨
          configuration.coordinateFrameId ≠ reference.coordinateFrameId then
        some "HEIGHT_REFERENCE_MISMATCH"
      else if !depthCm.any fun depth => 0 < depth ∧ depth ≤ 1000000 then
        some "HEIGHT_DEPTH_UNAVAILABLE"
      else if !measurement.periodic then some "HEIGHT_LIVE_OBSERVATION_REQUIRED"
      else if now < measurement.generatedAt ∨ sensor.scan.any fun scan => now < scan.acquiredAt then
        some "HEIGHT_CLOCK_SKEW"
      else
        match sensor.scan with
        | none => some "HEIGHT_SCAN_UNAVAILABLE"
        | some scan =>
          if seconds ttlSeconds ≤ now - scan.acquiredAt then some "HEIGHT_SCAN_STALE"
          else if scan.clockState ≠ "SYNCED" then some "HEIGHT_SCAN_CLOCK_UNAVAILABLE"
          else if !calibrated sensor reference configuration then
            some "HEIGHT_CALIBRATION_UNVERIFIED_OR_MISMATCHED"
          else none

/-- `height_profile`. -/
def heightProfile : Option LidarProfileV2 :=
  let result : LidarProfileV2 :=
    { sensorId := sensor.sensorId
      measuredAt := sensor.scan.map Scan.acquiredAt
      configRevision := some measurement.configRevision
      calibrationVersion := sensor.calibrationVersion
      referenceDistanceCm := referenceDistanceCm }
  match unavailableReason measurement sensor configuration reference depthCm now ttlSeconds with
  | some reason => some
      { result with
        reasonCodes := [reason]
        calibrationState :=
          if reason = "HEIGHT_REFERENCE_UNVERIFIED" then .unverified else .unavailable }
  | none =>
    match sensor.scan, depthCm with
    | some scan, some depthCm =>
      (fillBins reference.binCount (reference.entries depthCm scan.points)).map fun bins =>
        reference.summarize { result with calibrationState := .verified } depthCm bins
    | _, _ => none

end

/-! ## Bins and heights -/

variable {reference : HeightReference} {depthCm : ℚ} {points points' : List Point}

namespace HeightReference

/-- **An accepted position** has a bin, and a height within the depth. -/
theorem entry_range {position : Position} (h : reference.inRegion depthCm position = true) :
    (0 ≤ (reference.entry position).1 ∧ (reference.entry position).1 < reference.binCount) ∧
      (reference.entry position).2 ∈ Set.Icc 0 depthCm := by
  simp only [inRegion, decide_eq_true_eq] at h
  obtain ⟨hx, hy, hz⟩ := h
  have hbins := reference.bin_range
  have hregion := reference.positive_region
  -- Along the axis the position lies between the ends of the region.
  have haxis : reference.low ≤
        ((if reference.profileAxis = .x then position.x else position.y : ℤ) : ℚ) / 10 ∧
      reference.low < reference.high := by
    unfold low high
    split_ifs
    · exact ⟨(le_div_iff₀ (by norm_num)).2 hx.1, hregion.1⟩
    · exact ⟨(le_div_iff₀ (by norm_num)).2 hy.1, hregion.2⟩
  refine ⟨?_, ?_, ?_⟩
  · have hratio :
        0 ≤ (((if reference.profileAxis = .x then position.x else position.y : ℤ) : ℚ) / 10 -
          reference.low) / (reference.high - reference.low) * reference.binCount :=
      mul_nonneg (div_nonneg (sub_nonneg.2 haxis.1) (sub_nonneg.2 haxis.2.le)) (Nat.cast_nonneg _)
    have hindex := Int.floor_nonneg.2 hratio
    simp only [entry, truncate, if_pos hratio]
    omega
  · simp only [entry]
    linarith [hz.1]
  · simp only [entry]
    linarith [hz.2]

theorem inRegion_of_accepted {point : Point} {position : Position}
    (h : reference.accepted depthCm point = some position) :
    reference.inRegion depthCm position = true := by
  unfold accepted at h
  split at h
  · cases h
  · split_ifs at h with _ hregion
    obtain rfl := Option.some.inj h
    simpa using hregion

theorem entries_range {entry : ℤ × ℚ} (h : entry ∈ reference.entries depthCm points) :
    (0 ≤ entry.1 ∧ entry.1 < reference.binCount) ∧ entry.2 ∈ Set.Icc 0 depthCm := by
  obtain ⟨position, hposition, rfl⟩ := List.mem_map.1 h
  obtain ⟨point, -, haccepted⟩ := List.mem_filterMap.1 hposition
  exact entry_range (inRegion_of_accepted haccepted)

theorem fillBins_entries :
    fillBins reference.binCount (reference.entries depthCm points) =
      some ((List.range reference.binCount).map (binOf (reference.entries depthCm points))) :=
  fillBins_eq fun _ h => (entries_range h).1

theorem entries_perm (h : points.Perm points') :
    (reference.entries depthCm points).Perm (reference.entries depthCm points') :=
  (h.filterMap _).map _

/-- The order of a bin does not matter to its sample. -/
theorem sample_perm {bin bin' : List ℚ} (h : bin.Perm bin') (i : ℕ) :
    reference.sample (bin, i) = reference.sample (bin', i) := by
  simp only [sample, median_perm h, h.length_eq]

/-- The heights of a sample lie within the depth. -/
theorem sample_height {bin : List ℚ} (h : ∀ height ∈ bin, height ∈ Set.Icc 0 depthCm) {i : ℕ}
    {height : ℚ} (hheight : (reference.sample (bin, i)).height = some height) :
    height ∈ Set.Icc 0 depthCm := by
  simp only [sample] at hheight
  split_ifs at hheight
  exact median_mem_Icc hheight h

end HeightReference

/-! ## The summary -/

/-- A mean lies between the bounds of the values. -/
theorem fmean_mem_Icc {values : List ℚ} {lower upper : ℚ} (hne : values ≠ [])
    (h : ∀ value ∈ values, value ∈ Set.Icc lower upper) : fmean values ∈ Set.Icc lower upper := by
  have hpos : (0 : ℚ) < values.length := Nat.cast_pos.2 (List.length_pos_iff.2 hne)
  have hlower := List.card_nsmul_le_sum values lower fun value hvalue => (h value hvalue).1
  have hupper := List.sum_le_card_nsmul values upper fun value hvalue => (h value hvalue).2
  rw [nsmul_eq_mul] at hlower hupper
  exact ⟨(le_div_iff₀' hpos).2 hlower, (div_le_iff₀' hpos).2 hupper⟩

/-- What a profile with heights says of its bins. -/
structure Summarized (reference : HeightReference) (depthCm : ℚ) (bins : List (List ℚ))
    (profile : LidarProfileV2) : Prop where
  samples : profile.samples = bins.zipIdx.map reference.sample
  heights : ∀ sample ∈ profile.samples, ∀ height ∈ sample.height, height ∈ Set.Icc 0 depthCm
  average : ∀ average ∈ profile.average, ∃ minimum ∈ profile.minimum, ∃ maximum ∈ profile.maximum,
    minimum ≤ average ∧ average ≤ maximum
  coverage : profile.coverageRatio =
    (profile.samples.countP ProfileSample.valid : ℚ) / reference.binCount
  coverage_range : profile.coverageRatio ∈ Set.Icc 0 1
  fill_range : ∀ fill ∈ profile.sectionFillPercent, fill ∈ Set.Icc 0 100

namespace HeightReference

/-- The valid samples are those with a height. -/
theorem length_heights (bins : List (List ℚ)) :
    ((bins.zipIdx.map reference.sample).filterMap ProfileSample.height).length =
      (bins.zipIdx.map reference.sample).countP ProfileSample.valid := by
  rw [List.length_filterMap_eq_countP]
  refine List.countP_congr fun sample hsample => ?_
  obtain ⟨bin, -, rfl⟩ := List.mem_map.1 hsample
  rfl

/-- **The summary of bins** whose heights lie within the depth. -/
theorem summarized (result : LidarProfileV2) (hdepth : 0 < depthCm) {bins : List (List ℚ)}
    (hlength : bins.length = reference.binCount)
    (hbins : ∀ bin ∈ bins, ∀ height ∈ bin, height ∈ Set.Icc 0 depthCm) :
    Summarized reference depthCm bins (reference.summarize result depthCm bins) := by
  have hheights : ∀ sample ∈ bins.zipIdx.map reference.sample, ∀ height ∈ sample.height,
      height ∈ Set.Icc 0 depthCm := by
    intro sample hsample height hheight
    obtain ⟨⟨bin, i⟩, hmem, rfl⟩ := List.mem_map.1 hsample
    have hbin : bin ∈ bins := (List.mem_zipIdx' hmem).2 ▸ List.getElem_mem _
    exact sample_height (hbins bin hbin) hheight
  have hvalues : ∀ value ∈ (bins.zipIdx.map reference.sample).filterMap ProfileSample.height,
      value ∈ Set.Icc 0 depthCm := by
    intro value hvalue
    obtain ⟨sample, hsample, hheight⟩ := List.mem_filterMap.1 hvalue
    exact hheights sample hsample value hheight
  have hbinCount : (0 : ℚ) < reference.binCount := by
    have hrange := reference.bin_range
    exact Nat.cast_pos.2 (by omega)
  refine ⟨rfl, hheights, ?_, ?_, ?_, ?_⟩
  · intro average haverage
    simp only [summarize, Option.mem_def] at haverage ⊢
    split_ifs at haverage with hne
    obtain rfl := Option.some.inj haverage
    obtain ⟨minimum, hminimum⟩ := Option.ne_none_iff_exists'.1 (mt List.min?_eq_none_iff.1 hne)
    obtain ⟨maximum, hmaximum⟩ := Option.ne_none_iff_exists'.1 (mt List.max?_eq_none_iff.1 hne)
    refine ⟨minimum, hminimum, maximum, hmaximum, fmean_mem_Icc hne fun value hvalue => ?_⟩
    exact ⟨(List.min?_eq_some_iff.1 hminimum).2 value hvalue,
      (List.max?_eq_some_iff.1 hmaximum).2 value hvalue⟩
  · simp only [summarize, length_heights, hlength]
  · simp only [summarize, length_heights, hlength]
    refine ⟨div_nonneg (Nat.cast_nonneg _) hbinCount.le, (div_le_one hbinCount).2 ?_⟩
    refine Nat.cast_le.2 (List.countP_le_length.trans ?_)
    rw [List.length_map, List.length_zipIdx, hlength]
  · intro fill hfill
    simp only [summarize, Option.mem_def] at hfill
    split_ifs at hfill with hne
    obtain rfl := Option.some.inj hfill
    obtain ⟨hlower, hupper⟩ := fmean_mem_Icc (fun h => hne (.inl h)) hvalues
    constructor
    · exact mul_nonneg (div_nonneg hlower hdepth.le) (by norm_num)
    · have hratio := (div_le_one hdepth).2 hupper
      linarith

/-- The order of the points does not matter to the summary of their bins. -/
theorem summarize_perm (result : LidarProfileV2) {entries entries' : List (ℤ × ℚ)}
    (h : entries.Perm entries') (n : ℕ) :
    reference.summarize result depthCm ((List.range n).map (binOf entries)) =
      reference.summarize result depthCm ((List.range n).map (binOf entries')) := by
  have hsamples : ((List.range n).map (binOf entries)).zipIdx.map reference.sample =
      ((List.range n).map (binOf entries')).zipIdx.map reference.sample := by
    apply List.ext_getElem
    · simp only [List.length_map, List.length_zipIdx]
    · intro i hi hi'
      simp only [List.getElem_map, List.getElem_zipIdx, List.getElem_range]
      exact sample_perm (binOf_perm h i) _
  simp only [summarize, hsamples, List.length_map]

end HeightReference

/-! ## The result -/

section

variable {measurement : Measurement} {sensor : SensorObservation}
variable {configuration : Option Configuration} {depth : Option ℚ} {now ttlSeconds : ℤ}
variable {referenceDistanceCm : ℚ} {profile : LidarProfileV2}

/-- Heights are made of a scan, within a depth. -/
theorem available_iff
    (h : unavailableReason measurement sensor configuration reference depth now ttlSeconds = none) :
    (∃ scan, sensor.scan = some scan) ∧ ∃ depthCm, depth = some depthCm ∧ 0 < depthCm := by
  unfold unavailableReason at h
  cases configuration with
  | none => split_ifs at h
  | some configuration =>
    cases hscan : sensor.scan with
    | none =>
      simp only [hscan] at h
      split_ifs at h
    | some scan =>
      simp only [hscan] at h
      split_ifs at h with _ _ hdepth
      refine ⟨⟨scan, rfl⟩, ?_⟩
      cases depth with
      | none => exact absurd rfl hdepth
      | some depthCm =>
        simp only [Option.any_some, Bool.not_eq_true', decide_eq_false_iff_not, not_not] at hdepth
        exact ⟨depthCm, rfl, hdepth.1⟩

variable (referenceDistanceCm) in
/-- The profile with heights of a scan. -/
theorem heightProfile_of_available
    (h : unavailableReason measurement sensor configuration reference depth now ttlSeconds = none) :
    ∃ scan ∈ sensor.scan, ∃ depthCm ∈ depth, 0 < depthCm ∧
      heightProfile measurement sensor configuration reference depth now ttlSeconds
          referenceDistanceCm =
        some (reference.summarize
          { sensorId := sensor.sensorId
            measuredAt := some scan.acquiredAt
            configRevision := some measurement.configRevision
            calibrationVersion := sensor.calibrationVersion
            referenceDistanceCm := referenceDistanceCm
            calibrationState := .verified }
          depthCm
          ((List.range reference.binCount).map
            (binOf (reference.entries depthCm scan.points)))) := by
  obtain ⟨⟨scan, hscan⟩, depthCm, rfl, hpos⟩ := available_iff h
  refine ⟨scan, hscan, depthCm, rfl, hpos, ?_⟩
  unfold heightProfile
  rw [h, hscan]
  simp only [HeightReference.fillBins_entries]
  rfl

/-- No profile fails. -/
theorem heightProfile_total : ∃ profile,
    heightProfile measurement sensor configuration reference depth now ttlSeconds
      referenceDistanceCm = some profile := by
  cases h : unavailableReason measurement sensor configuration reference depth now ttlSeconds with
  | some reason =>
    unfold heightProfile
    rw [h]
    exact ⟨_, rfl⟩
  | none =>
    obtain ⟨scan, -, depthCm, -, -, hprofile⟩ := heightProfile_of_available referenceDistanceCm h
    exact ⟨_, hprofile⟩

/-- The observation with other points in its scan. -/
def SensorObservation.withPoints (sensor : SensorObservation) (points : List Point) :
    SensorObservation :=
  { sensor with scan := sensor.scan.map fun scan => { scan with points := points } }

theorem unavailableReason_withPoints (points : List Point) :
    unavailableReason measurement (sensor.withPoints points) configuration reference depth now
        ttlSeconds =
      unavailableReason measurement sensor configuration reference depth now ttlSeconds := by
  unfold unavailableReason SensorObservation.withPoints
  cases sensor.scan <;> rfl

/-- The order of the points of a scan does not matter. -/
theorem heightProfile_perm {points : List Point}
    (h : ∀ scan ∈ sensor.scan, scan.points.Perm points) :
    heightProfile measurement (sensor.withPoints points) configuration reference depth now
        ttlSeconds referenceDistanceCm =
      heightProfile measurement sensor configuration reference depth now ttlSeconds
        referenceDistanceCm := by
  unfold heightProfile
  rw [unavailableReason_withPoints]
  cases hscan : sensor.scan with
  | none =>
    simp only [SensorObservation.withPoints, hscan]
    rfl
  | some scan =>
    have hpoints : ∀ depthCm, (reference.entries depthCm points).Perm
        (reference.entries depthCm scan.points) :=
      fun depthCm => HeightReference.entries_perm (h scan hscan).symm
    simp only [SensorObservation.withPoints, hscan, Option.map_some,
      HeightReference.fillBins_entries]
    cases depth with
    | none => rfl
    | some depthCm =>
      simp only [HeightReference.summarize_perm _ (hpoints depthCm)]

/-- The accepted positions of a scan. -/
def HeightReference.positions (reference : HeightReference) (depthCm : ℚ) (points : List Point) :
    List Position :=
  points.filterMap (reference.accepted depthCm)

/-- **The height profile**: a verified profile is that of bins to which every accepted point
contributes, each to exactly one; its heights, its average, its coverage and its fill are within
their bounds, and no order of the points changes it. -/
theorem heightProfile_sound
    (h : heightProfile measurement sensor configuration reference depth now ttlSeconds
      referenceDistanceCm = some profile)
    (hverified : profile.calibrationState = .verified) :
    ∃ scan ∈ sensor.scan, ∃ depthCm ∈ depth, ∃ bins,
      fillBins reference.binCount (reference.entries depthCm scan.points) = some bins ∧
      bins.length = reference.binCount ∧
      (∀ i (hi : i < bins.length), bins[i] =
        ((reference.positions depthCm scan.points).filter fun position =>
          (reference.entry position).1 = (i : ℤ)).map fun position =>
            (reference.entry position).2) ∧
      (∀ position ∈ reference.positions depthCm scan.points,
        ∃! i : ℕ, i < reference.binCount ∧ (reference.entry position).1 = i) ∧
      Summarized reference depthCm bins profile ∧
      ∀ points, scan.points.Perm points →
        heightProfile measurement (sensor.withPoints points) configuration reference depth now
          ttlSeconds referenceDistanceCm = some profile := by
  cases hreason :
      unavailableReason measurement sensor configuration reference depth now ttlSeconds with
  | some reason =>
    unfold heightProfile at h
    rw [hreason] at h
    obtain rfl := Option.some.inj h
    simp only at hverified
    split_ifs at hverified
  | none =>
    obtain ⟨scan, hscan, depthCm, hdepth, hpos, hprofile⟩ :=
      heightProfile_of_available referenceDistanceCm hreason
    obtain rfl := Option.some.inj (h.symm.trans hprofile)
    refine ⟨scan, hscan, depthCm, hdepth, _, HeightReference.fillBins_entries, ?_, ?_, ?_, ?_, ?_⟩
    · rw [List.length_map, List.length_range]
    · intro i hi
      rw [List.getElem_map, List.getElem_range, binOf, HeightReference.entries, List.filter_map,
        List.map_map]
      rfl
    · intro position hposition
      obtain ⟨point, -, haccepted⟩ := List.mem_filterMap.1 hposition
      obtain ⟨⟨hnonneg, hlt⟩, -⟩ :=
        HeightReference.entry_range (HeightReference.inRegion_of_accepted haccepted)
      refine ⟨(reference.entry position).1.toNat, ⟨?_, ?_⟩, fun j hj => ?_⟩
      · omega
      · exact (Int.toNat_of_nonneg hnonneg).symm
      · rw [hj.2, Int.toNat_natCast]
    · refine HeightReference.summarized _ hpos ?_ fun bin hbin height hheight => ?_
      · rw [List.length_map, List.length_range]
      · obtain ⟨i, -, rfl⟩ := List.mem_map.1 hbin
        exact (HeightReference.entries_range (mem_binOf.1 hheight)).2
    · intro points hperm
      rw [heightProfile_perm, h]
      intro scan' hscan'
      obtain rfl := Option.some.inj (hscan.symm.trans hscan')
      exact hperm

end

/-- A flat floor of a metre by half a metre, cut along its longer side. -/
def toyReference : HeightReference where
  configRevision := "revision-1"
  coordinateFrameId := "frame-1"
  calibrationVersions := [("lidar-1", "calibration-1"), ("lidar-2", "calibration-1")]
  verified := true
  floorZCm := 0
  xMinCm := 0
  xMaxCm := 100
  yMinCm := 0
  yMaxCm := 50
  profileAxis := .x
  binCount := 2
  minimumPointsPerBin := 1
  minimumCoverage := 1
  minimumQuality := none
  bin_range := by decide
  points_range := by decide
  coverage_range := by decide +kernel
  positive_region := by decide +kernel

/-- Three points, the last one on the far edge. -/
def toySensor : SensorObservation where
  sensorId := "lidar-1"
  calibrationVersion := some "calibration-1"
  transformState := .verified
  transformReasonCodes := []
  angleIntervalsMdeg := []
  scan := some ⟨0, "SYNCED",
    [⟨1, 0, some ⟨200, 100, 300⟩, []⟩, ⟨1, 0, some ⟨900, 100, 500⟩, []⟩,
      ⟨1, 0, some ⟨1000, 500, 700⟩, []⟩]⟩

def toyConfiguration : Configuration where
  siteId := "site-1"
  edgeId := "edge-1"
  configRevision := "revision-1"
  coordinateFrameId := "frame-1"
  sensors := [⟨"lidar-1", [], some ⟨"calibration-1", true⟩⟩]

/-- The heights are 30 and 60. -/
def toyProfile : LidarProfileV2 where
  sensorId := "lidar-1"
  measuredAt := some 0
  configRevision := some "revision-1"
  calibrationVersion := some "calibration-1"
  referenceDistanceCm := 500
  calibrationState := .verified
  average := some 45
  minimum := some 30
  maximum := some 60
  samples := [⟨some (1 / 4), some 30, true⟩, ⟨some (3 / 4), some 60, true⟩]
  reasonCodes := []
  coverageRatio := 1
  sectionFillPercent := some 45

theorem heightProfile_sound_toy :
    ∃ scan ∈ toySensor.scan, ∃ bins,
      fillBins 2 (toyReference.entries 100 scan.points) = some bins ∧
      Summarized toyReference 100 bins toyProfile := by
  have h : heightProfile ⟨"site-1", "edge-1", "revision-1", "frame-1", true, 0⟩ toySensor
      (some toyConfiguration) toyReference (some 100) 0 60 500 = some toyProfile := by
    decide +kernel
  obtain ⟨scan, hscan, depthCm, hdepth, bins, hbins, -, -, -, hsummarized, -⟩ :=
    heightProfile_sound h rfl
  obtain rfl := Option.some.inj hdepth
  exact ⟨scan, hscan, bins, hbins, hsummarized⟩

end ScrapMonitoring.Lidar
