import Mathlib.Data.Rat.Defs
import Mathlib.Algebra.Order.Ring.Rat
import ScrapMonitoring.Filtering.Windows
import ScrapMonitoring.Foundations.Run
import ScrapMonitoring.Foundations.Traverse

/-!
# The windows of heights

`advance` of `services/height_median_service.py` keeps for each sensor a window of height frames:
the heights of its spatial bins, or the mean of its received points, of scans about a second apart.
A scan that does not go on where the window ends begins a new one, and what is no scan empties it.

`Formed` is what a window is at any time, and `Held` says of which profiles its frames are: of a
series at the end of the history in which each scan follows the one before it (`Scan.Follows`) or
repeats it.
-/

namespace ScrapMonitoring.Filtering

/-! ## Profiles -/

inductive CalibrationState
  | unverified
  | verified
  | unavailable
  | simulation
  deriving DecidableEq, Repr

inductive CoverageBasis
  | spatialBins
  | receivedPoints
  deriving DecidableEq, Repr

structure ProfileSample where
  positionRatio : Option ℚ
  height : Option ℚ
  valid : Bool
  deriving DecidableEq, Repr

inductive ValuePolicy
  | spatialBinMedian
  | spatialTemporalMedian
  | sensorAngle
  deriving DecidableEq, Repr

inductive SummaryValuePolicy
  | profileMean
  | scanMeanTemporalMedian
  deriving DecidableEq, Repr

/-- `LidarProfileV2`, with the fields that the filter reads and writes. -/
structure LidarProfile where
  sensorId : String
  measuredAt : Option ℤ := none
  calibrationState : CalibrationState := .unverified
  average : Option ℚ := none
  minimum : Option ℚ := none
  maximum : Option ℚ := none
  filteredAverage : Option ℚ := none
  summaryValuePolicy : SummaryValuePolicy := .profileMean
  samples : List ProfileSample := []
  reasonCodes : List String := ["HEIGHT_REFERENCE_UNVERIFIED"]
  coverageRatio : ℚ := 0
  sectionFillPercent : Option ℚ := none
  coverageBasis : CoverageBasis := .spatialBins
  valuePolicy : ValuePolicy := .spatialBinMedian
  deriving DecidableEq, Repr

def LidarProfile.calibrated (profile : LidarProfile) : Bool :=
  profile.calibrationState = .verified ∨ profile.calibrationState = .simulation

/-! ## Windows -/

/-- The heights of a scan, one for each position of its window. -/
structure HeightFrame where
  time : ℤ
  heights : List (Option ℚ)
  maximumCm : Option ℚ := none
  deriving DecidableEq, Repr

/-- A window. The bounds of its schema are those of the setting of its size and of the number of
bins. -/
structure SensorWindow where
  positions : List ℚ := []
  basis : CoverageBasis := .spatialBins
  frames : List HeightFrame := []
  slotAnchorAt : Option ℤ := none
  deriving DecidableEq, Repr

/-- What a window takes from a profile. -/
structure Scan where
  positions : List ℚ
  basis : CoverageBasis
  frame : HeightFrame
  deriving DecidableEq, Repr

inductive Reading
  /-- The window is emptied. -/
  | rejected (basis : CoverageBasis)
  | scan (scan : Scan)
  deriving DecidableEq, Repr

/-- The height of a spatial bin. -/
def ProfileSample.binHeight (sample : ProfileSample) : Option ℚ :=
  if sample.valid then sample.height else none

/-- What `advance` reads off a profile; a bin without a position is a `TypeError`. -/
def LidarProfile.reading (profile : LidarProfile) : Option Reading :=
  match profile.measuredAt with
  | none => some (.rejected .spatialBins)
  | some time =>
    if profile.calibrated ∧ profile.samples ≠ [] then
      match profile.coverageBasis with
      | .receivedPoints =>
        match profile.average with
        | none => some (.rejected .receivedPoints)
        | some average =>
          some (.scan ⟨[0], .receivedPoints, ⟨time, [some average], profile.maximum⟩⟩)
      | .spatialBins =>
        (profile.samples.mapM ProfileSample.positionRatio).map fun positions =>
          .scan ⟨positions, .spatialBins,
            ⟨time, profile.samples.map ProfileSample.binHeight, profile.maximum⟩⟩
    else some (.rejected .spatialBins)

namespace SensorWindow

/-- The window of the frames and the scan. -/
def accept (size : ℕ) (scan : Scan) (frames : List HeightFrame) (anchor : Option ℤ) :
    SensorWindow :=
  let selection := slide HeightFrame.time size frames anchor scan.frame
  { positions := scan.positions
    basis := scan.basis
    frames := selection.1
    slotAnchorAt := some selection.2 }

/-- The frames that a scan may go on with. -/
def matching (previous : SensorWindow) (scan : Scan) : List HeightFrame :=
  if previous.positions = scan.positions ∧ previous.basis = scan.basis then previous.frames else []

def add (size : ℕ) (previous : SensorWindow) (scan : Scan) : SensorWindow :=
  match (previous.matching scan).getLast? with
  | none => accept size scan [] none
  | some last =>
    if scan.frame.time ≤ last.time then
      -- a repeated scan never counts as an additional observation
      if scan.frame.time = last.time ∧ scan.frame.heights = last.heights then previous
      else { positions := scan.positions, basis := scan.basis }
    else if gapLimit < scan.frame.time - last.time then accept size scan [] none
    else accept size scan (previous.matching scan) previous.slotAnchorAt

end SensorWindow

/-- `advance`. -/
def advance (size : ℕ) (profile : LidarProfile) (previous : SensorWindow) : Option SensorWindow :=
  profile.reading.map fun reading =>
    match reading with
    | .rejected basis => { basis }
    | .scan scan => previous.add size scan

/-- The machine of one window. -/
def heightStep (size : ℕ) (window : SensorWindow) (profile : LidarProfile) :
    Option (SensorWindow × Unit) :=
  (advance size profile window).map (·, ())

/-! ## Series of scans -/

/-- The scan is of the same bins, newer, and no more than the longest gap later. -/
def Scan.Follows (last next : Scan) : Prop :=
  next.positions = last.positions ∧ next.basis = last.basis ∧ last.frame.time < next.frame.time ∧
    next.frame.time - last.frame.time ≤ gapLimit

/-- The scan is of the same bins and the same time, with the same heights. -/
def Scan.Repeats (last next : Scan) : Prop :=
  next.positions = last.positions ∧ next.basis = last.basis ∧ next.frame.time = last.frame.time ∧
    next.frame.heights = last.frame.heights

/-- Scans each of which follows the last one accepted, or repeats it; and the last one accepted. -/
inductive Series : List Scan → Scan → Prop
  | start (scan : Scan) : Series [scan] scan
  | next {scans : List Scan} {last scan : Scan} (h : Series scans last) (hs : last.Follows scan) :
    Series (scans ++ [scan]) scan
  | again {scans : List Scan} {last scan : Scan} (h : Series scans last) (hs : last.Repeats scan) :
    Series (scans ++ [scan]) last

abbrev HeightEntry := Entry SensorWindow LidarProfile Unit

/-- The frames of the window are those of a series of scans at the end of the history, and its last
frame is that of the last scan accepted. -/
def Held (es : List HeightEntry) (window : SensorWindow) : Prop :=
  window.frames = [] ∨ ∃ before series scans last, es = before ++ series ∧
    series.map (fun e => e.op.reading) = scans.map (fun scan => some (.scan scan)) ∧
    Series scans last ∧ window.positions = last.positions ∧ window.basis = last.basis ∧
    window.frames.getLast? = some last.frame ∧
    ∀ frame ∈ window.frames, ∃ scan ∈ scans, scan.frame = frame

/-- What a window is at any time. -/
structure Formed (size : ℕ) (window : SensorWindow) : Prop where
  heights : ∀ frame ∈ window.frames, frame.heights.length = window.positions.length
  selected : ∀ last, window.frames.getLast? = some last →
    ∃ anchor, window.slotAnchorAt = some anchor ∧
      Selected HeightFrame.time size anchor window.frames last

section

variable {size : ℕ} {window previous : SensorWindow} {scan : Scan} {profile : LidarProfile}
variable {es : List HeightEntry} {e : HeightEntry}

/-- A scan has a height for each of its positions. -/
theorem reading_heights (h : profile.reading = some (.scan scan)) :
    scan.frame.heights.length = scan.positions.length := by
  unfold LidarProfile.reading at h
  split at h
  · cases h
  · split_ifs at h
    · split at h
      · split at h
        · cases h
        · obtain rfl := Reading.scan.inj (Option.some.inj h)
          rfl
      · obtain ⟨positions, hpositions, hscan⟩ := Option.map_eq_some_iff.1 h
        obtain rfl := Reading.scan.inj hscan
        rw [List.length_map, length_mapM hpositions]
    · cases h

theorem Formed.of_nil (h : window.frames = []) : Formed size window where
  heights frame hframe := by
    rw [h] at hframe
    cases hframe
  selected last hlast := by
    rw [h] at hlast
    cases hlast

/-- A window that accepts a scan after its frames. -/
theorem Formed.accept {frames : List HeightFrame} {anchor : Option ℤ} (hsize : 0 < size)
    (hheights : ∀ frame ∈ frames ++ [scan.frame], frame.heights.length = scan.positions.length)
    (htimes : Chronological HeightFrame.time (frames ++ [scan.frame])) :
    Formed size (SensorWindow.accept size scan frames anchor) where
  heights frame hframe := hheights frame ((slide_sublist htimes).mem hframe)
  selected last hlast := by
    have hselected : Selected HeightFrame.time size _ (slide HeightFrame.time size frames anchor
      scan.frame).1 scan.frame := slide_selected hsize htimes
    have hsame : some scan.frame = some last := hselected.last.symm.trans hlast
    exact ⟨_, rfl, Option.some.inj hsame ▸ hselected⟩

/-- **What a scan does**: it begins a window, repeats the last scan, empties the window, or goes on
with it. -/
theorem add_cases (size : ℕ) (previous : SensorWindow) (scan : Scan) :
    previous.add size scan = SensorWindow.accept size scan [] none ∨
    (previous.add size scan).frames = [] ∨
    ∃ last, previous.frames.getLast? = some last ∧ previous.positions = scan.positions ∧
      previous.basis = scan.basis ∧
      (previous.add size scan = previous ∧ scan.frame.time = last.time ∧
        scan.frame.heights = last.heights ∨
      previous.add size scan =
          SensorWindow.accept size scan previous.frames previous.slotAnchorAt ∧
        last.time < scan.frame.time ∧ scan.frame.time - last.time ≤ gapLimit) := by
  unfold SensorWindow.add
  cases hmatching : (previous.matching scan).getLast? with
  | none => exact .inl rfl
  | some last =>
    have hsame : previous.positions = scan.positions ∧ previous.basis = scan.basis := by
      by_contra hne
      rw [SensorWindow.matching, if_neg hne] at hmatching
      cases hmatching
    rw [SensorWindow.matching, if_pos hsame] at hmatching
    rw [SensorWindow.matching, if_pos hsame]
    dsimp only
    split_ifs with hold hrepeats hgap
    · exact .inr (.inr ⟨last, hmatching, hsame.1, hsame.2, .inl ⟨rfl, hrepeats⟩⟩)
    · exact .inr (.inl rfl)
    · exact .inl rfl
    · exact .inr (.inr ⟨last, hmatching, hsame.1, hsame.2,
        .inr ⟨rfl, not_le.1 hold, not_lt.1 hgap⟩⟩)

/-- The frames of a window and a newer one. -/
theorem Formed.chronological {last frame : HeightFrame} (h : Formed size window)
    (hlast : window.frames.getLast? = some last) (hnew : last.time < frame.time) :
    Chronological HeightFrame.time (window.frames ++ [frame]) := by
  obtain ⟨anchor, -, hselected⟩ := h.selected last hlast
  refine chronological_concat.2 ⟨hselected.chronological, fun sample hsample => ?_⟩
  exact lt_of_le_of_lt (hselected.recent sample hsample).1 hnew

theorem Formed.add (hsize : 0 < size) (h : Formed size previous)
    (hscan : scan.frame.heights.length = scan.positions.length) :
    Formed size (previous.add size scan) := by
  rcases add_cases size previous scan with hadd | hadd | ⟨last, hlast, hpositions, -, hcase⟩
  · rw [hadd]
    exact .accept hsize (by simpa using hscan) (List.pairwise_singleton _ _)
  · exact .of_nil hadd
  · rcases hcase with ⟨hadd, -⟩ | ⟨hadd, hnew, -⟩
    · rw [hadd]
      exact h
    · rw [hadd]
      refine .accept hsize (fun frame hframe => ?_) (h.chronological hlast hnew)
      rcases List.mem_append.1 hframe with hframe | hframe
      · rw [h.heights frame hframe, hpositions]
      · rw [List.mem_singleton.1 hframe, hscan]

/-- **One profile keeps the window formed.** -/
theorem Formed.step (hsize : 0 < size) (h : Formed size previous)
    (hs : advance size profile previous = some window) : Formed size window := by
  obtain ⟨reading, hreading, rfl⟩ := Option.map_eq_some_iff.1 hs
  cases reading with
  | rejected basis => exact .of_nil rfl
  | scan scan => exact h.add hsize (reading_heights hreading)

theorem formed_of_run (hsize : 0 < size) (hrun : Run (heightStep size) {} es window) :
    Formed size window := by
  refine hrun.invariant (I := Formed size) (.of_nil rfl) fun w profile w' _ hw hs => ?_
  obtain ⟨next, hnext, hpair⟩ := Option.map_eq_some_iff.1 hs
  simp only [Prod.mk.injEq] at hpair
  exact hpair.1 ▸ hw.step hsize hnext

/-! ## Of which scans the frames are -/

/-- A scan that begins a window. -/
theorem Held.start (hsize : 0 < size) (es : List HeightEntry)
    (hreading : e.op.reading = some (.scan scan)) :
    Held (es ++ [e]) (SensorWindow.accept size scan [] none) := by
  have htimes : Chronological HeightFrame.time ([] ++ [scan.frame]) := List.pairwise_singleton _ _
  refine .inr ⟨es, [e], [scan], scan, rfl, by simp [hreading], .start scan, rfl, rfl,
    (slide_selected hsize htimes).last, fun frame hframe => ?_⟩
  have hmem := (slide_sublist htimes).mem hframe
  simp only [List.nil_append, List.mem_singleton] at hmem
  exact ⟨scan, List.mem_cons_self, hmem.symm⟩

/-- **A scan keeps what the window holds, or begins or empties it.** -/
theorem Held.add (hsize : 0 < size) (hformed : Formed size previous) (h : Held es previous)
    (hreading : e.op.reading = some (.scan scan)) : Held (es ++ [e]) (previous.add size scan) := by
  rcases add_cases size previous scan with hadd | hadd | ⟨last, hlast, hpositions, hbasis, hcase⟩
  · rw [hadd]
    exact .start hsize es hreading
  · exact .inl hadd
  · rcases h with hnil | ⟨before, series, scans, newest, rfl, hops, hseries, hp, hb, hframe, hall⟩
    · rw [hnil] at hlast
      cases hlast
    · obtain rfl : newest.frame = last := Option.some.inj (hframe.symm.trans hlast)
      have hops' : (series ++ [e]).map (fun e => e.op.reading) =
          (scans ++ [scan]).map (fun scan => some (.scan scan)) := by
        rw [List.map_append, List.map_append, hops]
        simp [hreading]
      rcases hcase with ⟨hadd, htime, hheights⟩ | ⟨hadd, hnew, hgap⟩
      · rw [hadd]
        refine .inr ⟨before, series ++ [e], scans ++ [scan], newest, by simp, hops', ?_, hp, hb,
          hframe, fun frame hmem => ?_⟩
        · exact hseries.again
            ⟨hpositions.symm.trans hp, hbasis.symm.trans hb, htime, hheights⟩
        · obtain ⟨s, hs, hsame⟩ := hall frame hmem
          exact ⟨s, List.mem_append_left _ hs, hsame⟩
      · have htimes := hformed.chronological hlast hnew
        rw [hadd]
        refine .inr ⟨before, series ++ [e], scans ++ [scan], scan, by simp, hops', ?_, rfl, rfl,
          (slide_selected hsize htimes).last, fun frame hmem => ?_⟩
        · exact hseries.next
            ⟨hpositions.symm.trans hp, hbasis.symm.trans hb, hnew, hgap⟩
        · rcases List.mem_append.1 ((slide_sublist htimes).mem hmem) with hmem | hmem
          · obtain ⟨s, hs, hsame⟩ := hall frame hmem
            exact ⟨s, List.mem_append_left _ hs, hsame⟩
          · exact ⟨scan, by simp, (List.mem_singleton.1 hmem).symm⟩

theorem held_of_run (hsize : 0 < size) (hrun : Run (heightStep size) {} es window) :
    Held es window := by
  induction hrun with
  | nil => exact .inl rfl
  | @snoc es w w' profile out hrun hs ih =>
    obtain ⟨next, hnext, hpair⟩ := Option.map_eq_some_iff.1 hs
    simp only [Prod.mk.injEq] at hpair
    obtain ⟨rfl, -⟩ := hpair
    obtain ⟨reading, hreading, rfl⟩ := Option.map_eq_some_iff.1 hnext
    cases reading with
    | rejected basis => exact .inl rfl
    | scan scan => exact ih.add hsize (formed_of_run hsize hrun) hreading

end

end ScrapMonitoring.Filtering
