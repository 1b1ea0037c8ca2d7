import Mathlib.Order.CompletePartialOrder
import Mathlib.Order.Interval.Set.Disjoint
import ScrapMonitoring.Foundations.Sorted
import ScrapMonitoring.Foundations.Succeeds
import ScrapMonitoring.Foundations.Time

/-!
# The angle intervals of a sensor

The intervals that an edge selects of a lidar's circle, in thousandths of a degree, and the checks
of `schemas/edge_v2.py` on them: `AngleInterval`, `validate_intervals`, and the validators of the
scan and the observation that hold points and a list of intervals.

`validateIntervals` compares neighbours in the order of their starts. Intervals have a positive
width, so that ending before the start of another is transitive, and neighbours decide
(`validateIntervals_exact`).
-/

namespace ScrapMonitoring.EdgeV2.Angles

/-- A selected part of the circle, from `startInclusive` up to `endExclusive`. -/
@[ext]
structure AngleInterval where
  startInclusive : ℤ
  endExclusive : ℤ
  start_nonneg : 0 ≤ startInclusive
  start_lt : startInclusive < 360000
  end_pos : 0 < endExclusive
  end_le : endExclusive ≤ 360000
  /-- The validator `ordered`: an interval has positive width. -/
  ordered : startInclusive < endExclusive

namespace AngleInterval

instance : DecidableEq AngleInterval := fun _ _ => decidable_of_iff _ AngleInterval.ext_iff.symm

/-- The angles it selects. -/
def angles (interval : AngleInterval) : Set ℤ :=
  Set.Ico interval.startInclusive interval.endExclusive

instance (interval : AngleInterval) (angle : ℤ) : Decidable (angle ∈ interval.angles) :=
  inferInstanceAs (Decidable (interval.startInclusive ≤ angle ∧ angle < interval.endExclusive))

/-- It ends before the other begins. -/
def Before (a b : AngleInterval) : Prop := a.endExclusive ≤ b.startInclusive

theorem Before.trans {a b c : AngleInterval} (hab : a.Before b) (hbc : b.Before c) :
    a.Before c := by
  unfold Before at *
  have hb := b.ordered
  omega

instance : Trans Before Before Before := ⟨Before.trans⟩

theorem disjoint_iff {a b : AngleInterval} :
    Disjoint a.angles b.angles ↔ a.Before b ∨ b.Before a := by
  have ha := a.ordered
  have hb := b.ordered
  unfold angles Before
  rw [Set.Ico_disjoint_Ico]
  omega

end AngleInterval

/-- `validate_intervals`. -/
def validateIntervals (intervals : List AngleInterval) : Except String Unit :=
  let ordered := sortedBy AngleInterval.startInclusive intervals
  if (ordered.zip ordered.tail).any fun (a, b) => b.startInclusive < a.endExclusive then
    .error "Angle intervals must not overlap"
  else .ok ()

/-! ## Neighbours decide -/

/-- No neighbours of a list are related by the check exactly when it is a chain of the others. -/
theorem any_neighbours_eq_false {l : List AngleInterval} :
    ((l.zip l.tail).any fun (a, b) => b.startInclusive < a.endExclusive) = false ↔
      l.IsChain AngleInterval.Before := by
  induction l with
  | nil => simp
  | cons a l ih =>
    cases l with
    | nil => simp
    | cons b l =>
      simp only [List.tail_cons, List.zip_cons_cons, List.any_cons, Bool.or_eq_false_iff,
        decide_eq_false_iff_not, not_lt, List.isChain_cons_cons] at ih ⊢
      rw [ih]
      rfl

theorem validateIntervals_eq_ok {intervals : List AngleInterval} :
    validateIntervals intervals = .ok () ↔
      (sortedBy AngleInterval.startInclusive intervals).Pairwise AngleInterval.Before := by
  rw [← List.isChain_iff_pairwise, ← any_neighbours_eq_false, validateIntervals]
  split
  · next h => simp [h]
  · next h => simpa using h

/-- In a list sorted by the starts, intervals are disjoint exactly when each ends before every
later one begins. -/
theorem pairwise_disjoint_iff {l : List AngleInterval}
    (hsorted : l.Pairwise fun a b => a.startInclusive ≤ b.startInclusive) :
    (l.Pairwise fun a b => Disjoint a.angles b.angles) ↔ l.Pairwise AngleInterval.Before := by
  constructor
  · intro hdisjoint
    refine (hsorted.and hdisjoint).imp fun {a b} ⟨hle, hab⟩ => ?_
    rcases AngleInterval.disjoint_iff.1 hab with h | h
    · exact h
    · -- The later interval would end before the earlier one begins, having begun after it.
      have hb := b.ordered
      unfold AngleInterval.Before at h
      omega
  · intro hbefore
    exact hbefore.imp fun h => AngleInterval.disjoint_iff.2 (.inl h)

theorem validateIntervals_eq_ok_iff_pairwise {intervals : List AngleInterval} :
    validateIntervals intervals = .ok () ↔
      intervals.Pairwise fun a b => Disjoint a.angles b.angles := by
  rw [validateIntervals_eq_ok, ← pairwise_disjoint_iff (pairwise_sortedBy _ intervals)]
  exact (sortedBy_perm _ intervals).pairwise_iff fun h => h.symm

/-! ## The messages that hold intervals -/

structure Position where
  x : ℤ
  y : ℤ
  z : ℤ

structure Point where
  index : ℕ
  angleMdeg : ℤ
  positionMm : Option Position

structure Scan where
  sourcePointCount : ℕ
  selectedPointCount : ℕ
  points : List Point

inductive Availability
  | present
  | noNewScan
  | stale
  | rejected
  | configUnavailable
  deriving DecidableEq

inductive TransformState
  | verified
  | unverified
  | unavailable
  deriving DecidableEq

structure SensorObservation where
  availability : Availability
  calibrationVersion : Option String
  transformState : TransformState
  angleIntervalsMdeg : List AngleInterval
  scan : Option Scan

/-- `Scan.point_counts`. -/
def Scan.pointCounts (scan : Scan) : Except String Unit := do
  refuse (scan.selectedPointCount ≠ scan.points.length)
    "selected_point_count must match points length"
  refuse (scan.sourcePointCount < scan.selectedPointCount) "Selected points exceed source points"
  let indices := scan.points.map Point.index
  refuse (¬indices.Nodup ∨ ∃ index ∈ indices, scan.sourcePointCount ≤ index)
    "Point indices must be unique source indices"

namespace SensorObservation

variable (observation : SensorObservation)

/-- One turn of the loop over the points of the scan. -/
def checkPoint (point : Point) : Except String Unit := do
  refuse (observation.transformState ≠ .verified ∧ point.positionMm.isSome)
    "Unverified transform requires null coordinates"
  refuse (¬∃ interval ∈ observation.angleIntervalsMdeg, point.angleMdeg ∈ interval.angles)
    "Point is outside selected angle intervals"

/-- `SensorObservation.observation_consistency`. -/
def observationConsistency : Except String Unit := do
  validateIntervals observation.angleIntervalsMdeg
  refuse (decide (observation.availability = .present) ≠ observation.scan.isSome)
    "Only PRESENT contains a scan"
  match observation.scan with
  | none => pure ()
  | some scan =>
    refuse (observation.transformState = .verified ∧ observation.calibrationVersion = none)
      "Verified transform requires calibration version"
    scan.points.forM observation.checkPoint

/-- Its validator and that of its scan accept it. -/
def Accepted : Prop :=
  (∀ scan ∈ observation.scan, scan.pointCounts = .ok ()) ∧
    observation.observationConsistency = .ok ()

instance : Decidable observation.Accepted := by
  unfold Accepted
  infer_instance

end SensorObservation

/-! ## What an accepted message selects -/

/-- Every angle lies in at most one of the intervals of an accepted list. -/
theorem index_unique {intervals : List AngleInterval} (h : validateIntervals intervals = .ok ())
    (angle : ℤ) {i j : ℕ} (hi : i < intervals.length) (hj : j < intervals.length)
    (hangle : angle ∈ intervals[i].angles) (hangle' : angle ∈ intervals[j].angles) : i = j := by
  by_contra hij
  rw [validateIntervals_eq_ok_iff_pairwise,
    pairwise_iff_of_symmetric fun _ _ h => Disjoint.symm h] at h
  exact Set.disjoint_left.1 (h i j hi hj hij) hangle hangle'

namespace SensorObservation

variable {observation : SensorObservation}

theorem succeeds_checkPoint (point : Point) :
    Succeeds (observation.checkPoint point)
      (¬(observation.transformState ≠ .verified ∧ point.positionMm.isSome) ∧
        ¬¬∃ interval ∈ observation.angleIntervalsMdeg, point.angleMdeg ∈ interval.angles) () :=
  (Succeeds.refuse _).bind (Succeeds.refuse _)

theorem Accepted.validateIntervals (h : observation.Accepted) :
    validateIntervals observation.angleIntervalsMdeg = .ok () := by
  have hok := h.2
  rw [observationConsistency] at hok
  cases hvalid : Angles.validateIntervals observation.angleIntervalsMdeg with
  | ok => rfl
  | error e =>
    rw [hvalid] at hok
    cases hok

/-- Every point of the scan of an accepted observation lies in exactly one of its intervals. -/
theorem Accepted.existsUnique (h : observation.Accepted) {scan : Scan}
    (hscan : observation.scan = some scan) {point : Point} (hpoint : point ∈ scan.points) :
    ∃! i : Fin observation.angleIntervalsMdeg.length,
      point.angleMdeg ∈ observation.angleIntervalsMdeg[i].angles := by
  have hvalid := h.validateIntervals
  have hok := h.2
  rw [observationConsistency, hvalid, hscan] at hok
  have hloop : Succeeds (scan.points.forM observation.checkPoint) _ () :=
    .forM fun point _ => succeeds_checkPoint point
  obtain ⟨⟨-, -, hpoints⟩, -⟩ :=
    ((Succeeds.refuse _).bind ((Succeeds.refuse _).bind hloop)).of_ok hok
  obtain ⟨interval, hinterval, hangle⟩ := not_not.1 (hpoints point hpoint).2
  obtain ⟨i, hi, rfl⟩ := List.mem_iff_getElem.1 hinterval
  exact ⟨⟨i, hi⟩, hangle, fun j hj => Fin.ext (index_unique hvalid _ j.2 hi hj hangle)⟩

end SensorObservation

/-- **`validate_intervals` is exact**: it accepts a list exactly when the intervals at different
positions select disjoint sets of angles, so that an angle lies in at most one of the intervals of
an accepted observation. -/
theorem validateIntervals_exact :
    (∀ intervals : List AngleInterval, validateIntervals intervals = .ok () ↔
      ∀ i j, ∀ (hi : i < intervals.length) (hj : j < intervals.length), i ≠ j →
        Disjoint intervals[i].angles intervals[j].angles) ∧
    (∀ observation : SensorObservation, observation.Accepted →
      ∀ (angle : ℤ) (i j : ℕ) (hi : i < observation.angleIntervalsMdeg.length)
        (hj : j < observation.angleIntervalsMdeg.length),
        angle ∈ observation.angleIntervalsMdeg[i].angles →
        angle ∈ observation.angleIntervalsMdeg[j].angles → i = j) := by
  constructor
  · intro intervals
    rw [validateIntervals_eq_ok_iff_pairwise]
    exact pairwise_iff_of_symmetric fun _ _ h => Disjoint.symm h
  · intro observation h angle i j hi hj
    exact index_unique h.validateIntervals angle hi hj

/-- Touching intervals, the later one first, with a point where they touch. -/
example :
    let later : AngleInterval := ⟨1000, 2000, by decide, by decide, by decide, by decide, by decide⟩
    let earlier : AngleInterval := ⟨0, 1000, by decide, by decide, by decide, by decide, by decide⟩
    SensorObservation.Accepted
      ⟨.present, none, .unverified, [later, earlier], some ⟨1, 1, [⟨0, 1000, none⟩]⟩⟩ := by
  decide

end ScrapMonitoring.EdgeV2.Angles
