import ScrapMonitoring.Foundations.Calendar

/-!
# Daily recordings

The archive has one recording for each day in Korea, which is nine hours ahead of UTC. The metadata
of a recording list the intervals that can be played, each with the range of the playback that it
maps to, and the gaps. What the schema validates is part of the types: intervals are not reversed,
playback ranges are not empty, and the intervals and gaps of a day are ordered within what has been
confirmed of the day.
-/

namespace ScrapMonitoring.Replay

/-- Microseconds by which Korea is ahead. -/
def kstOffset : ℤ := seconds 32400

/-- `t.astimezone(KST).date()`. -/
def kstDate (t : ℤ) : ℤ := (t + kstOffset) / dayLength

/-- `datetime.combine(date, time(), KST)`. -/
def midnight (date : ℤ) : ℤ := date * dayLength - kstOffset

theorem kstDate_midnight (date : ℤ) : kstDate (midnight date) = date := by
  simp only [kstDate, midnight, kstOffset, dayLength, seconds]
  omega

theorem lt_midnight (t : ℤ) : t < midnight (kstDate t + 1) := by
  simp only [kstDate, midnight, kstOffset, dayLength, seconds]
  omega

theorem le_kstDate_iff {date t : ℤ} : date ≤ kstDate t ↔ midnight date ≤ t := by
  simp only [kstDate, midnight, kstOffset, dayLength, seconds]
  omega

theorem kstDate_mono {t u : ℤ} (h : t ≤ u) : kstDate t ≤ kstDate u := by
  simp only [kstDate, kstOffset, dayLength, seconds]
  omega

inductive DailyStatus
  | recording | finalizing | closed | failed | deleted | expired
  deriving DecidableEq

inductive PlaybackState
  | pending | ready | unavailable
  deriving DecidableEq

structure DailyInterval where
  startAt : ℤ
  endAt : ℤ
  ordered : startAt ≤ endAt

def DailyInterval.span (interval : DailyInterval) : ℤ × ℤ := (interval.startAt, interval.endAt)

structure DailyGap extends DailyInterval where
  reasonCode : String
  reasonCode_length : 1 ≤ reasonCode.length ∧ reasonCode.length ≤ 100

structure DailyAvailableInterval extends DailyInterval where
  playbackStartSeconds : ℚ
  playbackEndSeconds : ℚ
  playbackStart_range : 0 ≤ playbackStartSeconds ∧ playbackStartSeconds ≤ 86400
  playbackEnd_range : 0 ≤ playbackEndSeconds ∧ playbackEndSeconds ≤ 86400
  playbackOrdered : playbackStartSeconds < playbackEndSeconds

/-- The intervals follow one another from `previous` and end by `bound`. -/
def OrderedWithin (bound : ℤ) : ℤ → List DailyInterval → Prop
  | _, [] => True
  | previous, interval :: intervals =>
    previous ≤ interval.startAt ∧ interval.endAt ≤ bound ∧
      OrderedWithin bound interval.endAt intervals

/-- The metadata of a day; of its error only the code is read. -/
structure DailyRecording where
  recordingId : String
  recordingDate : ℤ
  windowStartAt : ℤ
  windowEndAt : ℤ
  status : DailyStatus
  coverageAsOfAt : ℤ
  playableUntilAt : Option ℤ
  gaps : List DailyGap
  availableIntervals : List DailyAvailableInterval
  playbackState : PlaybackState
  playbackPath : Option String
  expiresAt : Option ℤ
  error : Option String
  window : windowStartAt = midnight recordingDate ∧
    windowEndAt = midnight recordingDate + dayLength
  coverageInWindow : windowStartAt ≤ coverageAsOfAt ∧ coverageAsOfAt ≤ windowEndAt
  playableConfirmed : ∀ t ∈ playableUntilAt, windowStartAt ≤ t ∧ t ≤ coverageAsOfAt
  gapsOrdered : OrderedWithin coverageAsOfAt windowStartAt (gaps.map DailyGap.toDailyInterval)
  intervalsOrdered : OrderedWithin coverageAsOfAt windowStartAt
    (availableIntervals.map DailyAvailableInterval.toDailyInterval)

/-- Ordered intervals begin at or after what comes before them. -/
theorem OrderedWithin.le_start {bound previous : ℤ} {l : List DailyInterval}
    (h : OrderedWithin bound previous l) : ∀ i ∈ l, previous ≤ i.startAt := by
  induction l generalizing previous with
  | nil => simp
  | cons i l ih =>
    intro j hj
    rcases List.mem_cons.1 hj with rfl | hj
    · exact h.1
    · exact (h.1.trans i.ordered).trans (ih h.2.2 j hj)

theorem OrderedWithin.pairwise {bound previous : ℤ} {l : List DailyInterval}
    (h : OrderedWithin bound previous l) : l.Pairwise fun i j => i.endAt ≤ j.startAt := by
  induction l generalizing previous with
  | nil => exact List.Pairwise.nil
  | cons i l ih => exact List.pairwise_cons.2 ⟨h.2.2.le_start, ih h.2.2⟩

/-- Leaving intervals out keeps the others in order. -/
theorem OrderedWithin.sublist {bound previous previous' : ℤ} {l l' : List DailyInterval}
    (h : OrderedWithin bound previous l) (hsub : l'.Sublist l) (hprevious : previous' ≤ previous) :
    OrderedWithin bound previous' l' := by
  induction hsub generalizing previous previous' with
  | slnil => trivial
  | cons i _ ih => exact ih h.2.2 ((hprevious.trans h.1).trans i.ordered)
  | cons_cons i _ ih => exact ⟨hprevious.trans h.1, h.2.1, ih h.2.2 (le_refl _)⟩

end ScrapMonitoring.Replay
