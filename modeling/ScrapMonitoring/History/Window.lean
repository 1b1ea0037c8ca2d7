import ScrapMonitoring.Foundations.Grid
import ScrapMonitoring.History.Writer

/-!
# The window of a history

`historyWindow` checks the range of a request and chooses the interval of its buckets: the requested
one, or the least that has few enough points. Without a requested interval every range that it may
have is accepted (`historyWindow_auto`).
-/

namespace ScrapMonitoring.History

/-! ## Intervals -/

inductive HistoryInterval
  | minute
  | fiveMinutes
  | quarter
  | hour
  | twoHours
  | sixHours
  | day
  deriving DecidableEq

namespace HistoryInterval

def seconds : HistoryInterval → ℤ
  | minute => 60
  | fiveMinutes => 300
  | quarter => 900
  | hour => 3600
  | twoHours => 7200
  | sixHours => 21600
  | day => 86400

/-- The width of a bucket. -/
def width (interval : HistoryInterval) : ℤ := ScrapMonitoring.seconds interval.seconds

theorem seconds_pos (interval : HistoryInterval) : 0 < interval.seconds := by
  cases interval <;> decide

theorem width_pos (interval : HistoryInterval) : 0 < interval.width :=
  ScrapMonitoring.seconds_pos interval.seconds_pos

theorem minute_dvd (interval : HistoryInterval) : 60 ∣ interval.seconds := by
  cases interval <;> decide

end HistoryInterval

open HistoryInterval in
def intervals : List HistoryInterval :=
  [minute, fiveMinutes, quarter, hour, twoHours, sixHours, day]

def maxPoints : ℤ := 1441

/-! ## Ranges -/

/-- A datetime of a request: whether it has an offset, and its instant, where that is a datetime of
UTC. -/
structure RequestTime where
  aware : Bool
  utc : Option ℤ

inductive HistoryError
  | timezoneRequired
  | timeOutOfRange
  | futureRange
  | rangeMustBeWithin90Days
  | tooManyPoints
  deriving DecidableEq

/-- The range that a request names, in UTC. -/
def utcRange (fromTime toTime : Option RequestTime) (now : ℤ) : Except HistoryError (ℤ × ℤ) :=
  if (fromTime.any fun time => !time.aware) ∨ (toTime.any fun time => !time.aware) then
    .error .timezoneRequired
  else
    match (toTime.map RequestTime.utc).getD (some now) with
    | none => .error .timeOutOfRange
    | some stop =>
      match fromTime with
      | some time =>
        match time.utc with
        | none => .error .timeOutOfRange
        | some start => .ok (start, stop)
      | none =>
        if Representable (stop - dayLength) then .ok (stop - dayLength, stop)
        else .error .timeOutOfRange

/-- The number of the buckets that a range touches. -/
def points (start stop : ℤ) (interval : HistoryInterval) : ℤ :=
  cellAfter stop interval.width - start / interval.width

/-- The intervals to choose from. -/
def choices : Option HistoryInterval → List HistoryInterval
  | some interval => [interval]
  | none => intervals

/-- `history_window`. -/
def historyWindow (fromTime toTime : Option RequestTime) (interval : Option HistoryInterval)
    (now : ℤ) : Except HistoryError (ℤ × ℤ × HistoryInterval) := do
  let (start, stop) ← utcRange fromTime toTime now
  if now + ScrapMonitoring.seconds 5 < stop then .error .futureRange
  else if ¬(0 < stop - start ∧ stop - start ≤ 90 * dayLength) then .error .rangeMustBeWithin90Days
  else
    match (choices interval).find? fun interval => points start stop interval ≤ maxPoints with
    | some interval => .ok (start, stop, interval)
    | none => .error .tooManyPoints

/-! ## What is accepted -/

section

variable {fromTime toTime : Option RequestTime} {requested : Option HistoryInterval}
variable {interval : HistoryInterval} {start stop now : ℤ}

/-- What the window of a request satisfies. -/
structure Accepted (start stop now : ℤ) (interval : HistoryInterval) : Prop where
  started : start < stop
  within : stop - start ≤ 90 * dayLength
  past : stop ≤ now + ScrapMonitoring.seconds 5
  bounded : points start stop interval ≤ maxPoints

theorem accepted_of_window
    (h : historyWindow fromTime toTime requested now = .ok (start, stop, interval)) :
    Accepted start stop now interval ∧ ∀ r ∈ requested, interval = r := by
  unfold historyWindow at h
  cases hutc : utcRange fromTime toTime now with
  | error e =>
    rw [hutc] at h
    cases h
  | ok range =>
  obtain ⟨start', stop'⟩ := range
  rw [hutc] at h
  change (if now + ScrapMonitoring.seconds 5 < stop' then _ else _) = _ at h
  split_ifs at h with hfuture hrange
  cases hfind : (choices requested).find? fun interval =>
    points start' stop' interval ≤ maxPoints with
  | none =>
    rw [hfind] at h
    cases h
  | some chosen =>
    rw [hfind] at h
    simp only [Except.ok.injEq, Prod.mk.injEq] at h
    obtain ⟨rfl, rfl, rfl⟩ := h
    refine ⟨⟨by omega, hrange.2, by omega, by simpa using List.find?_some hfind⟩, ?_⟩
    rintro r hr
    obtain rfl : requested = some r := hr
    exact List.mem_singleton.1 (List.mem_of_find?_eq_some hfind)

/-- Ninety days have few enough buckets of two hours. -/
theorem points_twoHours (hwithin : stop - start ≤ 90 * dayLength) :
    points start stop .twoHours ≤ maxPoints := by
  have hle := cells_le HistoryInterval.twoHours.width_pos start stop
  have hwidth : HistoryInterval.twoHours.width = 7200000000 := by decide
  unfold points maxPoints
  rw [hwidth] at hle ⊢
  unfold dayLength at hwithin
  omega

/-- **Without a requested interval every range of at most 90 days is accepted.** -/
theorem historyWindow_auto (hutc : utcRange fromTime toTime now = .ok (start, stop))
    (hpast : stop ≤ now + ScrapMonitoring.seconds 5) (hstarted : start < stop)
    (hwithin : stop - start ≤ 90 * dayLength) :
    ∃ interval, historyWindow fromTime toTime none now = .ok (start, stop, interval) := by
  have hfind : ∃ interval, (intervals.find? fun interval =>
      points start stop interval ≤ maxPoints) = some interval := by
    rw [← Option.isSome_iff_exists, List.find?_isSome]
    exact ⟨.twoHours, by decide, decide_eq_true (points_twoHours hwithin)⟩
  obtain ⟨interval, hinterval⟩ := hfind
  refine ⟨interval, ?_⟩
  unfold historyWindow
  rw [hutc]
  show (if now + ScrapMonitoring.seconds 5 < stop then _ else _) = _
  rw [if_neg (by omega), if_neg (by omega)]
  unfold choices
  rw [hinterval]

end

end ScrapMonitoring.History
