import Mathlib.Data.Rat.Defs

/-!
# The samples of a load history

A sample of `schemas/load_history_v2.py` is what a history shows of one bucket. A bucket without an
observation has the defaults.
-/

namespace ScrapMonitoring.History

inductive SampleSource
  | edgeState
  | heightSections
  | mixed
  deriving DecidableEq

inductive HistoryDataState
  | available
  | limited
  | unavailable
  | stale
  | unknown
  | noData
  deriving DecidableEq

inductive ValuePolicy
  | rawState
  | medianMinute
  deriving DecidableEq

structure HistorySampleV2 where
  simulated : Bool := false
  bucketStartAt : ℤ
  bucketEndAt : ℤ
  generatedAt : Option ℤ := none
  observedAt : Option ℤ := none
  assessmentId : Option String := none
  observationId : Option String := none
  inputSource : SampleSource := .edgeState
  methodVersion : Option String := none
  valuePercent : Option ℚ := none
  valid : Bool := false
  dataState : HistoryDataState := .noData
  reasonCodes : List String := ["STATE_NOT_RECEIVED"]
  averagePercent : Option ℚ := none
  minimumPercent : Option ℚ := none
  maximumPercent : Option ℚ := none
  validSamples : ℕ := 0
  invalidSamples : ℕ := 0
  valuePolicy : ValuePolicy := .rawState
  deriving DecidableEq

end ScrapMonitoring.History
