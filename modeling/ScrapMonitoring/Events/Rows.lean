import ScrapMonitoring.Foundations.Json
import ScrapMonitoring.Foundations.Time
import ScrapMonitoring.Monitoring.Rows

/-!
# What events are listed from

The rows of transitions, alerts with their links, collection logs and metrics, with the columns that
the listing of events reads. Instants are `Datetime`s: in the range of years from 1 to 9999, at
whose ends a shifted instant stops (`shifted_val`).

The database reads a member of a JSON column as a text (`asString`). Of a value that is neither a
string nor null this is its JSON text, for which `text` stands.
-/

namespace ScrapMonitoring.Events

/-! ## Datetimes -/

def datetimeMin : ℤ := -62135596800000000

def datetimeMax : ℤ := 253402300799999999

/-- An instant that a `datetime` holds, in microseconds since the epoch. -/
abbrev Datetime := {t : ℤ // datetimeMin ≤ t ∧ t ≤ datetimeMax}

/-- `shifted`: what is out of range is the first or the last datetime. -/
def shifted (value : Datetime) (n : ℤ) : Datetime :=
  if h : datetimeMin ≤ value.1 + seconds n ∧ value.1 + seconds n ≤ datetimeMax then
    ⟨value.1 + seconds n, h⟩
  else if n < 0 then ⟨datetimeMin, by decide⟩
  else ⟨datetimeMax, by decide⟩

theorem shifted_val (value : Datetime) (n : ℤ) :
    (shifted value n).1 = max datetimeMin (min datetimeMax (value.1 + seconds n)) := by
  obtain ⟨hmin, hmax⟩ := value.2
  have hends : datetimeMin ≤ datetimeMax := by decide
  unfold shifted
  unfold seconds
  split_ifs with hrange hneg <;> dsimp only <;> omega

/-! ## Rows -/

inductive TransitionKind
  | collectionDetected
  | collectionSettled
  | alertCreated
  | deviceStateChanged
  | measurementValidityChanged
  | other (name : String)
  deriving DecidableEq

structure EdgeV2Transition where
  id : ℕ
  siteId : String
  edgeId : String
  occurredAt : Datetime
  kind : TransitionKind
  payload : Fields

structure AlertLog where
  id : ℕ
  pitId : String
  triggeredAt : Datetime

structure EdgeV2AlertLink where
  alertId : ℕ
  pitId : String
  siteId : String
  edgeId : String

structure CollectionLog where
  id : ℕ
  pitId : String
  completedAt : Datetime

structure ScrapMetric where
  id : ℕ
  pitId : String
  measuredAt : Datetime
  isValid : Bool

/-- The tables, each with its primary key; an alert has one link. -/
structure Store where
  transitions : List EdgeV2Transition
  alerts : List AlertLog
  links : List EdgeV2AlertLink
  collections : List CollectionLog
  metrics : List ScrapMetric
  transitions_nodup : (transitions.map EdgeV2Transition.id).Nodup
  alerts_nodup : (alerts.map AlertLog.id).Nodup
  links_nodup : (links.map EdgeV2AlertLink.alertId).Nodup
  collections_nodup : (collections.map CollectionLog.id).Nodup
  metrics_nodup : (metrics.map ScrapMetric.id).Nodup

/-! ## JSON columns -/

/-- `as_string()`: null is NULL. -/
def asString (text : Json → String) : Json → Option String
  | .null => none
  | .str s => some s
  | value => some (text value)

/-- `payload[key].as_string()`, which is NULL without the member. -/
def column (text : Json → String) (payload : Fields) (key : String) : Option String :=
  (payload.lookup key).bind (asString text)

/-- `a = b` of SQL, which is not true of NULL. -/
def sqlEq (a b : Option String) : Bool := a.isSome && a == b

theorem sqlEq_iff {a b : Option String} : sqlEq a b = true ↔ ∃ s, a = some s ∧ b = some s := by
  unfold sqlEq
  cases a with
  | none => simp
  | some s =>
    rw [Option.isSome_some, Bool.true_and, beq_iff_eq]
    constructor
    · rintro rfl
      exact ⟨s, rfl, rfl⟩
    · rintro ⟨s', hs, hb⟩
      exact hs.trans hb.symm

/-- `_json_boolean`. -/
def jsonBoolean (payload : Fields) (key : String) (value : Bool) : Bool :=
  payload.lookup key = some (.bool value)

/-- The transition is of the device of the source. -/
def EdgeV2Transition.ofDevice (t : EdgeV2Transition) (source : Monitoring.MonitoringSource) :
    Bool :=
  t.siteId = source.siteId ∧ t.edgeId = source.edgeId

end ScrapMonitoring.Events
