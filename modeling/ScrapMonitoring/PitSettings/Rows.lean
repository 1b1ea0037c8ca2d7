import ScrapMonitoring.Foundations.Calendar
import ScrapMonitoring.Foundations.Json
import ScrapMonitoring.Foundations.Sorted
import ScrapMonitoring.Foundations.Tagged
import ScrapMonitoring.Monitoring.Rows
import Mathlib.Data.String.Basic

/-!
# The settings of a pit

The settings of a pit stand in two rows: its thresholds and its geometry in `pit_configs`, the
policy of its alerts in `alert_policies`. The ETag of the settings is made of both. A change of
either is recorded in the history, with the values before it and after it.
-/

namespace ScrapMonitoring.PitSettings

open Monitoring (PitConfig)

/-! ## Rows -/

inductive ConfigurableAlertEventType
  | collectionRequired
  | measurementError
  | deviceError
  deriving DecidableEq

def ConfigurableAlertEventType.text : ConfigurableAlertEventType → String
  | collectionRequired => "collection_required"
  | measurementError => "measurement_error"
  | deviceError => "device_error"

/-- The row of `alert_policies`. -/
structure AlertPolicy where
  preAlertEnabled : Bool
  sendDelayMinutes : ℕ
  repeatIntervalMinutes : ℕ
  maximumRepeatCount : ℕ
  recoveryNotificationEnabled : Bool
  eventTypes : List ConfigurableAlertEventType
  versionId : ℕ
  updatedAt : ℤ
  deriving DecidableEq

inductive SettingsResource
  | alertSettings
  | pitConfig
  deriving DecidableEq

inductive SettingsOperation
  | create
  | update
  deriving DecidableEq

structure User where
  id : String
  displayName : String
  role : String

/-- A change as `record_change` is told of it. -/
structure Change where
  actorUsername : String
  actorDisplayName : String
  pitId : String
  resource : SettingsResource
  operation : SettingsOperation
  before : Option Fields
  after : Fields
  changedFields : List String
  deriving DecidableEq

/-- The row of `settings_history`. -/
structure SettingsHistory where
  change : Change
  occurredAt : ℤ
  deriving DecidableEq

/-- The rows of one pit. -/
structure Rows where
  pit : Option PitConfig
  policy : Option AlertPolicy
  history : List SettingsHistory
  deriving DecidableEq

/-! ## The history -/

/-- `sorted(key for key, value in after.items() if ...)`. -/
def changedFields (before : Option Fields) (after : Fields) : List String :=
  sortedBy id <| (after.filter fun field =>
    before.all fun before => (before.lookup field.1).getD .null ≠ field.2).map Prod.fst

/-- `record_change`: what is added to the history, if anything. The actor must be an
administrator. -/
def recordChange (actor : User) (pitId : String) (resource : SettingsResource)
    (before : Option Fields) (after : Fields) : Option (Option Change) :=
  if actor.role ≠ "administrator" then none
  else if changedFields before after = [] then some none
  else some <| some
    { actorUsername := actor.id
      actorDisplayName := actor.displayName
      pitId := pitId
      resource := resource
      operation := if before = none then .create else .update
      before := before
      after := after
      changedFields := changedFields before after }

theorem recordChange_spec {actor : User} {pitId : String} {resource : SettingsResource}
    {before : Option Fields} {after : Fields} {change : Change}
    (h : recordChange actor pitId resource before after = some (some change)) :
    change.resource = resource ∧ change.before = before ∧ change.after = after := by
  unfold recordChange at h
  split_ifs at h <;> simp only [Option.some.injEq, reduceCtorEq] at h <;> subst h <;>
    exact ⟨rfl, rfl, rfl⟩

/-! ## Values -/

/-- `pit_values`. -/
def pitValues (pit : PitConfig) : Fields :=
  [("name", .str pit.name),
    ("total_depth_cm", .float pit.totalDepthCm),
    ("warning_threshold_percent", .float pit.warningThresholdPercent),
    ("critical_threshold_percent", .float pit.criticalThresholdPercent)]

/-- The fields of `AlertSettings` without the version, which the history does not keep. -/
def alertValues (pit : PitConfig) (policy : AlertPolicy) : Fields :=
  [("collectionThresholdPercent", .float pit.criticalThresholdPercent),
    ("preCollectionAlert", .obj
      [("enabled", .bool policy.preAlertEnabled),
        ("thresholdPercent", .float pit.warningThresholdPercent)]),
    ("sendDelayMinutes", .int policy.sendDelayMinutes),
    ("repeatIntervalMinutes", .int policy.repeatIntervalMinutes),
    ("maximumRepeatCount", .int policy.maximumRepeatCount),
    ("recoveryNotificationEnabled", .bool policy.recoveryNotificationEnabled),
    ("eventTypes", .arr (policy.eventTypes.map fun type => .str type.text))]

/-! ## The ETag -/

/-- How numbers are written, and the first digits of the SHA-256 of a text. -/
structure Texts where
  float : ℚ → String
  hash : String → String

/-- The text that the ETag is the hash of. -/
def etagContent (texts : Texts) (pit : PitConfig) (policy : AlertPolicy) : String :=
  pit.id ++ ":" ++ texts.float pit.criticalThresholdPercent ++ ":" ++
    texts.float pit.warningThresholdPercent ++ ":" ++ isoformat pit.updatedAt ++ ":" ++
      toString policy.versionId

/-- The version of the policy can be read off the text. -/
theorem versionId_eq_of_etagContent {texts : Texts} {pit pit' : PitConfig}
    {policy policy' : AlertPolicy}
    (h : etagContent texts pit policy = etagContent texts pit' policy') :
    policy.versionId = policy'.versionId := by
  have hsplit : ∀ (front : String) (n : ℕ),
      (front ++ ":" ++ toString n).toList = front.toList ++ ':' :: Nat.toDigits 10 n := by
    intro front n
    simp
  have hlist := congrArg String.toList h
  rw [etagContent, etagContent, hsplit, hsplit] at hlist
  exact (tagged_inj (by decide) hlist).2

/-- `_generate_alert_etag`. -/
def generateAlertEtag (texts : Texts) (pit : PitConfig) (policy : AlertPolicy) : String :=
  "\"" ++ pit.id ++ "-" ++ texts.hash (etagContent texts pit policy) ++ "\""

/-- `snapshot`: the settings without their version, and the ETag, if they can be validated. -/
def snapshot (texts : Texts) (pit : PitConfig) (policy : AlertPolicy) : Option (Fields × String) :=
  if '"' ∉ pit.id.toList ∧ '"' ∉ (texts.hash (etagContent texts pit policy)).toList ∧
      0 ≤ pit.criticalThresholdPercent ∧ pit.criticalThresholdPercent ≤ 100 ∧
      0 ≤ pit.warningThresholdPercent ∧ pit.warningThresholdPercent ≤ 100 ∧
      1 ≤ policy.maximumRepeatCount then
    some (alertValues pit policy, generateAlertEtag texts pit policy)
  else none

/-! ## Requests -/

/-- `validate_alert_thresholds`. -/
def validThresholds (warning critical : ℚ) : Bool :=
  0 ≤ warning ∧ warning ≤ critical - 5 ∧ critical - 5 < critical ∧ critical ≤ 100

/-- A validated body of the alert settings. -/
structure AlertSettingsUpdate where
  collectionThresholdPercent : ℚ
  preAlertEnabled : Bool
  preAlertThresholdPercent : ℚ
  sendDelayMinutes : ℕ
  repeatIntervalMinutes : ℕ
  maximumRepeatCount : ℕ
  recoveryNotificationEnabled : Bool
  eventTypes : List ConfigurableAlertEventType
  delay_range : sendDelayMinutes ≤ 2147483647
  interval_range : repeatIntervalMinutes ≤ 2147483647
  count_range : 1 ≤ maximumRepeatCount ∧ maximumRepeatCount ≤ 2147483647
  some_event : eventTypes ≠ []
  valid_thresholds : validThresholds preAlertThresholdPercent collectionThresholdPercent = true

/-- A validated body of the configuration; what is `none` is not given. -/
structure PitConfigUpdateRequest where
  name : Option String
  totalDepthCm : Option ℚ
  warningThresholdPercent : Option ℚ
  criticalThresholdPercent : Option ℚ
  name_length : ∀ text ∈ name, text.length ≤ 100
  depth_positive : ∀ depth ∈ totalDepthCm, 0 < depth
  warning_range : ∀ warning ∈ warningThresholdPercent, 0 ≤ warning ∧ warning ≤ 100
  critical_range : ∀ critical ∈ criticalThresholdPercent, 0 ≤ critical ∧ critical ≤ 100

/-- The policy as it is replaced. -/
def AlertPolicy.replaced (policy : AlertPolicy) (payload : AlertSettingsUpdate) (now : ℤ) :
    AlertPolicy where
  preAlertEnabled := payload.preAlertEnabled
  sendDelayMinutes := payload.sendDelayMinutes
  repeatIntervalMinutes := payload.repeatIntervalMinutes
  maximumRepeatCount := payload.maximumRepeatCount
  recoveryNotificationEnabled := payload.recoveryNotificationEnabled
  eventTypes := payload.eventTypes
  versionId := policy.versionId + 1
  updatedAt := now

/-- The thresholds as they are replaced. -/
def replacedPit (pit : PitConfig) (payload : AlertSettingsUpdate) (now : ℤ) : PitConfig :=
  { pit with
    criticalThresholdPercent := payload.collectionThresholdPercent
    warningThresholdPercent := payload.preAlertThresholdPercent
    updatedAt := now }

/-- `{**before, **payload.model_dump(exclude_none=True)}`, on the row. -/
def updatedPit (pit : PitConfig) (payload : PitConfigUpdateRequest) : PitConfig :=
  { pit with
    name := payload.name.getD pit.name
    totalDepthCm := payload.totalDepthCm.getD pit.totalDepthCm
    warningThresholdPercent := payload.warningThresholdPercent.getD pit.warningThresholdPercent
    criticalThresholdPercent := payload.criticalThresholdPercent.getD pit.criticalThresholdPercent }

/-- The columns that the history knows of are the same. -/
def sameValues (pit pit' : PitConfig) : Bool := pitValues pit = pitValues pit'

theorem sameValues_iff {pit pit' : PitConfig} : sameValues pit pit' ↔ pit.name = pit'.name ∧
    pit.totalDepthCm = pit'.totalDepthCm ∧
      pit.warningThresholdPercent = pit'.warningThresholdPercent ∧
        pit.criticalThresholdPercent = pit'.criticalThresholdPercent := by
  simp [sameValues, pitValues]

end ScrapMonitoring.PitSettings
