import Mathlib.Data.Prod.Lex
import ScrapMonitoring.Foundations.Interleaving
import ScrapMonitoring.Foundations.Queries
import ScrapMonitoring.Foundations.Sorted
import ScrapMonitoring.Foundations.Time
import ScrapMonitoring.Foundations.Traverse
import ScrapMonitoring.Foundations.Uncommitted

/-!
# Notifications and who has read them

`services/notification_service.py`, statement by statement. Alerts are shared by all accounts; that
an account has read one is a row of its own, with the time. Any number of requests run at once, and
other parts of the program store alerts beside them.
-/

namespace ScrapMonitoring.Notifications

/-! ## Rows -/

/-- An identifier is a positive 32-bit integer. -/
structure AlertLog where
  id : ℕ
  idRange : 1 ≤ id ∧ id ≤ 2147483647
  triggeredAt : ℤ
  status : String
  message : String
  eventType : String
  severity : String

structure NotificationRead where
  username : String
  alertId : ℕ
  readAt : ℤ
  deriving DecidableEq

/-- The primary key. -/
def NotificationRead.key (row : NotificationRead) : String × ℕ := (row.username, row.alertId)

/-- The tables; a read that is not committed yet belongs to a request. -/
structure Tables (ι : Type) where
  alerts : List AlertLog
  alertIds : (alerts.map AlertLog.id).Nodup
  reads : Uncommitted ι NotificationRead.key

/-! ## A notification -/

inductive EventType
  | preCollectionAlert
  | collectionRequired
  | collectionStarted
  | collectionCompleted
  | measurementError
  | deviceError
  | videoDelay
  deriving DecidableEq

def EventType.name : EventType → String
  | preCollectionAlert => "pre_collection_alert"
  | collectionRequired => "collection_required"
  | collectionStarted => "collection_started"
  | collectionCompleted => "collection_completed"
  | measurementError => "measurement_error"
  | deviceError => "device_error"
  | videoDelay => "video_delay"

def EventType.parse (name : String) : Option EventType :=
  [preCollectionAlert, collectionRequired, collectionStarted, collectionCompleted,
    measurementError, deviceError, videoDelay].find? fun type => type.name = name

inductive NotificationSeverity
  | info
  | warning
  | error
  deriving DecidableEq

def NotificationSeverity.parse (name : String) : Option NotificationSeverity :=
  if name = "info" then some .info
  else if name = "warning" then some .warning
  else if name = "error" then some .error
  else none

structure Notification where
  id : String
  type : EventType
  severity : NotificationSeverity
  title : String
  detail : String
  occurredAt : ℤ
  readAt : Option ℤ
  deriving DecidableEq

def eventTitles : List (String × String) :=
  [("pre_collection_alert", "스크랩 적재율 사전 경고 알림"),
    ("collection_started", "스크랩 수거 시작 알림"),
    ("collection_completed", "스크랩 수거 완료 알림"),
    ("measurement_error", "측정 오류 알림"),
    ("device_error", "장비 오류 알림"),
    ("video_delay", "영상 지연 알림")]

def formatNotificationTitle (log : AlertLog) : String :=
  if "테스트 알림".toList <:+: log.message.toList then
    if log.status = "RECORDED" then "테스트 알림 요청 기록" else "테스트 알림 발송"
  else
    match eventTitles.lookup log.eventType with
    | some title => title
    | none =>
      if log.eventType = "collection_required" then
        if log.severity = "error" then "스크랩 수거 필요 알림 (위험 임계치 초과)"
        else if log.severity = "warning" then "스크랩 적재율 경고 알림"
        else "스크랩 수거 관련 알림"
      else "시스템 운영 알림"

def notificationId (id : ℕ) : String := "notif-" ++ toString id

/-- `text or default` -/
def orElse (text default : String) : String := if text = "" then default else text

/-- The notification, if the alert has a type and a severity of the schema. -/
def notification (log : AlertLog) (readAt : Option ℤ) : Option Notification := do
  let type ← EventType.parse (orElse log.eventType "collection_required")
  let severity ← NotificationSeverity.parse (orElse log.severity "warning")
  return {
    id := notificationId log.id
    type := type
    severity := severity
    title := formatNotificationTitle log
    detail := log.message
    occurredAt := log.triggeredAt
    readAt := readAt }

/-! ## Identifiers -/

/-- The blanks that `str.strip` takes away. -/
def isspace (c : Char) : Bool :=
  (9 ≤ c.toNat && c.toNat ≤ 13) || (28 ≤ c.toNat && c.toNat ≤ 32) || c.toNat = 133 ||
    c.toNat = 160 || c.toNat = 5760 || (8192 ≤ c.toNat && c.toNat ≤ 8202) || c.toNat = 8232 ||
    c.toNat = 8233 || c.toNat = 8239 || c.toNat = 8287 || c.toNat = 12288

def strip (text : List Char) : List Char :=
  ((text.dropWhile isspace).reverse.dropWhile isspace).reverse

/-- `raw[6:]` behind `notif-`. -/
def withoutTag (raw : List Char) : List Char :=
  if "notif-".toList <+: raw then raw.drop 6 else raw

def parseNotificationId (text : String) : Option ℕ :=
  let raw := withoutTag (strip text.toList)
  if raw = [] ∨ raw.any (fun c => !c.isDigit) ∨ 10 < raw.length then none
  else
    let value := Nat.ofDigitChars 10 raw 0
    if 1 ≤ value ∧ value ≤ 2147483647 then some value else none

/-! ## Pages -/

structure PageMetadata where
  page : ℕ
  pageSize : ℕ
  totalItems : ℕ
  totalPages : ℕ
  deriving DecidableEq

structure NotificationPage where
  items : List Notification
  page : PageMetadata
  unreadCount : ℕ
  deriving DecidableEq

/-- The alerts beside the account's reads, as a request sees them. -/
def joinedReads (alerts : List AlertLog) (reads : List NotificationRead) (username : String) :
    List (AlertLog × Option NotificationRead) :=
  outerJoin (fun log row => row.alertId = log.id && row.username = username) alerts reads

/-- The number of alerts and the number of unread ones. -/
def counts (rows : List (AlertLog × Option NotificationRead)) : ℕ × ℕ :=
  (rows.length, rows.countP fun row => row.2.isNone)

def pageMetadata (page pageSize totalItems : ℕ) : PageMetadata where
  page := page
  pageSize := pageSize
  totalItems := totalItems
  totalPages := if 0 < totalItems then totalPages totalItems pageSize else 0

/-- The rows of a listing, the latest first. -/
def ordered (unreadOnly : Bool) (rows : List (AlertLog × Option NotificationRead)) :
    List (AlertLog × Option NotificationRead) :=
  sortedBy (fun row => toLex (-row.1.triggeredAt, -(row.1.id : ℤ)))
    (rows.filter fun row => !unreadOnly || row.2.isNone)

/-! ## Requests in steps -/

inductive Answer
  | item (item : Notification)
  | notFound
  | marked (count : ℕ)
  | page (page : NotificationPage)
  | stored
  | raised (status : ℕ) (detail : String)
  /-- Any other exception. -/
  | failed
  deriving DecidableEq

def unavailable : Answer := .raised 503 "Notification storage unavailable"

/-- A request; `alert` is another part of the program, which stores an alert. -/
inductive Call
  | update (username notificationId : String) (read : Bool)
  | markAll (username : String)
  | list (username : String) (unreadOnly : Bool) (page pageSize : ℕ)
  | alert (log : AlertLog)

/-- Where a request stands, before its next statement. -/
inductive Stage
  | get (username : String) (id : ℕ) (read : Bool)
  | insert (username : String) (log : AlertLog)
  | readBack (username : String) (log : AlertLog)
  | commit (item : Notification)
  | markAll (username : String)
  | commitAll (count : ℕ)
  | counts (username : String) (unreadOnly : Bool) (page pageSize : ℕ)
  | rows (username : String) (unreadOnly : Bool) (pageMeta : PageMetadata) (unreadCount : ℕ)
  | alert (log : AlertLog)
  | finished (answer : Answer)

def Call.stage : Call → Stage
  | update username text read =>
    match parseNotificationId text with
    | none => .finished .notFound
    | some id => .get username id read
  | markAll username => .markAll username
  | list username unreadOnly page pageSize => .counts username unreadOnly page pageSize
  | alert log => .alert log

/-- What a statement has done to the tables. -/
inductive Effect
  | none
  | inserted (rows : List NotificationRead)
  | committed (rows : List NotificationRead)
  | alerted (log : AlertLog)

/-- What comes back from the database; `lost` is the failure of a commit that has taken effect. -/
inductive Reply
  | ok (now : ℤ)
  | error
  | lost

section

variable {ι : Type} [DecidableEq ι]

namespace Tables

variable (tables : Tables ι) (i : ι)

def findAlert (id : ℕ) : Option AlertLog := tables.alerts.find? fun log => log.id = id

def findRead (username : String) (id : ℕ) : Option NotificationRead :=
  (tables.reads.view i).find? fun row => row.username = username && row.alertId = id

/-- The rows of the statement that marks all alerts. -/
def unread (username : String) (now : ℤ) : List NotificationRead :=
  (tables.alerts.filter fun log => (tables.findRead i username log.id).isNone).map fun log =>
    ⟨username, log.id, now⟩

def joined (username : String) : List (AlertLog × Option NotificationRead) :=
  joinedReads tables.alerts (tables.reads.view i) username

def withReads (reads : Uncommitted ι NotificationRead.key) : Tables ι :=
  { tables with reads := reads }

/-- One more alert, unless one has its identifier. -/
def addAlert (log : AlertLog) : Option (Tables ι) :=
  if h : log.id ∉ tables.alerts.map AlertLog.id then
    some { tables with
      alerts := log :: tables.alerts
      alertIds := List.nodup_cons.2 ⟨h, tables.alertIds⟩ }
  else none

end Tables

/-- The page of the counted rows, or the query for its items. -/
def afterCounts (username : String) (unreadOnly : Bool) (page pageSize total unread : ℕ) : Stage :=
  let pageMeta := pageMetadata page pageSize (if unreadOnly then unread else total)
  if pageMeta.totalItems ≤ (page - 1) * pageSize then .finished (.page ⟨[], pageMeta, unread⟩)
  else .rows username unreadOnly pageMeta unread

/-- The page with its items. -/
def pageAnswer (pageMeta : PageMetadata) (unreadCount : ℕ)
    (rows : List (AlertLog × Option NotificationRead)) : Answer :=
  match ((rows.drop ((pageMeta.page - 1) * pageMeta.pageSize)).take pageMeta.pageSize).mapM
      fun row => notification row.1 (row.2.map NotificationRead.readAt) with
  | some items => .page ⟨items, pageMeta, unreadCount⟩
  | none => .failed

/-- A statement that is answered. It sees the tables as they are when it is carried out: a marking
of all that has waited for another request sees them as they are after the wait, not as they were
when it began to wait. -/
def statement (i : ι) (tables : Tables ι) (now : ℤ) : Stage → Option (Tables ι × Stage × Effect)
  | .get username id read =>
    match tables.findAlert id with
    | none => some (tables, .finished .notFound, .none)
    | some log =>
      some (tables, if read then .insert username log else .readBack username log, .none)
  | .insert username log =>
    (tables.reads.insert i [⟨username, log.id, now⟩]).map fun reads =>
      (tables.withReads reads, .readBack username log,
        .inserted (tables.reads.fresh i [⟨username, log.id, now⟩]))
  | .readBack username log =>
    match notification log ((tables.findRead i username log.id).map NotificationRead.readAt) with
    | some item => some (tables, .commit item, .none)
    | none => some (tables.withReads (tables.reads.rollback i), .finished .failed, .none)
  | .commit item =>
    some (tables.withReads (tables.reads.commit i), .finished (.item item),
      .committed (tables.reads.mine i))
  | .markAll username =>
    (tables.reads.insert i (tables.unread i username now)).map fun reads =>
      (tables.withReads reads,
        .commitAll (tables.reads.fresh i (tables.unread i username now)).length,
        .inserted (tables.reads.fresh i (tables.unread i username now)))
  | .commitAll count =>
    some (tables.withReads (tables.reads.commit i), .finished (.marked count),
      .committed (tables.reads.mine i))
  | .counts username unreadOnly page pageSize =>
    some (tables, afterCounts username unreadOnly page pageSize
      (counts (tables.joined i username)).1 (counts (tables.joined i username)).2, .none)
  | .rows username unreadOnly pageMeta unreadCount =>
    some (tables, .finished (pageAnswer pageMeta unreadCount
      (ordered unreadOnly (tables.joined i username))), .none)
  | .alert log =>
    (tables.addAlert log).map fun tables => (tables, .finished .stored, .alerted log)
  | .finished _ => none

/-- A statement that fails: the request is rolled back. -/
def failure (i : ι) (tables : Tables ι) : Stage → Option (Tables ι × Stage × Effect)
  | .finished _ => none
  | .alert _ => some (tables, .finished .failed, .none)
  | _ => some (tables.withReads (tables.reads.rollback i), .finished unavailable, .none)

/-- A commit that takes effect and fails. -/
def lostCommit (i : ι) (tables : Tables ι) : Stage → Option (Tables ι × Stage × Effect)
  | .commit _ => some (tables.withReads (tables.reads.commit i), .finished unavailable,
      .committed (tables.reads.mine i))
  | .commitAll _ => some (tables.withReads (tables.reads.commit i), .finished unavailable,
      .committed (tables.reads.mine i))
  | _ => none

/-- One statement of a request. -/
def act (i : ι) (tables : Tables ι) (stage : Stage) : Reply → Option (Tables ι × Stage × Effect)
  | .ok now => statement i tables now stage
  | .error => failure i tables stage
  | .lost => lostCommit i tables stage

/-- Any number of requests, whose statements interleave. -/
def step : Shared ι (Tables ι) Stage → ι × Reply → Option (Shared ι (Tables ι) Stage × Effect) :=
  interleave act

end

end ScrapMonitoring.Notifications
