import Mathlib.Data.List.Nodup
import ScrapMonitoring.Foundations.Interleaving

/-!
# The recipients of notifications

`create_recipient` and `update_recipient` of `services/admin_service.py`, statement by statement:
any number of requests share the table, and between two statements of one the others go on. A save
changes a row and its version in one statement, under the condition that the version is the one that
the request has read; the database refuses a second row with an identifier or an e-mail.

`Recipient.view` is what a response shows of a row; it reads the lists back that the row stores as
texts.
-/

namespace ScrapMonitoring.Administration

/-! ## Rows -/

inductive NotificationChannel
  | email
  | sms
  deriving DecidableEq

def NotificationChannel.name : NotificationChannel → String
  | email => "email"
  | sms => "sms"

inductive ConfigurableAlertEventType
  | collectionRequired
  | measurementError
  | deviceError
  deriving DecidableEq

def ConfigurableAlertEventType.name : ConfigurableAlertEventType → String
  | collectionRequired => "collection_required"
  | measurementError => "measurement_error"
  | deviceError => "device_error"

inductive SubscriptionMode
  | global
  | custom
  deriving DecidableEq

/-- `",".join(names)`. -/
def joined (names : List String) : List Char := [','].intercalate (names.map String.toList)

/-- `[name for name in text.split(",") if name]`. -/
def parts (text : List Char) : List (List Char) := (text.splitOn ',').filter (· ≠ [])

/-- A row; `channels` and `eventTypes` are the stored texts. -/
structure Recipient where
  id : String
  version : ℕ
  name : String
  team : String
  email : String
  phone : Option String
  enabled : Bool
  channels : List Char
  subscriptionMode : SubscriptionMode
  eventTypes : List Char
  deriving DecidableEq

/-- The table with its primary key and its unique column. -/
structure Recipients where
  rows : List Recipient
  ids : (rows.map Recipient.id).Nodup
  emails : (rows.map Recipient.email).Nodup

/-- The version as it stands in a response and in `If-Match`. -/
def etag (version : ℕ) : String := "\"" ++ toString version ++ "\""

structure NotificationRecipient where
  id : String
  version : String
  name : String
  team : String
  email : String
  phone : Option String
  enabled : Bool
  channels : List NotificationChannel
  subscriptionMode : SubscriptionMode
  eventTypes : List ConfigurableAlertEventType
  deriving DecidableEq

def channel? (text : List Char) : Option NotificationChannel :=
  [NotificationChannel.email, .sms].find? fun channel => channel.name.toList = text

def eventType? (text : List Char) : Option ConfigurableAlertEventType :=
  [ConfigurableAlertEventType.collectionRequired, .measurementError, .deviceError].find? fun type =>
    type.name.toList = text

/-- The row in a response, if its texts are names. -/
def Recipient.view (row : Recipient) : Option NotificationRecipient := do
  let channels ← (parts row.channels).mapM channel?
  let eventTypes ← (parts row.eventTypes).mapM eventType?
  return { row with version := etag row.version, channels := channels, eventTypes := eventTypes }

/-! ## Requests -/

structure RecipientCreate where
  name : String
  team : String
  email : String
  phone : Option String
  enabled : Bool
  channels : List NotificationChannel
  subscriptionMode : SubscriptionMode
  eventTypes : List ConfigurableAlertEventType

/-- The fields of a patch; of the phone it is known whether it is set. -/
structure RecipientPatch where
  name : Option String
  team : Option String
  email : Option String
  phone : Option (Option String)
  enabled : Option Bool
  channels : Option (List NotificationChannel)
  subscriptionMode : Option SubscriptionMode
  eventTypes : Option (List ConfigurableAlertEventType)

/-- The row that a request creates. -/
def RecipientCreate.row (payload : RecipientCreate) (id : String) : Recipient where
  id := id
  version := 1
  name := payload.name
  team := payload.team
  email := payload.email
  phone := payload.phone
  enabled := payload.enabled
  channels := joined (payload.channels.map NotificationChannel.name)
  subscriptionMode := payload.subscriptionMode
  eventTypes := joined (payload.eventTypes.map ConfigurableAlertEventType.name)

/-- The e-mail that a patch changes a row to. -/
def RecipientPatch.newEmail (patch : RecipientPatch) (row : Recipient) : Option String :=
  patch.email.filter fun email => email ≠ "" ∧ email ≠ row.email

/-- The row with the `changes` to the row that was read. -/
def RecipientPatch.apply (patch : RecipientPatch) (read row : Recipient) : Recipient where
  id := row.id
  version := read.version + 1
  name := patch.name.getD row.name
  team := patch.team.getD row.team
  email := (patch.newEmail read).getD row.email
  phone := patch.phone.getD row.phone
  enabled := patch.enabled.getD row.enabled
  channels := (patch.channels.map fun channels =>
    joined (channels.map NotificationChannel.name)).getD row.channels
  subscriptionMode := patch.subscriptionMode.getD row.subscriptionMode
  eventTypes := (patch.eventTypes.map fun types =>
    joined (types.map ConfigurableAlertEventType.name)).getD row.eventTypes

/-! ## Statements -/

namespace Recipients

def find (store : Recipients) (id : String) : Option Recipient :=
  store.rows.find? fun row => row.id = id

/-- A row has the e-mail. -/
def taken (store : Recipients) (email : String) : Bool :=
  store.rows.any fun row => row.email = email

/-- Another row has the e-mail. -/
def takenBy (store : Recipients) (email id : String) : Bool :=
  store.rows.any fun row => row.email = email ∧ row.id ≠ id

theorem ids_replaced (store : Recipients) (row : Recipient) :
    ((store.rows.map fun other => if other.id = row.id then row else other).map
      Recipient.id).Nodup := by
  have hids : (store.rows.map fun other => if other.id = row.id then row else other).map
      Recipient.id = store.rows.map Recipient.id := by
    rw [List.map_map]
    refine List.map_congr_left fun other _ => ?_
    dsimp only [Function.comp_apply]
    split_ifs with hid
    · exact hid.symm
    · rfl
  rw [hids]
  exact store.ids

theorem emails_replaced (store : Recipients) (row : Recipient)
    (h : ∀ other ∈ store.rows, other.id ≠ row.id → other.email ≠ row.email) :
    ((store.rows.map fun other => if other.id = row.id then row else other).map
      Recipient.email).Nodup := by
  rw [List.map_map]
  refine List.Nodup.map_on (fun a ha b hb heq => ?_) (List.Nodup.of_map _ store.ids)
  dsimp only [Function.comp_apply] at heq
  split_ifs at heq with hida hidb hidb
  · exact List.inj_on_of_nodup_map store.ids ha hb (hida.trans hidb.symm)
  · exact absurd heq.symm (h b hb hidb)
  · exact absurd heq (h a ha hida)
  · exact List.inj_on_of_nodup_map store.emails ha hb heq

/-- The row in the place of the one with its identifier, unless another row has its e-mail. -/
def replace (store : Recipients) (row : Recipient) : Option Recipients :=
  if h : ∀ other ∈ store.rows, other.id ≠ row.id → other.email ≠ row.email then
    some ⟨store.rows.map fun other => if other.id = row.id then row else other,
      store.ids_replaced row, store.emails_replaced row h⟩
  else none

/-- One more row, unless one has its identifier or its e-mail. -/
def insert (store : Recipients) (row : Recipient) : Option Recipients :=
  if h : row.id ∉ store.rows.map Recipient.id ∧ row.email ∉ store.rows.map Recipient.email then
    some ⟨row :: store.rows, List.nodup_cons.2 ⟨h.1, store.ids⟩,
      List.nodup_cons.2 ⟨h.2, store.emails⟩⟩
  else none

end Recipients

/-! ## Requests in steps -/

inductive Answer
  | found (item : NotificationRecipient)
  | notFound
  | raised (status : ℕ) (detail : String)
  /-- Any other exception. -/
  | failed
  deriving DecidableEq

def changed : Answer := .raised 412 "Recipient changed; retrieve the current version first"

def alreadyExists (email : String) : Answer :=
  .raised 409 ("Recipient with email '" ++ email ++ "' already exists")

def inUse (email : String) : Answer :=
  .raised 409 ("Email '" ++ email ++ "' is already in use by another recipient")

inductive Call
  | update (id : String) (patch : RecipientPatch) (ifMatch : Option String)
  | create (payload : RecipientCreate)

/-- Where a request stands, before its next statement. -/
inductive Stage
  | update (id : String) (patch : RecipientPatch) (ifMatch : Option String)
  | checkEmail (patch : RecipientPatch) (read : Recipient) (email : String)
  | save (patch : RecipientPatch) (read : Recipient)
  | checkConflict (id email : String)
  | refresh (id : String)
  | create (payload : RecipientCreate)
  | insert (payload : RecipientCreate)
  | checkCreated (payload : RecipientCreate)
  | refreshCreated (payload : RecipientCreate) (id : String)
  | finished (answer : Answer)

def Call.stage : Call → Stage
  | update id patch ifMatch => .update id patch ifMatch
  | create payload => .create payload

/-- What a statement has done to the table. -/
inductive Effect
  | none
  | saved (before after : Recipient)
  | created (row : Recipient)

/-- What comes back from the database; `drawn` is the new identifier of an insertion. -/
inductive Reply
  | rows (drawn : String)
  | error

def viewed (row : Option Recipient) : Stage :=
  .finished (((row.bind Recipient.view).map Answer.found).getD .failed)

/-- The response to a creation shows the lists that were sent. -/
def viewedCreated (payload : RecipientCreate) : Option Recipient → Stage
  | none => .finished .failed
  | some row => .finished (.found
      { row with
        version := etag row.version
        channels := payload.channels
        subscriptionMode := payload.subscriptionMode
        eventTypes := payload.eventTypes })

/-- The first statement of an update, and the checks on what it reads. -/
def startUpdate (store : Recipients) (id : String) (patch : RecipientPatch)
    (ifMatch : Option String) : Stage :=
  match store.find id with
  | none => .finished .notFound
  | some read =>
    if ifMatch.any (· ≠ etag read.version) then .finished changed
    else
      match patch.newEmail read with
      | some email => .checkEmail patch read email
      | none => .save patch read

/-- The statement that saves, and its commit. -/
def saveUpdate (store : Recipients) (patch : RecipientPatch) (read : Recipient) :
    Recipients × Stage × Effect :=
  match store.rows.find? fun row => row.id = read.id ∧ row.version = read.version with
  | none => (store, .finished changed, .none)
  | some row =>
    match store.replace (patch.apply read row) with
    | some store => (store, .refresh read.id, .saved row (patch.apply read row))
    | none =>
      match patch.newEmail read with
      | some email => (store, .checkConflict read.id email, .none)
      | none => (store, .finished .failed, .none)

/-- One statement of a request. -/
def act (store : Recipients) (stage : Stage) : Reply → Option (Recipients × Stage × Effect)
  | .error =>
    match stage with
    | .finished _ => none
    | _ => some (store, .finished .failed, .none)
  | .rows drawn =>
    match stage with
    | .update id patch ifMatch => some (store, startUpdate store id patch ifMatch, .none)
    | .checkEmail patch read email =>
      some (store, if store.taken email then .finished (inUse email) else .save patch read, .none)
    | .save patch read => some (saveUpdate store patch read)
    | .checkConflict id email =>
      some (store, .finished (if store.takenBy email id then inUse email else .failed), .none)
    | .refresh id => some (store, viewed (store.find id), .none)
    | .create payload =>
      some (store, if store.taken payload.email then .finished (alreadyExists payload.email)
        else .insert payload, .none)
    | .insert payload =>
      match store.insert (payload.row drawn) with
      | some store => some (store, .refreshCreated payload drawn, .created (payload.row drawn))
      | none => some (store, .checkCreated payload, .none)
    | .checkCreated payload =>
      some (store, .finished (if store.taken payload.email then alreadyExists payload.email
        else .failed), .none)
    | .refreshCreated payload id => some (store, viewedCreated payload (store.find id), .none)
    | .finished _ => none

/-- Any number of requests, whose statements interleave. -/
def step {ι : Type*} [DecidableEq ι] :
    Shared ι Recipients Stage → ι × Reply → Option (Shared ι Recipients Stage × Effect) :=
  interleave fun _ => act

end ScrapMonitoring.Administration
