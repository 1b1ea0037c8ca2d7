import Mathlib.Data.List.MinMax
import ScrapMonitoring.Operations.Store

/-!
# The lifecycle of an alert

What is reported of an alert is read off the transitions: it is resolved if its episode has been
resolved after it, and active if its episode is the one that the tracker of the pit's source holds
while the pit is shown as critical. Of every other alert nothing is known.
-/

namespace ScrapMonitoring.Operations

open Monitoring

variable {H : Type*}

/-- `AlertLifecycle`; the times are those of `resolvedAt` and `resolutionObservedAt`. -/
inductive AlertLifecycle
  | active
  | resolved (resolvedAt resolutionObservedAt : ℤ)
  | unknown
  deriving DecidableEq

/-- What transitions of one episode have in common. -/
structure EpisodeKey where
  siteId : String
  edgeId : String
  episodeId : String
  scopeToken : String
  deriving DecidableEq

/-- A transition of an episode, with the time of the observation that it is due to. -/
structure EpisodeEvent where
  key : EpisodeKey
  occurredAt : ℤ
  observedAt : ℤ
  deriving DecidableEq

/-- The transition of an alert of the pit. -/
def EdgeV2Transition.created (row : EdgeV2Transition) (pit : String) (id : ℕ) :
    Option EpisodeEvent :=
  match row.payload with
  | .alertCreated pit' id' episode scope observed _ =>
    if pit' = pit ∧ id' = id then
      some ⟨⟨row.siteId, row.edgeId, episode, scope⟩, row.occurredAt, observed⟩
    else none
  | _ => none

/-- The transition of a resolved episode of the pit. -/
def EdgeV2Transition.resolved (row : EdgeV2Transition) (pit : String) : Option EpisodeEvent :=
  match row.payload with
  | .alertResolved pit' episode scope observed =>
    if pit' = pit then
      some ⟨⟨row.siteId, row.edgeId, episode, scope⟩, row.occurredAt, observed⟩
    else none
  | _ => none

/-- The alert has a link, to the device of the episode. -/
def Store.linked (s : Store) (pit : String) (id : ℕ) (key : EpisodeKey) : Bool :=
  s.links.any fun link =>
    link.alertId = id ∧ link.pitId = pit ∧ link.siteId = key.siteId ∧ link.edgeId = key.edgeId

/-- The first of the events up to now that are to be kept. -/
def firstEvent (now : ℤ) (keep : EpisodeEvent → Bool) (events : List EpisodeEvent) :
    Option EpisodeEvent :=
  (events.filter fun event => event.occurredAt ≤ now ∧ keep event).argmin EpisodeEvent.occurredAt

/-- The first transition of the alert. -/
def Store.createdOf (s : Store) (pit : String) (now : ℤ) (id : ℕ) : Option EpisodeEvent :=
  firstEvent now (fun event => s.linked pit id event.key)
    (s.transitions.filterMap fun row => row.created pit id)

/-- The first resolution of the episode. -/
def Store.resolvedOf (s : Store) (pit : String) (now : ℤ) (key : EpisodeKey) :
    Option EpisodeEvent :=
  firstEvent now (fun event => event.key = key)
    (s.transitions.filterMap fun row => row.resolved pit)

/-- `current_episode`: the episode of the pit that goes on. Nothing is returned if the snapshot
cannot be built. -/
def currentEpisode (hash : Json → String) (reader : Reader) (settings : Settings) (db : Database H)
    (s : Store) (pit : String) (now : ℤ) : Option (Option EpisodeKey) :=
  match settings.monitoringSources.find? fun source => source.pitId = pit with
  | none => some none
  | some source =>
    if settings.operationsEnabled = false then some none
    else
      (buildSnapshot reader settings { db with operation := s.operation } source now).map
        fun snapshot =>
          if snapshot.dataState ≠ .fresh ∨
              snapshot.operations.map OperationStatus.effectiveState ≠
                some (.operational .critical) then none
          else
            match s.tracker source.device with
            | none => none
            | some row =>
              row.episodeId.bind fun episode =>
                if row.pitId = pit ∧ row.inputValid ∧ 0 ≤ now - row.observedAt ∧
                    now - row.observedAt < settings.ttl ∧
                    row.scopeToken = lifecycleScope hash snapshot then
                  some ⟨source.siteId, source.edgeId, episode, row.scopeToken⟩
                else none

/-- What is reported of an alert, given the episode that goes on. -/
def Store.lifecycle (s : Store) (pit : String) (now : ℤ) (active : Option EpisodeKey) (id : ℕ) :
    AlertLifecycle :=
  match s.createdOf pit now id with
  | none => .unknown
  | some created =>
    match s.resolvedOf pit now created.key with
    | some ended =>
      if created.observedAt < ended.observedAt ∧ ended.observedAt ≤ ended.occurredAt ∧
          created.occurredAt ≤ ended.occurredAt then
        .resolved ended.occurredAt ended.observedAt
      else .unknown
    | none => if some created.key = active then .active else .unknown

/-- `alert_lifecycles`. -/
def alertLifecycles (hash : Json → String) (reader : Reader) (settings : Settings) (db : Database H)
    (s : Store) (pit : String) (ids : List ℕ) (now : ℤ) : Option (List (ℕ × AlertLifecycle)) :=
  if (ids.filterMap (s.createdOf pit now)).isEmpty then
    some (ids.map fun id => (id, .unknown))
  else
    (currentEpisode hash reader settings db s pit now).map fun active =>
      ids.map fun id => (id, s.lifecycle pit now active id)

end ScrapMonitoring.Operations
