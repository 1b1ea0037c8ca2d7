import ScrapMonitoring.PitSettings.Calls

/-!
# What the two writers commit

`Replaces` and `Configures` say what the commit of a call does to the pit and to its policy, and
`Logged` what it adds to the history. `Knows` is what a call knows in each place where it can stand,
whatever the other calls do: from its first change on it is the only writer, so that what it
compared its reads with is still there when it commits. `act_effect` is what one statement does;
only the commit changes the committed rows.
-/

namespace ScrapMonitoring.PitSettings

open Monitoring (PitConfig Settings)

variable {ι : Type*}

/-! ## Commits -/

/-- The settings are replaced: their ETag was that of the rows. -/
def Replaces (texts : Texts) (pitId : String) (payload : AlertSettingsUpdate) (ifMatch : String)
    (pre post : Rows) : Prop :=
  ∃ pit policy now now', pre.selectPit pitId = some pit ∧ pre.policy = some policy ∧
    ifMatch = generateAlertEtag texts pit policy ∧
    post.pit = some (replacedPit pit payload now) ∧
    post.policy = some (policy.replaced payload now')

/-- A row with the given fields; the others, and the clock if no value is new, are as before. -/
structure Updated (payload : PitConfigUpdateRequest) (pit pit' : PitConfig) : Prop where
  id : pit'.id = pit.id
  name : pit'.name = payload.name.getD pit.name
  depth : pit'.totalDepthCm = payload.totalDepthCm.getD pit.totalDepthCm
  warning : pit'.warningThresholdPercent =
    payload.warningThresholdPercent.getD pit.warningThresholdPercent
  critical : pit'.criticalThresholdPercent =
    payload.criticalThresholdPercent.getD pit.criticalThresholdPercent
  clock : sameValues pit' pit → pit'.updatedAt = pit.updatedAt

/-- The pit is created, or it is updated. -/
def Configures (settings : Settings) (pitId : String) (payload : PitConfigUpdateRequest)
    (pre post : Rows) : Prop :=
  post.policy = pre.policy ∧
    (pre.pit = none ∧ (∃ now, post.pit = some (newPit settings pitId payload now)) ∨
      ∃ pit pit', pre.selectPit pitId = some pit ∧ post.pit = some pit' ∧ Updated payload pit pit')

/-- What a call does to the pit and to its policy. -/
def Changes (texts : Texts) (settings : Settings) (pitId : String) (call : Call) (pre post : Rows) :
    Prop :=
  match call.request with
  | .replaceSettings payload ifMatch => Replaces texts pitId payload ifMatch pre post
  | .updatePitConfig payload => Configures settings pitId payload pre post

/-- The values of the rows that the history keeps. -/
def Rows.values (rows : Rows) : SettingsResource → Option Fields
  | .alertSettings => rows.pit.bind fun pit => rows.policy.map (alertValues pit)
  | .pitConfig => rows.pit.map pitValues

/-- The change is that from the one rows to the other. -/
def Change.Describes (change : Change) (pre post : Rows) : Prop :=
  change.before = pre.values change.resource ∧ some change.after = post.values change.resource

/-- The history is as it was, or it has one entry more, of this change of the rows. -/
def Logged (pre post : Rows) : Prop :=
  post.history = pre.history ∨
    ∃ entry : SettingsHistory, post.history = pre.history ++ [entry] ∧
      entry.change.Describes pre post

/-! ## What commits keep -/

/-- The pit is still there, and the policy is the same or has the next version. -/
structure Advances (pitId : String) (pre post : Rows) : Prop where
  pit : ∀ pit, pre.selectPit pitId = some pit → ∃ pit', post.selectPit pitId = some pit'
  policy : post.policy = pre.policy ∨ ∃ policy policy', pre.policy = some policy ∧
    post.policy = some policy' ∧ policy'.versionId = policy.versionId + 1

theorem Advances.refl (pitId : String) (rows : Rows) : Advances pitId rows rows :=
  ⟨fun pit h => ⟨pit, h⟩, .inl rfl⟩

theorem Rows.selectPit_eq_some {rows : Rows} {pitId : String} {pit : PitConfig} :
    rows.selectPit pitId = some pit ↔ rows.pit = some pit ∧ pit.id = pitId := by
  simp [Rows.selectPit, Option.filter_eq_some_iff]

/-- There is a pit when it has been configured. -/
theorem Configures.selectPit {settings : Settings} {pitId : String}
    {payload : PitConfigUpdateRequest}
    {pre post : Rows} (h : Configures settings pitId payload pre post) :
    ∃ pit, post.selectPit pitId = some pit := by
  obtain ⟨-, ⟨-, now, hpit'⟩ | ⟨pit, pit', hpit, hpit', hupdated⟩⟩ := h
  · exact ⟨_, Rows.selectPit_eq_some.2 ⟨hpit', rfl⟩⟩
  · have hid := (Rows.selectPit_eq_some.1 hpit).2
    exact ⟨pit', Rows.selectPit_eq_some.2 ⟨hpit', hupdated.id.trans hid⟩⟩

theorem Changes.advances {texts : Texts} {settings : Settings} {pitId : String} {call : Call}
    {pre post : Rows} (h : Changes texts settings pitId call pre post) :
    Advances pitId pre post := by
  unfold Changes at h
  split at h
  · obtain ⟨pit, policy, now, now', hpit, hpolicy, -, hpit', hpolicy'⟩ := h
    refine ⟨fun _ _ => ?_, .inr ⟨policy, _, hpolicy, hpolicy', rfl⟩⟩
    exact ⟨_, Rows.selectPit_eq_some.2 ⟨hpit', (Rows.selectPit_eq_some.1 hpit).2⟩⟩
  · exact ⟨fun _ _ => Configures.selectPit h, .inl h.1⟩

/-- The policy as it was read: the policy has a later version, or it is still this one. -/
def AlertPolicy.Seen (policy : AlertPolicy) (rows : Rows) : Prop :=
  ∃ current, rows.policy = some current ∧ policy.versionId ≤ current.versionId ∧
    (current.versionId = policy.versionId → current = policy)

theorem AlertPolicy.Seen.advances {policy : AlertPolicy} {pre post : Rows} (h : policy.Seen pre)
    {pitId : String} (hadvances : Advances pitId pre post) : policy.Seen post := by
  obtain ⟨current, hcurrent, hle, hsame⟩ := h
  rcases hadvances.policy with heq | ⟨policy', next, hpolicy', hnext, hversion⟩
  · exact ⟨current, heq.trans hcurrent, hle, hsame⟩
  · obtain rfl := Option.some.inj (hcurrent.symm.trans hpolicy')
    refine ⟨next, hnext, by omega, fun hnew => ?_⟩
    omega

/-! ## What a call knows -/

/-- What a call of `replace_settings` knows. -/
def Replacing.Knows (texts : Texts) (pitId : String) (payload : AlertSettingsUpdate)
    (ifMatch : String) (i : ι) (db : WriteLock ι Rows) : Replacing → Prop
  | .lockingPit => db.Idle i
  | .lockingPolicy pit => db.Idle i ∧ pit.id = pitId
  | .updatingPolicy pit policy before => db.Idle i ∧ policy.Seen db.committed ∧ pit.id = pitId ∧
      ifMatch = generateAlertEtag texts pit policy ∧ before = alertValues pit policy
  | .updatingPit pit policy before policyChanged => policyChanged → pit.id = pitId ∧
      ifMatch = generateAlertEtag texts pit policy ∧ before = alertValues pit policy ∧
      db.Pending i fun pre post => pre.policy = some policy ∧
        ∃ now, post = { pre with policy := some (policy.replaced payload now) }
  | .refreshingPit before => db.Pending i fun pre post =>
      Replaces texts pitId payload ifMatch pre post ∧ post.history = pre.history ∧
        pre.values .alertSettings = some before
  | .refreshingPolicy before pit => db.Pending i fun pre post =>
      Replaces texts pitId payload ifMatch pre post ∧ post.history = pre.history ∧
        pre.values .alertSettings = some before ∧ post.pit = some pit
  | .recording change _ => db.Pending i fun pre post =>
      Replaces texts pitId payload ifMatch pre post ∧ post.history = pre.history ∧
        change.Describes pre post
  | .committing _ => db.Pending i fun pre post =>
      Replaces texts pitId payload ifMatch pre post ∧ Logged pre post

/-- What a call of `update_pit_config` knows. -/
def Configuring.Knows (settings : Settings) (pitId : String) (payload : PitConfigUpdateRequest)
    (i : ι) (db : WriteLock ι Rows) : Configuring → Prop
  | .selecting | .updating _ => db.Idle i
  | .inserting pit => db.Idle i ∧ ∃ now, pit = newPit settings pitId payload now
  | .refreshing before => db.Pending i fun pre post =>
      Configures settings pitId payload pre post ∧ post.history = pre.history ∧
        pre.values .pitConfig = some before
  | .recording change => db.Pending i fun pre post =>
      Configures settings pitId payload pre post ∧ post.history = pre.history ∧
        change.Describes pre post
  | .committing => db.Pending i fun pre post =>
      Configures settings pitId payload pre post ∧ Logged pre post
  | .reloading => db.Idle i ∧ ∃ pit, db.committed.selectPit pitId = some pit

/-- What a call knows. -/
def Knows (texts : Texts) (settings : Settings) (pitId : String) (calls : ι → Call) (i : ι)
    (db : WriteLock ι Rows) (progress : Progress) : Prop :=
  match (calls i).request, progress with
  | .replaceSettings payload ifMatch, .replacing progress =>
    progress.Knows texts pitId payload ifMatch i db
  | .updatePitConfig payload, .configuring progress =>
    progress.Knows settings pitId payload i db
  | _, _ => True

/-- What the other calls may do, as a call sees it. -/
structure Rely (pitId : String) (i : ι) (db db' : WriteLock ι Rows) : Prop where
  others : WriteLock.Others i db db'
  advances : Advances pitId db.committed db'.committed

variable {texts : Texts} {settings : Settings} {pitId : String} {calls : ι → Call} {i : ι}
variable {db db' : WriteLock ι Rows}

theorem Replacing.Knows.stable {payload : AlertSettingsUpdate} {ifMatch : String}
    {progress : Replacing} (h : progress.Knows texts pitId payload ifMatch i db)
    (hrely : Rely pitId i db db') :
    progress.Knows texts pitId payload ifMatch i db' := by
  cases progress with
  | lockingPit => exact hrely.others.idle h
  | lockingPolicy => exact ⟨hrely.others.idle h.1, h.2⟩
  | updatingPolicy =>
    obtain ⟨hidle, hseen, hmatch⟩ := h
    exact ⟨hrely.others.idle hidle, hseen.advances hrely.advances, hmatch⟩
  | updatingPit =>
    intro hchanged
    obtain ⟨hid, hmatch, hbefore, hpending⟩ := h hchanged
    exact ⟨hid, hmatch, hbefore, hpending.others hrely.others⟩
  | refreshingPit | refreshingPolicy | recording | committing =>
    unfold Replacing.Knows at h ⊢
    exact h.others hrely.others

theorem Configuring.Knows.stable {payload : PitConfigUpdateRequest} {progress : Configuring}
    (h : progress.Knows settings pitId payload i db) (hrely : Rely pitId i db db') :
    progress.Knows settings pitId payload i db' := by
  cases progress with
  | selecting | updating => exact hrely.others.idle h
  | inserting => exact ⟨hrely.others.idle h.1, h.2⟩
  | refreshing | recording | committing =>
    unfold Configuring.Knows at h ⊢
    exact h.others hrely.others
  | reloading =>
    obtain ⟨hidle, pit, hpit⟩ := h
    exact ⟨hrely.others.idle hidle, hrely.advances.pit pit hpit⟩

theorem knows_replacing {payload : AlertSettingsUpdate} {ifMatch : String} {progress : Replacing}
    (hrequest : (calls i).request = .replaceSettings payload ifMatch) :
    Knows texts settings pitId calls i db (.replacing progress) ↔
      progress.Knows texts pitId payload ifMatch i db := by
  simp only [Knows, hrequest]

theorem knows_configuring {payload : PitConfigUpdateRequest} {progress : Configuring}
    (hrequest : (calls i).request = .updatePitConfig payload) :
    Knows texts settings pitId calls i db (.configuring progress) ↔
      progress.Knows settings pitId payload i db := by
  simp only [Knows, hrequest]

@[simp] theorem knows_done {outcome : Outcome} :
    Knows texts settings pitId calls i db (.done outcome) := by
  unfold Knows
  split <;> trivial

/-- What a call knows stays true whatever the others do. -/
theorem Knows.stable {progress : Progress} (h : Knows texts settings pitId calls i db progress)
    (hrely : Rely pitId i db db') : Knows texts settings pitId calls i db' progress := by
  cases hrequest : (calls i).request with
  | replaceSettings payload ifMatch =>
    cases progress with
    | replacing progress =>
      rw [knows_replacing hrequest] at h ⊢
      exact h.stable hrely
    | configuring progress => simp only [Knows, hrequest]
    | done outcome => exact knows_done
  | updatePitConfig payload =>
    cases progress with
    | replacing progress => simp only [Knows, hrequest]
    | configuring progress =>
      rw [knows_configuring hrequest] at h ⊢
      exact h.stable hrely
    | done outcome => exact knows_done

/-! ## What a statement does -/

/-- The call has failed. -/
def Outcome.failed : Outcome → Bool
  | .raised _ _ | .crashed => true
  | .settings _ | .config _ => false

/-- The call has committed. -/
def Progress.hasCommitted : Progress → Bool
  | .configuring .reloading => true
  | .done outcome => !outcome.failed
  | _ => false

/-- From where to where the commit of a call takes it. -/
def Commits : Request → Progress → Progress → Prop
  | .replaceSettings _ _, progress, progress' => ∃ result,
      progress = .replacing (.committing result) ∧ progress' = .done (.settings result)
  | .updatePitConfig _, progress, progress' =>
      progress = .configuring .committing ∧ progress' = .configuring .reloading

/-- The refresh after the commit does not fail. -/
def Reloads (progress : Progress) (reply : Reply) : Prop :=
  progress = .configuring .reloading → reply.answer ≠ .failure

variable [DecidableEq ι]

/-- What a statement does: it commits the changes of its call, or it changes nothing that the others
see. -/
structure Effect (texts : Texts) (settings : Settings) (pitId : String) (calls : ι → Call) (i : ι)
    (db : WriteLock ι Rows) (progress : Progress) (reply : Reply) (db' : WriteLock ι Rows)
    (progress' : Progress) (out : Option Outcome) : Prop where
  move : WriteLock.Move i db db'
  knows : Knows texts settings pitId calls i db' progress'
  outcome : ∀ o, out = some o ↔ progress' = .done o
  notDone : ∀ o, progress ≠ .done o
  commits : (db'.committed = db.committed ∧
      (Reloads progress reply → progress'.hasCommitted = progress.hasCommitted)) ∨
    Commits (calls i).request progress progress' ∧
      Changes texts settings pitId (calls i) db.committed db'.committed ∧
      Logged db.committed db'.committed

section

variable {Q : WriteLock ι Rows → Progress → Option Outcome → Prop} {next : Next ι} {reply : Reply}
variable {progress progress' : Progress} {outcome violated failed : Outcome} {rows : Rows}

omit [DecidableEq ι] in
@[simp] theorem leads_goOn : Leads (goOn db progress) Q ↔ Q db progress none := leads_some

@[simp] theorem leads_finish :
    Leads (finish i db outcome) Q ↔ Q (db.rollback i) (.done outcome) (some outcome) := leads_some

theorem leads_looked (hok : reply.answer = .ok → Leads next Q)
    (hfail : reply.answer = .failure → Leads (finish i db failed) Q) :
    Leads (looked i db reply failed next) Q := by
  unfold looked
  split
  · exact hok ‹_›
  · exact leads_none
  · exact hfail ‹_›

theorem leads_written (hok : db.free i → Leads next Q)
    (hfail : ∀ outcome, outcome.failed → Leads (finish i db outcome) Q)
    (hviolated : violated.failed) : Leads (written i db reply violated next) Q := by
  unfold written
  split
  · split_ifs with hfree
    · exact hok hfree
    · exact leads_none
  · exact hfail _ hviolated
  · exact hfail _ rfl

/-- The call goes on. -/
theorem Effect.goOn (hp : progress.hasCommitted = false) (hp' : progress'.hasCommitted = false)
    (hnot : ∀ o, progress ≠ .done o) (hnot' : ∀ o, progress' ≠ .done o)
    (hknows : Knows texts settings pitId calls i db progress') :
    Effect texts settings pitId calls i db progress reply db progress' none where
  move := .read
  knows := hknows
  outcome o := by simp [hnot' o]
  notDone := hnot
  commits := .inl ⟨rfl, fun _ => hp'.trans hp.symm⟩

/-- The call changes the rows and goes on. -/
theorem Effect.write (hp : progress.hasCommitted = false) (hp' : progress'.hasCommitted = false)
    (hnot : ∀ o, progress ≠ .done o) (hnot' : ∀ o, progress' ≠ .done o) (hfree : db.free i)
    (hknows : Knows texts settings pitId calls i (db.write i rows) progress') :
    Effect texts settings pitId calls i db progress reply (db.write i rows) progress' none where
  move := .write hfree rows
  knows := hknows
  outcome o := by simp [hnot' o]
  notDone := hnot
  commits := .inl ⟨rfl, fun _ => hp'.trans hp.symm⟩

/-- The call fails before it has committed. -/
theorem Effect.fail (hp : progress.hasCommitted = false) (hnot : ∀ o, progress ≠ .done o)
    (hfailed : outcome.failed) :
    Leads (finish i db outcome) (Effect texts settings pitId calls i db progress reply) := by
  refine leads_finish.2 ⟨.rollback, knows_done, fun o => ?_, hnot, .inl ⟨?_, fun _ => ?_⟩⟩
  · simp
  · exact WriteLock.rollback_committed
  · rw [hp, Progress.hasCommitted, hfailed]
    rfl

theorem leads_recordConfig {actor : User} {before : Option Fields} {pit : PitConfig}
    (hfail : Leads (finish i db accessDenied) Q) (hcommit : Q db (.configuring .committing) none)
    (hrecord : ∀ change : Change, change.resource = .pitConfig → change.before = before →
      change.after = pitValues pit → Q db (.configuring (.recording change)) none) :
    Leads (recordConfig pitId actor i db before pit) Q := by
  unfold recordConfig
  split
  · exact hfail
  · exact leads_goOn.2 hcommit
  · rename_i change h
    obtain ⟨hresource, hbefore, hafter⟩ := recordChange_spec h
    exact leads_goOn.2 (hrecord change hresource hbefore hafter)

end

theorem Rows.updatePit_eq_some {rows rows' : Rows} {condition : PitConfig → Bool}
    {values : PitConfig → PitConfig} : rows.updatePit pitId condition values = some rows' ↔
      ∃ pit, rows.pit = some pit ∧ pit.id = pitId ∧ condition pit ∧
        rows' = { rows with pit := some (values pit) } := by
  unfold Rows.updatePit
  simp only [Option.map_eq_some_iff, Option.filter_eq_some_iff, Rows.selectPit_eq_some, and_assoc,
    eq_comm (a := rows')]

theorem Rows.updatePolicy_eq_some {rows rows' : Rows} {condition : AlertPolicy → Bool}
    {values : AlertPolicy → AlertPolicy} : rows.updatePolicy condition values = some rows' ↔
      ∃ policy, rows.policy = some policy ∧ condition policy ∧
        rows' = { rows with policy := some (values policy) } := by
  unfold Rows.updatePolicy
  simp only [Option.map_eq_some_iff, Option.filter_eq_some_iff, and_assoc, eq_comm (a := rows')]

theorem finish_write {rows : Rows} {outcome : Outcome} (hfree : db.free i) :
    finish i (db.write i rows) outcome = finish i db outcome := by
  rw [finish, WriteLock.rollback_write hfree, finish]

theorem snapshot_spec {pit : PitConfig} {policy : AlertPolicy} {result : Fields × String}
    (h : snapshot texts pit policy = some result) : result.1 = alertValues pit policy := by
  unfold snapshot at h
  split_ifs at h
  obtain rfl := Option.some.inj h
  rfl

/-- The ETag is that of the columns which the update compares. -/
theorem etag_congr (texts : Texts) (policy : AlertPolicy) {pit pit' : PitConfig}
    (hid : pit'.id = pit.id) (hclock : pit'.updatedAt = pit.updatedAt)
    (hcritical : pit'.criticalThresholdPercent = pit.criticalThresholdPercent)
    (hwarning : pit'.warningThresholdPercent = pit.warningThresholdPercent) :
    generateAlertEtag texts pit' policy = generateAlertEtag texts pit policy := by
  simp only [generateAlertEtag, etagContent, hid, hclock, hcritical, hwarning]

theorem alertValues_congr (policy : AlertPolicy) {pit pit' : PitConfig}
    (hcritical : pit'.criticalThresholdPercent = pit.criticalThresholdPercent)
    (hwarning : pit'.warningThresholdPercent = pit.warningThresholdPercent) :
    alertValues pit' policy = alertValues pit policy := by
  simp only [alertValues, hcritical, hwarning]

variable {reply : Reply}

/-- What a statement of `replace_settings` does. -/
theorem replaceSettings_effect {payload : AlertSettingsUpdate} {ifMatch : String}
    {progress : Replacing} (hrequest : (calls i).request = .replaceSettings payload ifMatch)
    (h : progress.Knows texts pitId payload ifMatch i db) :
    Leads (replaceSettings texts pitId (calls i).actor payload ifMatch i db progress reply)
      (Effect texts settings pitId calls i db (.replacing progress) reply) := by
  have hfail : ∀ outcome : Outcome, outcome.failed → Leads (finish i db outcome)
      (Effect texts settings pitId calls i db (.replacing progress) reply) :=
    fun outcome => Effect.fail rfl (by simp)
  have hgoOn : ∀ progress' : Replacing, progress'.Knows texts pitId payload ifMatch i db →
      Leads (goOn db (.replacing progress'))
        (Effect texts settings pitId calls i db (.replacing progress) reply) :=
    fun progress' hknows => leads_goOn.2 <|
      .goOn rfl rfl (by simp) (by simp) ((knows_replacing hrequest).2 hknows)
  have hwrite : ∀ (rows : Rows) (progress' : Replacing), db.free i →
      progress'.Knows texts pitId payload ifMatch i (db.write i rows) →
      Leads (goOn (db.write i rows) (.replacing progress'))
        (Effect texts settings pitId calls i db (.replacing progress) reply) :=
    fun rows progress' hfree hknows => leads_goOn.2 <|
      .write rfl rfl (by simp) (by simp) hfree ((knows_replacing hrequest).2 hknows)
  cases progress with
  | lockingPit =>
    refine leads_looked (fun _ => ?_) fun _ => hfail _ rfl
    cases hpit : (db.view i).selectPit pitId with
    | none => exact hfail _ rfl
    | some pit => exact hgoOn _ ⟨h, (Rows.selectPit_eq_some.1 hpit).2⟩
  | lockingPolicy pit =>
    obtain ⟨hidle, hid⟩ := h
    refine leads_looked (fun _ => ?_) fun _ => hfail _ rfl
    cases hpolicy : (db.view i).policy with
    | none => exact hfail _ rfl
    | some policy =>
      dsimp only
      split_ifs with hmatch
      · exact hfail _ rfl
      · cases hsnapshot : snapshot texts pit policy with
        | none => exact hfail _ rfl
        | some result =>
          rw [hidle.view_eq] at hpolicy
          exact hgoOn _ ⟨hidle, ⟨policy, hpolicy, le_rfl, fun _ => rfl⟩, hid, not_not.1 hmatch,
            snapshot_spec hsnapshot⟩
  | updatingPolicy pit policy before =>
    refine leads_written (fun hfree => ?_) hfail rfl
    obtain ⟨hidle, hseen, hid, hmatch, hbefore⟩ := h
    rw [hidle.view_eq]
    cases hupdate : db.committed.updatePolicy (fun current => current.versionId = policy.versionId)
      (fun _ => policy.replaced payload reply.now) with
    | none => exact hgoOn _ (by simp [Replacing.Knows])
    | some rows =>
      obtain ⟨current, hcurrent, hversion, rfl⟩ := Rows.updatePolicy_eq_some.1 hupdate
      refine hwrite _ _ hfree fun _ => ⟨hid, hmatch, hbefore, WriteLock.pending_write ⟨?_, _, rfl⟩⟩
      obtain ⟨policy', hpolicy', -, hsame⟩ := hseen
      obtain rfl := Option.some.inj (hcurrent.symm.trans hpolicy')
      rw [hcurrent, hsame (of_decide_eq_true hversion)]
  | updatingPit pit policy before policyChanged =>
    refine leads_written (fun hfree => ?_) hfail rfl
    split
    · exact hfail _ rfl
    · rename_i rows hupdate
      cases policyChanged with
      | false =>
        rw [if_neg (by simp), finish_write hfree]
        exact hfail _ rfl
      | true =>
        rw [if_pos rfl]
        obtain ⟨hid, hmatch, hbefore, pending, hholds, hpolicy, now, rfl⟩ := h rfl
        rw [hholds.view_eq] at hupdate
        obtain ⟨current, hcurrent, hcurrentId, hsame, rfl⟩ := Rows.updatePit_eq_some.1 hupdate
        obtain ⟨hclock, hcritical, hwarning⟩ := of_decide_eq_true hsame
        have hetag := etag_congr texts policy (hcurrentId.trans hid.symm) hclock hcritical hwarning
        have hvalues := alertValues_congr policy hcritical hwarning
        refine hwrite _ _ hfree ?_
        unfold Replacing.Knows
        refine WriteLock.pending_write ⟨?_, rfl, ?_⟩
        · exact ⟨current, policy, reply.now, now, Rows.selectPit_eq_some.2 ⟨hcurrent, hcurrentId⟩,
            hpolicy, hmatch.trans hetag.symm, rfl, rfl⟩
        · rw [Rows.values, show db.committed.pit = some current from hcurrent, hpolicy, hbefore,
            ← hvalues]
          rfl
  | refreshingPit before =>
    unfold Replacing.Knows at h
    obtain ⟨rows, hholds, hreplaces, hhistory, hbefore⟩ := h
    refine leads_looked (fun _ => ?_) fun _ => hfail _ rfl
    rw [hholds.view_eq]
    cases hpit : rows.selectPit pitId with
    | none => exact hfail _ rfl
    | some pit =>
      exact hgoOn _ ⟨rows, hholds, hreplaces, hhistory, hbefore,
        (Rows.selectPit_eq_some.1 hpit).1⟩
  | refreshingPolicy before pit =>
    unfold Replacing.Knows at h
    obtain ⟨rows, hholds, hreplaces, hhistory, hbefore, hpit⟩ := h
    refine leads_looked (fun _ => ?_) fun _ => hfail _ rfl
    rw [hholds.view_eq]
    cases hpolicy : rows.policy with
    | none => exact hfail _ rfl
    | some policy =>
      dsimp only
      cases hsnapshot : snapshot texts pit policy with
      | none => exact hfail _ rfl
      | some result =>
        dsimp only
        split
        · exact hfail _ rfl
        · exact hgoOn _ ⟨rows, hholds, hreplaces, .inl hhistory⟩
        · rename_i change hchange
          obtain ⟨hresource, hchangeBefore, hafter⟩ := recordChange_spec hchange
          refine hgoOn _ ⟨rows, hholds, hreplaces, hhistory, ?_, ?_⟩
          · rw [hchangeBefore, hresource, hbefore]
          · rw [hafter, hresource, snapshot_spec hsnapshot, Rows.values, hpit, hpolicy]
            rfl
  | recording change result =>
    unfold Replacing.Knows at h
    obtain ⟨rows, hholds, hreplaces, hhistory, hdescribes⟩ := h
    refine leads_written (fun hfree => ?_) hfail rfl
    rw [hholds.view_eq]
    refine hwrite _ _ hfree ?_
    unfold Replacing.Knows
    refine WriteLock.pending_write ⟨hreplaces, .inr ⟨⟨change, reply.now⟩, ?_, hdescribes⟩⟩
    rw [Rows.record, hhistory]
  | committing result =>
    unfold Replacing.Knows at h
    obtain ⟨rows, hholds, hreplaces, hlogged⟩ := h
    refine leads_written (fun hfree => leads_some.2 ?_) hfail rfl
    rw [hholds.commit_eq]
    refine ⟨.commit rows hholds, knows_done, by simp, by simp, .inr ⟨?_, ?_, hlogged⟩⟩
    · rw [hrequest]
      exact ⟨result, rfl, rfl⟩
    · rw [Changes, hrequest]
      exact hreplaces

theorem hasCommitted_configuring {progress : Configuring} :
    (Progress.configuring progress).hasCommitted = false ↔ progress ≠ .reloading := by
  cases progress <;> simp [Progress.hasCommitted]

/-- The row that the update compares is the row that was read, up to its identity. -/
theorem updated_configured {payload : PitConfigUpdateRequest} {pit current : PitConfig} {now : ℤ}
    (hclock : current.updatedAt = pit.updatedAt) (hsame : pitValues current = pitValues pit) :
    Updated payload current (configured pit payload now current) := by
  have hcolumns := sameValues_iff.1 (decide_eq_true hsame : sameValues current pit = true)
  obtain ⟨hname, hdepth, hwarning, hcritical⟩ := hcolumns
  refine ⟨rfl, ?_, ?_, ?_, ?_, fun h => ?_⟩
  · rw [hname]
    rfl
  · rw [hdepth]
    rfl
  · rw [hwarning]
    rfl
  · rw [hcritical]
    rfl
  · have hvalues : pitValues (updatedPit pit payload) = pitValues pit :=
      (of_decide_eq_true h).trans hsame
    rw [hclock]
    exact if_pos (decide_eq_true hvalues)

/-- What a statement of `update_pit_config` does. -/
theorem updatePitConfig_effect {payload : PitConfigUpdateRequest} {progress : Configuring}
    (hrequest : (calls i).request = .updatePitConfig payload)
    (h : progress.Knows settings pitId payload i db) :
    Leads (updatePitConfig settings pitId (calls i).actor payload i db progress reply)
      (Effect texts settings pitId calls i db (.configuring progress) reply) := by
  have hfail : progress ≠ .reloading → ∀ outcome : Outcome, outcome.failed →
    Leads (finish i db outcome)
      (Effect texts settings pitId calls i db (.configuring progress) reply) :=
    fun hnot outcome => Effect.fail (hasCommitted_configuring.2 hnot) (by simp)
  have hgoOn : progress ≠ .reloading → ∀ progress' : Configuring, progress' ≠ .reloading →
      progress'.Knows settings pitId payload i db →
      Effect texts settings pitId calls i db (.configuring progress) reply db
        (.configuring progress') none :=
    fun hnot progress' hnot' hknows => .goOn (hasCommitted_configuring.2 hnot)
      (hasCommitted_configuring.2 hnot') (by simp) (by simp) ((knows_configuring hrequest).2 hknows)
  have hwrite : progress ≠ .reloading → ∀ (rows : Rows) (progress' : Configuring),
      progress' ≠ .reloading → db.free i →
      progress'.Knows settings pitId payload i (db.write i rows) →
      Effect texts settings pitId calls i db (.configuring progress) reply (db.write i rows)
        (.configuring progress') none :=
    fun hnot rows progress' hnot' hfree hknows => .write (hasCommitted_configuring.2 hnot)
      (hasCommitted_configuring.2 hnot') (by simp) (by simp) hfree
      ((knows_configuring hrequest).2 hknows)
  cases progress with
  | selecting =>
    refine leads_looked (fun _ => ?_) fun _ => hfail (by simp) _ rfl
    cases hpit : (db.view i).selectPit pitId with
    | none =>
      dsimp only
      split_ifs
      · exact leads_goOn.2 (hgoOn (by simp) _ (by simp) ⟨h, _, rfl⟩)
      · exact hfail (by simp) _ rfl
    | some pit =>
      dsimp only
      split_ifs
      · exact leads_goOn.2 (hgoOn (by simp) _ (by simp) h)
      · exact hfail (by simp) _ rfl
  | inserting pit =>
    obtain ⟨hidle, now, rfl⟩ := h
    refine leads_written (fun hfree => ?_) (hfail (by simp)) rfl
    rw [hidle.view_eq]
    cases hpit : db.committed.pit with
    | some current => exact leads_none
    | none =>
      have hconfigures : Configures settings pitId payload db.committed
          { db.committed with pit := some (newPit settings pitId payload reply.now) } :=
        ⟨rfl, .inl ⟨hpit, reply.now, rfl⟩⟩
      refine leads_recordConfig ?_ ?_ fun change hresource hbefore hafter => ?_
      · rw [finish_write hfree]
        exact hfail (by simp) _ rfl
      · refine hwrite (by simp) _ _ (by simp) hfree ?_
        unfold Configuring.Knows
        exact WriteLock.pending_write ⟨hconfigures, .inl rfl⟩
      · refine hwrite (by simp) _ _ (by simp) hfree ?_
        unfold Configuring.Knows
        refine WriteLock.pending_write ⟨hconfigures, rfl, ?_, ?_⟩
        · rw [hbefore, hresource, Rows.values, hpit]
          rfl
        · rw [hafter, hresource]
          rfl
  | updating pit =>
    refine leads_written (fun hfree => ?_) (hfail (by simp)) rfl
    rw [WriteLock.Idle.view_eq h]
    split
    · exact hfail (by simp) _ rfl
    · rename_i rows hupdate
      obtain ⟨current, hcurrent, hid, hsame, rfl⟩ := Rows.updatePit_eq_some.1 hupdate
      obtain ⟨hclock, hvalues⟩ := of_decide_eq_true hsame
      have hvalues : pitValues current = pitValues pit := of_decide_eq_true hvalues
      refine leads_goOn.2 (hwrite (by simp) _ _ (by simp) hfree ?_)
      unfold Configuring.Knows
      refine WriteLock.pending_write ⟨⟨rfl, .inr ⟨current, _, ?_, rfl, ?_⟩⟩, rfl, ?_⟩
      · exact Rows.selectPit_eq_some.2 ⟨hcurrent, hid⟩
      · exact updated_configured hclock hvalues
      · rw [Rows.values, hcurrent, ← hvalues]
        rfl
  | refreshing before =>
    unfold Configuring.Knows at h
    obtain ⟨rows, hholds, hconfigures, hhistory, hbefore⟩ := h
    refine leads_looked (fun _ => ?_) fun _ => hfail (by simp) _ rfl
    rw [hholds.view_eq]
    cases hselect : rows.selectPit pitId with
    | none => exact hfail (by simp) _ rfl
    | some pit =>
      have hpit := (Rows.selectPit_eq_some.1 hselect).1
      refine leads_recordConfig (hfail (by simp) _ rfl) ?_ fun change hresource hchange hafter => ?_
      · exact hgoOn (by simp) _ (by simp) ⟨rows, hholds, hconfigures, .inl hhistory⟩
      · refine hgoOn (by simp) _ (by simp) ⟨rows, hholds, hconfigures, hhistory, ?_, ?_⟩
        · rw [hchange, hresource, hbefore]
        · rw [hafter, hresource, Rows.values, hpit]
          rfl
  | recording change =>
    unfold Configuring.Knows at h
    obtain ⟨rows, hholds, hconfigures, hhistory, hdescribes⟩ := h
    refine leads_written (fun hfree => ?_) (hfail (by simp)) rfl
    rw [hholds.view_eq]
    refine leads_goOn.2 (hwrite (by simp) _ _ (by simp) hfree ?_)
    unfold Configuring.Knows
    refine WriteLock.pending_write ⟨hconfigures, .inr ⟨⟨change, reply.now⟩, ?_, hdescribes⟩⟩
    rw [Rows.record, hhistory]
  | committing =>
    unfold Configuring.Knows at h
    obtain ⟨rows, hholds, hconfigures, hlogged⟩ := h
    refine leads_written (fun hfree => leads_goOn.2 ?_) (hfail (by simp)) rfl
    rw [hholds.commit_eq]
    have hchanges : Changes texts settings pitId (calls i) db.committed rows := by
      rw [Changes, hrequest]
      exact hconfigures
    refine ⟨.commit rows hholds, ?_, by simp, by simp, .inr ⟨?_, hchanges, hlogged⟩⟩
    · rw [knows_configuring hrequest]
      exact ⟨WriteLock.idle_of_none rfl i, hconfigures.selectPit⟩
    · rw [hrequest]
      exact ⟨rfl, rfl⟩
  | reloading =>
    obtain ⟨hidle, pit, hpit⟩ := h
    have hend : ∀ outcome : Outcome, (reply.answer = .failure ∨ outcome.failed = false) →
        Leads (finish i db outcome)
          (Effect texts settings pitId calls i db (.configuring .reloading) reply) := by
      intro outcome hcases
      refine leads_finish.2 ⟨.rollback, knows_done, by simp, by simp, .inl ⟨?_, fun hreloads => ?_⟩⟩
      · exact WriteLock.rollback_committed
      · rcases hcases with hanswer | hfailed
        · exact absurd hanswer (hreloads rfl)
        · simp only [Progress.hasCommitted, hfailed, Bool.not_false]
    refine leads_looked (fun _ => ?_) fun hanswer => hend _ (.inl hanswer)
    rw [hidle.view_eq, hpit]
    exact hend _ (.inr rfl)

end ScrapMonitoring.PitSettings
