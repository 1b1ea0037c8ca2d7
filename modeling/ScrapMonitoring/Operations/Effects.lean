import ScrapMonitoring.Operations.Evaluation

/-!
# What an evaluation does

An evaluation that fails leaves everything as it was; one that does not has the effect `effect`, up
to the times since when conditions have been shown (`processSource_execute`). `effect` is a function
of the rows: it has no calls that fail, and everything about runs of the worker is read off it.
-/

namespace ScrapMonitoring.Operations

open Monitoring

variable (hash : Json → String) (e : Evaluation)

/-! ## The effect -/

namespace Store

/-- The rows without the times since when conditions have been shown. -/
def core (s : Store) : Store := { s with starts := fun _ => none }

/-- The episode of the source is no longer known. -/
def invalidate (s : Store) (source : MonitoringSource) : Store :=
  match s.tracker source.device with
  | none => s
  | some row =>
    if row.pitId ≠ source.pitId ∨ row.episodeId = none ∧ row.inputValid = false then s
    else s.setTracker source.device { row with episodeId := none, inputValid := false }

/-- The fill is no longer known to be critical. -/
def clearCritical (s : Store) (pit : String) : Store :=
  match s.operation pit with
  | none => s
  | some row =>
    if row.criticalSince = none then s else s.setOperation pit { row with criticalSince := none }

end Store

/-- The tracker after the evaluation, and the transition of a resolved episode. -/
def advanced (s : Store) (observation : FillObservation) (observed : ℤ)
    (previous current : OperationalState) : Store :=
  let row := s.tracker e.source.device
  let scope := lifecycleScope hash e.snapshot
  let next := advance e row scope observed previous current
  let s := match next.resolved with
    | none => s
    | some identifier => s.addTransition ⟨e.source.siteId, e.source.edgeId, e.now,
      .alertResolved e.source.pitId identifier scope observed⟩
  if row.isNone ∧ next.identifier = none then s
  else s.setTracker e.source.device
    ⟨observation.messageId, observation.generatedAt, e.source.pitId, scope, next.identifier,
      observed, true, next.hasAlert⟩

/-- The alert, its link and its episode. -/
def alerted (s : Store) (row : EdgeV2Operation) (observation : FillObservation) (observed : ℤ)
    (fill : ℚ) (episode : String) : Store :=
  let s := ((s.addAlert
    ⟨e.alertId, e.source.pitId, e.now, fill, observation.simulated, observation.source⟩).addLink
      ⟨e.alertId, e.source.pitId, e.source.siteId, e.source.edgeId, observation.observationId,
        observation.messageId, observed⟩).setOperation e.source.pitId
          { row with lastAlertAt := some e.now, lastAlertId := some e.alertId }
  let s := match s.tracker e.source.device with
    | none => s
    | some row => s.setTracker e.source.device { row with hasAlert := true }
  s.addTransition ⟨e.source.siteId, e.source.edgeId, e.now,
    .alertCreated e.source.pitId e.alertId episode (lifecycleScope hash e.snapshot) observed
      observation.simulated⟩

/-- The episode of the source after the evaluation. -/
def episodeAfter (s : Store) (observed : ℤ) (previous current : OperationalState) : Option String :=
  (advance e (s.tracker e.source.device) (lifecycleScope hash e.snapshot) observed previous
    current).identifier

/-- What follows from the judgment `next`. -/
def concluded (s : Store) (next : EdgeV2Operation) (observation : FillObservation) (observed : ℤ)
    (fill : ℚ) (previous : OperationalState) : Store :=
  let t := advanced hash e s observation observed previous next.state
  if next.state = .critical ∧ cooledDown e next then
    alerted hash e t next observation observed fill
      ((episodeAfter hash e s observed previous next.state).getD "")
  else t

/-- The effect of the evaluation of an observation that is new, with thresholds that are valid. -/
def judged (s : Store) (observation : FillObservation) (observed : ℤ) (fill : ℚ) : Store :=
  let previous := e.previous (s.operation e.source.pitId)
  let next := operationRow e (s.operation e.source.pitId) observation observed fill
  let t := s.setOperation e.source.pitId next
  concluded hash e
    (if e.snapshot.summary.filterState = .ready ∧ previous ≠ next.state then
      t.addTransition (fillTransition e observation previous next.state observed fill)
    else t)
    next observation observed fill previous

/-- What there is to do for an evaluation. -/
inductive Task
  | gap
  | replay
  | invalid
  | judge (observation : FillObservation) (observed : ℤ) (fill : ℚ)
  | failure

def Evaluation.task (row : Option EdgeV2Operation) : Task :=
  match e.input with
  | none => .gap
  | some (observation, load) =>
    match observation.observedTo, observation.valuePercent with
    | some observed, some value =>
      if e.replayed row observation observed then .replay
      else if !e.thresholdsValid then .invalid
      else .judge observation observed (e.fill value load)
    | _, _ => .failure

def taskEffect (s : Store) : Task → Store
  | .gap => (s.invalidate e.source).clearCritical e.source.pitId
  | .replay => s
  | .invalid => s.invalidate e.source
  | .judge observation observed fill => judged hash e s observation observed fill
  | .failure => s

def effect (s : Store) : Store := taskEffect hash e s (e.task (s.operation e.source.pitId))

/-! ## Rows that conditions do not touch -/

section

variable (s : Store)

theorem core_setStarts (device : String × String) (row : Starts) :
    (s.setStarts device row).core = s.core := rfl

theorem core_setOperation (pit : String) (row : EdgeV2Operation) :
    (s.setOperation pit row).core = s.core.setOperation pit row := rfl

theorem core_invalidate (source : MonitoringSource) :
    (s.invalidate source).core = s.core.invalidate source := by
  unfold Store.invalidate
  show _ = match s.tracker source.device with | none => _ | some row => _
  cases s.tracker source.device with
  | none => rfl
  | some row =>
    dsimp only
    split_ifs
    · rfl
    · rfl

end

variable {hash e}

theorem eq_of_core {s t : Store} (h : t.core = s.core) :
    t.operation = s.operation ∧ t.tracker = s.tracker ∧ t.transitions = s.transitions ∧
      t.alerts = s.alerts ∧ t.links = s.links := by
  unfold Store.core at h
  rw [Store.mk.injEq] at h
  obtain ⟨hoperation, htracker, -, htransitions, halerts, hlinks⟩ := h
  exact ⟨hoperation, htracker, htransitions, halerts, hlinks⟩

/-! ## The programs have this effect -/

section

variable {s t : Store}

theorem fillCondition_ends (fillState : Option OperationalState) :
    (fillCondition e fillState).Ends s t fun _ s' t' => s' = s ∧ t' = t := by
  unfold fillCondition
  refine .ite (fun _ => .pure ⟨rfl, rfl⟩) fun _ => ?_
  cases fillState with
  | none => exact .pure ⟨rfl, rfl⟩
  | some state =>
    cases state with
    | normal => exact .pure ⟨rfl, rfl⟩
    | warning => exact .bind (.call ⟨rfl, .pure ⟨rfl, rfl⟩⟩)
    | critical => exact .bind (.call ⟨rfl, .pure ⟨rfl, rfl⟩⟩)

theorem recordStarts_ends (fillState : Option OperationalState) :
    (recordStarts hash e fillState).Ends s t fun _ s' t' => s' = s ∧ t'.core = t.core := by
  unfold recordStarts
  refine .bind (.query ⟨rfl, .bind ((fillCondition_ends fillState).mono ?_)⟩)
  rintro conditions s' t' ⟨rfl, rfl⟩
  refine ⟨rfl, .ite (fun _ => .pure ⟨rfl, rfl⟩) fun _ => ?_⟩
  exact .bind (.modify ⟨rfl, .pure ⟨rfl, core_setStarts _ _ _⟩⟩)

theorem invalidateEpisode_ends (source : MonitoringSource) :
    (invalidateEpisode source).Ends s t fun changed s' t' =>
      s' = s ∧ t' = t.invalidate source ∧ (changed = false → t.invalidate source = t) := by
  unfold invalidateEpisode
  refine .bind (.query ⟨rfl, ?_⟩)
  unfold Store.invalidate
  cases t.tracker source.device with
  | none => exact .pure ⟨rfl, rfl, fun _ => rfl⟩
  | some row =>
    refine .ite (fun hpit => ?_) fun hpit => .ite (fun hnone => ?_) fun hnone => ?_
    · have hkeep : row.pitId ≠ source.pitId ∨ row.episodeId = none ∧ row.inputValid = false :=
        .inl hpit
      exact .pure ⟨rfl, (if_pos hkeep).symm, fun _ => if_pos hkeep⟩
    · have hkeep : row.pitId ≠ source.pitId ∨ row.episodeId = none ∧ row.inputValid = false :=
        .inr hnone
      exact .pure ⟨rfl, (if_pos hkeep).symm, fun _ => if_pos hkeep⟩
    · have hchange : ¬(row.pitId ≠ source.pitId ∨ row.episodeId = none ∧ row.inputValid = false) :=
        not_or.2 ⟨hpit, hnone⟩
      exact .bind (.modify ⟨rfl, .pure ⟨rfl, (if_neg hchange).symm, fun h => by cases h⟩⟩)

theorem advanceEpisode_ends (observation : FillObservation) (observed : ℤ)
    (previous current : OperationalState) :
    (advanceEpisode hash e observation observed previous current).Ends s t fun episode s' t' =>
      s' = s ∧ t' = advanced hash e t observation observed previous current ∧
        episode = episodeAfter hash e t observed previous current := by
  unfold advanceEpisode
  refine .bind (.query ⟨rfl, ?_⟩)
  unfold advanced episodeAfter
  dsimp only
  generalize advance e (t.tracker e.source.device) (lifecycleScope hash e.snapshot) observed
    previous current = next
  have hset :
      ∀ u : Store, Tx.Ends (if (t.tracker e.source.device).isNone ∧ next.identifier = none then
        pure none
      else do
        Tx.modify fun s => s.setTracker e.source.device
          ⟨observation.messageId, observation.generatedAt, e.source.pitId,
            lifecycleScope hash e.snapshot, next.identifier, observed, true, next.hasAlert⟩
        pure next.identifier) s u fun episode s' t' => s' = s ∧ t' = (if
          (t.tracker e.source.device).isNone ∧ next.identifier = none then u
        else u.setTracker e.source.device
          ⟨observation.messageId, observation.generatedAt, e.source.pitId,
            lifecycleScope hash e.snapshot, next.identifier, observed, true, next.hasAlert⟩) ∧
          episode = next.identifier := by
    intro u
    refine .ite (fun hnone => .pure ⟨rfl, (if_pos hnone).symm, hnone.2.symm⟩) fun hsome => ?_
    exact .bind (.modify ⟨rfl, .pure ⟨rfl, (if_neg hsome).symm, rfl⟩⟩)
  cases next.resolved with
  | none => exact hset t
  | some identifier => exact .bind (.modify ⟨rfl, hset _⟩)

theorem recordAlert_ends (observation : FillObservation) (observed : ℤ) (episode : String) :
    (recordAlert hash e observation observed episode e.alertId).Ends s t fun _ s' t' =>
      s' = s ∧ t' = (match t.tracker e.source.device with
        | none => t
        | some row => t.setTracker e.source.device { row with hasAlert := true }).addTransition
          ⟨e.source.siteId, e.source.edgeId, e.now, .alertCreated e.source.pitId e.alertId episode
            (lifecycleScope hash e.snapshot) observed observation.simulated⟩ := by
  unfold recordAlert
  exact .bind (.modify ⟨rfl, .modify ⟨rfl, rfl⟩⟩)

/-- An alert is raised with an episode, under a number that no other alert has. -/
theorem raiseAlert_ends (row : EdgeV2Operation) (observation : FillObservation) (observed : ℤ)
    (fill : ℚ) (episode : Option String) :
    (raiseAlert hash e row observation observed fill episode).Ends s t fun _ s' t' =>
      s' = s ∧ t' = alerted hash e t row observation observed fill (episode.getD "") ∧
        ∀ alert ∈ t.alerts, alert.id ≠ e.alertId := by
  unfold raiseAlert
  refine .bind (.query ⟨rfl, .ite (fun _ => .fail) fun htaken => ?_⟩)
  have hnew : ∀ alert ∈ t.alerts, alert.id ≠ e.alertId := by
    simpa using htaken
  refine .bind (.modify ⟨rfl, .bind (.modify ⟨rfl, .bind (.modify ⟨rfl, ?_⟩)⟩)⟩)
  cases episode with
  | none => exact .fail
  | some episode =>
    refine (recordAlert_ends observation observed episode).mono ?_
    rintro - s' t' ⟨rfl, rfl⟩
    exact ⟨rfl, rfl, hnew⟩

theorem advanced_alerts (observation : FillObservation) (observed : ℤ)
    (previous current : OperationalState) :
    (advanced hash e t observation observed previous current).alerts = t.alerts := by
  unfold advanced
  dsimp only
  generalize advance e (t.tracker e.source.device) (lifecycleScope hash e.snapshot) observed
    previous current = next
  split_ifs
  · cases next.resolved <;> rfl
  · cases next.resolved <;> rfl

theorem conclude_ends (next : EdgeV2Operation) (observation : FillObservation) (observed : ℤ)
    (fill : ℚ) (previous : OperationalState) :
    (conclude hash e next observation observed fill previous).Ends s t fun _ s' _ =>
      s'.core = (concluded hash e t next observation observed fill previous).core ∧
        ((concluded hash e t next observation observed fill previous).alerts ≠ t.alerts →
          ∀ alert ∈ t.alerts, alert.id ≠ e.alertId) := by
  have hcommit : ∀ {u : Store} {Q : Unit → Store → Store → Prop},
      (∀ s' : Store, s'.core = u.core → Q () s' s') →
      (do let _ ← recordStarts hash e (some next.state); Tx.commit).Ends s u Q := by
    intro u Q hQ
    refine .bind ((recordStarts_ends _).mono ?_)
    rintro - s' t' ⟨rfl, hcore⟩
    exact ⟨rfl, .commit (hQ t' hcore)⟩
  unfold conclude concluded
  refine .bind ((advanceEpisode_ends observation observed previous next.state).mono ?_)
  rintro episode s' u ⟨rfl, rfl, rfl⟩
  refine ⟨rfl, .bind (.when (fun halert => ?_) fun hquiet => ?_)⟩
  · rw [if_pos halert]
    refine (raiseAlert_ends next observation observed fill _).mono ?_
    rintro - s' u ⟨rfl, rfl, hnew⟩
    rw [advanced_alerts] at hnew
    exact ⟨rfl, hcommit fun s' hcore => ⟨hcore, fun _ => hnew⟩⟩
  · rw [if_neg hquiet]
    exact ⟨rfl, hcommit fun s' hcore =>
      ⟨hcore, fun hne => absurd (advanced_alerts observation observed previous next.state) hne⟩⟩

theorem judge_ends (observation : FillObservation) (observed : ℤ) (fill : ℚ) :
    (judge hash e (s.operation e.source.pitId) observation observed fill).Ends s s fun _ s' _ =>
      s'.core = (judged hash e s observation observed fill).core ∧
        ((judged hash e s observation observed fill).alerts ≠ s.alerts →
          ∀ alert ∈ s.alerts, alert.id ≠ e.alertId) := by
  unfold judge judged
  dsimp only
  refine .bind (.when (fun _ => .call ⟨rfl, ?_⟩) fun _ => ⟨rfl, ?_⟩)
  all_goals
    refine .bind (.modify ⟨rfl, .bind (.when (fun hchange => .modify ⟨rfl, ?_⟩) fun hsame =>
      ⟨rfl, ?_⟩)⟩)
    · rw [if_pos hchange]
      exact conclude_ends _ observation observed fill _
    · rw [if_neg hsame]
      exact conclude_ends _ observation observed fill _

theorem invalidate_operation (s : Store) (source : MonitoringSource) :
    (s.invalidate source).operation = s.operation := by
  unfold Store.invalidate
  split
  · rfl
  · split_ifs <;> rfl

theorem clearCritical_eq {s : Store} {pit : String}
    (h : (s.operation pit).filter (fun row => row.criticalSince.isSome) = none) :
    s.clearCritical pit = s := by
  unfold Store.clearCritical
  cases hrow : s.operation pit with
  | none => rfl
  | some row =>
    rw [hrow] at h
    have hnone : row.criticalSince = none := by
      simpa [Option.filter_eq_none_iff] using h
    exact if_pos hnone

/-- A commit, where something has changed. -/
theorem when_commit {c : Prop} [Decidable c] {Q : Store → Prop} (hc : c → Q t) (hskip : ¬c → Q s) :
    (Tx.when c Tx.commit).Ends s t fun _ s' _ => Q s' :=
  .when (fun h => .commit (hc h)) hskip

/-- An invalidated episode, and what has been started before. -/
theorem invalidate_core {started changed : Bool} (ht : t.core = s.core)
    (hchanged : changed = false → t.invalidate e.source = t) :
    (Tx.when (changed || started) Tx.commit).Ends s (t.invalidate e.source) fun _ s' _ =>
      s'.core = (s.invalidate e.source).core := by
  have hcore : (t.invalidate e.source).core = (s.invalidate e.source).core := by
    rw [core_invalidate, core_invalidate, ht]
  refine when_commit (fun _ => hcore) fun hsame => ?_
  have hfalse : changed = false := by
    simp at hsame
    exact hsame.1
  rw [← hcore, hchanged hfalse, ht]

/-- A gap commits what has changed, if anything has. -/
theorem gap_ends :
    (gap hash e (s.operation e.source.pitId)).Ends s s fun _ s' _ =>
      s'.core = ((s.invalidate e.source).clearCritical e.source.pitId).core := by
  unfold gap
  refine .bind ((recordStarts_ends none).mono ?_)
  rintro started s' t ⟨rfl, ht⟩
  refine ⟨rfl, .bind ((invalidateEpisode_ends e.source).mono ?_)⟩
  rintro changed s' u ⟨rfl, rfl, hchanged⟩
  refine ⟨rfl, ?_⟩
  cases hrow : (s'.operation e.source.pitId).filter fun row => row.criticalSince.isSome with
  | none =>
    rw [clearCritical_eq (by rwa [invalidate_operation])]
    exact invalidate_core ht hchanged
  | some row =>
    obtain ⟨hoperation, hsince⟩ := Option.filter_eq_some_iff.1 hrow
    refine .bind (.modify ⟨rfl, .commit ?_⟩)
    have hclear : (s'.invalidate e.source).clearCritical e.source.pitId =
        (s'.invalidate e.source).setOperation e.source.pitId
          { row with criticalSince := none } := by
      unfold Store.clearCritical
      rw [invalidate_operation, hoperation]
      exact if_neg fun hnone => by simp [hnone] at hsince
    rw [hclear, core_setOperation, core_setOperation, core_invalidate, core_invalidate, ht]

theorem invalidate_alerts (s : Store) (source : MonitoringSource) :
    (s.invalidate source).alerts = s.alerts := by
  unfold Store.invalidate
  split
  · rfl
  · split_ifs <;> rfl

theorem clearCritical_alerts (s : Store) (pit : String) :
    (s.clearCritical pit).alerts = s.alerts := by
  unfold Store.clearCritical
  split
  · rfl
  · split_ifs <;> rfl

/-- What an evaluation has done once it ends: the effect, and if that is an alert its number is
new. -/
structure Done (hash : Json → String) (e : Evaluation) (s s' : Store) : Prop where
  task : e.task (s.operation e.source.pitId) ≠ .failure
  core : s'.core = (effect hash e s).core
  alert : (effect hash e s).alerts ≠ s.alerts → ∀ alert ∈ s.alerts, alert.id ≠ e.alertId

theorem Done.of_quiet {s' : Store} {task : Task}
    (htask : e.task (s.operation e.source.pitId) = task)
    (hne : task ≠ .failure) (hcore : s'.core = (effect hash e s).core)
    (halerts : (effect hash e s).alerts = s.alerts) : Done hash e s s' :=
  ⟨htask ▸ hne, hcore, fun h => absurd halerts h⟩

theorem processSource_ends (hash : Json → String) (e : Evaluation) (s : Store) :
    (processSource hash e).Ends s s fun _ s' _ => Done hash e s s' := by
  unfold processSource
  refine .bind (.query ⟨rfl, .bind (.call ⟨rfl, ?_⟩)⟩)
  cases hinput : e.input with
  | none =>
    have htask : e.task (s.operation e.source.pitId) = .gap := by
      unfold Evaluation.task
      rw [hinput]
    have heffect : effect hash e s = (s.invalidate e.source).clearCritical e.source.pitId := by
      rw [effect, htask]
      rfl
    refine gap_ends.mono fun _ s' _ hcore => .of_quiet htask (by simp) (by rw [heffect, hcore]) ?_
    rw [heffect, clearCritical_alerts, invalidate_alerts]
  | some input =>
    obtain ⟨observation, load⟩ := input
    dsimp only
    cases hobserved : observation.observedTo with
    | none => exact .fail
    | some observed =>
      cases hvalue : observation.valuePercent with
      | none => exact .fail
      | some value =>
        have htask : e.task (s.operation e.source.pitId) =
            if e.replayed (s.operation e.source.pitId) observation observed then .replay
            else if !e.thresholdsValid then .invalid
            else .judge observation observed (e.fill value load) := by
          unfold Evaluation.task
          rw [hinput]
          dsimp only
          rw [hobserved, hvalue]
        refine .ite (fun hreplayed => ?_) fun hnew => .ite (fun hinvalid => ?_) fun hvalid => ?_
        · rw [if_pos hreplayed] at htask
          have heffect : effect hash e s = s := by
            rw [effect, htask]
            rfl
          refine .bind ((recordStarts_ends e.shownState).mono ?_)
          rintro started s' t ⟨rfl, ht⟩
          have hdone : ∀ u : Store, u.core = s'.core → Done hash e s' u := fun u hu =>
            .of_quiet htask (by simp) (by rw [heffect, hu]) (by rw [heffect])
          exact ⟨rfl, when_commit (fun _ => hdone t ht) fun _ => hdone s' rfl⟩
        · rw [if_neg hnew, if_pos hinvalid] at htask
          have heffect : effect hash e s = s.invalidate e.source := by
            rw [effect, htask]
            rfl
          refine .bind ((recordStarts_ends none).mono ?_)
          rintro started s' t ⟨rfl, ht⟩
          refine ⟨rfl, .bind ((invalidateEpisode_ends e.source).mono ?_)⟩
          rintro changed s' u ⟨rfl, rfl, hchanged⟩
          refine ⟨rfl, (invalidate_core ht hchanged).mono fun _ u _ hcore => ?_⟩
          exact .of_quiet htask (by simp) (by rw [heffect, hcore])
            (by rw [heffect, invalidate_alerts])
        · rw [if_neg hnew, if_neg hvalid] at htask
          have heffect :
              effect hash e s = judged hash e s observation observed (e.fill value load) := by
            rw [effect, htask]
            rfl
          refine (judge_ends observation observed (e.fill value load)).mono ?_
          rintro - s' - ⟨hcore, halert⟩
          rw [← heffect] at hcore halert
          exact ⟨by rw [htask]; simp, hcore, halert⟩

/-- **An evaluation that fails leaves everything as it was, and one that does not has its
effect.** -/
theorem processSource_execute (hash : Json → String) (e : Evaluation) (s : Store)
    (faults : List Bool) :
    match (processSource hash e).execute s faults with
    | (s', none) => s' = s
    | (s', some _) => Done hash e s s' := by
  have h := (processSource_ends hash e s).execute faults
  revert h
  cases (processSource hash e).execute s faults with
  | mk s' out =>
    cases out with
    | none => exact id
    | some a => exact fun ⟨_, hdone⟩ => hdone

end

end ScrapMonitoring.Operations
