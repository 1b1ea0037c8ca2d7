import ScrapMonitoring.Foundations.Extrema
import ScrapMonitoring.Operations.Episodes
import ScrapMonitoring.Operations.Lifecycle

/-!
# Resolved alerts

An episode is resolved at most once, by the first evaluation of its source that is not critical,
after an unbroken chain of critical ones with an alert. What is reported of an alert agrees with
that, and an alert that has been reported as resolved is reported so ever after
(`alert_resolution`).
-/

namespace ScrapMonitoring.Operations

open Monitoring

variable {hash : Json → String} {es : History} {s s' s₀ : Store}

/-! ## Episodes have names of their own -/

/-- `uuid4` never gives an identifier twice. -/
def DistinctNames (es : History) : Prop := (es.map fun x => x.op.evaluation.uuid).Nodup

section

variable {source source' : MonitoringSource} {episode scope : String} {observed occurred : ℤ}
  {pre pre' mid mid' post post' : History} {last last' : Assessed}
  {x y : Entry Store Call (Option Unit)}

/-- Chains of one episode begin with the same step. -/
theorem Chain.unique (hnames : DistinctNames es) (h : Chain hash source episode mid last)
    (h' : Chain hash source' episode mid' last') (hes : es = pre ++ (mid ++ post))
    (hes' : es = pre' ++ (mid' ++ post')) :
    source = source' ∧ pre = pre' ∧ mid ++ post = mid' ++ post' := by
  obtain ⟨x, rest, rfl, hname, hsource⟩ := h.start
  obtain ⟨x', rest', rfl, hname', hsource'⟩ := h'.start
  obtain ⟨hpre, rfl, hrest⟩ :=
    append_cons_unique hnames hes hes' (hname.trans hname'.symm)
  exact ⟨hsource.symm.trans hsource', hpre, congrArg (x :: ·) hrest⟩

/-- A chain has no evaluation that is not critical: one of a resolved episode ends before the
resolution. -/
theorem Recovery.chain_prefix (hnames : DistinctNames es)
    (h : Recovery hash source episode scope observed occurred mid x)
    (h' : Chain hash source' episode mid' last') (hes : es = pre ++ (mid ++ x :: post))
    (hes' : es = pre' ++ (mid' ++ post')) : mid' <+: mid := by
  obtain ⟨last, j, hchain, hmark, hother, -⟩ := h.chain
  obtain ⟨rfl, -, hmid⟩ := hchain.unique hnames h' hes hes'
  obtain ⟨rest, rfl, hcons⟩ | ⟨rest, hrest, -⟩ := List.append_eq_append_iff.1 hmid
  · cases rest with
    | nil => exact ⟨[], by simp⟩
    | cons z rest =>
      obtain ⟨rfl, -⟩ := List.cons.inj hcons
      have hx : x ∈ mid ++ x :: rest := List.mem_append_right _ List.mem_cons_self
      rw [h'.critical_of_mem hx hmark] at hother
      cases hother
  · exact ⟨rest, hrest.symm⟩

/-- An episode that has been resolved does not go on. -/
theorem Recovery.not_live (hnames : DistinctNames es)
    (h : Recovery hash source episode scope observed occurred mid x)
    (h' : Chain hash source' episode mid' last') (hes : es = pre ++ (mid ++ x :: post))
    (hes' : es = pre' ++ mid') : False := by
  obtain ⟨last, j, hchain, -⟩ := h.chain
  rw [← List.append_nil mid'] at hes'
  obtain ⟨rest, hrest⟩ := h.chain_prefix hnames h' hes hes'
  obtain ⟨-, -, hmid⟩ := hchain.unique hnames h' hes hes'
  have hlength := congrArg List.length hmid
  rw [← hrest] at hlength
  simp only [List.length_append, List.length_cons, List.length_nil] at hlength
  omega

/-- The alerts of a resolved episode are of its chain. -/
theorem Recovery.creation_mem (hnames : DistinctNames es) {scope' : String}
    {observed' occurred' : ℤ} (h : Recovery hash source episode scope observed occurred mid x)
    (h' : Creation hash source' episode scope' observed' occurred' mid' y)
    (hes : es = pre ++ (mid ++ x :: post)) (hes' : es = pre' ++ (mid' ++ y :: post')) :
    y ∈ mid := by
  obtain ⟨last, hchain, -⟩ := h'.chain
  rw [List.append_cons] at hes'
  obtain ⟨rest, rfl⟩ := h.chain_prefix hnames hchain hes hes'
  simp

/-- The alerts of an episode that goes on are of its chain. -/
theorem Creation.mem_of_live (hnames : DistinctNames es)
    (h : Creation hash source episode scope observed occurred mid x)
    (h' : Chain hash source' episode mid' last') (hes : es = pre ++ (mid ++ x :: post))
    (hes' : es = pre' ++ mid') : x ∈ mid' := by
  obtain ⟨last, hchain, -⟩ := h.chain
  rw [List.append_cons] at hes
  rw [← List.append_nil mid'] at hes'
  obtain ⟨-, -, hmid⟩ := hchain.unique hnames h' hes hes'
  rw [List.append_nil] at hmid
  rw [← hmid]
  simp

end

/-! ## Each episode is resolved once -/

/-- The episode that a transition resolves. -/
def EdgeV2Transition.resolvedEpisode (row : EdgeV2Transition) : Option String :=
  match row.payload with
  | .alertResolved _ episode _ _ => some episode
  | _ => none

theorem resolves_of_resolvedEpisode {row : EdgeV2Transition} {episode : String}
    (h : row.resolvedEpisode = some episode) :
    ∃ source scope observed, row.Resolves source episode scope observed := by
  unfold EdgeV2Transition.resolvedEpisode at h
  cases hpayload : row.payload with
  | alertResolved pit episode' scope observed =>
    rw [hpayload] at h
    obtain rfl := Option.some.inj h
    exact ⟨⟨pit, row.siteId, row.edgeId⟩, scope, observed, rfl, rfl, hpayload⟩
  | alertCreated _ _ _ _ _ _ =>
    rw [hpayload] at h
    cases h
  | fillStateChanged _ _ _ _ _ _ _ _ _ =>
    rw [hpayload] at h
    cases h

theorem resolvedEpisode_judged (hash : Json → String) (e : Evaluation) (s : Store)
    (observation : FillObservation) (observed : ℤ) (fill : ℚ) :
    (judgedTransitions hash e s observation observed fill).filterMap
        EdgeV2Transition.resolvedEpisode =
      (verdict hash e s observation observed fill).resolved.toList := by
  unfold judgedTransitions
  dsimp only
  rw [List.filterMap_append, List.filterMap_append]
  have hfill : List.filterMap EdgeV2Transition.resolvedEpisode
      (if e.snapshot.summary.filterState = .ready ∧ e.previous (s.operation e.source.pitId) ≠
          (operationRow e (s.operation e.source.pitId) observation observed fill).state then
        [fillTransition e observation (e.previous (s.operation e.source.pitId))
          (operationRow e (s.operation e.source.pitId) observation observed fill).state observed
            fill]
      else []) = [] := by
    split_ifs <;> rfl
  have halert : List.filterMap EdgeV2Transition.resolvedEpisode
      (if raises e s observation observed fill then [creationRow hash e observation observed
        ((verdict hash e s observation observed fill).identifier.getD "")] else []) = [] := by
    split_ifs <;> rfl
  rw [hfill, halert, List.nil_append, List.append_nil]
  cases (verdict hash e s observation observed fill).resolved <;> rfl

/-- **No episode is resolved twice.** -/
theorem run_once (h : Run (step hash) s₀ es s) (h₀ : ∀ device, s₀.tracker device = none)
    (hnone : s₀.transitions = []) (hnames : DistinctNames es) :
    (s.transitions.filterMap EdgeV2Transition.resolvedEpisode).Nodup := by
  induction h with
  | nil => simp [hnone]
  | @snoc es s s' c out h hs ih =>
    have hbefore : DistinctNames es := by
      unfold DistinctNames at hnames ⊢
      rw [List.map_append] at hnames
      exact (List.nodup_append.1 hnames).1
    obtain hidle | ⟨observation, observed, fill, heval⟩ :=
      @step_idle_or_evaluates hash ⟨s, c, out, s'⟩ hs
    · rw [show s'.transitions = _ from hidle.transitions]
      exact ih hbefore
    · rw [show s'.transitions = _ from heval.transitions, List.filterMap_append,
        resolvedEpisode_judged]
      cases hresolved : (verdict hash c.evaluation s observation observed fill).resolved with
      | none =>
        rw [Option.toList_none, List.append_nil]
        exact ih hbefore
      | some episode =>
        rw [Option.toList_some]
        refine List.nodup_append.2 ⟨ih hbefore, List.nodup_singleton _, ?_⟩
        rintro _ hmem _ hlast rfl
        obtain rfl := List.mem_singleton.1 hlast
        obtain ⟨row, hrow, hepisode⟩ := List.mem_filterMap.1 hmem
        obtain ⟨source, scope, observed', hresolves⟩ := resolves_of_resolvedEpisode hepisode
        obtain ⟨pre, mid, x, post, hes, -, hrecovery⟩ :=
          (run_evidence h h₀ hnone row hrow).resolved source _ scope observed' hresolves
        obtain ⟨-, old, hold, -, hsame, -⟩ := verdict_resolved hresolved
        obtain ⟨pre', mid', last, hes', hchain, -⟩ := run_live h h₀ _ _ _ hold hsame
        exact hrecovery.not_live hbefore hchain hes hes'

/-! ## What is read of an alert -/

section

variable {pit : String} {now : ℤ} {id : ℕ} {event : EpisodeEvent} {key : EpisodeKey}
  {row : EdgeV2Transition}

/-- The source of the pit that the key is of. -/
def EpisodeKey.source (key : EpisodeKey) (pit : String) : MonitoringSource :=
  ⟨pit, key.siteId, key.edgeId⟩

theorem creates_of_created (h : row.created pit id = some event) :
    row.Creates (event.key.source pit) event.key.episodeId event.key.scopeToken id
        event.observedAt ∧ row.occurredAt = event.occurredAt := by
  unfold EdgeV2Transition.created at h
  cases hpayload : row.payload with
  | alertCreated pit' id' episode scope observed simulated =>
    rw [hpayload] at h
    dsimp only at h
    rw [Option.ite_none_right_eq_some] at h
    obtain ⟨⟨rfl, rfl⟩, h⟩ := h
    obtain rfl := Option.some.inj h
    exact ⟨⟨rfl, rfl, simulated, hpayload⟩, rfl⟩
  | alertResolved _ _ _ _ =>
    rw [hpayload] at h
    cases h
  | fillStateChanged _ _ _ _ _ _ _ _ _ =>
    rw [hpayload] at h
    cases h

theorem resolves_of_resolved (h : row.resolved pit = some event) :
    row.Resolves (event.key.source pit) event.key.episodeId event.key.scopeToken event.observedAt ∧
      row.occurredAt = event.occurredAt := by
  unfold EdgeV2Transition.resolved at h
  cases hpayload : row.payload with
  | alertCreated _ _ _ _ _ _ =>
    rw [hpayload] at h
    cases h
  | alertResolved pit' episode scope observed =>
    rw [hpayload] at h
    dsimp only at h
    rw [Option.ite_none_right_eq_some] at h
    obtain ⟨rfl, h⟩ := h
    obtain rfl := Option.some.inj h
    exact ⟨⟨rfl, rfl, hpayload⟩, rfl⟩
  | fillStateChanged _ _ _ _ _ _ _ _ _ =>
    rw [hpayload] at h
    cases h

theorem firstEvent_spec {keep : EpisodeEvent → Bool} {events : List EpisodeEvent}
    (h : firstEvent now keep events = some event) :
    event ∈ events ∧ event.occurredAt ≤ now ∧ keep event := by
  obtain ⟨hmem, hkeep⟩ := List.mem_filter.1 (List.argmin_mem h)
  exact ⟨hmem, of_decide_eq_true hkeep⟩

/-- Later events do not change which event is the first. -/
theorem firstEvent_grow {keep keep' : EpisodeEvent → Bool} {events new : List EpisodeEvent}
    {now' : ℤ} (h : firstEvent now keep events = some event) (hnow : now ≤ now')
    (hkeep : ∀ b, keep b → keep' b) (hsame : ∀ b ∈ events, keep' b → keep b)
    (hnew : ∀ b ∈ new, now ≤ b.occurredAt) :
    firstEvent now' keep' (events ++ new) = some event := by
  obtain ⟨-, hpast, -⟩ := firstEvent_spec h
  refine argmin_filter_grow h ?_ ?_ ?_
  · intro b hb
    obtain ⟨hle, hb⟩ := of_decide_eq_true hb
    exact decide_eq_true ⟨hle.trans hnow, hkeep b hb⟩
  · intro b hmem hb hnot
    obtain ⟨-, hb⟩ := of_decide_eq_true hb
    by_contra hle
    exact hnot (decide_eq_true ⟨(not_lt.1 hle).trans hpast, hsame b hmem hb⟩)
  · intro b hmem _
    exact hpast.trans (hnew b hmem)

theorem createdOf_spec (h : s.createdOf pit now id = some event) :
    ∃ row ∈ s.transitions, row.created pit id = some event ∧ event.occurredAt ≤ now := by
  obtain ⟨hmem, hpast, -⟩ := firstEvent_spec h
  obtain ⟨row, hrow, hevent⟩ := List.mem_filterMap.1 hmem
  exact ⟨row, hrow, hevent, hpast⟩

theorem resolvedOf_spec (h : s.resolvedOf pit now key = some event) :
    ∃ row ∈ s.transitions, row.resolved pit = some event ∧ event.occurredAt ≤ now ∧
      event.key = key := by
  obtain ⟨hmem, hpast, hkey⟩ := firstEvent_spec h
  obtain ⟨row, hrow, hevent⟩ := List.mem_filterMap.1 hmem
  exact ⟨row, hrow, hevent, hpast, of_decide_eq_true hkey⟩

theorem lifecycle_resolved {active : Option EpisodeKey} {resolvedAt observed : ℤ}
    (h : s.lifecycle pit now active id = .resolved resolvedAt observed) :
    ∃ created ended, s.createdOf pit now id = some created ∧
      s.resolvedOf pit now created.key = some ended ∧ created.observedAt < ended.observedAt ∧
      ended.observedAt ≤ ended.occurredAt ∧ created.occurredAt ≤ ended.occurredAt ∧
      ended.occurredAt = resolvedAt ∧ ended.observedAt = observed := by
  unfold Store.lifecycle at h
  cases hcreated : s.createdOf pit now id with
  | none =>
    rw [hcreated] at h
    cases h
  | some created =>
    rw [hcreated] at h
    dsimp only at h
    cases hended : s.resolvedOf pit now created.key with
    | none =>
      rw [hended] at h
      dsimp only at h
      split_ifs at h
    | some ended =>
      rw [hended] at h
      dsimp only at h
      split_ifs at h with hafter
      obtain ⟨hat, hobserved⟩ := AlertLifecycle.resolved.inj h
      exact ⟨created, ended, rfl, hended, hafter.1, hafter.2.1, hafter.2.2, hat, hobserved⟩

theorem lifecycle_active {active : Option EpisodeKey}
    (h : s.lifecycle pit now active id = .active) :
    ∃ created, s.createdOf pit now id = some created ∧ s.resolvedOf pit now created.key = none ∧
      active = some created.key := by
  unfold Store.lifecycle at h
  cases hcreated : s.createdOf pit now id with
  | none =>
    rw [hcreated] at h
    cases h
  | some created =>
    rw [hcreated] at h
    dsimp only at h
    cases hended : s.resolvedOf pit now created.key with
    | none =>
      rw [hended] at h
      dsimp only at h
      split_ifs at h with hactive
      exact ⟨created, rfl, hended, hactive.symm⟩
    | some ended =>
      rw [hended] at h
      dsimp only at h
      split_ifs at h

variable {H : Type*} {reader : Reader} {settings : Settings} {db : Database H}

/-- A snapshot shows a state of the worker only where the row of the pit has it. -/
theorem buildSnapshot_state {source : MonitoringSource} {snapshot : MonitoringSnapshotV2}
    {state : OperationalState} (h : buildSnapshot reader settings db source now = some snapshot)
    (hstate : snapshot.operations.map OperationStatus.effectiveState = some (.operational state)) :
    ∃ row, db.operation source.pitId = some row ∧ row.device = source.device ∧
    row.state = state := by
  unfold buildSnapshot at h
  simp only [Option.bind_eq_bind, Option.bind_eq_some_iff] at h
  obtain ⟨assessment, -, device, -, h⟩ := h
  rw [Option.ite_none_right_eq_some] at h
  obtain rfl := Option.some.inj h.2
  obtain ⟨status, hstatus, heffective⟩ := Option.map_eq_some_iff.1 hstate
  dsimp only at hstatus
  rw [Option.ite_none_right_eq_some] at hstatus
  obtain rfl := Option.some.inj hstatus.2
  obtain ⟨-, row, current, hrow, hdevice, hrowState, -⟩ := operationStatus_operational heffective
  exact ⟨row, hrow, hdevice, hrowState⟩

/-- What is known of the episode of a pit that goes on. -/
structure Current (settings : Settings) (s : Store) (pit : String) (now : ℤ) (key : EpisodeKey)
    (row : Tracker) : Prop where
  source : key.source pit ∈ settings.monitoringSources
  critical : CriticalAt s pit (key.siteId, key.edgeId)
  tracker : s.tracker (key.siteId, key.edgeId) = some row
  pit : row.pitId = pit
  episode : row.episodeId = some key.episodeId
  scope : row.scopeToken = key.scopeToken
  recent : 0 ≤ now - row.observedAt ∧ now - row.observedAt < settings.ttl

theorem currentEpisode_spec
    (h : currentEpisode hash reader settings db s pit now = some (some key)) :
    ∃ row, Current settings s pit now key row := by
  unfold currentEpisode at h
  cases hsource : settings.monitoringSources.find? fun source => source.pitId = pit with
  | none =>
    rw [hsource] at h
    cases h
  | some source =>
    have hpit : source.pitId = pit := by simpa using List.find?_some hsource
    rw [hsource] at h
    dsimp only at h
    by_cases henabled : settings.operationsEnabled = false
    · rw [if_pos henabled] at h
      cases h
    · rw [if_neg henabled] at h
      obtain ⟨snapshot, hsnapshot, h⟩ := Option.map_eq_some_iff.1 h
      split_ifs at h with hstale
      obtain ⟨-, hstate⟩ := not_or.1 hstale
      obtain ⟨operation, hoperation, hdevice, hcritical⟩ :=
        buildSnapshot_state hsnapshot (not_not.1 hstate)
      cases hrow : s.tracker source.device with
      | none =>
        rw [hrow] at h
        cases h
      | some row =>
        rw [hrow] at h
        obtain ⟨episode, hepisode, h⟩ := Option.bind_eq_some_iff.1 h
        rw [Option.ite_none_right_eq_some] at h
        obtain ⟨⟨hrowPit, -, hpast, hrecent, -⟩, h⟩ := h
        obtain rfl := Option.some.inj h
        refine ⟨row, ?_, ⟨operation, ?_, hdevice, hcritical⟩, hrow, hrowPit, hepisode, rfl, hpast,
          hrecent⟩
        · rw [show EpisodeKey.source _ pit = source from source_ext hpit.symm rfl rfl]
          exact List.mem_of_find?_eq_some hsource
        · rw [← hpit]
          exact hoperation

/-- A report is of the alerts that were asked for, each with its lifecycle. -/
theorem alertLifecycles_spec {ids : List ℕ} {report : List (ℕ × AlertLifecycle)}
    (h : alertLifecycles hash reader settings db s pit ids now = some report)
    {state : AlertLifecycle} (hmem : (id, state) ∈ report) :
    ∃ active, state = s.lifecycle pit now active id ∧
      (state = .active → currentEpisode hash reader settings db s pit now = some active) := by
  unfold alertLifecycles at h
  by_cases hempty : (ids.filterMap (s.createdOf pit now)).isEmpty
  · rw [if_pos hempty] at h
    obtain rfl := Option.some.inj h
    obtain ⟨id', hid, heq⟩ := List.mem_map.1 hmem
    obtain ⟨rfl, rfl⟩ := Prod.mk.inj heq
    refine ⟨none, ?_, fun h => by cases h⟩
    have hnone : s.createdOf pit now id' = none := by
      rw [List.isEmpty_iff, List.filterMap_eq_nil_iff] at hempty
      exact hempty id' hid
    unfold Store.lifecycle
    rw [hnone]
  · rw [if_neg hempty] at h
    obtain ⟨active, hactive, rfl⟩ := Option.map_eq_some_iff.1 h
    obtain ⟨id', -, heq⟩ := List.mem_map.1 hmem
    obtain ⟨rfl, rfl⟩ := Prod.mk.inj heq
    exact ⟨active, rfl, fun _ => hactive⟩

end

/-! ## Reports that last -/

section

variable {pit : String} {now : ℤ} {id : ℕ} {event : EpisodeEvent}

/-- What happens from `now` on: transitions of alerts and episodes are added with later times, and
links for new alerts only. -/
structure Later (now : ℤ) (s s' : Store) : Prop where
  transitions : ∃ new, s'.transitions = s.transitions ++ new ∧ ∀ row ∈ new, ∀ pit event,
    (row.resolved pit = some event ∨ ∃ id, row.created pit id = some event) → now ≤ event.occurredAt
  links : ∃ new, s'.links = s.links ++ new ∧ ∀ link ∈ new, ∀ alert ∈ s.alerts,
    alert.id ≠ link.alertId
  alerts : ∃ new, s'.alerts = s.alerts ++ new

/-- The transitions of an evaluation are of its time, as far as they are of alerts and episodes. -/
theorem occurredAt_judged {e : Evaluation} {observation : FillObservation} {observed : ℤ} {fill : ℚ}
    {row : EdgeV2Transition} (hrow : row ∈ judgedTransitions hash e s observation observed fill)
    (hevent : row.resolved pit = some event ∨ ∃ id, row.created pit id = some event) :
    event.occurredAt = e.now := by
  have htime : row.occurredAt = event.occurredAt := by
    obtain hresolved | ⟨id, hcreated⟩ := hevent
    · exact (resolves_of_resolved hresolved).2
    · exact (creates_of_created hcreated).2
  rw [← htime]
  obtain rfl | ⟨episode, -, rfl⟩ | ⟨-, rfl⟩ := mem_judgedTransitions hrow
  · obtain hresolved | ⟨id, hcreated⟩ := hevent
    · cases hresolved
    · cases hcreated
  · rfl
  · rfl

theorem run_later (h : Run (step hash) s es s') (hnow : ∀ x ∈ es, now ≤ x.op.evaluation.now) :
    Later now s s' := by
  induction h with
  | nil =>
    exact ⟨⟨[], (List.append_nil _).symm, by simp⟩, ⟨[], (List.append_nil _).symm, by simp⟩, [],
      (List.append_nil _).symm⟩
  | @snoc es t s' c out h hs ih =>
    obtain ⟨⟨rows, hrows, hlater⟩, ⟨links, hlinks, hfresh⟩, alerts, halerts⟩ :=
      ih fun x hx => hnow x (List.mem_append_left _ hx)
    have hclock : now ≤ c.evaluation.now :=
      hnow ⟨t, c, out, s'⟩ (List.mem_append_right _ (List.mem_singleton_self _))
    obtain hidle | ⟨observation, observed, fill, heval⟩ :=
      @step_idle_or_evaluates hash ⟨t, c, out, s'⟩ hs
    · exact ⟨⟨rows, hidle.transitions.trans hrows, hlater⟩,
        ⟨links, hidle.links.trans hlinks, hfresh⟩, alerts, hidle.alerts.trans halerts⟩
    · refine ⟨⟨rows ++ judgedTransitions hash c.evaluation t observation observed fill, ?_, ?_⟩,
        ⟨links ++ (if raises c.evaluation t observation observed fill then
          [alertLink c.evaluation observation observed] else []), ?_, ?_⟩,
        alerts ++ judgedAlert c.evaluation (t.operation c.evaluation.source.pitId) observation
          observed fill, ?_⟩
      · rw [show s'.transitions = _ from heval.transitions, hrows, List.append_assoc]
      · intro row hrow pit event hevent
        obtain hrow | hrow := List.mem_append.1 hrow
        · exact hlater row hrow pit event hevent
        · rw [occurredAt_judged hrow hevent]
          exact hclock
      · rw [show s'.links = _ from heval.links, hlinks, List.append_assoc]
      · intro link hlink alert halert
        obtain hlink | hlink := List.mem_append.1 hlink
        · exact hfresh link hlink alert halert
        · split_ifs at hlink with hraises
          · obtain rfl := List.mem_singleton.1 hlink
            refine heval.fresh hraises alert ?_
            rw [show t.alerts = _ from halerts]
            exact List.mem_append_left _ halert
          · cases hlink
      · rw [show s'.alerts = _ from heval.alerts, halerts, List.append_assoc]

/-- Every alert that has a transition is one of the store. -/
theorem run_alerts_known (h : Run (step hash) s₀ es s) (hnone : s₀.transitions = []) :
    ∀ row ∈ s.transitions, ∀ pit id event, row.created pit id = some event →
      ∃ alert ∈ s.alerts, alert.id = id := by
  induction h with
  | nil => simp [hnone]
  | @snoc es s s' c out h hs ih =>
    intro row hrow pit id event hevent
    obtain hidle | ⟨observation, observed, fill, heval⟩ :=
      @step_idle_or_evaluates hash ⟨s, c, out, s'⟩ hs
    · rw [show s'.transitions = _ from hidle.transitions] at hrow
      rw [show s'.alerts = _ from hidle.alerts]
      exact ih row hrow pit id event hevent
    · rw [show s'.transitions = _ from heval.transitions] at hrow
      rw [show s'.alerts = _ from heval.alerts]
      obtain hold | hnew := List.mem_append.1 hrow
      · obtain ⟨alert, halert, hid⟩ := ih row hold pit id event hevent
        exact ⟨alert, List.mem_append_left _ halert, hid⟩
      · obtain rfl | ⟨episode, -, rfl⟩ | ⟨hraises, rfl⟩ := mem_judgedTransitions hnew
        · cases hevent
        · cases hevent
        · obtain ⟨⟨-, -, simulated, hpayload⟩, -⟩ := creates_of_created hevent
          obtain ⟨-, rfl, -⟩ := TransitionPayload.alertCreated.inj hpayload
          rw [show judgedAlert _ _ _ _ _ = _ from judgedAlert_of_raises hraises]
          exact ⟨_, List.mem_append_right _ (List.mem_singleton_self _), rfl⟩

/-- **What has been reported as resolved stays so.** -/
theorem Later.lifecycle {now' : ℤ} {active active' : Option EpisodeKey} {resolvedAt observed : ℤ}
    (h : Later now s s') (hnow : now ≤ now')
    (hknown : ∀ row ∈ s.transitions, ∀ pit id event, row.created pit id = some event →
      ∃ alert ∈ s.alerts, alert.id = id)
    (hresolved : s.lifecycle pit now active id = .resolved resolvedAt observed) :
    s'.lifecycle pit now' active' id = .resolved resolvedAt observed := by
  obtain ⟨created, ended, hcreated, hended, hbegan, hpast, hafter, rfl, rfl⟩ :=
    lifecycle_resolved hresolved
  obtain ⟨rows, hrows, hlater⟩ := h.transitions
  obtain ⟨links, hlinks, hfresh⟩ := h.links
  have hcreated' : s'.createdOf pit now' id = some created := by
    unfold Store.createdOf
    rw [hrows, List.filterMap_append]
    refine firstEvent_grow hcreated hnow ?_ ?_ ?_
    · intro event hlinked
      unfold Store.linked at hlinked ⊢
      rw [hlinks, List.any_append, hlinked, Bool.true_or]
    · intro event hmem hlinked
      unfold Store.linked at hlinked ⊢
      rw [hlinks, List.any_append, Bool.or_eq_true] at hlinked
      obtain hlinked | hlinked := hlinked
      · exact hlinked
      · obtain ⟨row, hrow, hevent⟩ := List.mem_filterMap.1 hmem
        obtain ⟨alert, halert, hid⟩ := hknown row hrow pit id event hevent
        obtain ⟨link, hlink, hmatch⟩ := List.any_eq_true.1 hlinked
        exact absurd (hid.trans (of_decide_eq_true hmatch).1.symm) (hfresh link hlink alert halert)
    · intro event hmem
      obtain ⟨row, hrow, hevent⟩ := List.mem_filterMap.1 hmem
      exact hlater row hrow pit event (.inr ⟨id, hevent⟩)
  have hended' : s'.resolvedOf pit now' created.key = some ended := by
    unfold Store.resolvedOf
    rw [hrows, List.filterMap_append]
    refine firstEvent_grow hended hnow (fun _ h => h) (fun _ _ h => h) ?_
    intro event hmem
    obtain ⟨row, hrow, hevent⟩ := List.mem_filterMap.1 hmem
    exact hlater row hrow pit event (.inl hevent)
  unfold Store.lifecycle
  rw [hcreated']
  dsimp only
  rw [hended']
  exact if_pos ⟨hbegan, hpast, hafter⟩

end

/-! ## The whole -/

/-- One of the steps has raised the alert, in the episode of the source. -/
def RaisedIn (source : MonitoringSource) (episode : String) (id : ℕ) (es : History) : Prop :=
  ∃ x ∈ es, ∃ row ∈ written x, ∃ scope observed, row.Creates source episode scope id observed

section

variable {H : Type*} {reader : Reader} {settings : Settings} {db : Database H} {pit : String}
  {ids : List ℕ} {now : ℤ} {report : List (ℕ × AlertLifecycle)} {id : ℕ}

/-- An alert that is reported as resolved is of a resolved episode. -/
theorem resolved_report (h : Run (step hash) s₀ es s) (h₀ : ∀ device, s₀.tracker device = none)
    (hnone : s₀.transitions = []) (hnames : DistinctNames es)
    (hreport : alertLifecycles hash reader settings db s pit ids now = some report)
    {resolvedAt observed : ℤ} (hmem : (id, .resolved resolvedAt observed) ∈ report) :
    ∃ source episode scope pre mid x post, source.pitId = pit ∧ es = pre ++ (mid ++ x :: post) ∧
      Recovery hash source episode scope observed resolvedAt mid x ∧
        RaisedIn source episode id mid := by
  obtain ⟨active, hstate, -⟩ := alertLifecycles_spec hreport hmem
  obtain ⟨created, ended, hcreated, hended, -, -, -, rfl, rfl⟩ := lifecycle_resolved hstate.symm
  obtain ⟨row, hrow, hevent, -⟩ := createdOf_spec hcreated
  obtain ⟨row', hrow', hevent', -, hkey⟩ := resolvedOf_spec hended
  obtain ⟨hcreates, -⟩ := creates_of_created hevent
  obtain ⟨hresolves, hoccurred⟩ := resolves_of_resolved hevent'
  rw [hkey] at hresolves
  obtain ⟨pre, mid, x, post, hes, hwritten, hcreation⟩ :=
    (run_evidence h h₀ hnone row hrow).created _ _ _ _ _ hcreates
  obtain ⟨pre', mid', x', post', hes', -, hrecovery⟩ :=
    (run_evidence h h₀ hnone row' hrow').resolved _ _ _ _ hresolves
  rw [hoccurred] at hrecovery
  exact ⟨created.key.source pit, created.key.episodeId, created.key.scopeToken, pre', mid', x',
    post', rfl, hes', hrecovery, x, hrecovery.creation_mem hnames hcreation hes' hes, row, hwritten,
    _, _, hcreates⟩

/-- What is known of an episode that goes on: its chain of critical evaluations is not broken, and
no transition resolves it. -/
structure Ongoing (hash : Json → String) (settings : Settings) (es : History) (s : Store)
    (source : MonitoringSource) (episode : String) (now : ℤ) (mid : History) : Prop where
  suffix : mid <:+ es
  chain : ∃ last, Chain hash source episode mid last ∧ 0 ≤ now - last.observedAt ∧
    now - last.observedAt < settings.ttl
  attached : source ∈ settings.monitoringSources
  critical : CriticalAt s source.pitId source.device
  unresolved : ∀ row ∈ s.transitions, row.resolvedEpisode ≠ some episode

/-- An alert that is reported as active is of an episode that goes on. -/
theorem active_report (h : Run (step hash) s₀ es s) (h₀ : ∀ device, s₀.tracker device = none)
    (hnone : s₀.transitions = []) (hnames : DistinctNames es)
    (hreport : alertLifecycles hash reader settings db s pit ids now = some report)
    (hmem : (id, .active) ∈ report) :
    ∃ source episode mid, source.pitId = pit ∧
      Ongoing hash settings es s source episode now mid ∧ RaisedIn source episode id mid := by
  obtain ⟨active, hstate, hcurrent⟩ := alertLifecycles_spec hreport hmem
  obtain ⟨created, hcreated, -, rfl⟩ := lifecycle_active hstate.symm
  obtain ⟨tracker, hcurrent⟩ := currentEpisode_spec (hcurrent rfl)
  obtain ⟨row, hrow, hevent, -⟩ := createdOf_spec hcreated
  obtain ⟨hcreates, -⟩ := creates_of_created hevent
  obtain ⟨pre, mid, last, hes, hchain, -, hobserved, -⟩ :=
    run_live h h₀ _ _ _ hcurrent.tracker hcurrent.episode
  rw [hcurrent.pit] at hchain
  obtain ⟨pre', mid', x, post, hes', hwritten, hcreation⟩ :=
    (run_evidence h h₀ hnone row hrow).created _ _ _ _ _ hcreates
  refine ⟨created.key.source pit, created.key.episodeId, mid, rfl,
    ⟨⟨pre, hes.symm⟩, ⟨last, hchain, ?_⟩, hcurrent.source, hcurrent.critical, ?_⟩, x,
    hcreation.mem_of_live hnames hchain hes' hes, row, hwritten, _, _, hcreates⟩
  · rw [hobserved]
    exact hcurrent.recent
  · intro row hrow hepisode
    obtain ⟨source, scope, observed, hresolves⟩ := resolves_of_resolvedEpisode hepisode
    obtain ⟨pre, mid, x, post, hes'', -, hrecovery⟩ :=
      (run_evidence h h₀ hnone row hrow).resolved _ _ _ _ hresolves
    exact hrecovery.not_live hnames hchain hes'' hes

end

/-- What holds of the alerts and the episodes of a run. -/
structure AlertResolution (H : Type*) (hash : Json → String) (es : History) (s : Store) : Prop where
  /-- No episode is resolved twice. -/
  once : (s.transitions.filterMap EdgeV2Transition.resolvedEpisode).Nodup
  /-- An episode is resolved by the first evaluation of its source that is not critical, after an
  unbroken chain of critical ones in which it has had an alert. -/
  recovered : ∀ row ∈ s.transitions, ∀ source episode scope observed,
    row.Resolves source episode scope observed → ∃ pre mid x post, es = pre ++ (mid ++ x :: post) ∧
      row ∈ written x ∧ Recovery hash source episode scope observed row.occurredAt mid x
  /-- An alert that is reported as resolved was raised in the chain of a resolved episode. -/
  resolved : ∀ reader settings (db : Database H) pit ids now report,
    alertLifecycles hash reader settings db s pit ids now = some report →
      ∀ id resolvedAt observed, (id, .resolved resolvedAt observed) ∈ report →
        ∃ source episode scope pre mid x post, source.pitId = pit ∧
          es = pre ++ (mid ++ x :: post) ∧
          Recovery hash source episode scope observed resolvedAt mid x ∧
            RaisedIn source episode id mid
  /-- An alert that is reported as active was raised in the chain of the episode that goes on. -/
  active : ∀ reader settings (db : Database H) pit ids now report,
    alertLifecycles hash reader settings db s pit ids now = some report →
      ∀ id, (id, .active) ∈ report → ∃ source episode mid, source.pitId = pit ∧
        Ongoing hash settings es s source episode now mid ∧ RaisedIn source episode id mid
  /-- An alert that has been reported as resolved is reported so ever after, with the same times. -/
  lasting : ∀ reader settings (db : Database H) pit ids now report,
    alertLifecycles hash reader settings db s pit ids now = some report →
      ∀ id resolvedAt observed, (id, .resolved resolvedAt observed) ∈ report →
        ∀ es' s' reader' settings' (db' : Database H) ids' now' report',
          Run (step hash) s es' s' → (∀ x ∈ es', now ≤ x.op.evaluation.now) → now ≤ now' →
          alertLifecycles hash reader' settings' db' s' pit ids' now' = some report' →
            ∀ state, (id, state) ∈ report' → state = .resolved resolvedAt observed

/-- **Alerts are resolved soundly.** -/
theorem alert_resolution {H : Type*} (h : Run (step hash) Store.empty es s)
    (hnames : DistinctNames es) : AlertResolution H hash es s where
  once := run_once h (fun _ => rfl) rfl hnames
  recovered := fun row hrow => (run_evidence h (fun _ => rfl) rfl row hrow).resolved
  resolved := by
    intro reader settings db pit ids now report hreport id resolvedAt observed hmem
    exact resolved_report h (fun _ => rfl) rfl hnames hreport hmem
  active := by
    intro reader settings db pit ids now report hreport id hmem
    exact active_report h (fun _ => rfl) rfl hnames hreport hmem
  lasting := by
    intro reader settings db pit ids now report hreport id resolvedAt observed hmem
      es' s' reader' settings' db' ids' now' report' h' hclock hnow hreport' state hmem'
    obtain ⟨active, hstate, -⟩ := alertLifecycles_spec hreport hmem
    obtain ⟨active', rfl, -⟩ := alertLifecycles_spec hreport' hmem'
    exact (run_later h' hclock).lifecycle hnow (run_alerts_known h rfl) hstate.symm

/-! ### A chain across another source

The pit has a source with a critical episode, is given another whose fill is normal, and is given
the first again: its episode goes on, and is resolved when its fill is normal. -/

/-- An evaluation with a cooldown that lasts. -/
def watchedCall (edge messageId : String) (time : ℤ) (fill : ℚ) (hfill : 0 ≤ fill ∧ fill ≤ 100)
    (uuid : String) (alertId : ℕ) : Call :=
  let call := sampleCall (sampleSnapshot edge messageId time fill hfill) time uuid alertId
  { call with
    evaluation :=
      { call.evaluation with
        settings := { call.evaluation.settings with alertCooldownSeconds := 1800 } } }

def raisingCall : Call := watchedCall "edge-a" "m-1" (seconds 100) 95 highFill_range "u-1" 1

def normalCall : Call := watchedCall "edge-b" "m-2" (seconds 101) 50 lowFill_range "u-2" 2

def criticalCall : Call := watchedCall "edge-a" "m-3" (seconds 102) 95 highFill_range "u-3" 3

def resolvingCall : Call := watchedCall "edge-a" "m-4" (seconds 103) 50 lowFill_range "u-4" 4

/-- The episode that an alert of a transition is of. -/
def EdgeV2Transition.createdEpisode (row : EdgeV2Transition) : Option String :=
  match row.payload with
  | .alertCreated _ _ episode _ _ _ => some episode
  | _ => none

/-- The evaluations of the pit between the only alert of an episode and its resolution are not all
critical. -/
theorem resolved_across_source : ∃ x y z w s,
    Run (step fun _ => "") Store.empty [x, y, z, w] s ∧
      (written x).filterMap EdgeV2Transition.createdEpisode = ["u-1"] ∧
      (written y ++ written z).filterMap EdgeV2Transition.createdEpisode = [] ∧
      (judgment "pit" y).isSome ∧
      (y.post.operation "pit").map EdgeV2Operation.state = some .normal ∧
      (written w).filterMap EdgeV2Transition.resolvedEpisode = ["u-1"] := by
  have h := (((Run.nil.snoc (sample_step Store.empty raisingCall rfl)).snoc
    (sample_step _ normalCall rfl)).snoc (sample_step _ criticalCall rfl)).snoc
      (sample_step _ resolvingCall rfl)
  refine ⟨_, _, _, _, _, h, ?_⟩
  decide +kernel

/-- The lifecycle of an alert, from the first evaluation to the last: active, then resolved. -/
theorem alert_resolution_recovered : ∃ es s, Run (step fun _ => "") Store.empty es s ∧
    DistinctNames es ∧ AlertResolution String (fun _ => "") es s ∧
    s.transitions.filterMap EdgeV2Transition.resolvedEpisode = ["u-1"] := by
  have h : Run (step fun _ => "") Store.empty _ _ :=
    (Run.nil.snoc (sample_step _ raisingCall rfl)).snoc
      (sample_step _ resolvingCall rfl)
  refine ⟨_, _, h, ?hnames, alert_resolution h ?hnames, ?_⟩
  · unfold DistinctNames
    decide +kernel
  · decide +kernel

end ScrapMonitoring.Operations
