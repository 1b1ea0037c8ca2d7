import ScrapMonitoring.Foundations.Float64
import ScrapMonitoring.Foundations.Run

/-!
# The alert engine of the first interface

`AlertEngine` of `services/alert_engine.py` keeps, in memory, when it last let an alert of each pit
pass. Every attempt is a task of its own: it reads the clock, takes its decision under the lock,
where nothing is awaited, and if it passes it writes the alert in a session of its own, together
with the request for a clip. The write ends later, in a commit or in an error that is only logged,
and other attempts may come in between.

The cooldown starts with the decision. A suppressed attempt is backed by a stored alert if the last
attempt of its pit that passed has had its alert committed by then, and the clock has not stepped
back behind it (`Vouched`); over an empty table, and with a clock that has not stepped back, only
then (`suppressed_backed`). `cooldown_of_failed_write` is a run with a write that fails.
-/

namespace ScrapMonitoring.Metrics

structure AlertSettings where
  alertCooldownSeconds : ℕ
  alertSmtpHost : Option String

structure AlertLog where
  id : ℕ
  pitId : String
  triggeredAt : ℤ
  fillRatioPercent : Float64
  channel : String
  status : String
  message : String
  deriving DecidableEq, Repr

/-- An attempt that passed and whose write has not ended. -/
structure Dispatch where
  pitId : String
  fillRatioPercent : Float64
  now : ℤ
  deriving DecidableEq, Repr

structure AlertEngine where
  /-- `_last_alert_time`. -/
  lastAlertTime : String → Option ℤ
  /-- The tasks between the lock and the end of their session. -/
  writing : List Dispatch
  /-- The rows of the table, as committed. -/
  alertLogs : List AlertLog

inductive AlertEvent
  /-- `_process_alert` up to the end of the lock. -/
  | attempt (pitId : String) (fillRatioPercent : Float64) (now : ℤ)
  /-- The end of a session: the id of the committed row, or an error. -/
  | written (dispatch : Dispatch) (id : Option ℕ)
  deriving DecidableEq, Repr

inductive AlertOutcome
  | suppressed
  | dispatched
  | persisted
  | failed
  deriving DecidableEq, Repr

/-- `f"{value:.1f}"`. -/
def oneDecimal : Float64 → String
  | .nan => "nan"
  | .infinite negative => if negative then "-inf" else "inf"
  | .finite value _ =>
    let tenths := (roundHalfEven (|value| * 10)).toNat
    (if value < 0 then "-" else "") ++ toString (tenths / 10) ++ "." ++ toString (tenths % 10)

def alertMessage (dispatch : Dispatch) : String :=
  "[CRITICAL ALERT] Scrap pit '" ++ dispatch.pitId ++ "' has reached critical fill ratio: " ++
    oneDecimal dispatch.fillRatioPercent ++ "%. Immediate collection required."

variable (settings : AlertSettings)

def alertLog (dispatch : Dispatch) (id : ℕ) : AlertLog where
  id := id
  pitId := dispatch.pitId
  triggeredAt := dispatch.now
  fillRatioPercent := dispatch.fillRatioPercent
  channel := if settings.alertSmtpHost.getD "" = "" then "LOG" else "EMAIL"
  status := "SENT"
  message := alertMessage dispatch

namespace AlertEngine

/-- A new engine over the rows of the table. -/
def new (alertLogs : List AlertLog) : AlertEngine := ⟨fun _ => none, [], alertLogs⟩

def inCooldown (engine : AlertEngine) (pitId : String) (now : ℤ) : Bool :=
  match engine.lastAlertTime pitId with
  | none => false
  | some lastTime => now - lastTime < seconds settings.alertCooldownSeconds

def step (engine : AlertEngine) : AlertEvent → Option (AlertEngine × AlertOutcome)
  | .attempt pitId fillRatioPercent now =>
    if engine.inCooldown settings pitId now then some (engine, .suppressed)
    else some
      ({ engine with
          lastAlertTime := Function.update engine.lastAlertTime pitId (some now)
          writing := engine.writing ++ [⟨pitId, fillRatioPercent, now⟩] },
        .dispatched)
  | .written dispatch id =>
    if dispatch ∈ engine.writing then
      match id with
      | some id => some
          ({ engine with
              writing := engine.writing.erase dispatch
              alertLogs := engine.alertLogs ++ [alertLog settings dispatch id] },
            .persisted)
      | none => some ({ engine with writing := engine.writing.erase dispatch }, .failed)
    else none

/-- A stored alert of the pit that is less than the cooldown old. -/
def Backed (engine : AlertEngine) (pitId : String) (now : ℤ) : Prop :=
  ∃ alert ∈ engine.alertLogs, alert.pitId = pitId ∧ alert.triggeredAt ≤ now ∧
    now - alert.triggeredAt < seconds settings.alertCooldownSeconds

instance (engine : AlertEngine) (pitId : String) (now : ℤ) :
    Decidable (engine.Backed settings pitId now) := by
  unfold Backed
  infer_instance

abbrev Step := Entry AlertEngine AlertEvent AlertOutcome

/-- The attempt of the pit that a step lets pass. -/
def passed? (pitId : String) (e : Step) : Option Dispatch :=
  match e.op, e.out with
  | .attempt pit fillRatioPercent now, .dispatched =>
    if pit = pitId then some ⟨pit, fillRatioPercent, now⟩ else none
  | _, _ => none

/-- The attempts of the pit that have passed. -/
def passes (pitId : String) (es : List Step) : List Dispatch := es.filterMap (passed? pitId)

/-- The write of the alert has ended in a commit. -/
def Committed (es : List Step) (dispatch : Dispatch) : Prop :=
  ∃ e ∈ es, ∃ id, e.op = .written dispatch (some id)

/-- The last attempt of the pit that passed, if it is less than the cooldown ago, is not after the
clock, and its alert is stored. -/
def Vouched (before : List Step) (pitId : String) (now : ℤ) : Prop :=
  ∀ dispatch ∈ (passes pitId before).getLast?,
    now - dispatch.now < seconds settings.alertCooldownSeconds →
      dispatch.now ≤ now ∧ Committed before dispatch

/-! ## The steps -/

variable {settings} {engine engine' : AlertEngine} {event : AlertEvent} {outcome : AlertOutcome}

/-- What a step can do. -/
theorem step_cases (h : engine.step settings event = some (engine', outcome)) :
    (∃ pitId fill now, event = .attempt pitId fill now ∧
      engine.inCooldown settings pitId now = true ∧ outcome = .suppressed ∧ engine' = engine) ∨
    (∃ pitId fill now, event = .attempt pitId fill now ∧
      engine.inCooldown settings pitId now = false ∧ outcome = .dispatched ∧
      engine' = { engine with
        lastAlertTime := Function.update engine.lastAlertTime pitId (some now)
        writing := engine.writing ++ [⟨pitId, fill, now⟩] }) ∨
    (∃ dispatch id, event = .written dispatch (some id) ∧ dispatch ∈ engine.writing ∧
      outcome = .persisted ∧
      engine' = { engine with
        writing := engine.writing.erase dispatch
        alertLogs := engine.alertLogs ++ [alertLog settings dispatch id] }) ∨
    (∃ dispatch, event = .written dispatch none ∧ dispatch ∈ engine.writing ∧ outcome = .failed ∧
      engine' = { engine with writing := engine.writing.erase dispatch }) := by
  cases event with
  | attempt pitId fill now =>
    rw [step] at h
    split_ifs at h with hcooldown
    · cases h
      exact .inl ⟨pitId, fill, now, rfl, hcooldown, rfl, rfl⟩
    · cases h
      exact .inr (.inl ⟨pitId, fill, now, rfl, Bool.eq_false_iff.2 hcooldown, rfl, rfl⟩)
  | written dispatch id =>
    cases id with
    | some id =>
      simp only [step] at h
      split_ifs at h with hmem
      cases h
      exact .inr (.inr (.inl ⟨dispatch, id, rfl, hmem, rfl, rfl⟩))
    | none =>
      simp only [step] at h
      split_ifs at h with hmem
      cases h
      exact .inr (.inr (.inr ⟨dispatch, rfl, hmem, rfl, rfl⟩))

theorem step_persist {dispatch : Dispatch} (h : dispatch ∈ engine.writing) (id : ℕ) :
    engine.step settings (.written dispatch (some id)) = some
      ({ engine with
          writing := engine.writing.erase dispatch
          alertLogs := engine.alertLogs ++ [alertLog settings dispatch id] },
        .persisted) :=
  if_pos h

theorem step_fail {dispatch : Dispatch} (h : dispatch ∈ engine.writing) :
    engine.step settings (.written dispatch none) =
      some ({ engine with writing := engine.writing.erase dispatch }, .failed) :=
  if_pos h

theorem inCooldown_eq_true {pitId : String} {now : ℤ} :
    engine.inCooldown settings pitId now = true ↔
      ∃ lastTime, engine.lastAlertTime pitId = some lastTime ∧
        now - lastTime < seconds settings.alertCooldownSeconds := by
  unfold inCooldown
  cases engine.lastAlertTime pitId with
  | none => simp
  | some lastTime => simp

/-! ## The attempts that passed -/

variable {pitId : String} {now : ℤ} {dispatch : Dispatch} {e : Step} {es : List Step}

@[simp] theorem passes_concat :
    passes pitId (es ++ [e]) = passes pitId es ++ (passed? pitId e).toList := by
  unfold passes
  rw [List.filterMap_append]
  cases h : passed? pitId e <;> simp [h]

theorem pitId_of_mem_passes (h : dispatch ∈ passes pitId es) : dispatch.pitId = pitId := by
  obtain ⟨e, -, he⟩ := List.mem_filterMap.1 h
  unfold passed? at he
  split at he
  · split_ifs at he with hpit
    cases he
    exact hpit
  · cases he

theorem committed_concat : Committed (es ++ [e]) dispatch ↔
    Committed es dispatch ∨ ∃ id, e.op = .written dispatch (some id) := by
  simp [Committed, or_and_right, exists_or]

/-- What the engine remembers of a run, and what it has stored. -/
structure Kept (settings : AlertSettings) (alertLogs : List AlertLog) (es : List Step)
    (engine : AlertEngine) : Prop where
  last : ∀ pitId, engine.lastAlertTime pitId = (passes pitId es).getLast?.map Dispatch.now
  /-- An attempt passes when the cooldown of the one before it is over. -/
  spaced : ∀ pitId, (passes pitId es).Pairwise fun d d' =>
    d.now + seconds settings.alertCooldownSeconds ≤ d'.now
  writing : ∀ d ∈ engine.writing, d ∈ passes d.pitId es
  stored : ∀ d, Committed es d → ∃ alert ∈ engine.alertLogs,
    alert.pitId = d.pitId ∧ alert.triggeredAt = d.now
  told : ∀ alert ∈ engine.alertLogs, alert ∈ alertLogs ∨ ∃ d, Committed es d ∧
    d ∈ passes d.pitId es ∧ alert.pitId = d.pitId ∧ alert.triggeredAt = d.now

variable {alertLogs : List AlertLog}

theorem Kept.new : Kept settings alertLogs [] (new alertLogs) where
  last _ := rfl
  spaced _ := .nil
  writing _ h := absurd h List.not_mem_nil
  stored := by
    rintro d ⟨_, h, -⟩
    cases h
  told _ h := .inl h

/-- An attempt that passed before the last one is older by the cooldown at least. -/
theorem Kept.of_mem (h : Kept settings alertLogs es engine) (hmem : dispatch ∈ passes pitId es) :
    ∃ last, (passes pitId es).getLast? = some last ∧ (dispatch = last ∨
      dispatch.now + seconds settings.alertCooldownSeconds ≤ last.now) := by
  have hspaced := h.spaced pitId
  rcases List.eq_nil_or_concat' (passes pitId es) with hnil | ⟨before, last, hlast⟩
  · rw [hnil] at hmem
    cases hmem
  · rw [hlast] at hmem hspaced ⊢
    refine ⟨last, List.getLast?_concat .., ?_⟩
    rcases List.mem_append.1 hmem with hmem | hmem
    · exact .inr ((List.pairwise_append.1 hspaced).2.2 _ hmem _ (List.mem_singleton_self _))
    · exact .inl (List.mem_singleton.1 hmem)

theorem inCooldown_of_last {last : Dispatch}
    (h : engine.lastAlertTime pitId = (passes pitId es).getLast?.map Dispatch.now)
    (hlast : (passes pitId es).getLast? = some last) :
    engine.inCooldown settings pitId now = true ↔
      now - last.now < seconds settings.alertCooldownSeconds := by
  rw [hlast] at h
  simp [inCooldown_eq_true, h]

/-- A step that lets no attempt pass and commits no alert. -/
theorem Kept.quiet (h : Kept settings alertLogs es engine)
    (hpassed : ∀ pitId, passed? pitId e = none)
    (hcommitted : ∀ d id, e.op ≠ .written d (some id)) {writing : List Dispatch}
    (hwriting : ∀ d ∈ writing, d ∈ engine.writing) :
    Kept settings alertLogs (es ++ [e]) { engine with writing } where
  last pitId := by simp [hpassed, h.last]
  spaced pitId := by simpa [hpassed] using h.spaced pitId
  writing d hd := by simpa [hpassed] using h.writing d (hwriting d hd)
  stored d hd := by
    rcases committed_concat.1 hd with hd | ⟨id, hop⟩
    · exact h.stored d hd
    · exact absurd hop (hcommitted d id)
  told alert halert := by
    refine (h.told alert halert).imp_right ?_
    rintro ⟨d, hd, hmem, heq⟩
    exact ⟨d, committed_concat.2 (.inl hd), by simpa [hpassed] using hmem, heq⟩

/-- An attempt that passes comes after the cooldown of every one before it. -/
theorem Kept.pass (h : Kept settings alertLogs es engine) {pit : String} {fill : Float64}
    (hop : e.op = .attempt pit fill now) (hout : e.out = .dispatched)
    (hfree : engine.inCooldown settings pit now = false) :
    Kept settings alertLogs (es ++ [e])
      { engine with
        lastAlertTime := Function.update engine.lastAlertTime pit (some now)
        writing := engine.writing ++ [⟨pit, fill, now⟩] } := by
  have hpassed : passed? pit e = some ⟨pit, fill, now⟩ := by simp [passed?, hop, hout]
  have hother : ∀ other, other ≠ pit → passed? other e = none := fun other hne => by
    simp [passed?, hop, hout, hne.symm]
  have hkeep : ∀ d ∈ passes d.pitId es, d ∈ passes d.pitId (es ++ [e]) := fun d hd => by
    rw [passes_concat]
    exact List.mem_append_left _ hd
  constructor
  · intro pitId
    rw [passes_concat]
    by_cases hpit : pitId = pit
    · subst hpit
      simp [hpassed]
    · simp [hother pitId hpit, Function.update_of_ne hpit, h.last]
  · intro pitId
    rw [passes_concat]
    by_cases hpit : pitId = pit
    · subst hpit
      rw [hpassed]
      refine List.pairwise_append.2 ⟨h.spaced pitId, List.pairwise_singleton .., ?_⟩
      intro d hd d' hd'
      obtain rfl := List.mem_singleton.1 hd'
      obtain ⟨last, hlast, hle⟩ := h.of_mem hd
      have hover : ¬now - last.now < seconds settings.alertCooldownSeconds := by
        rw [← inCooldown_of_last (h.last pitId) hlast, hfree]
        exact Bool.false_ne_true
      have hnonneg : 0 ≤ seconds settings.alertCooldownSeconds := by
        unfold seconds
        omega
      change d.now + seconds settings.alertCooldownSeconds ≤ now
      rcases hle with rfl | hle <;> omega
    · simpa [hother pitId hpit] using h.spaced pitId
  · intro d hd
    rcases List.mem_append.1 hd with hd | hd
    · exact hkeep d (h.writing d hd)
    · obtain rfl := List.mem_singleton.1 hd
      simp [hpassed]
  · intro d hd
    rcases committed_concat.1 hd with hd | ⟨id, hwritten⟩
    · exact h.stored d hd
    · rw [hop] at hwritten
      cases hwritten
  · intro alert halert
    refine (h.told alert halert).imp_right ?_
    rintro ⟨d, hd, hmem, heq⟩
    exact ⟨d, committed_concat.2 (.inl hd), hkeep d hmem, heq⟩

theorem Kept.commit (h : Kept settings alertLogs es engine) {id : ℕ}
    (hop : e.op = .written dispatch (some id)) (hmem : dispatch ∈ engine.writing) :
    Kept settings alertLogs (es ++ [e])
      { engine with
        writing := engine.writing.erase dispatch
        alertLogs := engine.alertLogs ++ [alertLog settings dispatch id] } := by
  have hpassed : ∀ pitId, passes pitId (es ++ [e]) = passes pitId es := fun pitId => by
    simp [passed?, hop]
  constructor
  · intro pitId
    rw [hpassed]
    exact h.last pitId
  · intro pitId
    rw [hpassed]
    exact h.spaced pitId
  · intro d hd
    rw [hpassed]
    exact h.writing d (List.mem_of_mem_erase hd)
  · intro d hd
    rcases committed_concat.1 hd with hd | ⟨id', hwritten⟩
    · obtain ⟨alert, halert, heq⟩ := h.stored d hd
      exact ⟨alert, List.mem_append_left _ halert, heq⟩
    · rw [hop] at hwritten
      cases hwritten
      exact ⟨_, List.mem_append_right _ (List.mem_singleton_self _), rfl, rfl⟩
  · intro alert halert
    rcases List.mem_append.1 halert with halert | halert
    · refine (h.told alert halert).imp_right ?_
      rintro ⟨d, hd, hpass, heq⟩
      exact ⟨d, committed_concat.2 (.inl hd), by rwa [hpassed], heq⟩
    · obtain rfl := List.mem_singleton.1 halert
      refine .inr ⟨dispatch, committed_concat.2 (.inr ⟨id, hop⟩), ?_, rfl, rfl⟩
      rw [hpassed]
      exact h.writing dispatch hmem

theorem kept_of_run (h : Run (AlertEngine.step settings) (AlertEngine.new alertLogs) es engine) :
    Kept settings alertLogs es engine := by
  induction h with
  | nil => exact .new
  | snoc h hs ih =>
    rcases step_cases hs with ⟨pit, fill, now, rfl, -, rfl, rfl⟩ |
      ⟨pit, fill, now, rfl, hfree, rfl, rfl⟩ | ⟨dispatch, id, rfl, hmem, rfl, rfl⟩ |
      ⟨dispatch, rfl, hmem, rfl, rfl⟩
    · exact ih.quiet (fun _ => rfl) (fun _ _ h => by cases h) fun _ hd => hd
    · exact ih.pass rfl rfl hfree
    · exact ih.commit rfl hmem
    · exact ih.quiet (fun _ => rfl) (fun _ _ h => by cases h) fun _ hd => List.mem_of_mem_erase hd

/-! ## What a suppressed attempt shows -/

theorem suppressed_iff {fill : Float64}
    (hs : engine.step settings (.attempt pitId fill now) = some (engine', outcome)) :
    outcome = .suppressed ↔ engine.inCooldown settings pitId now = true := by
  rw [step] at hs
  split_ifs at hs with hcooldown
  · cases hs
    simp [hcooldown]
  · cases hs
    simp [hcooldown]

/-- **The cooldown and the stored alerts**, at every attempt of every run: it is suppressed only
when a stored alert of the pit is less than the cooldown old, if the last attempt that passed
vouches for it. Over an empty table nothing else does, unless the clock has stepped back behind
that attempt. -/
theorem suppressed_backed {before after : List Step} {fill : Float64}
    (h : Run (AlertEngine.step settings) (new alertLogs) es engine)
    (hes : es = before ++ e :: after) (hop : e.op = .attempt pitId fill now) :
    (Vouched settings before pitId now →
      e.out = .suppressed → e.pre.Backed settings pitId now) ∧
    (alertLogs = [] → (∀ dispatch ∈ (passes pitId before).getLast?, dispatch.now ≤ now) →
      (e.out = .suppressed → e.pre.Backed settings pitId now) →
      Vouched settings before pitId now) := by
  subst hes
  obtain ⟨hbefore, hstep⟩ := h.of_append_cons
  have hkept := kept_of_run hbefore
  rw [hop] at hstep
  rw [suppressed_iff hstep]
  constructor
  · intro hvouched hcooldown
    obtain ⟨time, htime, helapsed⟩ := inCooldown_eq_true.1 hcooldown
    rw [hkept.last, Option.map_eq_some_iff] at htime
    obtain ⟨dispatch, hlast, rfl⟩ := htime
    obtain ⟨hle, hcommitted⟩ := hvouched dispatch hlast helapsed
    obtain ⟨alert, halert, hpit, htriggered⟩ := hkept.stored dispatch hcommitted
    rw [pitId_of_mem_passes (List.mem_of_getLast? hlast)] at hpit
    exact ⟨alert, halert, hpit, htriggered ▸ hle, htriggered ▸ helapsed⟩
  · rintro rfl hclock hbacked dispatch hlast helapsed
    have hle := hclock dispatch hlast
    refine ⟨hle, ?_⟩
    obtain ⟨alert, halert, hpit, hpast, hrecent⟩ :=
      hbacked ((inCooldown_of_last (hkept.last pitId) hlast).2 helapsed)
    rcases hkept.told alert halert with hnil | ⟨d, hcommitted, hmem, hpit', htriggered⟩
    · cases hnil
    · rw [← hpit', hpit] at hmem
      obtain ⟨last, hlast', hd⟩ := hkept.of_mem hmem
      obtain rfl := Option.some.inj (hlast.symm.trans hlast')
      rcases hd with rfl | hd
      · exact hcommitted
      · omega

/-- An attempt a minute after one whose alert is stored. -/
theorem suppressed_backed_stored :
    ∃ es engine, Run (AlertEngine.step ⟨1800, none⟩) (new []) es engine ∧
      ∃ before e, es = before ++ [e] ∧ e.op = .attempt "pit-1" 96 (seconds 60) ∧
        e.out = .suppressed ∧ e.pre.Backed ⟨1800, none⟩ "pit-1" (seconds 60) ∧
        Vouched ⟨1800, none⟩ before "pit-1" (seconds 60) := by
  have h₀ : Run (AlertEngine.step ⟨1800, none⟩) (new []) [] (new []) := .nil
  have h₁ := h₀.snoc (i := .attempt "pit-1" 95 0) rfl
  have h₂ := h₁.snoc (step_persist (List.mem_singleton_self _) 1)
  have h₃ := h₂.snoc (i := .attempt "pit-1" 96 (seconds 60)) rfl
  refine ⟨_, _, h₃, _, _, rfl, rfl, rfl, (suppressed_backed h₃ rfl rfl).1 ?hvouched rfl, ?hvouched⟩
  rintro dispatch ⟨⟩ -
  exact ⟨by decide, _, List.mem_append_right _ (List.mem_singleton_self _), 1, rfl⟩

/-- **A failed write starts the cooldown**: a minute after it an attempt for the pit is suppressed,
and no alert was ever stored. -/
theorem cooldown_of_failed_write :
    ¬∀ (settings : AlertSettings) (alertLogs : List AlertLog) (es : List Step)
      (engine : AlertEngine), Run (AlertEngine.step settings) (new alertLogs) es engine →
      ∀ e ∈ es, ∀ pitId fill now, e.op = .attempt pitId fill now →
        e.out = .suppressed → e.pre.Backed settings pitId now := by
  intro h
  have h₀ : Run (AlertEngine.step ⟨1800, none⟩) (new []) [] (new []) := .nil
  have h₁ := h₀.snoc (i := .attempt "pit-1" 95 0) rfl
  have h₂ := h₁.snoc (step_fail (List.mem_singleton_self _))
  have h₃ := h₂.snoc (i := .attempt "pit-1" 96 (seconds 60)) rfl
  obtain ⟨alert, halert, -⟩ :=
    h _ _ _ _ h₃ _ (List.mem_append_right _ (List.mem_singleton_self _)) _ _ _ rfl rfl
  cases halert

end AlertEngine

end ScrapMonitoring.Metrics
