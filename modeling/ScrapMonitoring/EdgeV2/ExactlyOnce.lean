import ScrapMonitoring.EdgeV2.Statements

/-!
# Every message is received exactly once

The calls of `accept_message` in any order, on a database whose rows satisfy the unique
constraints. `guarded` shows that the constraints hold along every run and that every call knows
what `CallInv` says. A call has one outcome, and changes the database only in the step in which it
acknowledges its own message (`changes_only_when_stored`); a call that meets a receipt before it
has inserted its message ends with the answer to a replay (`Replays.of_run`). `exactly_once` puts
these together.
-/

namespace ScrapMonitoring.EdgeV2

variable {ι H P : Type*} [DecidableEq ι] [DecidableEq H]
variable {hash : Json → H} {project : Call → EdgeV2Message H → Database H P → Option P}
variable {calls : ι → Call} {i : ι} {srv srv' : Server ι H P} {p p' : Progress H P}
variable {reply : Reply} {out : Option Outcome} {db : Database H P}
variable {s s₀ : System ι H P} {es : List (CallStep ι H P)}

/-! ## The constraints hold along every run -/

omit [DecidableEq ι] [DecidableEq H] in
theorem receipt?_eq_none {payload : Payload} :
    db.receipt? payload = none ↔ ∀ message ∈ db.messages, message.key ≠ payload.key := by
  simp [Database.receipt?, List.find?_eq_none]

omit [DecidableEq ι] in
/-- A commit keeps the constraints. -/
theorem Database.WellFormed.write {tx : Transaction H P} {source : String × String} {call : Call}
    (hdb : db.WellFormed hash) (hwritten : Written hash call db tx)
    (hreceipt : db.receipt? call.payload = none) (hadmits : db.admits tx.artifacts) :
    (db.write source tx).WellFormed hash := by
  obtain ⟨⟨now, hmessage⟩, artifacts, haccounted⟩ := hwritten
  refine ⟨?_, of_decide_eq_true hadmits, fun row hrow => ?_⟩
  · change ((db.messages ++ [tx.message]).map EdgeV2Message.key).Nodup
    rw [List.map_append, List.map_singleton, List.nodup_append_comm, List.singleton_append,
      List.nodup_cons]
    refine ⟨fun hmem => ?_, hdb.receipts⟩
    obtain ⟨message, hm, hkey⟩ := List.mem_map.1 hmem
    rw [hmessage] at hkey
    exact receipt?_eq_none.1 hreceipt message hm hkey
  · rcases List.mem_append.1 hrow with hrow | hrow
    · exact hdb.digests row hrow
    · obtain ⟨a, ha, rfl⟩ := haccounted.new row hrow
      exact (Collected.of_collect haccounted.collected).digests a ha

omit [DecidableEq ι] in
/-- What the statements of one call do is what every other call relies on. -/
theorem Effect.rely {j : ι} (he : Effect calls i srv p srv' p' out)
    (hinv : CallInv hash project calls i srv p) (hj : j ≠ i) : Rely j srv srv' := by
  rcases he.writes with ⟨hdb, -⟩ | ⟨tx, rfl, hdb, -⟩
  · exact ⟨by rw [hdb]; exact List.Subset.refl _, he.locks j hj, fun d _ => by rw [hdb]⟩
  · refine ⟨by rw [hdb]; exact List.subset_append_left _ _, he.locks j hj, fun d hd => ?_⟩
    obtain ⟨hlocked, -, hprojected⟩ := hinv
    rw [hdb, Database.write]
    unfold Projected at hprojected
    split_ifs at hprojected with hc
    · obtain ⟨seen, projection, hp, -⟩ := hprojected
      rw [hp]
      refine Function.update_of_ne ?_ _ _
      rintro rfl
      exact hj (Option.some.inj (hd.symm.trans (hlocked hc)))
    · rw [hprojected]

/-- **The rule of rely and guarantee for the receiver.** -/
theorem guarded : Guarded (act hash project calls) (fun srv => srv.db.WellFormed hash)
    (CallInv hash project calls) Rely where
  keeps := by
    intro i srv p reply srv' p' out hdb hinv hact
    refine ⟨?_, hinv.act _ _ _ hact⟩
    rcases (act_effect _ _ _ hact).writes with ⟨heq, -⟩ | ⟨tx, rfl, heq, hreceipt, hadmits, -⟩
    · rwa [heq]
    · rw [heq]
      exact hdb.write hinv.2.1 hreceipt hadmits
  guarantee := fun _ hinv hact j hj => (act_effect _ _ _ hact).rely hinv hj
  stable := CallInv.stable

theorem of_run (hdb : db.WellFormed hash)
    (hrun : Run (interleave (act hash project calls)) (System.initial db) es s) :
    s.store.db.WellFormed hash ∧ ∀ i, CallInv hash project calls i s.store (s.locals i) := by
  have hinitial : ∀ i, CallInv hash project calls i (System.initial db).store
      ((System.initial db : System ι H P).locals i) := fun _ => trivial
  exact guarded.of_run hdb hinitial hrun

/-! ## What one step of a run does -/

/-- What a step of a run does to the server and to its call. -/
theorem step_effect {e : CallStep ι H P}
    (h : interleave (act hash project calls) e.pre e.op = some (e.post, e.out)) :
    Effect calls e.op.1 e.pre.store (e.pre.locals e.op.1) e.post.store (e.post.locals e.op.1)
      e.out :=
  act_effect _ _ _ (interleave_cases h).1

/-- The database only grows. -/
theorem step_grows {e : CallStep ι H P}
    (h : interleave (act hash project calls) e.pre e.op = some (e.post, e.out)) :
    e.pre.store.db.messages ⊆ e.post.store.db.messages ∧
      e.pre.store.db.artifacts ⊆ e.post.store.db.artifacts := by
  rcases (step_effect h).writes with ⟨heq, -⟩ | ⟨tx, -, heq, -⟩
  · rw [heq]
    exact ⟨List.Subset.refl _, List.Subset.refl _⟩
  · rw [heq]
    exact ⟨List.subset_append_left _ _, List.subset_append_left _ _⟩

/-- What was committed stays committed. -/
theorem run_grows (hrun : Run (interleave (act hash project calls)) s₀ es s) :
    s₀.store.db.messages ⊆ s.store.db.messages ∧
      s₀.store.db.artifacts ⊆ s.store.db.artifacts :=
  hrun.invariant (I := fun s => s₀.store.db.messages ⊆ s.store.db.messages ∧
    s₀.store.db.artifacts ⊆ s.store.db.artifacts)
    ⟨List.Subset.refl _, List.Subset.refl _⟩ fun s op s' out hs h => by
      have hstep := step_grows (e := ⟨s, op, out, s'⟩) h
      exact ⟨fun _ hm => hstep.1 (hs.1 hm), fun _ ha => hstep.2 (hs.2 ha)⟩

/-- A call that has ended takes no further step. -/
theorem done_stays {o : Outcome} (hrun : Run (interleave (act hash project calls)) s₀ es s)
    (ho : s₀.locals i = .done o) : s.locals i = .done o :=
  hrun.invariant (I := fun s => s.locals i = .done o) ho fun s op s' out hs h => by
    have hstep := step_effect (e := ⟨s, op, out, s'⟩) h
    by_cases hi : i = op.1
    · exact (hstep.notDone o (hi ▸ hs)).elim
    · rw [(interleave_cases h).2 i hi, hs]

/-- The outcome of a call stays. -/
theorem outcome_stays {e : CallStep ι H P} {o : Outcome}
    (hrun : Run (interleave (act hash project calls)) s₀ es s) (he : e ∈ es)
    (ho : e.out = some o) : s.locals e.op.1 = .done o := by
  obtain ⟨pre, post, rfl⟩ := List.append_of_mem he
  exact done_stays hrun.rest (((step_effect hrun.of_append_cons.2).outcome o).1 ho)

/-- A call changes the database only in the step in which it acknowledges its own message. -/
theorem changes_only_when_stored {e : CallStep ι H P}
    (hrun : Run (interleave (act hash project calls)) s₀ es s) (he : e ∈ es)
    (hchange : e.post.store.db ≠ e.pre.store.db) :
    ∃ tx : Transaction H P, s.locals e.op.1 = .done (stored tx) := by
  rcases (step_effect (hrun.step_of_mem he)).writes with ⟨heq, -⟩ | ⟨tx, -, -, -, -, hout⟩
  · exact (hchange heq).elim
  · exact ⟨tx, outcome_stays hrun he hout⟩

/-- The outcome of a call that has ended. -/
def Progress.outcome? : Progress H P → Option Outcome
  | .done o => some o
  | _ => none

omit [DecidableEq H] in
theorem Progress.outcome?_eq_some {o : Outcome} : p.outcome? = some o ↔ p = .done o := by
  cases p <;> simp [Progress.outcome?]

/-! ## Replays -/

/-- The call has not inserted its message. -/
def Progress.Unsaved : Progress H P → Prop
  | .called | .locking | .inserting | .rejected => True
  | _ => False

omit [DecidableEq ι] [DecidableEq H] in
/-- Where the constraints hold there is one receipt to find. -/
theorem receipt?_eq_some {payload : Payload} {r : EdgeV2Message H}
    (hdb : (db.messages.map EdgeV2Message.key).Nodup) (hr : r ∈ db.messages)
    (hkey : r.key = payload.key) : db.receipt? payload = some r := by
  cases hfind : db.receipt? payload with
  | none => exact (receipt?_eq_none.1 hfind r hr hkey).elim
  | some r' =>
    have hmem := List.mem_of_find?_eq_some hfind
    have hkey' : r'.key = payload.key := by simpa using List.find?_some hfind
    rw [List.inj_on_of_nodup_map hdb hmem hr (hkey'.trans hkey.symm)]

/-- A call that finds a receipt of its message before it has inserted it goes on without
inserting it, answers as to a replay, or meets a failure of the database. -/
theorem act_unsaved {r : EdgeV2Message H} (hdb : srv.db.WellFormed hash)
    (hr : r ∈ srv.db.messages) (hkey : r.key = (calls i).payload.key)
    (hscope : validateScope (calls i).payload (calls i).device = .ok ()) (hp : p.Unsaved) :
    Sat (act hash project calls i srv p reply) fun _ p' _ =>
      p'.Unsaved ∨ p' = .done (replay r (digest hash (calls i).original)) ∨
        p' = .done (.raised unavailable) ∧ reply.answer = .failure := by
  have hreceipt := receipt?_eq_some hdb.receipts hr hkey
  cases p with
  | called => simp +contextual [act, hscope, hreceipt]
  | locking =>
    refine sat_looked.2 ⟨fun _ => ?_, fun h => by simp [h]⟩
    split_ifs <;> simp [Progress.Unsaved]
  | inserting =>
    simp only [act, hreceipt]
    split <;> simp [Progress.Unsaved, *]
  | rejected =>
    refine sat_looked.2 ⟨fun _ => ?_, fun h => by simp [h]⟩
    simp [hreceipt]
  | collecting | finding | saving | projecting | flushing | committing | done => exact hp.elim

/-- What becomes of a call that had not inserted its message when there was a receipt of it. -/
def Replays (hash : Json → H) (calls : ι → Call) (i : ι) (r : EdgeV2Message H)
    (es : List (CallStep ι H P)) (p : Progress H P) : Prop :=
  p.Unsaved ∨ p = .done (replay r (digest hash (calls i).original)) ∨
    p = .done (.raised unavailable) ∧ ∃ f ∈ es, f.op.1 = i ∧ f.op.2.answer = .failure

theorem Replays.of_run {r : EdgeV2Message H}
    (hrun : Run (interleave (act hash project calls)) s₀ es s)
    (hinv : s₀.store.db.WellFormed hash ∧ ∀ i, CallInv hash project calls i s₀.store (s₀.locals i))
    (hr : r ∈ s₀.store.db.messages) (hkey : r.key = (calls i).payload.key)
    (hscope : validateScope (calls i).payload (calls i).device = .ok ())
    (hp : (s₀.locals i).Unsaved) : Replays hash calls i r es (s.locals i) := by
  induction hrun with
  | nil => exact Or.inl hp
  | @snoc es s s' op out hrun hstep ih =>
    obtain ⟨hact, hframe⟩ := interleave_cases hstep
    by_cases hi : i = op.1
    · subst hi
      rcases ih with hp | hp | ⟨hp, f, hf, hfail⟩
      · have hdb := (guarded.of_run hinv.1 hinv.2 hrun).1
        rcases act_unsaved hdb ((run_grows hrun).1 hr) hkey hscope hp _ _ _ hact with
          hp | hp | ⟨hp, hfail⟩
        · exact Or.inl hp
        · exact Or.inr (Or.inl hp)
        · exact Or.inr (Or.inr ⟨hp, _, List.mem_append_right _ (List.mem_singleton_self _), rfl,
            hfail⟩)
      · exact ((act_effect _ _ _ hact).notDone _ hp).elim
      · exact ((act_effect _ _ _ hact).notDone _ hp).elim
    · rw [hframe i hi]
      rcases ih with hp | hp | ⟨hp, f, hf, hfail⟩
      · exact Or.inl hp
      · exact Or.inr (Or.inl hp)
      · exact Or.inr (Or.inr ⟨hp, f, List.mem_append_left _ hf, hfail⟩)

/-! ## Exactly once -/

/-- The answer to a call when there is a receipt `r` of its message, made for `body`. -/
structure ReplayAnswer (call : Call) (r : EdgeV2Message H) (body : Json) (o : Outcome) : Prop where
  identical : body.canonical = call.original.canonical →
    o = .acknowledged ⟨r.messageId, true, r.receivedAt⟩
  different : body.canonical ≠ call.original.canonical → o = .raised idempotencyConflict

/-- What every run of calls, with the steps `es`, has led to in the state `s`. -/
structure ExactlyOnce (hash : Json → H)
    (project : Call → EdgeV2Message H → Database H P → Option P) (calls : ι → Call)
    (es : List (CallStep ι H P)) (s : System ι H P) : Prop where
  /-- There is one receipt of a message at most. -/
  receipts : (s.store.db.messages.map EdgeV2Message.key).Nodup
  /-- A call within its device's scope that looks its receipt up and finds it ends there: with the
  original receipt if its body is that of the receipt, with a conflict if it is not. -/
  answered : ∀ e ∈ es, e.pre.locals e.op.1 = .called ∨ e.pre.locals e.op.1 = .rejected →
    validateScope (calls e.op.1).payload (calls e.op.1).device = .ok () → e.op.2.answer = .ok →
    ∀ r ∈ e.pre.store.db.messages, r.key = (calls e.op.1).payload.key →
    ∀ body, r.bodyHash = digest hash body →
      ∃ o, e.out = some o ∧ ReplayAnswer (calls e.op.1) r body o
  /-- So does every call that takes a step before it has inserted its message, when there is a
  receipt of the message, unless the database fails it. -/
  replayed : ∀ e ∈ es, (e.pre.locals e.op.1).Unsaved →
    validateScope (calls e.op.1).payload (calls e.op.1).device = .ok () →
    (∀ f ∈ es, f.op.1 = e.op.1 → f.op.2.answer ≠ .failure) →
    ∀ r ∈ e.pre.store.db.messages, r.key = (calls e.op.1).payload.key →
    ∀ body, r.bodyHash = digest hash body →
    ∀ o, s.locals e.op.1 = .done o → ReplayAnswer (calls e.op.1) r body o
  /-- A call that does not acknowledge a message of its own changes nothing: an acknowledged
  replay, a conflict, an error, an exception. -/
  unchanged : ∀ i o, s.locals i = .done o →
    (∀ ack, o = .acknowledged ack → ack.duplicate = true) →
    ∀ e ∈ es, e.op.1 = i → e.post.store.db = e.pre.store.db
  /-- An artifact that was committed is still there, as it was, and is the only one of its key. -/
  immutable : ∀ e ∈ es, ∀ a ∈ e.pre.store.db.artifacts, a ∈ s.store.db.artifacts ∧
    ∀ a' ∈ s.store.db.artifacts, a'.siteId = a.siteId → a'.edgeId = a.edgeId → a'.kind = a.kind →
      a'.artifactKey = a.artifactKey → a' = a
  /-- With the acknowledgment of a new message its receipt, its artifacts and the projection of
  its observation are committed in one step. -/
  together : ∀ e ∈ es, ∀ ack, e.out = some (.acknowledged ack) → ack.duplicate = false →
    e.pre.store.db.receipt? (calls e.op.1).payload = none ∧
    newMessage hash (calls e.op.1) ack.receivedAt ∈ e.post.store.db.messages ∧
    ack.messageId = (calls e.op.1).payload.messageId ∧
    (∀ a ∈ additions (calls e.op.1).payload, ∃ row ∈ e.post.store.db.artifacts,
      Stores hash (calls e.op.1).payload (identified hash a) row) ∧
    ((calls e.op.1).compact → ∃ seen : Database H P,
      seen.projections (calls e.op.1).payload.source =
        e.pre.store.db.projections (calls e.op.1).payload.source ∧
      project (calls e.op.1) (newMessage hash (calls e.op.1) ack.receivedAt) seen =
        some (e.post.store.db.projections (calls e.op.1).payload.source))

theorem replay_answer (hhash : Function.Injective hash) {call : Call} {r : EdgeV2Message H}
    {body : Json} (hbody : r.bodyHash = digest hash body) :
    ReplayAnswer call r body (replay r (digest hash call.original)) := by
  have hiff : r.bodyHash = digest hash call.original ↔
      body.canonical = call.original.canonical := by
    rw [hbody]
    exact hhash.eq_iff
  exact ⟨fun h => if_neg (not_not.2 (hiff.2 h)), fun h => if_pos (mt hiff.1 h)⟩

/-- A lookup that finds a receipt ends the call. -/
theorem act_lookup {r : EdgeV2Message H} (hdb : srv.db.WellFormed hash)
    (hr : r ∈ srv.db.messages) (hkey : r.key = (calls i).payload.key)
    (hscope : validateScope (calls i).payload (calls i).device = .ok ())
    (hanswer : reply.answer = .ok) (hp : p = .called ∨ p = .rejected) :
    Sat (act hash project calls i srv p reply) fun _ _ out =>
      out = some (replay r (digest hash (calls i).original)) := by
  have hreceipt := receipt?_eq_some hdb.receipts hr hkey
  rcases hp with rfl | rfl <;> simp [act, hscope, hreceipt, hanswer]

/-- What the step does in which a call acknowledges its own message. -/
theorem stored_together {e : CallStep ι H P} {ack : StorageAck}
    (hinv : CallInv hash project calls e.op.1 e.pre.store (e.pre.locals e.op.1))
    (hstep : interleave (act hash project calls) e.pre e.op = some (e.post, e.out))
    (hout : e.out = some (.acknowledged ack)) (hnew : ack.duplicate = false) :
    ∃ tx : Transaction H P, ack = receipt tx.message false ∧
      e.post.store.db = e.pre.store.db.write (calls e.op.1).payload.source tx ∧
      e.pre.store.db.receipt? (calls e.op.1).payload = none ∧
      Written hash (calls e.op.1) e.pre.store.db tx ∧
      Projected project (calls e.op.1) e.pre.store.db tx := by
  rcases (step_effect hstep).writes with ⟨-, hdup⟩ | ⟨tx, hp, hdb, hreceipt, -, hout'⟩
  · rw [hdup ack hout] at hnew
    simp at hnew
  · rw [hp] at hinv
    rw [hout] at hout'
    exact ⟨tx, Outcome.acknowledged.inj (Option.some.inj hout'), hdb, hreceipt, hinv.2⟩

/-- **Every message is received exactly once.** -/
theorem exactly_once (hhash : Function.Injective hash) (hdb : db.WellFormed hash)
    (hrun : Run (interleave (act hash project calls)) (System.initial db) es s) :
    ExactlyOnce hash project calls es s where
  receipts := (of_run hdb hrun).1.receipts
  answered := by
    intro e he hp hscope hanswer r hr hkey body hbody
    obtain ⟨pre, post, rfl⟩ := List.append_of_mem he
    obtain ⟨hpre, hstep⟩ := hrun.of_append_cons
    have hout := act_lookup (of_run hdb hpre).1 hr hkey hscope hanswer hp _ _ _
      (interleave_cases hstep).1
    exact ⟨_, hout, replay_answer hhash hbody⟩
  replayed := by
    intro e he hp hscope hfail r hr hkey body hbody o ho
    obtain ⟨pre, post, rfl⟩ := List.append_of_mem he
    obtain ⟨hpre, hstep⟩ := hrun.of_append_cons
    have hreplays := Replays.of_run (hrun.rest.cons hstep) (of_run hdb hpre) hr hkey hscope hp
    rw [ho] at hreplays
    rcases hreplays with hp | hp | ⟨-, f, hf, hi, hanswer⟩
    · exact hp.elim
    · rw [Progress.done.inj hp]
      exact replay_answer hhash hbody
    · exact (hfail f (List.mem_append_right _ hf) hi hanswer).elim
  unchanged := by
    intro i o ho hdup e he hi
    by_contra hchange
    obtain ⟨tx, htx⟩ := changes_only_when_stored hrun he hchange
    rw [hi, ho] at htx
    have := hdup _ (Progress.done.inj htx)
    simp [receipt] at this
  immutable := by
    intro e he a ha
    obtain ⟨pre, post, rfl⟩ := List.append_of_mem he
    have hmem := (run_grows (hrun.rest.cons hrun.of_append_cons.2)).2 ha
    refine ⟨hmem, fun a' ha' hsite hedge hkind hkey => ?_⟩
    obtain ⟨-, hunique, hdigests⟩ := (of_run hdb hrun).1
    refine List.inj_on_of_nodup_map hunique ha' hmem ?_
    simp only [EdgeV2Artifact.key, hsite, hedge, hkind, hdigests a' ha', hdigests a hmem, hkey]
  together := by
    intro e he ack hout hnew
    obtain ⟨pre, post, rfl⟩ := List.append_of_mem he
    obtain ⟨hpre, hstep⟩ := hrun.of_append_cons
    obtain ⟨tx, rfl, hpost, hreceipt, ⟨⟨now, hmessage⟩, artifacts, haccounted⟩, hprojected⟩ :=
      stored_together ((of_run hdb hpre).2 e.op.1) hstep hout hnew
    have hnow : newMessage hash (calls e.op.1) (receipt tx.message false).receivedAt =
        tx.message := by rw [hmessage]; rfl
    rw [hnow, hpost]
    refine ⟨hreceipt, by simp [Database.write], by rw [hmessage]; rfl, fun a ha => ?_,
      fun hc => ?_⟩
    · exact haccounted.stored _ (collect_mem haccounted.collected a ha)
    · rw [Projected, if_pos hc] at hprojected
      obtain ⟨seen, projection, hp, hseen, hproject⟩ := hprojected
      refine ⟨seen, hseen, ?_⟩
      rw [hproject]
      simp [Database.write, hp]

/-! ### Three calls for one message

The second call starts before the first has committed, and the third brings another body. -/

def toyDevice : EdgeV2Device where
  siteId := "site-demo"
  edgeId := "edge-demo"
  sensorIds := ["lidar-a", "lidar-b"]
  two_sensors := rfl
  distinct_sensors := by decide

def toyStatus (reasonCode : String) : Payload where
  messageId := "m-1"
  siteId := "site-demo"
  edgeId := "edge-demo"
  generatedAt := 0
  configRevision := "cfg-1"
  body := .statusReport ⟨"instance-1", 1, .healthy, [reasonCode], ["lidar-a", "lidar-b"]⟩
  dump := [("message_id", .str "m-1"), ("reason_codes", .arr [.str reasonCode])]

def toyCalls (i : Fin 3) : Call :=
  let payload := toyStatus (if i = 2 then "LATE" else "OK")
  ⟨payload, .obj payload.dump, toyDevice, true⟩

def toyOps : List (Fin 3 × Reply) :=
  [(0, ⟨.ok, 7⟩), (1, ⟨.ok, 7⟩)] ++ List.replicate 9 (0, ⟨.ok, 7⟩) ++
    [(1, ⟨.ok, 8⟩), (1, ⟨.integrityError, 8⟩), (1, ⟨.ok, 8⟩), (2, ⟨.ok, 9⟩)]

/-- The theorem on the three calls. -/
theorem exactly_once_replay : ∃ es s,
    Run (interleave (act id
      (fun _ _ db => some (db.projections ("site-demo", "edge-demo") + 1)) toyCalls))
      (System.initial ⟨[], [], fun _ => 0⟩) es s ∧
    ExactlyOnce (P := ℕ) id (fun _ _ db => some (db.projections ("site-demo", "edge-demo") + 1))
      toyCalls es s ∧
    s.locals 0 = .done (.acknowledged ⟨"m-1", false, 7⟩) ∧
    s.locals 1 = .done (.acknowledged ⟨"m-1", true, 7⟩) ∧
    s.locals 2 = .done (.raised idempotencyConflict) := by
  have hresult : (exec (interleave (act id
      (fun _ _ db => some (db.projections ("site-demo", "edge-demo") + 1)) toyCalls))
      (System.initial ⟨[], [], fun _ => 0⟩) toyOps).map
        (fun r => [0, 1, 2].map fun i => (r.2.locals i).outcome?) =
      some [some (.acknowledged ⟨"m-1", false, 7⟩), some (.acknowledged ⟨"m-1", true, 7⟩),
        some (.raised idempotencyConflict)] := by decide +kernel
  obtain ⟨⟨es, s⟩, hexec, hs⟩ := Option.map_eq_some_iff.1 hresult
  simp only [List.map_cons, List.map_nil, List.cons.injEq, Progress.outcome?_eq_some, and_true]
    at hs
  exact ⟨es, s, .of_exec hexec,
    exactly_once Function.injective_id ⟨by simp, by simp, by simp⟩ (.of_exec hexec), hs⟩

end ScrapMonitoring.EdgeV2
