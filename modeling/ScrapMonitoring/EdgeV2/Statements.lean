import ScrapMonitoring.EdgeV2.Receiver

/-!
# What the statements of a call do

`Sat next Q` says that whatever a statement leads to satisfies `Q`; its rules take the pieces of
`act` apart. `act_effect` is what a statement can do to the server: it writes to the database only
when it commits. `CallInv` is what a call knows in each place it can stand, whatever the other
calls do (`guarded`): its transaction holds its own message, every artifact of the message is in a
row, committed or its own, and its projection was computed from the device's committed
observation.
-/

namespace ScrapMonitoring.EdgeV2

variable {ι H P : Type*} [DecidableEq ι] [DecidableEq H]
variable {hash : Json → H} {project : Call → EdgeV2Message H → Database H P → Option P}
variable {calls : ι → Call} {i : ι} {srv srv' : Server ι H P} {p p' : Progress H P}
variable {reply : Reply} {out : Option Outcome}

/-- Whatever the statement leads to satisfies `Q`. -/
def Sat (next : Next ι H P) (Q : Server ι H P → Progress H P → Option Outcome → Prop) : Prop :=
  ∀ srv p out, next = some (srv, p, out) → Q srv p out

section

variable {Q : Server ι H P → Progress H P → Option Outcome → Prop} {next : Next ι H P}
variable {outcome : Outcome}

omit [DecidableEq ι] [DecidableEq H] in
@[simp] theorem sat_none : Sat (none : Next ι H P) Q := by
  intro _ _ _ h
  simp at h

omit [DecidableEq ι] [DecidableEq H] in
@[simp] theorem sat_goOn : Sat (goOn srv p) Q ↔ Q srv p none := by
  simp [Sat, goOn]

omit [DecidableEq H] in
@[simp] theorem sat_finish :
    Sat (finish i srv outcome) Q ↔ Q (srv.release i) (.done outcome) (some outcome) := by
  simp [Sat, finish]

omit [DecidableEq H] in
@[simp] theorem sat_looked : Sat (looked i srv reply next) Q ↔
    (reply.answer = .ok → Sat next Q) ∧
      (reply.answer = .failure → Sat (finish i srv (.raised unavailable)) Q) := by
  unfold looked
  split <;> simp [*]

omit [DecidableEq H] in
@[simp] theorem sat_executed : Sat (executed i srv reply next) Q ↔
    (reply.answer = .ok → Sat next Q) ∧
      (reply.answer ≠ .ok → Sat (finish i srv (.raised unavailable)) Q) := by
  unfold executed
  split <;> simp [*]

end

/-! ## What a statement does to the server -/

/-- The acknowledgment of a message that the call itself has stored. -/
def stored (tx : Transaction H P) : Outcome := .acknowledged (receipt tx.message false)

/-- A statement writes the transaction at its commit and nothing otherwise; it takes no lock of
another call away. A call that has an outcome is done. -/
structure Effect (calls : ι → Call) (i : ι) (srv : Server ι H P) (p : Progress H P)
    (srv' : Server ι H P) (p' : Progress H P) (out : Option Outcome) : Prop where
  writes : srv'.db = srv.db ∧ (∀ ack, out = some (.acknowledged ack) → ack.duplicate = true) ∨
    ∃ tx, p = .committing tx ∧ srv'.db = srv.db.write (calls i).payload.source tx ∧
      srv.db.receipt? (calls i).payload = none ∧ srv.db.admits tx.artifacts ∧
      out = some (stored tx)
  locks : ∀ j, j ≠ i → ∀ d, srv.locks d = some j → srv'.locks d = some j
  outcome : ∀ o, out = some o ↔ p' = .done o
  notDone : ∀ o, p ≠ .done o

omit [DecidableEq H] in
theorem Server.release_locks {j : ι} (hj : j ≠ i) {d : String × String}
    (h : srv.locks d = some j) : (srv.release i).locks d = some j := by
  simp [Server.release, h, hj]

omit [DecidableEq ι] in
theorem Effect.goOn (hp : ∀ o, p ≠ .done o) (hp' : ∀ o, p' ≠ .done o) :
    Effect calls i srv p srv p' none where
  writes := Or.inl ⟨rfl, by simp⟩
  locks _ _ _ h := h
  outcome o := by simp [hp']
  notDone := hp

theorem Effect.finish {outcome : Outcome} (hp : ∀ o, p ≠ .done o)
    (ho : ∀ ack, outcome = .acknowledged ack → ack.duplicate = true) :
    Effect calls i srv p (srv.release i) (.done outcome) (some outcome) where
  writes := Or.inl ⟨rfl, fun ack h => ho ack (Option.some.inj h)⟩
  locks _ hj _ h := Server.release_locks hj h
  outcome o := by simp
  notDone := hp

theorem replay_duplicate (existing : EdgeV2Message H) (bodyHash : H) (ack : StorageAck)
    (h : replay existing bodyHash = .acknowledged ack) : ack.duplicate = true := by
  unfold replay at h
  split_ifs at h
  obtain rfl := Outcome.acknowledged.inj h
  rfl

/-- **What a statement does to the server.** -/
theorem act_effect : Sat (act hash project calls i srv p reply) (Effect calls i srv p) := by
  have hraised : ∀ {p : Progress H P} {e : EdgeV2Error}, (∀ o, p ≠ .done o) →
      Effect calls i srv p (srv.release i) (.done (.raised e)) (some (.raised e)) :=
    fun hp => .finish hp (by simp)
  cases p with
  | called =>
    simp only [act]
    split
    · exact sat_finish.2 (hraised (by simp))
    · refine sat_looked.2 ⟨fun _ => ?_, fun _ => sat_finish.2 (hraised (by simp))⟩
      split
      · exact sat_finish.2 (.finish (by simp) (replay_duplicate _ _))
      · refine sat_goOn.2 (.goOn (by simp) ?_)
        split_ifs <;> simp
  | locking =>
    refine sat_looked.2 ⟨fun _ => ?_, fun _ => sat_finish.2 (hraised (by simp))⟩
    split_ifs with hfree
    · refine sat_goOn.2 ⟨Or.inl ⟨rfl, by simp⟩, fun j _ d h => ?_, by simp, by simp⟩
      simp only [Server.lock]
      rw [Function.update_of_ne ?_, h]
      rintro rfl
      simp [hfree] at h
    · exact sat_none
  | inserting =>
    simp only [act]
    split
    · split_ifs
      · exact sat_goOn.2 (.goOn (by simp) (by simp))
      · exact sat_none
    · exact sat_goOn.2 ⟨Or.inl ⟨rfl, by simp⟩, fun _ hj _ h => Server.release_locks hj h, by simp,
        by simp⟩
    · exact sat_finish.2 (hraised (by simp))
  | rejected =>
    refine sat_looked.2 ⟨fun _ => ?_, fun _ => sat_finish.2 (hraised (by simp))⟩
    split
    · exact sat_finish.2 (hraised (by simp))
    · exact sat_finish.2 (.finish (by simp) (replay_duplicate _ _))
  | collecting tx =>
    simp only [act]
    split
    · exact sat_finish.2 (hraised (by simp))
    · exact sat_goOn.2 (.goOn (by simp) (by simp))
  | finding tx artifacts attempt chunks found =>
    cases chunks with
    | nil =>
      simp only [act]
      split
      · exact sat_finish.2 (hraised (by simp))
      · exact sat_goOn.2 (.goOn (by simp) (by simp))
      · exact sat_goOn.2 (.goOn (by simp) (by simp))
    | cons chunk rest =>
      exact sat_looked.2 ⟨fun _ => sat_goOn.2 (.goOn (by simp) (by simp)),
        fun _ => sat_finish.2 (hraised (by simp))⟩
  | saving tx artifacts attempt rows =>
    simp only [act]
    split
    · split_ifs
      · exact sat_goOn.2 (.goOn (by simp) (by simp))
      · exact sat_none
    · split_ifs
      · exact sat_finish.2 (hraised (by simp))
      · exact sat_goOn.2 (.goOn (by simp) (by simp))
    · exact sat_finish.2 (hraised (by simp))
  | projecting tx =>
    simp only [act]
    split_ifs
    · refine sat_executed.2 ⟨fun _ => ?_, fun _ => sat_finish.2 (hraised (by simp))⟩
      split
      · exact sat_finish.2 (.finish (by simp) (by simp))
      · exact sat_goOn.2 (.goOn (by simp) (by simp))
    · exact sat_goOn.2 (.goOn (by simp) (by simp))
  | flushing tx =>
    exact sat_executed.2 ⟨fun _ => sat_goOn.2 (.goOn (by simp) (by simp)),
      fun _ => sat_finish.2 (hraised (by simp))⟩
  | committing tx =>
    refine sat_executed.2 ⟨fun _ => ?_, fun _ => sat_finish.2 (hraised (by simp))⟩
    split_ifs with hnew
    · rintro srv' p' out h
      obtain ⟨rfl, rfl, rfl⟩ := by simpa using h
      exact ⟨Or.inr ⟨tx, rfl, rfl, hnew.1, hnew.2, rfl⟩,
        fun _ hj _ h => Server.release_locks hj h, by simp, by simp⟩
    · exact sat_none
  | done o => exact sat_none

/-! ## What a call knows -/

/-- Rows are unique in their unique columns, and an artifact's hash is that of its key. -/
structure Database.WellFormed (hash : Json → H) (db : Database H P) : Prop where
  receipts : (db.messages.map EdgeV2Message.key).Nodup
  artifacts : (db.artifacts.map EdgeV2Artifact.key).Nodup
  digests : ∀ row ∈ db.artifacts, row.keyHash = digest hash (.arr row.artifactKey)

/-- A call in compact storage holds the filter row of its device. -/
def Locked (calls : ι → Call) (i : ι) (srv : Server ι H P) : Prop :=
  (calls i).compact → srv.locks (calls i).payload.source = some i

/-- A transaction that has inserted its message and nothing else. -/
def Opened (hash : Json → H) (call : Call) (tx : Transaction H P) : Prop :=
  ∃ now, tx = ⟨newMessage hash call now, [], none⟩

/-- Every artifact of the message is in a committed row or in one of `rows`, which are new rows
of its artifacts. -/
structure Accounted (hash : Json → H) (call : Call) (db : Database H P) (artifacts : Artifacts H)
    (rows : List (EdgeV2Artifact H)) : Prop where
  collected : collect hash call.payload = .ok artifacts
  stored : ∀ artifact ∈ artifacts, ∃ row ∈ db.artifacts ++ rows,
    Stores hash call.payload artifact row
  new : ∀ row ∈ rows, ∃ artifact ∈ artifacts,
    row = newArtifact hash call.compact call.payload artifact

/-- A transaction that has stored its message and its artifacts. -/
def Written (hash : Json → H) (call : Call) (db : Database H P) (tx : Transaction H P) : Prop :=
  (∃ now, tx.message = newMessage hash call now) ∧
    ∃ artifacts, Accounted hash call db artifacts tx.artifacts

/-- In compact storage the transaction holds the projection of its message, computed from the
committed observation of the device. -/
def Projected (project : Call → EdgeV2Message H → Database H P → Option P) (call : Call)
    (db : Database H P) (tx : Transaction H P) : Prop :=
  if call.compact then
    ∃ seen projection, tx.projection = some projection ∧
      seen.projections call.payload.source = db.projections call.payload.source ∧
      project call tx.message seen = some projection
  else tx.projection = none

/-- What a call knows, by where it stands. -/
def CallInv (hash : Json → H) (project : Call → EdgeV2Message H → Database H P → Option P)
    (calls : ι → Call) (i : ι) (srv : Server ι H P) : Progress H P → Prop
  | .called | .locking | .rejected | .done _ => True
  | .inserting => Locked calls i srv
  | .collecting tx => Locked calls i srv ∧ Opened hash (calls i) tx
  | .finding tx artifacts _ _ found => Locked calls i srv ∧ Opened hash (calls i) tx ∧
      collect hash (calls i).payload = .ok artifacts ∧
      ∀ row ∈ found, row ∈ srv.db.artifacts ∧ (row.siteId, row.edgeId) = (calls i).payload.source
  | .saving tx artifacts _ rows => Locked calls i srv ∧ Opened hash (calls i) tx ∧
      Accounted hash (calls i) srv.db artifacts rows
  | .projecting tx => Locked calls i srv ∧ Written hash (calls i) srv.db tx ∧ tx.projection = none
  | .flushing tx | .committing tx => Locked calls i srv ∧ Written hash (calls i) srv.db tx ∧
      Projected project (calls i) srv.db tx

/-- What the other calls may do, as the call `i` sees it: committed artifacts stay, and what is
locked for the call stays locked and as it is. -/
structure Rely (i : ι) (srv srv' : Server ι H P) : Prop where
  artifacts : srv.db.artifacts ⊆ srv'.db.artifacts
  locks : ∀ d, srv.locks d = some i → srv'.locks d = some i
  projections : ∀ d, srv.locks d = some i → srv'.db.projections d = srv.db.projections d

omit [DecidableEq ι] [DecidableEq H] in
theorem Locked.stable (h : Locked calls i srv) (hrely : Rely i srv srv') : Locked calls i srv' :=
  fun hc => hrely.locks _ (h hc)

omit [DecidableEq ι] in
theorem Accounted.stable {call : Call} {artifacts : Artifacts H} {rows : List (EdgeV2Artifact H)}
    (h : Accounted hash call srv.db artifacts rows) (hrely : Rely i srv srv') :
    Accounted hash call srv'.db artifacts rows where
  collected := h.collected
  stored a ha := by
    obtain ⟨row, hrow, hstores⟩ := h.stored a ha
    refine ⟨row, ?_, hstores⟩
    rw [List.mem_append] at hrow ⊢
    exact hrow.imp_left fun h => hrely.artifacts h
  new := h.new

omit [DecidableEq ι] in
theorem Written.stable {call : Call} {tx : Transaction H P} (h : Written hash call srv.db tx)
    (hrely : Rely i srv srv') : Written hash call srv'.db tx := by
  obtain ⟨hmessage, artifacts, ha⟩ := h
  exact ⟨hmessage, artifacts, ha.stable hrely⟩

omit [DecidableEq ι] [DecidableEq H] in
theorem Projected.stable {tx : Transaction H P} (h : Projected project (calls i) srv.db tx)
    (hlocked : Locked calls i srv) (hrely : Rely i srv srv') :
    Projected project (calls i) srv'.db tx := by
  unfold Projected at h ⊢
  split_ifs at h ⊢ with hc
  · obtain ⟨seen, projection, hp, hseen, hproject⟩ := h
    exact ⟨seen, projection, hp, hseen.trans (hrely.projections _ (hlocked hc)).symm, hproject⟩
  · exact h

omit [DecidableEq ι] in
/-- What a call knows stays true whatever the others do. -/
theorem CallInv.stable (h : CallInv hash project calls i srv p) (hrely : Rely i srv srv') :
    CallInv hash project calls i srv' p := by
  cases p with
  | called | locking | rejected | done => trivial
  | inserting => exact Locked.stable h hrely
  | collecting tx => exact ⟨h.1.stable hrely, h.2⟩
  | finding =>
    obtain ⟨hlocked, hopened, hcollect, hfound⟩ := h
    exact ⟨hlocked.stable hrely, hopened, hcollect,
      fun row hrow => ⟨hrely.artifacts (hfound row hrow).1, (hfound row hrow).2⟩⟩
  | saving => exact ⟨h.1.stable hrely, h.2.1, h.2.2.stable hrely⟩
  | projecting => exact ⟨h.1.stable hrely, h.2.1.stable hrely, h.2.2⟩
  | flushing | committing =>
    exact ⟨h.1.stable hrely, h.2.1.stable hrely, h.2.2.stable h.1 hrely⟩

omit [DecidableEq ι] in
theorem mem_select {db : Database H P} {payload : Payload} {identities : List (Identity H)}
    {row : EdgeV2Artifact H} (h : row ∈ db.select payload identities) :
    row ∈ db.artifacts ∧ (row.siteId, row.edgeId) = payload.source := by
  simp only [Database.select, List.mem_filter, decide_eq_true_eq] at h
  exact ⟨h.1, h.2.1⟩

/-- A call keeps what it knows by its own statements. -/
theorem CallInv.act (h : CallInv hash project calls i srv p) :
    Sat (act hash project calls i srv p reply)
      fun srv' p' _ => CallInv hash project calls i srv' p' := by
  cases p with
  | called =>
    simp only [EdgeV2.act]
    split
    · simp [CallInv]
    · refine sat_looked.2 ⟨fun _ => ?_, fun _ => by simp [CallInv]⟩
      split
      · simp [CallInv]
      · rw [sat_goOn]
        split_ifs with hc
        · trivial
        · exact fun hc' => (hc hc').elim
  | locking =>
    refine sat_looked.2 ⟨fun _ => ?_, fun _ => by simp [CallInv]⟩
    split_ifs
    · exact sat_goOn.2 fun _ => Function.update_self ..
    · exact sat_none
  | inserting =>
    simp only [EdgeV2.act]
    split
    · split_ifs
      · exact sat_goOn.2 ⟨h, reply.now, rfl⟩
      · exact sat_none
    · simp [CallInv]
    · simp [CallInv]
  | rejected =>
    refine sat_looked.2 ⟨fun _ => ?_, fun _ => by simp [CallInv]⟩
    split <;> simp [CallInv]
  | collecting tx =>
    simp only [EdgeV2.act]
    split
    · simp [CallInv]
    · rename_i artifacts hcollect
      exact sat_goOn.2 ⟨h.1, h.2, hcollect, by simp⟩
  | finding tx artifacts attempt chunks found =>
    obtain ⟨hlocked, ⟨now, rfl⟩, hcollect, hfound⟩ := h
    cases chunks with
    | nil =>
      simp only [EdgeV2.act]
      have haccounted : ∀ rows, missing hash (calls i).compact (calls i).payload found artifacts =
          .ok rows → Accounted hash (calls i) srv.db artifacts rows := by
        intro rows hrows
        obtain ⟨hstored, hnew⟩ := missing_spec (fun row hrow => (hfound row hrow).2) hrows
        refine ⟨hcollect, fun a ha => ?_, hnew⟩
        obtain ⟨row, hrow, hstores⟩ := hstored a ha
        refine ⟨row, ?_, hstores⟩
        rw [List.mem_append] at hrow ⊢
        exact hrow.imp_left fun h => (hfound row h).1
      split
      · simp [CallInv]
      · rename_i hrows
        exact sat_goOn.2 ⟨hlocked, ⟨⟨now, rfl⟩, artifacts, haccounted _ hrows⟩, rfl⟩
      · rename_i hrows
        exact sat_goOn.2 ⟨hlocked, ⟨now, rfl⟩, haccounted _ hrows⟩
    | cons chunk rest =>
      refine sat_looked.2 ⟨fun _ => sat_goOn.2 ⟨hlocked, ⟨now, rfl⟩, hcollect, ?_⟩,
        fun _ => by simp [CallInv]⟩
      intro row hrow
      rcases List.mem_append.1 hrow with hrow | hrow
      · exact mem_select (List.mem_reverse.1 hrow)
      · exact hfound row hrow
  | saving tx artifacts attempt rows =>
    obtain ⟨hlocked, ⟨now, rfl⟩, haccounted⟩ := h
    simp only [EdgeV2.act]
    split
    · split_ifs
      · exact sat_goOn.2 ⟨hlocked, ⟨⟨now, rfl⟩, artifacts, haccounted⟩, rfl⟩
      · exact sat_none
    · split_ifs
      · simp [CallInv]
      · exact sat_goOn.2 ⟨hlocked, ⟨now, rfl⟩, haccounted.collected, by simp⟩
    · simp [CallInv]
  | projecting tx =>
    obtain ⟨hlocked, hwritten, hprojection⟩ := h
    simp only [EdgeV2.act]
    split_ifs with hc
    · refine sat_executed.2 ⟨fun _ => ?_, fun _ => by simp [CallInv]⟩
      split
      · simp [CallInv]
      · rename_i projection hproject
        refine sat_goOn.2 ⟨hlocked, hwritten, ?_⟩
        rw [Projected, if_pos hc]
        refine ⟨_, projection, rfl, ?_, hproject⟩
        simp [Database.write, hprojection]
    · exact sat_goOn.2 ⟨hlocked, hwritten, by rwa [Projected, if_neg hc]⟩
  | flushing tx => exact sat_executed.2 ⟨fun _ => sat_goOn.2 h, fun _ => by simp [CallInv]⟩
  | committing tx =>
    refine sat_executed.2 ⟨fun _ => ?_, fun _ => by simp [CallInv]⟩
    split_ifs
    · simp [Sat, CallInv]
    · exact sat_none
  | done o => exact sat_none

end ScrapMonitoring.EdgeV2
