import ScrapMonitoring.EdgeV2.DeviceStatus
import ScrapMonitoring.EdgeV2.ExactlyOnce

/-!
# The latest measurement and the latest state

`project` replaces the retained measurement or state of a device when a message was generated later
than the retained one. Whatever else is projected in between, and in whatever order, the row is the
newest observation of its kind, the first to arrive among equals (`projectAll_eq`). That is the one
which a reader of full storage selects (`latest_newest`).
-/

namespace ScrapMonitoring.EdgeV2

variable {H : Type*} {validate : Json → Option StatusMessage}

/-- A message that was accepted; the type of an assessment is the one that its body states. -/
structure Delivery where
  payload : Payload
  original : Json
  device : EdgeV2Device
  receivedAt : ℤ
  typed : ∀ type id revision, payload.body = .assessment type id revision →
    original.member? "assessment_type" = some (.str type.text)

namespace Delivery

def generatedAt (m : Delivery) : ℤ := m.payload.generatedAt

/-- The row that retains the message. -/
def latest (m : Delivery) : EdgeV2Latest := ⟨m.payload.messageId, m.generatedAt, m.original⟩

/-- The receipt in full storage. -/
def row (hash : Json → H) (m : Delivery) : EdgeV2Message H :=
  newMessage hash ⟨m.payload, m.original, m.device, false⟩ m.receivedAt

end Delivery

/-! ## The table -/

/-- `edge_v2_latest`, by device and kind. -/
abbrev LatestTable := String × String → LatestKind → Option EdgeV2Latest

/-- `project`, for the table; `none` stands for the error of a stored status that is not valid. -/
def project (validate : Json → Option StatusMessage) (table : LatestTable) (m : Delivery) :
    Option LatestTable :=
  match m.payload.latestKind? with
  | none => some table
  | some kind =>
    (projectLatest validate m.payload m.original (table m.payload.source kind)).map fun row =>
      Function.update table m.payload.source
        (Function.update (table m.payload.source) kind (some row))

/-- Messages in the order in which they are projected. -/
def projectAll (validate : Json → Option StatusMessage) (l : List Delivery) : Option LatestTable :=
  l.foldlM (project validate) fun _ _ => none

/-- The observations of a device that can be the latest of a kind. -/
def observations (source : String × String) (kind : LatestKind) (l : List Delivery) :
    List Delivery :=
  l.filter fun m => m.payload.source = source ∧ m.payload.latestKind? = some kind

/-! ## What a message does to a row -/

theorem latestKind?_status {payload : Payload} {kind : LatestKind} (hkind : kind ≠ .status)
    (h : payload.latestKind? = some kind) : payload.statusReport? = none := by
  unfold Payload.latestKind? at h
  unfold Payload.statusReport?
  split at h
  · next hbody => rw [hbody]
  · next hbody => rw [hbody]
  · exact absurd (Option.some.inj h).symm hkind
  · cases h
  · cases h
  · cases h

/-- A message leaves the rows of other devices and kinds as they are. -/
theorem project_frame {table table' : LatestTable} {m : Delivery}
    (h : project validate table m = some table') {source : String × String} {kind : LatestKind}
    (hm : ¬(m.payload.source = source ∧ m.payload.latestKind? = some kind)) :
    table' source kind = table source kind := by
  unfold project at h
  cases hkind : m.payload.latestKind? with
  | none =>
    rw [hkind] at h
    rw [Option.some.inj h]
  | some kind' =>
    rw [hkind] at h hm
    obtain ⟨row, -, rfl⟩ := Option.map_eq_some_iff.1 h
    by_cases hsource : source = m.payload.source
    · have hne : kind ≠ kind' := fun heq => hm ⟨hsource.symm, by rw [heq]⟩
      rw [hsource, Function.update_self, Function.update_of_ne hne]
    · rw [Function.update_of_ne hsource]

/-- An observation is retained if none is, or if it is newer than the retained one. -/
theorem project_observation {table table' : LatestTable} {m : Delivery}
    (h : project validate table m = some table') {source : String × String} {kind : LatestKind}
    (hkind : kind ≠ .status) (hsource : m.payload.source = source)
    (hm : m.payload.latestKind? = some kind) :
    table' source kind =
      match table source kind with
      | none => some m.latest
      | some current =>
        some (if current.generatedAt < m.generatedAt then m.latest else current) := by
  unfold project at h
  rw [hm] at h
  obtain ⟨row, hrow, rfl⟩ := Option.map_eq_some_iff.1 h
  rw [hsource] at hrow ⊢
  rw [Function.update_self, Function.update_self]
  cases hcurrent : table source kind with
  | none =>
    rw [hcurrent] at hrow
    exact hrow.symm
  | some current =>
    rw [hcurrent] at hrow
    unfold projectLatest at hrow
    rw [latestKind?_status hkind hm] at hrow
    rw [← hrow]
    show some (replaceNewer current m.payload m.original) =
      some (if current.generatedAt < m.payload.generatedAt then m.latest else current)
    unfold replaceNewer
    by_cases hlt : current.generatedAt < m.payload.generatedAt
    · rw [if_pos hlt, if_pos hlt]
      unfold EdgeV2Latest.replaced
      rw [max_eq_right hlt.le]
      rfl
    · rw [if_neg hlt, if_neg hlt]

theorem projectAll_concat (l : List Delivery) (m : Delivery) :
    projectAll validate (l ++ [m]) = (projectAll validate l).bind (project validate · m) := by
  unfold projectAll
  rw [List.foldlM_append]
  simp

/-- **The row is the newest observation of its kind**, the first to arrive among equals. -/
theorem projectAll_eq {l : List Delivery} {table : LatestTable}
    (h : projectAll validate l = some table) {source : String × String} {kind : LatestKind}
    (hkind : kind ≠ .status) :
    table source kind =
      ((observations source kind l).argmax Delivery.generatedAt).map Delivery.latest := by
  induction l using List.reverseRecOn generalizing table with
  | nil =>
    obtain rfl := Option.some.inj h
    rfl
  | append_singleton l m ih =>
    rw [projectAll_concat] at h
    obtain ⟨before, hbefore, hstep⟩ := Option.bind_eq_some_iff.1 h
    have hrow := ih hbefore
    unfold observations at hrow ⊢
    rw [List.filter_append]
    by_cases hm : m.payload.source = source ∧ m.payload.latestKind? = some kind
    · rw [project_observation hstep hkind hm.1 hm.2, hrow,
        List.filter_cons_of_pos (by simpa using hm), List.filter_nil, argmax_concat_eq]
      cases List.argmax Delivery.generatedAt _ with
      | none => rfl
      | some c =>
        show some (if c.generatedAt < m.generatedAt then m.latest else c.latest) = _
        dsimp only
        split_ifs <;> rfl
    · rw [project_frame hstep hm, hrow, List.filter_cons_of_neg (by simpa using hm),
        List.filter_nil, List.append_nil]

/-! ## The reader of full storage -/

/-- The message that `build_snapshot` selects: of the states of a device the first of those that
were generated last. -/
def stateMessage (messages : List (EdgeV2Message H)) (source : String × String) :
    Option (EdgeV2Message H) :=
  (messages.filter fun message => (message.siteId, message.edgeId) = source ∧
    message.messageType = .edgeAssessment ∧
    message.payload.member? "assessment_type" = some (.str "STATE")).argmax
      EdgeV2Message.generatedAt

theorem Delivery.isState_iff (hash : Json → H) (m : Delivery) :
    ((m.row hash).messageType = .edgeAssessment ∧
      (m.row hash).payload.member? "assessment_type" = some (.str "STATE")) ↔
      m.payload.latestKind? = some .state := by
  have htyped := m.typed
  show (m.payload.body.messageType = .edgeAssessment ∧
    m.original.member? "assessment_type" = some (.str "STATE")) ↔ _
  unfold Payload.latestKind? Body.messageType
  cases hbody : m.payload.body with
  | configuration sensors => simp
  | measurement deliveryKind frame sensors => cases deliveryKind <;> simp
  | statusReport report => simp
  | assessment type id revision =>
    rw [htyped type id revision hbody]
    cases type <;> simp [AssessmentType.text]

theorem stateMessage_eq (hash : Json → H) (l : List Delivery) (source : String × String) :
    stateMessage (l.map (Delivery.row hash)) source =
      ((observations source .state l).argmax Delivery.generatedAt).map (Delivery.row hash) := by
  unfold stateMessage observations
  rw [List.filter_map, argmax_map]
  have hgenerated : EdgeV2Message.generatedAt ∘ Delivery.row hash = Delivery.generatedAt := rfl
  rw [hgenerated]
  congr 2
  refine List.filter_congr fun m _ => ?_
  rw [Function.comp_apply, decide_eq_decide, Delivery.isState_iff]
  rfl

/-! ## The order of arrival -/

/-- No message of the list was generated later, and none that was generated then came before. -/
structure Newest (l : List Delivery) (d : Delivery) : Prop where
  mem : d ∈ l
  greatest : ∀ m ∈ l, m.generatedAt ≤ d.generatedAt
  first : (l.filter fun m => m.generatedAt = d.generatedAt).head? = some d

theorem newest_of_argmax {l : List Delivery} {d : Delivery}
    (h : l.argmax Delivery.generatedAt = some d) : Newest l d where
  mem := List.argmax_mem h
  greatest := fun _ hm => List.le_of_mem_argmax hm h
  first := argmax_head? h

/-- Of messages that were generated at different times the newest is one of a kind. -/
theorem Newest.eq {l l' : List Delivery} {d d' : Delivery} (h : Newest l d) (h' : Newest l' d')
    (hperm : l.Perm l') (hdistinct : (l.map Delivery.generatedAt).Nodup) : d' = d := by
  have hd' := hperm.mem_iff.2 h'.mem
  apply List.inj_on_of_nodup_map hdistinct hd' h.mem
  apply le_antisymm
  · exact h.greatest d' hd'
  · exact h'.greatest d (hperm.mem_iff.1 h.mem)

/-- **The latest measurement and the latest state are the newest of their kind**, which is what full
storage shows; where no two were generated at one time, their order does not matter. -/
theorem latest_newest (hash : Json → H) (validate : Json → Option StatusMessage)
    (source : String × String) (kind : LatestKind) (hkind : kind ≠ .status) (l : List Delivery)
    (table : LatestTable) (h : projectAll validate l = some table)
    (hne : observations source kind l ≠ []) :
    ∃ d, Newest (observations source kind l) d ∧ table source kind = some d.latest ∧
      (kind = .state → stateMessage (l.map (Delivery.row hash)) source = some (d.row hash)) ∧
      (((observations source kind l).map Delivery.generatedAt).Nodup →
        ∀ l' table', projectAll validate l' = some table' →
          (observations source kind l).Perm (observations source kind l') →
            table' source kind = some d.latest) := by
  have hrow := @projectAll_eq validate l table h source kind hkind
  cases hd : (observations source kind l).argmax Delivery.generatedAt with
  | none => exact absurd (List.argmax_eq_none.1 hd) hne
  | some d =>
    have hnewest := newest_of_argmax hd
    refine ⟨d, hnewest, ?_, ?_, ?_⟩
    · rw [hrow, hd]
      rfl
    · rintro rfl
      rw [stateMessage_eq, hd]
      rfl
    · intro hdistinct l' table' h' hperm
      rw [projectAll_eq h' hkind]
      cases hd' : (observations source kind l').argmax Delivery.generatedAt with
      | none =>
        rw [List.argmax_eq_none] at hd'
        rw [hd', List.perm_nil] at hperm
        exact absurd hperm hne
      | some d' =>
        rw [hnewest.eq (newest_of_argmax hd') hperm hdistinct]
        rfl

/-! ### A late arrival

The state that was generated last arrives before another; evidence and the state of another device
come in between. -/

def toyState (messageId edgeId : String) (generatedAt : ℤ) : Delivery where
  payload :=
    { messageId := messageId
      siteId := "site-demo"
      edgeId := edgeId
      generatedAt := generatedAt
      configRevision := "cfg-1"
      body := .assessment .state messageId 0
      dump := [] }
  original := .obj [("message_id", .str messageId), ("assessment_type", .str "STATE")]
  device := { toyDevice with edgeId := edgeId }
  receivedAt := generatedAt
  typed := by
    intro type id revision h
    cases h
    rfl

def toyEvidence : Delivery where
  payload :=
    { messageId := "m-2"
      siteId := "site-demo"
      edgeId := "edge-demo"
      generatedAt := 30
      configRevision := "cfg-1"
      body := .measurement .evidence "frame" []
      dump := [] }
  original := .obj []
  device := toyDevice
  receivedAt := 30
  typed := by
    intro type id revision h
    cases h

theorem latest_newest_late :
    let l := [toyState "m-1" "edge-demo" 20, toyEvidence, toyState "m-3" "edge-other" 40,
      toyState "m-4" "edge-demo" 10]
    ∃ table, projectAll (fun _ => none) l = some table ∧ ∃ d,
      Newest (observations ("site-demo", "edge-demo") .state l) d ∧
        table ("site-demo", "edge-demo") .state = some d.latest := by
  intro l
  obtain ⟨table, h⟩ : ∃ table, projectAll (fun _ => none) l = some table := ⟨_, rfl⟩
  obtain ⟨d, hd, hrow, -⟩ := latest_newest id (fun _ => none) ("site-demo", "edge-demo") .state
    (by decide) l table h (by simp [l, observations, toyState, Payload.source, Payload.latestKind?])
  exact ⟨table, h, d, hd, hrow⟩

end ScrapMonitoring.EdgeV2
