import ScrapMonitoring.EdgeV2.Message

/-!
# The artifacts of a message

`store_artifacts` collects the artifacts that a message carries (`collect`), looks their rows up,
and either finds a conflict or makes the rows that are `missing`. Both are pure; the statements
around them belong to the receiver.

`Stores` relates an artifact to the row that holds it: same key, same content. What both functions
say about it is `missing_spec`.
-/

namespace ScrapMonitoring.EdgeV2

/-- A kind and the hash of a key. -/
abbrev Identity (H : Type*) := ArtifactKind × H

/-- An artifact of a message: its key, its content and the field that a conflict is blamed on. -/
structure Item where
  key : List Json
  content : Json
  field : String
  deriving DecidableEq

section

variable {H : Type*} [DecidableEq H] {hash : Json → H}

/-- `artifacts`, a dictionary in the order of insertion. -/
abbrev Artifacts (H : Type*) := List (Identity H × Item)

def artifactConflict (field : String) : EdgeV2Error := ⟨409, "ARTIFACT_CONFLICT", some field, false⟩

def add (hash : Json → H) (artifacts : Artifacts H) (addition : ArtifactKind × Item) :
    Except EdgeV2Error (Artifacts H) :=
  let identity := (addition.1, digest hash (.arr addition.2.key))
  match artifacts.lookup identity with
  | some item =>
    if item ≠ addition.2 then .error (artifactConflict addition.2.field) else .ok artifacts
  | none => .ok (artifacts ++ [(identity, addition.2)])

/-! ## What a message carries -/

def configurationAdditions (payload : Payload) (sensors : List SensorConfiguration) :
    List (ArtifactKind × Item) :=
  (.configuration, ⟨[.str payload.configRevision],
      .obj (payload.dump.only ["coordinate_frame", "sensors"]), "config_revision"⟩) ::
    sensors.filterMap fun sensor => sensor.calibration.map fun calibration =>
      (.calibration, ⟨[.str sensor.sensorId, .str calibration.version], calibration.dump,
        "sensors"⟩)

def scanAdditions (payload : Payload) (coordinateFrameId : String) (sensor : SensorObservation) :
    List (ArtifactKind × Item) :=
  match sensor.scan with
  | none => []
  | some scan =>
    let raw := scan.dump.except ["points", "selected_point_count"]
    [(.scanSource, ⟨[.str scan.scanId], .obj (raw ++ [("sensor_id", .str sensor.sensorId)]),
        "sensors"⟩),
      (.scanResult, ⟨[.str scan.scanId, .str payload.configRevision,
          (sensor.calibrationVersion.map Json.str).getD .null, .str coordinateFrameId],
        .obj (sensor.dump.except ["availability"]), "sensors"⟩)]

def additions (payload : Payload) : List (ArtifactKind × Item) :=
  let content := Json.obj (payload.dump.except ["message_id"])
  match payload.body with
  | .configuration sensors => configurationAdditions payload sensors
  | .measurement _ coordinateFrameId sensors =>
    sensors.flatMap (scanAdditions payload coordinateFrameId)
  | .assessment _ assessmentId revision =>
    [(.assessmentRevision, ⟨[.str assessmentId, .int revision], content, "revision"⟩)]
  | .statusReport report =>
    -- the same instance and sequence, even under another message id
    [(.statusSequence, ⟨[.str report.orchestratorInstanceId, .int report.sequence], content,
      "sequence"⟩)]

def collect (hash : Json → H) (payload : Payload) : Except EdgeV2Error (Artifacts H) :=
  (additions payload).foldlM (add hash) []

/-! ## Rows found and rows missing -/

/-- Compact storage keeps only the hash of what the next observation replaces. -/
def latestOnly (payload : Payload) : ArtifactKind → Bool
  | .scanResult | .statusSequence => true
  | .assessmentRevision =>
    match payload.body with
    | .assessment assessmentType _ _ => assessmentType = .state
    | _ => false
  | .configuration | .calibration | .scanSource => false

def newArtifact (hash : Json → H) (compact : Bool) (payload : Payload)
    (artifact : Identity H × Item) : EdgeV2Artifact H where
  siteId := payload.siteId
  edgeId := payload.edgeId
  kind := artifact.1.1
  keyHash := artifact.1.2
  artifactKey := artifact.2.key
  payload :=
    if compact && latestOnly payload artifact.1.1 then .obj [("retention", .str "LATEST_ONLY")]
    else artifact.2.content
  contentHash := some (digest hash artifact.2.content)

/-- The rows to insert, given the rows found. -/
def missing (hash : Json → H) (compact : Bool) (payload : Payload)
    (found : List (EdgeV2Artifact H)) : Artifacts H → Except EdgeV2Error (List (EdgeV2Artifact H))
  | [] => .ok []
  | artifact :: rest =>
    match found.find? fun row => (row.kind, row.keyHash) = artifact.1 with
    | some existing =>
      if existing.artifactKey ≠ artifact.2.key ∨
          existing.storedHash hash ≠ digest hash artifact.2.content then
        .error (artifactConflict artifact.2.field)
      else missing hash compact payload found rest
    | none => (newArtifact hash compact payload artifact :: ·) <$>
        missing hash compact payload found rest

/-- The row holds the artifact of the message. -/
def Stores (hash : Json → H) (payload : Payload) (artifact : Identity H × Item)
    (row : EdgeV2Artifact H) : Prop :=
  row.key = (payload.source, artifact.1) ∧ row.artifactKey = artifact.2.key ∧
    row.storedHash hash = digest hash artifact.2.content

omit [DecidableEq H] in
theorem stores_newArtifact (compact : Bool) (payload : Payload) (artifact : Identity H × Item) :
    Stores hash payload artifact (newArtifact hash compact payload artifact) :=
  ⟨rfl, rfl, rfl⟩

/-- **Every artifact is in a row that was found or in a row to insert**, and every row to insert
is the new row of an artifact. -/
theorem missing_spec {compact : Bool} {payload : Payload} {found rows : List (EdgeV2Artifact H)}
    {artifacts : Artifacts H} (hsource : ∀ row ∈ found, (row.siteId, row.edgeId) = payload.source)
    (h : missing hash compact payload found artifacts = .ok rows) :
    (∀ artifact ∈ artifacts, ∃ row ∈ found ++ rows, Stores hash payload artifact row) ∧
      ∀ row ∈ rows, ∃ artifact ∈ artifacts, row = newArtifact hash compact payload artifact := by
  induction artifacts generalizing rows with
  | nil =>
    obtain rfl : rows = [] := by simpa [missing, eq_comm] using h
    simp
  | cons artifact rest ih =>
    simp only [missing] at h
    split at h
    · rename_i existing hfind
      split_ifs at h with hconflict
      obtain ⟨hkey, hcontent⟩ := not_or.1 hconflict
      have hmem := List.mem_of_find?_eq_some hfind
      have hid : (existing.kind, existing.keyHash) = artifact.1 := by
        simpa using List.find?_some hfind
      obtain ⟨hall, hrows⟩ := ih h
      refine ⟨fun a ha => ?_, fun row hrow => ?_⟩
      · rcases List.mem_cons.1 ha with rfl | ha
        · refine ⟨existing, List.mem_append_left _ hmem, ?_, not_not.1 hkey, not_not.1 hcontent⟩
          rw [EdgeV2Artifact.key, hsource existing hmem, hid]
        · exact hall a ha
      · obtain ⟨a, ha, hrow⟩ := hrows row hrow
        exact ⟨a, List.mem_cons_of_mem _ ha, hrow⟩
    · cases hrest : missing hash compact payload found rest with
      | error e => simp [hrest] at h
      | ok rows' =>
        obtain rfl : newArtifact hash compact payload artifact :: rows' = rows := by
          simpa [hrest] using h
        obtain ⟨hall, hrows⟩ := ih hrest
        refine ⟨fun a ha => ?_, fun row hrow => ?_⟩
        · rcases List.mem_cons.1 ha with rfl | ha
          · exact ⟨_, by simp, stores_newArtifact compact payload a⟩
          · obtain ⟨row, hrow, hstores⟩ := hall a ha
            refine ⟨row, ?_, hstores⟩
            simp only [List.mem_append, List.mem_cons] at hrow ⊢
            tauto
        · rcases List.mem_cons.1 hrow with rfl | hrow
          · exact ⟨artifact, by simp, rfl⟩
          · obtain ⟨a, ha, hrow⟩ := hrows row hrow
            exact ⟨a, List.mem_cons_of_mem _ ha, hrow⟩

/-! ## The collected artifacts -/

/-- The artifacts have distinct identities, each the digest of its key. -/
structure Collected (hash : Json → H) (artifacts : Artifacts H) : Prop where
  distinct : (artifacts.map Prod.fst).Nodup
  digests : ∀ artifact ∈ artifacts, artifact.1.2 = digest hash (.arr artifact.2.key)

theorem Collected.add {artifacts artifacts' : Artifacts H} {addition : ArtifactKind × Item}
    (hc : Collected hash artifacts) (h : add hash artifacts addition = .ok artifacts') :
    Collected hash artifacts' := by
  simp only [EdgeV2.add] at h
  split at h
  · split_ifs at h
    obtain rfl : artifacts = artifacts' := by simpa using h
    exact hc
  · rename_i hlookup
    obtain rfl := (Except.ok.inj h).symm
    constructor
    · rw [List.map_append, List.map_singleton, List.nodup_append_comm, List.singleton_append,
        List.nodup_cons]
      refine ⟨fun hmem => ?_, hc.distinct⟩
      obtain ⟨a, ha, heq⟩ := List.mem_map.1 hmem
      exact absurd (List.lookup_eq_none_iff.1 hlookup a ha) (by simp [heq])
    · intro a ha
      rcases List.mem_append.1 ha with ha | ha
      · exact hc.digests a ha
      · obtain rfl := List.mem_singleton.1 ha
        rfl

theorem Collected.of_foldlM {artifacts artifacts' : Artifacts H}
    {adds : List (ArtifactKind × Item)} (hc : Collected hash artifacts)
    (h : adds.foldlM (EdgeV2.add hash) artifacts = .ok artifacts') : Collected hash artifacts' := by
  induction adds generalizing artifacts with
  | nil =>
    obtain rfl := Except.ok.inj h
    exact hc
  | cons a rest ih =>
    rw [List.foldlM_cons] at h
    cases hadd : EdgeV2.add hash artifacts a with
    | error e => simp [hadd, bind, Except.bind] at h
    | ok next => exact ih (hc.add hadd) (by simpa [hadd, bind, Except.bind] using h)

theorem Collected.of_collect {payload : Payload} {artifacts : Artifacts H}
    (h : collect hash payload = .ok artifacts) : Collected hash artifacts :=
  Collected.of_foldlM ⟨by simp, by simp⟩ h

/-- The artifact that an addition becomes. -/
def identified (hash : Json → H) (addition : ArtifactKind × Item) : Identity H × Item :=
  ((addition.1, digest hash (.arr addition.2.key)), addition.2)

theorem add_mem {artifacts artifacts' : Artifacts H} {addition : ArtifactKind × Item}
    (h : add hash artifacts addition = .ok artifacts') :
    artifacts ⊆ artifacts' ∧ identified hash addition ∈ artifacts' := by
  simp only [add] at h
  split at h
  · rename_i item hlookup
    split_ifs at h with hitem
    obtain rfl : artifacts = artifacts' := by simpa using h
    rw [not_not] at hitem
    obtain ⟨pre, post, rfl, -⟩ := List.lookup_eq_some_iff.1 hlookup
    exact ⟨List.Subset.refl _, by simp [identified, hitem]⟩
  · obtain rfl := (Except.ok.inj h).symm
    exact ⟨List.subset_append_left _ _, by simp [identified]⟩

theorem foldlM_add_mem {artifacts artifacts' : Artifacts H} {adds : List (ArtifactKind × Item)}
    (h : adds.foldlM (add hash) artifacts = .ok artifacts') :
    artifacts ⊆ artifacts' ∧ ∀ a ∈ adds, identified hash a ∈ artifacts' := by
  induction adds generalizing artifacts with
  | nil =>
    obtain rfl := Except.ok.inj h
    simp
  | cons a rest ih =>
    rw [List.foldlM_cons] at h
    cases hadd : add hash artifacts a with
    | error e => simp [hadd, bind, Except.bind] at h
    | ok next =>
      obtain ⟨hsub, hmem⟩ := ih (by simpa [hadd, bind, Except.bind] using h)
      obtain ⟨hsub', hmem'⟩ := add_mem hadd
      refine ⟨fun b hb => hsub (hsub' hb), fun b hb => ?_⟩
      rcases List.mem_cons.1 hb with rfl | hb
      · exact hsub hmem'
      · exact hmem b hb

/-- Every artifact that the message carries is collected. -/
theorem collect_mem {payload : Payload} {artifacts : Artifacts H}
    (h : collect hash payload = .ok artifacts) :
    ∀ a ∈ additions payload, identified hash a ∈ artifacts :=
  (foldlM_add_mem h).2

end

end ScrapMonitoring.EdgeV2
