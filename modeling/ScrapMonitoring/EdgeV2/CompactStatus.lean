import ScrapMonitoring.EdgeV2.DeviceStatus
import ScrapMonitoring.EdgeV2.ExactlyOnce

/-!
# The status of a device in compact storage

The same status messages arrive at a store that keeps every body and at one that keeps the latest.
The reader wants the body of the greatest sequence of the instance of the newest report
(`full_snapshot`). The writer keeps the first body of the greatest sequence since the last time an
instance took over (`retained_eq`): an instance takes over when it reports at a later generation
time than every report before, the newest of which came from another instance (`reign`).

`compact_snapshot_iff` says when the two agree: when the instance of the newest report is the one
that took over last, and its greatest sequence has been reported once since then.
-/

namespace ScrapMonitoring.EdgeV2

variable {H : Type*} {validate : Json → Option StatusMessage}

/-- A status message that was accepted. -/
structure Arrival (validate : Json → Option StatusMessage) where
  message : StatusMessage
  original : Json
  device : EdgeV2Device
  receivedAt : ℤ
  valid : validate original = some message
  inScope : validateScope message.payload device = .ok ()

namespace Arrival

def generatedAt (a : Arrival validate) : ℤ := a.message.payload.generatedAt

def instanceId (a : Arrival validate) : String := a.message.report.orchestratorInstanceId

def sequence (a : Arrival validate) : ℕ := a.message.report.sequence

def messageId (a : Arrival validate) : String := a.message.payload.messageId

/-- The receipt. -/
def row (hash : Json → H) (compact : Bool) (a : Arrival validate) : EdgeV2Message H :=
  newMessage hash ⟨a.message.payload, a.original, a.device, compact⟩ a.receivedAt

end Arrival

/-- Messages that the receiver has accepted of one device: every message id once, and one content
for an instance and a sequence. -/
structure Accepted (source : String × String) (l : List (Arrival validate)) : Prop where
  source : ∀ a ∈ l, a.message.payload.source = source
  distinct : (l.map Arrival.messageId).Nodup
  contents : ∀ a ∈ l, ∀ b ∈ l, a.instanceId = b.instanceId → a.sequence = b.sequence →
    a.message.payload.dump.except ["message_id"] = b.message.payload.dump.except ["message_id"]

/-! ## The two stores -/

/-- Every receipt with its body. -/
def fullStore (hash : Json → H) (l : List (Arrival validate)) : StatusStore H :=
  ⟨l.map (Arrival.row hash false), none⟩

/-- The row of the latest status after the messages; `none` is a body that is not valid. -/
def retained (l : List (Arrival validate)) : Option (Option EdgeV2Latest) :=
  l.foldlM (fun current a =>
    (projectLatest validate a.message.payload a.original current).map some) none

/-- Compact receipts, and the latest body. -/
def compactStore (hash : Json → H) (l : List (Arrival validate)) : Option (StatusStore H) :=
  (retained l).map fun latest => ⟨l.map (Arrival.row hash true), latest⟩

/-! ## What the writer keeps -/

/-- The instance of `a` takes over from that of the newest report. -/
def takesOver (incumbent : Option (Arrival validate)) (a : Arrival validate) : Bool :=
  match incumbent with
  | none => true
  | some c => c.instanceId ≠ a.instanceId ∧ c.generatedAt < a.generatedAt

/-- The messages since an instance last took over. -/
def reign (l : List (Arrival validate)) : List (Arrival validate) :=
  (l.foldl (fun r a =>
    (r.1 ++ [a], if takesOver (r.1.argmax Arrival.generatedAt) a then [a] else r.2 ++ [a]))
    ([], [])).2

theorem reign_concat (l : List (Arrival validate)) (a : Arrival validate) :
    reign (l ++ [a]) =
      if takesOver (l.argmax Arrival.generatedAt) a then [a] else reign l ++ [a] := by
  have hseen : ∀ (l : List (Arrival validate)), (l.foldl (fun r a =>
      (r.1 ++ [a], if takesOver (r.1.argmax Arrival.generatedAt) a then [a] else r.2 ++ [a]))
      (([], []) : List (Arrival validate) × List (Arrival validate))).1 = l := by
    intro l
    induction l using List.reverseRecOn with
    | nil => rfl
    | append_singleton l a ih => rw [List.foldl_concat, ih]
  rw [reign, List.foldl_concat, hseen, reign]

theorem reign_suffix (l : List (Arrival validate)) : reign l <:+ l := by
  induction l using List.reverseRecOn with
  | nil => exact List.suffix_refl _
  | append_singleton l a ih =>
    rw [reign_concat]
    split_ifs
    · exact List.suffix_append _ _
    · obtain ⟨pre, hpre⟩ := ih
      exact ⟨pre, by rw [← List.append_assoc, hpre]⟩

theorem retained_concat (l : List (Arrival validate)) (a : Arrival validate) :
    retained (l ++ [a]) = (retained l).bind fun current =>
      (projectLatest validate a.message.payload a.original current).map some := by
  rw [retained, List.foldlM_append, retained]
  simp

/-- **What the writer keeps**: the body of the greatest sequence that the instance of the newest
report has sent since it took over, the first to arrive; and the newest generation time. -/
theorem retained_eq {l : List (Arrival validate)} (hl : l ≠ []) :
    ∃ c r, l.argmax Arrival.generatedAt = some c ∧
      ((reign l).filter fun a => a.instanceId = c.instanceId).argmax Arrival.sequence = some r ∧
      retained l = some (some ⟨r.messageId, c.generatedAt, r.original⟩) := by
  induction l using List.reverseRecOn with
  | nil => exact (hl rfl).elim
  | append_singleton l a ih =>
    by_cases hnil : l = []
    · subst hnil
      exact ⟨a, a, rfl, by simp [reign, takesOver], rfl⟩
    obtain ⟨c, r, hc, hr, hretained⟩ := ih hnil
    have hinst : r.instanceId = c.instanceId := by
      simpa using (List.mem_filter.1 (List.argmax_mem hr)).2
    have hvalid : ∀ current : EdgeV2Latest, current.payload = r.original →
        projectLatest validate a.message.payload a.original (some current) =
          if r.instanceId = a.instanceId then
            some (replaceInstance current r.message.report a.message.report a.message.payload
              a.original)
          else some (replaceNewer current a.message.payload a.original) := by
      intro current hcurrent
      simp only [projectLatest, a.message.isReport, hcurrent, r.valid]
      rfl
    rw [retained_concat, hretained, argmax_concat_of_some hc, reign_concat, hc,
      Option.bind_some, hvalid _ rfl]
    by_cases hsame : c.instanceId = a.instanceId
    · -- the instance reports again
      refine ⟨if c.generatedAt < a.generatedAt then a else c,
        if r.sequence < a.sequence then a else r, rfl, ?_, ?_⟩
      · have hinst' : (if c.generatedAt < a.generatedAt then a else c).instanceId =
            c.instanceId := by
          split_ifs
          · exact hsame.symm
          · rfl
        have ha : [a].filter (fun a => decide (a.instanceId = c.instanceId)) = [a] := by
          simp [hsame]
        rw [hinst', if_neg (by simp [takesOver, hsame]), List.filter_append, ha,
          argmax_concat_of_some hr]
      · have hgen : (if c.generatedAt < a.generatedAt then a else c).generatedAt =
            max c.generatedAt a.generatedAt := by
          split_ifs with h
          · exact (max_eq_right h.le).symm
          · exact (max_eq_left (not_lt.1 h)).symm
        rw [if_pos (hinst.trans hsame), replaceInstance, hgen]
        change Option.map some (some (if r.sequence < a.sequence then _ else _)) = _
        split_ifs <;> rfl
    · by_cases hnewer : c.generatedAt < a.generatedAt
      · -- another instance takes over
        refine ⟨a, a, by rw [if_pos hnewer], ?_, ?_⟩
        · rw [if_pos (by simp [takesOver, hsame, hnewer])]
          simp
        · rw [if_neg (hinst ▸ hsame), replaceNewer]
          change Option.map some (some (if c.generatedAt < a.generatedAt then _ else _)) = _
          rw [if_pos hnewer, Option.map_some, EdgeV2Latest.replaced]
          simp only [Option.some.injEq, EdgeV2Latest.mk.injEq, and_true]
          exact ⟨rfl, max_eq_right hnewer.le⟩
      · refine ⟨c, r, by rw [if_neg hnewer], ?_, ?_⟩
        · have ha : [a].filter (fun a => decide (a.instanceId = c.instanceId)) = [] := by
            simp [Ne.symm hsame]
          rw [if_neg (by simp [takesOver, hnewer]), List.filter_append, ha, List.append_nil, hr]
        · rw [if_neg (hinst ▸ hsame), replaceNewer]
          change Option.map some (some (if c.generatedAt < a.generatedAt then _ else _)) = _
          rw [if_neg hnewer, Option.map_some]

/-! ## What the reader selects -/

section

variable {hash : Json → H} {source : String × String} {l : List (Arrival validate)}
variable {compact : Bool} {latest : Option EdgeV2Latest}

theorem Arrival.row_instanceId (a : Arrival validate) :
    (a.row hash compact).instanceId = some a.instanceId := by
  simp [Arrival.row, newMessage, a.message.isReport, Arrival.instanceId]

theorem Arrival.row_sequence (a : Arrival validate) :
    (a.row hash compact).sequence = some a.sequence := by
  simp [Arrival.row, newMessage, a.message.isReport, Arrival.sequence]

theorem Arrival.row_messageType (a : Arrival validate) :
    (a.row hash compact).messageType = .edgeStatus := by
  have h := a.message.isReport
  simp only [Arrival.row, newMessage, Body.messageType]
  unfold Payload.statusReport? at h
  split at h <;> simp_all

/-- The report whose snapshot the reader wants: of the instance of the newest report, the one of
the greatest sequence; the last to arrive decides between equals. -/
def selected (l : List (Arrival validate)) : Option (Arrival validate) :=
  (lastMax Arrival.generatedAt l).bind fun newest =>
    lastMax Arrival.sequence (l.filter fun a => a.instanceId = newest.instanceId)

/-- Every receipt of the device is one of a status. -/
theorem statusReceipts_eq (hl : Accepted source l) :
    statusReceipts ⟨l.map (Arrival.row hash compact), latest⟩ source =
      l.map (Arrival.row hash compact) := by
  refine List.filter_eq_self.2 fun message hmessage => ?_
  obtain ⟨a, ha, rfl⟩ := List.mem_map.1 hmessage
  have hsource : ((a.row hash compact).siteId, (a.row hash compact).edgeId) = source :=
    hl.source a ha
  simp [hsource, a.row_messageType]

theorem statusSnapshot_eq (hl : Accepted source l) :
    statusSnapshot validate ⟨l.map (Arrival.row hash compact), latest⟩ source =
      match selected l with
      | none => some none
      | some m => statusBody validate ⟨l.map (Arrival.row hash compact), latest⟩ source
          (m.row hash compact) := by
  have hgen : EdgeV2Message.generatedAt ∘ Arrival.row hash compact =
      (Arrival.generatedAt : Arrival validate → ℤ) := rfl
  have hseq : ∀ a b : Arrival validate, (sequenceKey ∘ Arrival.row hash compact) a <
      (sequenceKey ∘ Arrival.row hash compact) b ↔ a.sequence < b.sequence := by
    intro a b
    simp only [Function.comp_apply, sequenceKey, Arrival.row_sequence]
    exact WithBot.coe_lt_coe
  simp only [statusSnapshot, statusReceipts_eq hl, lastMax_map, hgen, selected]
  cases lastMax Arrival.generatedAt l with
  | none => rfl
  | some newest =>
    have hfilter : (l.map (Arrival.row hash compact)).filter (fun message =>
        message.instanceId = (newest.row hash compact).instanceId) =
        (l.filter fun a => a.instanceId = newest.instanceId).map (Arrival.row hash compact) := by
      rw [List.filter_map]
      congr 2
      funext a
      simp [Arrival.row_instanceId]
    simp only [Option.map_some, hfilter, lastMax_map, lastMax_congr hseq, Option.bind_some]
    cases lastMax Arrival.sequence (l.filter fun a => a.instanceId = newest.instanceId) <;> rfl

/-- The store with every body shows the selected report. -/
theorem full_snapshot (hl : Accepted source l) :
    statusSnapshot validate (fullStore hash l) source =
      some ((selected l).map Arrival.message) := by
  rw [fullStore, statusSnapshot_eq hl]
  cases selected l with
  | none => rfl
  | some m =>
    change Option.map some (validate m.original) = _
    rw [m.valid]
    rfl

/-- The receipt of the retained body is found by its message id. -/
theorem latestMessage_eq {r : Arrival validate} {generatedAt : ℤ} (hl : Accepted source l)
    (hr : r ∈ l) :
    latestMessage ⟨l.map (Arrival.row hash true), some ⟨r.messageId, generatedAt, r.original⟩⟩
      source = some { r.row hash true with payload := r.original, compact := true } := by
  have hfind : (l.map (Arrival.row hash true)).find? (fun message =>
      message.key = (source.1, source.2, r.messageId)) = some (r.row hash true) := by
    have hkey : ∀ a ∈ l, (a.row hash true).key = (source.1, source.2, a.messageId) := by
      intro a ha
      rw [← hl.source a ha]
      rfl
    cases hfind : (l.map (Arrival.row hash true)).find? _ with
    | none => simpa [hkey r hr] using List.find?_eq_none.1 hfind _ (List.mem_map_of_mem hr)
    | some message =>
      obtain ⟨a, ha, rfl⟩ := List.mem_map.1 (List.mem_of_find?_eq_some hfind)
      have hid : a.messageId = r.messageId := by
        simpa [hkey a ha] using List.find?_some hfind
      rw [List.inj_on_of_nodup_map hl.distinct ha hr hid]
  simp only [latestMessage, Option.bind_some, hfind, Option.map_some]

/-- The compact store shows the retained report if it is of the instance and the sequence of the
selected one, and none otherwise. -/
theorem compact_snapshot (hash : Json → H) (hl : Accepted source l) {m : Arrival validate}
    (hm : selected l = some m) :
    ∃ c r, l.argmax Arrival.generatedAt = some c ∧
      ((reign l).filter fun a => a.instanceId = c.instanceId).argmax Arrival.sequence = some r ∧
      (compactStore hash l).bind (statusSnapshot validate · source) = some
        (if r.instanceId = m.instanceId ∧ r.sequence = m.sequence then some r.message
        else none) := by
  have hne : l ≠ [] := by
    rintro rfl
    simp [selected, lastMax] at hm
  obtain ⟨c, r, hc, hr, hretained⟩ := retained_eq hne
  refine ⟨c, r, hc, hr, ?_⟩
  have hrl : r ∈ l := (reign_suffix l).subset (List.mem_filter.1 (List.argmax_mem hr)).1
  rw [compactStore, hretained, Option.map_some, Option.bind_some, statusSnapshot_eq hl, hm]
  have hcompact : (m.row hash true).compact = true := rfl
  change statusBody validate _ source _ = _
  rw [statusBody, if_pos hcompact, latestMessage_eq hl hrl]
  simp only [Arrival.row_instanceId, Arrival.row_sequence, Option.some.injEq]
  split_ifs
  · rw [r.valid]
    rfl
  · rfl

/-! ## When the two agree -/

/-- The instance of the newest report, which the reader selects, is also the one that took over
last, and since then it has reported its greatest sequence once. -/
def KeepsSelected (l : List (Arrival validate)) : Prop :=
  ∀ m ∈ selected l, ∀ incumbent ∈ l.argmax Arrival.generatedAt,
    incumbent.instanceId = m.instanceId ∧
      ((reign l).filter fun a => a.instanceId = m.instanceId ∧ a.sequence = m.sequence).length = 1

instance (l : List (Arrival validate)) : Decidable (KeepsSelected l) :=
  inferInstanceAs (Decidable (∀ m ∈ selected l, ∀ incumbent ∈ l.argmax Arrival.generatedAt,
    incumbent.instanceId = m.instanceId ∧
      ((reign l).filter fun a => a.instanceId = m.instanceId ∧ a.sequence = m.sequence).length = 1))

theorem selected_eq_none : selected l = none ↔ l = [] := by
  rw [selected, Option.bind_eq_none_iff]
  constructor
  · intro h
    cases hnewest : lastMax Arrival.generatedAt l with
    | none => exact lastMax_eq_none.1 hnewest
    | some newest =>
      have hnil := lastMax_eq_none.1 (h newest hnewest)
      have := List.filter_eq_nil_iff.1 hnil newest (lastMax_mem hnewest)
      simp at this
  · rintro rfl
    simp [lastMax]

theorem selected_spec {m : Arrival validate} (hm : selected l = some m) :
    m ∈ l ∧ (∀ a ∈ l, a.instanceId = m.instanceId → a.sequence ≤ m.sequence) ∧
      (l.filter fun a => a.instanceId = m.instanceId ∧ a.sequence = m.sequence).getLast? =
        some m := by
  obtain ⟨newest, hnewest, hm⟩ := Option.bind_eq_some_iff.1 hm
  obtain ⟨hml, hinst⟩ := List.mem_filter.1 (lastMax_mem hm)
  replace hinst : m.instanceId = newest.instanceId := of_decide_eq_true hinst
  refine ⟨hml, fun a ha hai => ?_, ?_⟩
  · exact le_lastMax hm (List.mem_filter.2 ⟨ha, decide_eq_true (hai.trans hinst)⟩)
  · have hlast := lastMax_getLast? hm
    rw [List.filter_filter] at hlast
    rw [hinst]
    simpa [Bool.and_comm] using hlast

/-- The last report of the selected instance and sequence since the last takeover, if there is
one, is the selected report. -/
theorem reign_getLast? {m : Arrival validate} (hm : selected l = some m)
    (hne : (reign l).filter (fun a => a.instanceId = m.instanceId ∧ a.sequence = m.sequence) ≠ []) :
    ((reign l).filter fun a => a.instanceId = m.instanceId ∧ a.sequence = m.sequence).getLast? =
      some m := by
  obtain ⟨-, -, hlast⟩ := selected_spec hm
  obtain ⟨pre, hpre⟩ := reign_suffix l
  rw [← hpre, List.filter_append, List.getLast?_append_of_ne_nil _ hne] at hlast
  exact hlast

theorem length_eq_one_of_ends {α : Type*} {l : List α} {a : α} (hl : l.Nodup)
    (hhead : l.head? = some a) (hlast : l.getLast? = some a) : l.length = 1 := by
  cases l with
  | nil => simp at hhead
  | cons b t =>
    obtain rfl : b = a := by simpa using hhead
    cases t with
    | nil => rfl
    | cons c t =>
      rw [List.getLast?_cons_cons] at hlast
      exact ((List.nodup_cons.1 hl).1 (List.mem_of_mem_getLast? hlast)).elim

theorem deviceStatus_snapshot (store : StatusStore H) (now : ℤ) :
    (deviceStatus validate store source now).map DeviceStatus.snapshot =
      statusSnapshot validate store source := by
  unfold deviceStatus
  cases statusSnapshot validate store source <;> rfl

/-- **When compact storage shows the same snapshot.** -/
theorem compact_snapshot_iff (hl : Accepted source l) (now : ℤ) :
    ((compactStore hash l).bind (deviceStatus validate · source now)).map DeviceStatus.snapshot =
        (deviceStatus validate (fullStore hash l) source now).map DeviceStatus.snapshot ↔
      KeepsSelected l := by
  rw [Option.map_bind, deviceStatus_snapshot, full_snapshot hl]
  have hcomp : (Option.map DeviceStatus.snapshot ∘ (deviceStatus validate · source now)) =
      (statusSnapshot validate · source : StatusStore H → _) := by
    funext store
    exact deviceStatus_snapshot store now
  rw [hcomp]
  cases hm : selected l with
  | none =>
    obtain rfl := selected_eq_none.1 hm
    exact ⟨fun _ m hm => by simp [selected, lastMax] at hm, fun _ => rfl⟩
  | some m =>
    obtain ⟨c, r, hc, hr, hcompact⟩ := compact_snapshot hash hl hm
    obtain ⟨hml, hmax, -⟩ := selected_spec hm
    obtain ⟨hrr, hrc⟩ := List.mem_filter.1 (List.argmax_mem hr)
    replace hrc : r.instanceId = c.instanceId := of_decide_eq_true hrc
    have hrl := (reign_suffix l).subset hrr
    rw [hcompact]
    constructor
    · intro h m' hm' incumbent hincumbent
      obtain rfl : m = m' := Option.some.inj (hm.symm.trans hm')
      obtain rfl : c = incumbent := Option.some.inj (hc.symm.trans hincumbent)
      split_ifs at h with hsame
      · have hmessage : r.message = m.message := by simpa using h
        obtain rfl : r = m := List.inj_on_of_nodup_map hl.distinct hrl hml
          (congrArg (fun message => message.payload.messageId) hmessage)
        have hhead : ((reign l).filter fun a => a.instanceId = r.instanceId ∧
            a.sequence = r.sequence).head? = some r := by
          have hhead := argmax_head? hr
          rw [List.filter_filter] at hhead
          simpa [Bool.and_comm, hrc] using hhead
        refine ⟨hrc.symm, length_eq_one_of_ends ?_ hhead (reign_getLast? hm ?_)⟩
        · exact ((hl.distinct.of_map _).sublist (reign_suffix l).sublist).filter _
        · intro hnil
          rw [hnil] at hhead
          simp at hhead
      · simp at h
    · intro h
      obtain ⟨hinst, hone⟩ := h m hm c hc
      obtain ⟨x, hx⟩ := List.length_eq_one_iff.1 hone
      have hlast := reign_getLast? hm (by rw [hx]; simp)
      rw [hx] at hlast
      obtain rfl : x = m := by simpa using hlast
      -- the selected report came since the takeover, so the retained one is of its sequence
      have hxr : x ∈ (reign l).filter fun a => a.instanceId = c.instanceId := by
        have hmem := List.mem_filter.1 (hx ▸ List.mem_singleton_self x)
        exact List.mem_filter.2 ⟨hmem.1, decide_eq_true hinst.symm⟩
      have hrx : r.instanceId = x.instanceId := hrc.trans hinst
      have hseq : r.sequence = x.sequence :=
        le_antisymm (hmax r hrl hrx) (List.le_of_mem_argmax hxr hr)
      have hr' : r ∈ [x] := hx ▸ List.mem_filter.2 ⟨hrr, by simp [hrx, hseq]⟩
      rw [List.mem_singleton.1 hr', if_pos ⟨rfl, rfl⟩]
      rfl

end

/-! ### Two instances at the same time

A device that restarts within the resolution of its clock: both instances report at one
generation time. -/

def toyMessage (messageId instanceId : String) (sequence : ℕ) (generatedAt : ℤ) :
    StatusMessage where
  payload :=
    { messageId := messageId
      siteId := "site-demo"
      edgeId := "edge-demo"
      generatedAt := generatedAt
      configRevision := "cfg-1"
      body := .statusReport ⟨instanceId, sequence, .healthy, ["OK"], ["lidar-a", "lidar-b"]⟩
      dump := [("message_id", .str messageId), ("orchestrator_instance_id", .str instanceId),
        ("sequence", .int sequence), ("generated_at", .int generatedAt)] }
  report := ⟨instanceId, sequence, .healthy, ["OK"], ["lidar-a", "lidar-b"]⟩
  isReport := rfl

/-- The bodies of `toyMessage` are valid. -/
def toyValidate : Json → Option StatusMessage
  | .obj [(_, .str messageId), (_, .str instanceId), (_, .int sequence), (_, .int generatedAt)] =>
    some (toyMessage messageId instanceId sequence.toNat generatedAt)
  | _ => none

def toySource : EdgeV2Device := toyDevice

def toyArrival (messageId instanceId : String) (sequence : ℕ) (generatedAt : ℤ) :
    Arrival toyValidate where
  message := toyMessage messageId instanceId sequence generatedAt
  original := .obj (toyMessage messageId instanceId sequence generatedAt).payload.dump
  device := toySource
  receivedAt := generatedAt
  valid := rfl
  inScope := by rfl

/-- The report of the restarted instance is the newest one, and compact storage shows none. -/
theorem restart_loses_snapshot :
    let l := [toyArrival "m-1" "instance-1" 5 10, toyArrival "m-2" "instance-2" 1 10]
    Accepted ("site-demo", "edge-demo") l ∧
      (deviceStatus toyValidate (fullStore id l) ("site-demo", "edge-demo") 10).map
        (fun status => status.snapshot.map fun m => m.payload.messageId) = some (some "m-2") ∧
      ((compactStore id l).bind (deviceStatus toyValidate · ("site-demo", "edge-demo") 10)).map
        (fun status => status.snapshot.map fun m => m.payload.messageId) = some none := by
  refine ⟨⟨by simp [toyArrival, toyMessage, Payload.source], by decide, ?_⟩, by decide +kernel,
    by decide +kernel⟩
  simp [toyArrival, toyMessage, Arrival.instanceId, Fields.except]

/-- The theorem on a restart at a later time, and a report of the old instance that arrives last. -/
theorem compact_snapshot_restart :
    let l := [toyArrival "m-1" "instance-1" 5 10, toyArrival "m-2" "instance-2" 1 11,
      toyArrival "m-3" "instance-1" 4 9]
    ((compactStore id l).bind (deviceStatus toyValidate · ("site-demo", "edge-demo") 11)).map
        DeviceStatus.snapshot =
      (deviceStatus toyValidate (fullStore id l) ("site-demo", "edge-demo") 11).map
        DeviceStatus.snapshot := by
  intro l
  have hl : Accepted ("site-demo", "edge-demo") l := by
    refine ⟨by simp [l, toyArrival, toyMessage, Payload.source], by decide, ?_⟩
    simp [l, toyArrival, toyMessage, Arrival.instanceId, Arrival.sequence, Fields.except]
  exact (compact_snapshot_iff hl 11).2 (by decide +kernel)

end ScrapMonitoring.EdgeV2
