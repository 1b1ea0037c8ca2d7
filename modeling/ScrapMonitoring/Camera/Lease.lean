import ScrapMonitoring.Camera.Status
import ScrapMonitoring.Foundations.Run

/-!
# The lease of the evidence is not renewed

A status that says something of the camera is returned before the lease of its evidence has passed:
on the steady clock since the request for it started, and on the wall clock until the evidence is no
longer valid. Neither repeated answers nor a wall clock that is set back change this: the deadline
of one assessment never increases, and evidence older than the newest is rejected (`camera_lease`).
-/

namespace ScrapMonitoring.Camera

variable {binding : Binding}

abbrev History := List (Entry Service Op (Option Returned))

/-! ## Evidence that has been accepted -/

/-- What the acceptance of evidence says of its status and deadline. -/
structure Interpreted (binding : Binding) (last : Option LastEvidence) (obs : CameraObservation)
    (started : ℚ) (value : CameraStatusV2) (deadline : ℚ) : Prop where
  state : value.state = obs.status.state
  assessedAt : value.assessedAt = some obs.assessedAt
  validUntil : ∃ t, value.validUntilAt = some t ∧ t ≤ obs.validUntilAt
  deadline_le : deadline ≤ started + obs.lease
  newest : ∀ held ∈ last, held.binding = binding →
    held.assessedAt ≤ obs.assessedAt ∧ (held.assessedAt = obs.assessedAt → deadline ≤ held.deadline)

theorem heldDeadline_le (last : Option LastEvidence) (assessedAt : ℤ) (deadline : ℚ) :
    heldDeadline last assessedAt deadline ≤ deadline := by
  unfold heldDeadline
  split
  · split_ifs
    · exact min_le_left _ _
    · exact le_refl _
  · exact le_refl _

theorem heldDeadline_le_held {last : Option LastEvidence} {held : LastEvidence} (deadline : ℚ)
    (h : last = some held) : heldDeadline last held.assessedAt deadline ≤ held.deadline := by
  subst h
  unfold heldDeadline
  dsimp only
  rw [if_pos rfl]
  exact min_le_right _ _

theorem leaseDeadline_le (obs : CameraObservation) (started : ℚ) (wall : ℤ) (steady : ℚ) :
    leaseDeadline obs started wall steady ≤ started + obs.lease ∧
      leaseDeadline obs started wall steady - steady ≤ totalSeconds (obs.validUntilAt - wall) := by
  unfold leaseDeadline
  have hwall :=
    min_le_left (totalSeconds (obs.validUntilAt - wall)) (obs.lease - (steady - started))
  have hlease :=
    min_le_right (totalSeconds (obs.validUntilAt - wall)) (obs.lease - (steady - started))
  constructor <;> linarith

theorem interpret_ok {last : Option LastEvidence} {obs : CameraObservation} {started : ℚ} {wall : ℤ}
    {steady : ℚ} {value : CameraStatusV2} {deadline : ℚ}
    (h : interpret binding last obs started wall steady = .ok (value, deadline)) :
    Interpreted binding last obs started value deadline := by
  simp only [interpret] at h
  split_ifs at h with hcamera hclock holder hexpired
  obtain ⟨rfl, rfl⟩ := Prod.mk.inj (Except.ok.inj h)
  obtain ⟨hlease, hwall⟩ := leaseDeadline_le obs started wall steady
  set least := leaseDeadline obs started wall steady
  have hle := heldDeadline_le (last.filter fun last => last.binding = binding) obs.assessedAt least
  refine ⟨rfl, rfl, ⟨_, rfl, ?_⟩, hle.trans hlease, ?_⟩
  · have hround : ofSeconds (heldDeadline (last.filter fun last => last.binding = binding)
        obs.assessedAt least - steady) ≤ obs.validUntilAt - wall := by
      apply ofSeconds_le
      linarith
    omega
  · intro held hheld hbinding
    have hown : last.filter (fun last => last.binding = binding) = some held := by
      rw [Option.mem_def.1 hheld]
      simp [Option.filter, hbinding]
    rw [hown] at holder ⊢
    refine ⟨by simpa using holder, fun heq => ?_⟩
    rw [← heq]
    exact heldDeadline_le_held least rfl

theorem cached_eq_some {saved : Option CachedStatus} {wall : ℤ} {steady : ℚ}
    {status : CameraStatusV2} (h : cached binding saved wall steady = some status) :
    ∃ c, saved = some c ∧ status.state = c.value.state ∧ status.assessedAt = c.value.assessedAt ∧
      ∀ t, c.value.validUntilAt = some t → wall < t ∧ steady < c.deadline := by
  unfold cached at h
  cases saved with
  | none => cases h
  | some c =>
    dsimp only at h
    split_ifs at h
    cases hvalid : c.value.validUntilAt with
    | none =>
      rw [hvalid] at h
      obtain rfl := Option.some.inj h
      exact ⟨c, rfl, rfl, rfl, by simp [hvalid]⟩
    | some t =>
      rw [hvalid] at h
      dsimp only at h
      split_ifs at h with hexpired
      obtain rfl := Option.some.inj h
      obtain ⟨hwall, hsteady⟩ := not_or.1 hexpired
      refine ⟨c, rfl, rfl, rfl, ?_⟩
      rintro t' ht'
      rw [hvalid] at ht'
      obtain rfl := Option.some.inj ht'
      exact ⟨not_le.1 hwall, not_le.1 hsteady⟩

/-! ## Runs -/

/-- An answer with this evidence has been accepted, to a request that started at this reading. -/
def Accepted (binding : Binding) (es : History) (obs : CameraObservation) (started : ℚ) : Prop :=
  ∃ e ∈ es, ∃ r result, e.op = .finish (.observed obs) r ∧ e.pre.fetching = some started ∧
    interpret binding e.pre.last obs started r.interpretWall r.interpretSteady = .ok result

/-- What is cached of the camera is backed by accepted evidence, for no longer than its lease. -/
def Backed (binding : Binding) (es : History) (c : CachedStatus) : Prop :=
  c.value.Live → ∃ obs started, Accepted binding es obs started ∧ c.value.state = obs.status.state ∧
    c.value.assessedAt = some obs.assessedAt ∧ c.deadline ≤ started + obs.lease ∧
      ∃ t, c.value.validUntilAt = some t ∧ t ≤ obs.validUntilAt

/-- A status that says something of the camera is returned within the lease of evidence that has
been accepted by then. -/
def Leased (binding : Binding) (es : History) (r : Returned) : Prop :=
  r.status.Live →
    ∃ obs started, Accepted binding es obs started ∧ r.status.state = obs.status.state ∧
      r.status.assessedAt = some obs.assessedAt ∧ r.steady < started + obs.lease ∧
        r.wall < obs.validUntilAt

theorem Accepted.mono {es es' : History} {obs : CameraObservation} {started : ℚ}
    (h : Accepted binding es obs started) (hsub : es ⊆ es') : Accepted binding es' obs started := by
  obtain ⟨e, he, hrest⟩ := h
  exact ⟨e, hsub he, hrest⟩

theorem Backed.mono {es es' : History} {c : CachedStatus} (h : Backed binding es c)
    (hsub : es ⊆ es') :
    Backed binding es' c := by
  intro hlive
  obtain ⟨obs, started, haccepted, hrest⟩ := h hlive
  exact ⟨obs, started, haccepted.mono hsub, hrest⟩

/-- What is found in the cache is within the lease. -/
theorem Backed.leased {es : History} {saved : Option CachedStatus}
    (h : ∀ c ∈ saved, Backed binding es c) {wall : ℤ} {steady : ℚ} {status : CameraStatusV2}
    (hcached : cached binding saved wall steady = some status) :
    Leased binding es ⟨status, wall, steady⟩ := by
  obtain ⟨c, hc, hstate, hassessed, hvalid⟩ := cached_eq_some hcached
  intro hlive
  have hlive' : c.value.Live := by
    unfold CameraStatusV2.Live at hlive ⊢
    rwa [← hstate]
  obtain ⟨obs, started, haccepted, hstate', hassessed', hdeadline, t, ht, htle⟩ := h c hc hlive'
  obtain ⟨hwall, hsteady⟩ := hvalid t ht
  exact ⟨obs, started, haccepted, hstate.trans hstate', hassessed.trans hassessed',
    hsteady.trans_le hdeadline, hwall.trans_le htle⟩

theorem not_live_unknown (pit : String) (camera : Option String) (reason : String) (wall : ℤ) :
    ¬(unknown pit camera reason wall).Live := by
  rintro (h | h) <;> cases h

/-- Evidence is accepted as the newest, or nothing is said of the camera. -/
theorem settle_cases (binding : Binding) (last : Option LastEvidence) (started : ℚ) (r : Readings)
    (reply : Reply) :
    (∃ obs value deadline, reply = .observed obs ∧
      interpret binding last obs started r.interpretWall r.interpretSteady = .ok (value, deadline) ∧
        settle binding last started r reply =
          (value, deadline, some ⟨binding, obs.assessedAt, deadline⟩)) ∨
    ¬(settle binding last started r reply).1.Live ∧
      (settle binding last started r reply).2.2 = last := by
  cases reply with
  | observed obs =>
    unfold settle
    dsimp only
    cases hinterpret : interpret binding last obs started r.interpretWall r.interpretSteady with
    | ok result =>
      obtain ⟨value, deadline⟩ := result
      exact .inl ⟨obs, value, deadline, rfl, hinterpret, rfl⟩
    | error code => exact .inr ⟨not_live_unknown _ _ _ _, rfl⟩
  | timeout => exact .inr ⟨not_live_unknown _ _ _ _, rfl⟩
  | requestError => exact .inr ⟨not_live_unknown _ _ _ _, rfl⟩
  | failed code => exact .inr ⟨not_live_unknown _ _ _ _, rfl⟩
  | invalid => exact .inr ⟨not_live_unknown _ _ _ _, rfl⟩

/-! ## One step -/

/-- The evidence held is not older afterwards, and that of the same assessment has no later
deadline. -/
def LastLe (last last' : Option LastEvidence) : Prop :=
  ∀ held ∈ last, ∃ held' ∈ last', held.assessedAt ≤ held'.assessedAt ∧
    (held.assessedAt = held'.assessedAt → held'.deadline ≤ held.deadline)

theorem LastLe.refl (last : Option LastEvidence) : LastLe last last :=
  fun held hheld => ⟨held, hheld, le_refl _, fun _ => le_refl _⟩

theorem LastLe.trans {a b c : Option LastEvidence} (hab : LastLe a b) (hbc : LastLe b c) :
    LastLe a c := by
  intro x hx
  obtain ⟨y, hy, hxy, hxy'⟩ := hab x hx
  obtain ⟨z, hz, hyz, hyz'⟩ := hbc y hy
  refine ⟨z, hz, hxy.trans hyz, fun heq => ?_⟩
  have hmid : x.assessedAt = y.assessedAt := le_antisymm hxy (hyz.trans heq.ge)
  exact (hyz' (hmid ▸ heq)).trans (hxy' hmid)

/-- What a step does: it leaves the evidence alone and hands out what is cached or nothing that is
live, or it ends a fetch. -/
theorem step_cases {s s' : Service} {op : Op} {out : Option Returned}
    (h : step binding s op = some (s', out)) :
    ((∀ reply r, op ≠ .finish reply r) ∧ s'.cached = s.cached ∧ s'.last = s.last ∧
      ∀ r ∈ out, r.status.Live → cached binding s.cached r.wall r.steady = some r.status) ∨
    ∃ reply r started, op = .finish reply r ∧ s.fetching = some started ∧
      s'.last = (settle binding s.last started r reply).2.2 ∧
        ∃ c, s'.cached = some c ∧ c.binding = binding ∧
          c.value = (settle binding s.last started r reply).1 ∧
          c.deadline = (settle binding s.last started r reply).2.1 ∧
          ∀ x ∈ out, x.status.Live → cached binding s'.cached x.wall x.steady = some x.status := by
  cases op with
  | look wall steady =>
    simp only [step] at h
    split_ifs at h
    obtain ⟨rfl, rfl⟩ := Prod.mk.inj (Option.some.inj h)
    refine .inl ⟨by simp, rfl, rfl, fun r hr _ => ?_⟩
    obtain ⟨status, hstatus, rfl⟩ := Option.map_eq_some_iff.1 hr
    exact hstatus
  | enter wall steady started =>
    simp only [step] at h
    split_ifs at h
    cases hcached : cached binding s.cached wall steady with
    | some status =>
      rw [hcached] at h
      obtain ⟨rfl, rfl⟩ := Prod.mk.inj (Option.some.inj h)
      refine .inl ⟨by simp, rfl, rfl, fun r hr _ => ?_⟩
      obtain rfl := Option.some.inj hr
      exact hcached
    | none =>
      rw [hcached] at h
      obtain ⟨rfl, rfl⟩ := Prod.mk.inj (Option.some.inj h)
      exact .inl ⟨by simp, rfl, rfl, fun r hr => by cases hr⟩
  | finish reply r =>
    cases hfetching : s.fetching with
    | none => simp [step, hfetching] at h
    | some started =>
      simp only [step, hfetching] at h
      by_cases hsteady : s.now ≤ r.interpretSteady ∧ r.Steady started
      swap
      · rw [if_neg hsteady] at h
        cases h
      rw [if_pos hsteady] at h
      obtain ⟨rfl, rfl⟩ := Prod.mk.inj (Option.some.inj h)
      refine .inr ⟨reply, r, started, rfl, rfl, rfl, _, rfl, rfl, rfl, rfl, ?_⟩
      intro x hx hlive
      obtain rfl := Option.some.inj hx
      dsimp only at hlive ⊢
      revert hlive
      generalize cached binding _ r.wall r.steady = found
      intro hlive
      cases found with
      | some status => rfl
      | none => exact absurd hlive (not_live_unknown _ _ _ _)
  | giveUp wall =>
    obtain ⟨rfl, rfl⟩ := Prod.mk.inj (Option.some.inj h)
    refine .inl ⟨by simp, rfl, rfl, fun r hr hlive => ?_⟩
    obtain rfl := Option.some.inj hr
    exact absurd hlive (not_live_unknown _ _ _ _)
  | busy wall =>
    obtain ⟨rfl, rfl⟩ := Prod.mk.inj (Option.some.inj h)
    refine .inl ⟨by simp, rfl, rfl, fun r hr hlive => ?_⟩
    obtain rfl := Option.some.inj hr
    exact absurd hlive (not_live_unknown _ _ _ _)

/-- What is held is held of this camera. -/
def Bound (binding : Binding) (last : Option LastEvidence) : Prop :=
  ∀ held ∈ last, held.binding = binding

theorem settle_last {last : Option LastEvidence} (hbound : Bound binding last) (started : ℚ)
    (r : Readings) (reply : Reply) :
    Bound binding (settle binding last started r reply).2.2 ∧
      LastLe last (settle binding last started r reply).2.2 := by
  obtain ⟨obs, value, deadline, -, hinterpret, hsettle⟩ | ⟨-, hlast⟩ :=
    settle_cases binding last started r reply
  · rw [hsettle]
    constructor
    · intro held hheld
      obtain rfl := Option.some.inj hheld
      rfl
    · intro held hheld
      obtain ⟨hle, hdeadline⟩ := (interpret_ok hinterpret).newest held hheld (hbound held hheld)
      exact ⟨_, rfl, hle, hdeadline⟩
  · rw [hlast]
    exact ⟨hbound, .refl last⟩

theorem step_last {s s' : Service} {op : Op} {out : Option Returned} (hbound : Bound binding s.last)
    (h : step binding s op = some (s', out)) : Bound binding s'.last ∧ LastLe s.last s'.last := by
  obtain ⟨-, -, hlast, -⟩ | ⟨reply, r, started, -, -, hlast, -⟩ := step_cases h
  · rw [hlast]
    exact ⟨hbound, .refl s.last⟩
  · rw [hlast]
    exact settle_last hbound started r reply

/-- Evidence older than what is held leaves it, and says nothing of the camera. -/
theorem step_older {s s' : Service} {obs : CameraObservation} {r : Readings}
    {out : Option Returned} (hbound : Bound binding s.last)
    (h : step binding s (.finish (.observed obs) r) = some (s', out)) {held : LastEvidence}
    (hheld : held ∈ s.last) (holder : obs.assessedAt < held.assessedAt) :
    s'.last = s.last ∧ ∀ x ∈ out, ¬x.status.Live := by
  obtain ⟨hop, -⟩ | ⟨reply, r', started, hop, -, hlast, c, hc, -, hvalue, -, hout⟩ :=
    step_cases h
  · exact absurd rfl (hop _ _)
  · obtain ⟨hreply, rfl⟩ := Op.finish.inj hop
    subst hreply
    obtain ⟨obs', value, deadline, hobs, hinterpret, -⟩ | ⟨hlive, hsame⟩ :=
      settle_cases binding s.last started r (.observed obs)
    · obtain rfl := Reply.observed.inj hobs
      have hle := ((interpret_ok hinterpret).newest held hheld (hbound held hheld)).1
      omega
    · refine ⟨hlast.trans hsame, fun x hx hx' => ?_⟩
      obtain ⟨c', hc', hstate, -⟩ := cached_eq_some (hout x hx hx')
      obtain rfl := Option.some.inj (hc.symm.trans hc')
      rw [← hvalue] at hlive
      refine hlive ?_
      unfold CameraStatusV2.Live at hx' ⊢
      rwa [← hstate]

/-- What a step caches and returns is backed by the history that it ends. -/
theorem step_backed {es : History} {s s' : Service} {op : Op} {out : Option Returned}
    (hbacked : ∀ c ∈ s.cached, Backed binding es c) (h : step binding s op = some (s', out)) :
    (∀ c ∈ s'.cached, Backed binding (es ++ [⟨s, op, out, s'⟩]) c) ∧
      ∀ x ∈ out, Leased binding (es ++ [⟨s, op, out, s'⟩]) x := by
  have hsub : es ⊆ es ++ [⟨s, op, out, s'⟩] := List.subset_append_left _ _
  have hbacked' : ∀ c ∈ s'.cached, Backed binding (es ++ [⟨s, op, out, s'⟩]) c := by
    obtain ⟨-, hcached, -⟩ |
      ⟨reply, r, started, rfl, hfetching, -, c, hc, -, hvalue, hdeadline, -⟩ := step_cases h
    · rw [hcached]
      exact fun c hc => (hbacked c hc).mono hsub
    · intro c' hc' hlive
      obtain rfl := Option.some.inj (hc.symm.trans hc')
      rw [hvalue] at hlive
      obtain ⟨obs, value, deadline, rfl, hinterpret, hsettle⟩ | ⟨hdead, -⟩ :=
        settle_cases binding s.last started r reply
      swap
      · exact absurd hlive hdead
      rw [hsettle] at hvalue hdeadline
      have hinterpreted := interpret_ok hinterpret
      refine ⟨obs, started, ⟨_, List.mem_append_right _ (List.mem_singleton_self _), r, _, rfl,
        hfetching, hinterpret⟩, ?_⟩
      rw [hvalue, hdeadline]
      exact ⟨hinterpreted.state, hinterpreted.assessedAt, hinterpreted.deadline_le,
        hinterpreted.validUntil⟩
  refine ⟨hbacked', fun x hx hlive => ?_⟩
  obtain ⟨-, hcached, -, hout⟩ | ⟨reply, r, started, -, -, -, c, hc, -, -, -, hout⟩ := step_cases h
  · rw [← hcached] at hout
    exact Backed.leased hbacked' (hout x hx hlive) hlive
  · exact Backed.leased hbacked' (hout x hx hlive) hlive

/-! ## Whole runs -/

theorem run_bound {t₀ : ℚ} {es : History} {s : Service}
    (h : Run (step binding) (Service.initial t₀) es s) : Bound binding s.last := by
  refine h.invariant (I := fun s => Bound binding s.last) (by simp [Service.initial, Bound]) ?_
  intro s op s' out hbound hs
  exact (step_last hbound hs).1

theorem run_backed {t₀ : ℚ} {es : History} {s : Service}
    (h : Run (step binding) (Service.initial t₀) es s) : ∀ c ∈ s.cached, Backed binding es c := by
  induction h with
  | nil => simp [Service.initial]
  | snoc h hs ih => exact (step_backed ih hs).1

theorem run_leased {t₀ : ℚ} {pre post : History} {e : Entry Service Op (Option Returned)}
    {s : Service} (h : Run (step binding) (Service.initial t₀) (pre ++ e :: post) s) :
    ∀ x ∈ e.out, Leased binding (pre ++ [e]) x := by
  obtain ⟨hpre, hs⟩ := h.of_append_cons
  exact (step_backed (run_backed hpre) hs).2

theorem run_lastLe {t₀ : ℚ} {es : History} {s : Service}
    (h : Run (step binding) (Service.initial t₀) es s) :
    (es.Pairwise fun e f => LastLe e.post.last f.post.last) ∧
      ∀ e ∈ es, LastLe e.post.last s.last := by
  induction h with
  | nil => simp
  | @snoc es s s' op out h hs ih =>
    obtain ⟨hpair, hlast⟩ := ih
    have hstep := (step_last (run_bound h) hs).2
    have hall : ∀ e ∈ es, LastLe e.post.last s'.last := fun e he => (hlast e he).trans hstep
    constructor
    · refine List.pairwise_append.2 ⟨hpair, List.pairwise_singleton _ _, ?_⟩
      intro e he f hf
      obtain rfl := List.mem_singleton.1 hf
      exact hall e he
    · intro e he
      obtain he | he := List.mem_append.1 he
      · exact hall e he
      · obtain rfl := List.mem_singleton.1 he
        exact .refl _

/-- What is handed out later is within the lease of what has been read. -/
theorem deliveryStatus_live {now : Option Binding} {reading : CameraStreamRead} {wall : ℤ}
    {steady : ℚ} (h : (deliveryStatus now reading wall steady).Live) :
    (deliveryStatus now reading wall steady).state = reading.status.state ∧
      ∃ validFor ∈ reading.status.validForSeconds, ∃ validUntil ∈ reading.status.validUntilAt,
        steady < reading.receivedAt + validFor ∧ wall < validUntil := by
  revert h
  unfold deliveryStatus
  dsimp only
  split
  · exact fun h => absurd h (not_live_unknown _ _ _ _)
  split
  · exact fun h => absurd h (not_live_unknown _ _ _ _)
  split
  · rename_i validUntil validFor huntil hfor
    split_ifs with hremaining
    · exact fun h => absurd h (not_live_unknown _ _ _ _)
    · intro _
      obtain ⟨hsteady, hwall⟩ := lt_min_iff.1 (not_le.1 hremaining)
      refine ⟨rfl, validFor, hfor, validUntil, huntil, by linarith, ?_⟩
      have := pos_of_totalSeconds_pos hwall
      omega
  · split_ifs with hlive
    · exact fun h => absurd h (not_live_unknown _ _ _ _)
    · exact fun h => absurd h hlive

/-- What holds of the lease of the evidence along a run. -/
structure LeaseKept (binding : Binding) (es : History) : Prop where
  /-- A status that says something of the camera is within the lease of accepted evidence. -/
  leased : ∀ pre e post, es = pre ++ e :: post → ∀ x ∈ e.out, Leased binding (pre ++ [e]) x
  /-- The deadline that is kept for an assessment never increases. -/
  deadline : es.Pairwise fun e f => ∀ held ∈ e.post.last, ∀ held' ∈ f.post.last,
    held.assessedAt = held'.assessedAt → held'.deadline ≤ held.deadline
  /-- Evidence older than what is held is never accepted. -/
  older : ∀ e ∈ es, ∀ obs r, e.op = .finish (.observed obs) r → ∀ held ∈ e.pre.last,
    obs.assessedAt < held.assessedAt → e.post.last = e.pre.last ∧ ∀ x ∈ e.out, ¬x.status.Live
  /-- What is handed out later is within the lease of what has been read. -/
  delivered : ∀ now reading wall steady, (deliveryStatus now reading wall steady).Live →
    ∃ validFor ∈ reading.status.validForSeconds, ∃ validUntil ∈ reading.status.validUntilAt,
      steady < reading.receivedAt + validFor ∧ wall < validUntil

/-- **Neither replays nor the clocks renew the lease of the evidence.** -/
theorem camera_lease {t₀ : ℚ} {es : History} {s : Service}
    (h : Run (step binding) (Service.initial t₀) es s) : LeaseKept binding es where
  leased := by
    rintro pre e post rfl
    exact run_leased h
  deadline := by
    refine (run_lastLe h).1.imp ?_
    intro e f hle held hheld held' hheld' heq
    obtain ⟨held'', hheld'', -, hdeadline⟩ := hle held hheld
    obtain rfl := Option.some.inj (hheld''.symm.trans hheld')
    exact hdeadline heq
  older := by
    intro e he obs r hop held hheld holder
    obtain ⟨pre, post, rfl⟩ := List.append_of_mem he
    obtain ⟨hpre, hs⟩ := h.of_append_cons
    rw [hop] at hs
    exact step_older (run_bound hpre) hs hheld holder
  delivered := fun _ _ _ _ hlive => (deliveryStatus_live hlive).2

/-- Evidence of a healthy camera, valid for three seconds from its assessment. -/
def sampleEvidence : CameraObservation where
  cameraId := "camera"
  status := .healthy
  connectionState := .connected
  lastFrameReceivedAt := some (seconds 99)
  assessedAt := seconds 100
  validUntilAt := seconds 103
  reasonCode := .frameReceived
  freshnessSeconds := 3
  freshness_range := by norm_num
  lease_range := by norm_num [totalSeconds, seconds]
  isConsistent := rfl

/-- A fetch that is answered with `sampleEvidence`, a look within the lease, and a fetch that is
answered with it again when the lease has passed, with the wall clock set back. -/
def sampleOps : List Op :=
  [.enter (seconds 100) 10 10,
    .finish (.observed sampleEvidence)
      ⟨seconds 100, 11, 0, 11, 11, seconds 100, seconds 100, 11, 0⟩,
    .look (seconds 101) 12,
    .enter (seconds 100) 14 14,
    .finish (.observed sampleEvidence)
      ⟨seconds 100, 14, seconds 100, 14, 14, seconds 100, seconds 100, 14, 0⟩]

def sampleBinding : Binding := ⟨"pit", "base", "camera"⟩

example : ((exec (step sampleBinding) (Service.initial 10) sampleOps).map fun r =>
    r.1.map fun e => e.out.map fun x => (x.status.state, x.status.validForSeconds)) =
      some [none, some (.healthy, some 2), some (.healthy, some 1), none,
        some (.unknown, none)] := by
  decide +kernel

theorem camera_lease_replayed : ∃ es s, exec (step sampleBinding) (Service.initial 10) sampleOps =
    some (es, s) ∧ LeaseKept sampleBinding es := by
  have hsome : (exec (step sampleBinding) (Service.initial 10) sampleOps).isSome := by
    decide +kernel
  obtain ⟨⟨es, s⟩, h⟩ := Option.isSome_iff_exists.1 hsome
  exact ⟨es, s, h, camera_lease (Run.of_exec h)⟩

end ScrapMonitoring.Camera
