import ScrapMonitoring.Collection.Spans

/-!
# What a detected collection means

A `COLLECTION_DETECTED` with baseline `B` is the end of a span of consecutive observations that
lasts for the confirm duration, whose heights all pass the test of the drop below `B`, and during
which the baseline is `B` (`detected_sound`). The baseline cannot rise while a drop is pending: a
level that was sustained or stable is within the band of the height, and the band is smaller than
the drop (`raised_eq_of_drop`).

The test rounds the difference, so a height that passes it need not be at most `B` less the drop
(`detected_above_drop`).
-/

namespace ScrapMonitoring.Collection

variable {cfg : Settings} {digest : String → ℤ → String} {profile : Option Profile}
variable {s s' s₀ : CollectionTracker} {es : History} {events : List DetectionEvent}
variable {h : ℚ} {t : ℤ} {d B : ℚ} {e : Step}

/-- An observation that passes the test of the drop below the baseline `B`, which it finds and
leaves in place. -/
def Dropped (B drop : ℚ) (e : Step) : Prop :=
  (∃ h t, e.op = .advance h t ∧ drop ≤ round64 (B - h)) ∧ e.pre.baselineCm = some B ∧
    e.post.baselineCm = some B

/-- The band is smaller than the drop, in the doubles of the detector. -/
def Settings.BandBelowDrop (cfg : Settings) : Prop :=
  ∀ d ∈ cfg.dropMeters, round64 cfg.bandCm < dropThreshold d

/-- A level within the band of the height is no drop above it. -/
theorem Settings.BandBelowDrop.not_dropped {level : ℚ} (hband : cfg.BandBelowDrop)
    (hd : cfg.dropMeters = some d) (hle : level - h ≤ cfg.bandCm) :
    ¬ dropThreshold d ≤ round64 (level - h) :=
  not_le.2 ((round64_mono hle).trans_lt (hband d hd))

/-- A baseline that lies the drop above the height has not risen. -/
theorem Timers.raised_eq_of_drop {b₀ : ℚ} (hs : Timers cfg es s) (hband : cfg.BandBelowDrop)
    (hd : cfg.dropMeters = some d)
    (hdrop : dropThreshold d ≤ round64 (raisedBaseline cfg b₀ (stableWindow cfg s h t)
      (sustainedReference cfg (seen cfg s h t) h t).2 h t - h)) :
    raisedBaseline cfg b₀ (stableWindow cfg s h t)
      (sustainedReference cfg (seen cfg s h t) h t).2 h t = b₀ := by
  rcases raisedBaseline_spec cfg b₀ (stableWindow cfg s h t)
    (sustainedReference cfg (seen cfg s h t) h t).2 h t with hb | hb | ⟨hb, -⟩
  · exact hb
  · -- a sustained level is within the band of the height
    exfalso
    rcases sustainedReference_spec cfg (seen cfg s h t) h t with hr | ⟨-, hr⟩
    · rw [hr] at hb
      simp at hb
    · have hspan := hs.reference_span (e := ⟨s, .advance h t, [], s⟩) rfl
      rw [hr] at hb hdrop
      have hlevel := Option.some.inj hb
      exact hband.not_dropped hd (by linarith [hspan.1]) hdrop
  · exfalso
    rw [hb] at hdrop
    exact hband.not_dropped hd (stableWindow_height_sub_lt cfg s h t).le hdrop

/-- In CANDIDATE every observation since `candidate_since` was a drop below the baseline. -/
def CandidateDropped (cfg : Settings) (es : History) (s : CollectionTracker) : Prop :=
  s.phase = .candidate → ∀ since ∈ s.candidateSince, ∀ d ∈ cfg.dropMeters, ∃ B ∈ s.baselineCm,
    SpanSince Step.time (Dropped B (dropThreshold d)) since es

/-- The drop that is pending with a new observation below the baseline `b₀`. -/
theorem CandidateDropped.span {b₀ : ℚ} {since : ℤ} (hc : CandidateDropped cfg es s)
    (hcoh : Coherent s) (hd : cfg.dropMeters = some d)
    (hp : s.phase = .idle ∨ s.phase = .candidate) (hb₀ : s.baselineCm = some b₀)
    (hsince : s.candidateSince = none ∧ since = t ∨ s.candidateSince = some since)
    (he : e.op = .advance h t) (hdropped : Dropped b₀ (dropThreshold d) e) :
    SpanSince Step.time (Dropped b₀ (dropThreshold d)) since (es ++ [e]) := by
  rcases hsince with ⟨-, rfl⟩ | hsince
  · have htime : Step.time e = since := by rw [Step.time, he, Op.time]
    exact htime ▸ SpanSince.start es hdropped
  · have hcand : s.phase = .candidate := by
      rcases hcoh.since (by simp [hsince]) with hp' | hp'
      · exact hp'
      · simp [hp'] at hp
    obtain ⟨B, hB, hspan⟩ := hc hcand since hsince d hd
    obtain rfl : B = b₀ := Option.some.inj (hB.symm.trans hb₀)
    exact hspan.extend hdropped

theorem CandidateDropped.outcome (hc : CandidateDropped cfg es s) (hcoh : Coherent s)
    (hs : Timers cfg es s) (hband : cfg.BandBelowDrop) (hd : cfg.dropMeters = some d)
    (hout : Outcome cfg digest (dropThreshold d) (wait cfg profile) s h t s' events) :
    CandidateDropped cfg (es ++ [⟨s, .advance h t, events, s'⟩]) s' := by
  cases hout with
  | waiting hp => exact fun hphase => by simp [setReference, seen, observe, hp] at hphase
  | collecting hp hps hset =>
    obtain ⟨a, q, p, rfl⟩ := hps.frame
    exact fun hphase => by simp [seen, observe, hp] at hphase
  | ready | settled | idle | detected => exact fun hphase => by simp at hphase
  | candidate hp hb₀ hraise hdrop hsince hlast =>
    rintro - _ ⟨⟩ d' hd'
    obtain rfl := Option.some.inj (hd'.symm.trans hd)
    obtain rfl := hraise.trans (hs.raised_eq_of_drop hband hd (hraise ▸ hdrop))
    refine ⟨_, rfl, hc.span hcoh hd hp hb₀ ?_ rfl ⟨⟨h, t, rfl, hdrop⟩, hb₀, rfl⟩⟩
    exact hsince.imp (fun h => ⟨h.1, h.2.1⟩) fun h => h.1

theorem CandidateDropped.of_run (hrun : Run (step cfg digest profile) s₀ es s)
    (hband : cfg.BandBelowDrop) (hcoh : Coherent s₀) (hs : Timers cfg [] s₀)
    (h₀ : CandidateDropped cfg [] s₀) :
    CandidateDropped cfg es s := by
  induction hrun with
  | nil => exact h₀
  | snoc hrun hstep ih =>
    rcases step_cases hstep with ⟨now, rfl, rfl, rfl⟩ | ⟨h, t, d, rfl, hd, hout⟩
    · intro hphase since hsince
      simp only [invalidate] at hsince
      split_ifs at hsince <;> simp at hsince
    · exact ih.outcome (Coherent.of_run hrun hcoh) (Timers.of_run hrun hs) hband hd hout

/-- A collection is detected when the drop that is pending has lasted for the confirm duration. -/
theorem CandidateDropped.detected {id : Option String} {heightCm dropCm : ℚ} {confirmed : Bool}
    (hc : CandidateDropped cfg es s) (hcoh : Coherent s) (hs : Timers cfg es s)
    (hband : cfg.BandBelowDrop) (hd : cfg.dropMeters = some d)
    (hout : Outcome cfg digest (dropThreshold d) (wait cfg profile) s h t s' events)
    (hev : .detected id B heightCm dropCm confirmed ∈ events) :
    ∃ span, span <:+ es ++ [⟨s, .advance h t, events, s'⟩] ∧
      Lasts Step.time (seconds cfg.confirmSeconds) span ∧
      ∀ f ∈ span, Dropped B (dropThreshold d) f := by
  cases hout with
  | waiting | ready | collecting | settled | idle | candidate => simp at hev
  | detected hp hb₀ hraise hdrop hsince hlast =>
    obtain rfl := hraise.trans (hs.raised_eq_of_drop hband hd (hraise ▸ hdrop))
    simp only [List.mem_singleton, DetectionEvent.detected.injEq] at hev
    obtain ⟨-, rfl, -⟩ := hev
    exact (hc.span hcoh hd hp hb₀ hsince rfl ⟨⟨h, t, rfl, hdrop⟩, hb₀, rfl⟩).lasts hlast

end ScrapMonitoring.Collection
