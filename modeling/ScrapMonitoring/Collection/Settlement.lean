import ScrapMonitoring.Collection.History

/-!
# What the end of a collection means

A `COLLECTION_SETTLED` at time `t` says that the last `wait` seconds were quiet. `Settling` is the
invariant behind it: `quiet_since` is at or after the observation with which the collection began
or was resumed after an outage, every operation since then was an observation of the same
collection, and no further drop that lasted for the confirm duration was seen after `quiet_since`.
`settled_sound` reads the claim about the end of a collection off it.
-/

namespace ScrapMonitoring.Collection

variable {cfg : Settings} {digest : String → ℤ → String} {profile : Option Profile}
variable {s s' s₀ : CollectionTracker} {es : History} {events : List DetectionEvent}
variable {h A : ℚ} {t : ℤ} {drop : ℚ} {e : Step} {id : Option String}

/-- The operations are recorded in the order of their times. -/
def Chronological (es : History) : Prop := es.Pairwise fun e f => Step.time e ≤ Step.time f

instance : DecidablePred Chronological := fun es =>
  inferInstanceAs (Decidable (es.Pairwise fun e f => Step.time e ≤ Step.time f))

/-- An observation that finds the collection `id` going on. -/
def InEpisode (id : Option String) (e : Step) : Prop :=
  (∃ h t, e.op = .advance h t) ∧ e.pre.phase = .collecting ∧ e.pre.episodeId = id

/-- With the step `e`, after the history `pre`, the collection `id` is detected, or resumed after
an outage. -/
def Begins (id : Option String) (pre : History) (e : Step) : Prop :=
  (∃ B h drop confirmed, .detected id B h drop confirmed ∈ e.out) ∨
    InEpisode id e ∧ ∃ i now, pre.getLast? = some i ∧ i.op = .invalidate now

/-- An observation, during a collection, of a height at least the band below the anchor `A`. -/
def FurtherDrop (cfg : Settings) (A : ℚ) (e : Step) : Prop :=
  e.pre.phase = .collecting ∧ e.pre.progressAnchorCm = some A ∧
    ∃ h t, e.op = .advance h t ∧ h ≤ A - cfg.bandCm

/-- What holds of the timers while a collection goes on. -/
structure Settling (cfg : Settings) (es : History) (s : CollectionTracker) : Prop where
  anchored : s.quietSince = none ↔ s.progressAnchorCm = none
  outage : s.quietSince = none → ∃ i now, es.getLast? = some i ∧ i.op = .invalidate now
  since : ∀ q ∈ s.quietSince, ∃ pre d mid, es = pre ++ d :: mid ∧ Begins s.episodeId pre d ∧
    Step.time d ≤ q ∧ ∀ f ∈ mid, InEpisode s.episodeId f
  pending : ∀ p ∈ s.progressCandidateSince, ∃ f ∈ es, Step.time f = p
  /-- A further drop that goes on has been pending since its first observation. -/
  dropping : ∀ A ∈ s.progressAnchorCm, ∀ span, span <:+ es → (∀ f ∈ span, FurtherDrop cfg A f) →
    ∀ f ∈ span.head?, ∃ p ∈ s.progressCandidateSince, p ≤ Step.time f
  /-- A further drop that lasted for the confirm duration was over at `quiet_since`. -/
  quiet : ∀ q ∈ s.quietSince, ∀ A span, span <:+: es →
    Lasts Step.time (seconds cfg.confirmSeconds) span → (∀ f ∈ span, FurtherDrop cfg A f) →
      ∀ f ∈ span.getLast?, Step.time f ≤ q

/-- Everything in a history happened by the time of its newest step. -/
theorem Chronological.le_last (hes : Chronological (es ++ [e])) {f : Step} (hf : f ∈ es ++ [e]) :
    Step.time f ≤ Step.time e := by
  rcases List.mem_append.1 hf with hf | hf
  · exact (List.pairwise_append.1 hes).2.2 f hf e (by simp)
  · rw [List.mem_singleton.1 hf]

/-- A span of further drops that ends with the newest step contains that step. -/
theorem FurtherDrop.of_suffix {span : History} (hspan : span <:+ es ++ [e])
    (hP : ∀ f ∈ span, FurtherDrop cfg A f) {f : Step} (hf : f ∈ span.head?) :
    FurtherDrop cfg A e := by
  rcases List.suffix_concat_iff.1 hspan with rfl | ⟨l, rfl, -⟩
  · simp at hf
  · exact hP e (by simp)

theorem FurtherDrop.anchor_eq {a : ℚ} (hA : FurtherDrop cfg A e) (hop : e.op = .advance h t)
    (ha : e.pre.progressAnchorCm = some a) : a = A ∧ h ≤ a - cfg.bandCm := by
  obtain ⟨-, hA, h', t', hop', hle⟩ := hA
  obtain rfl := Option.some.inj (ha.symm.trans hA)
  rw [hop] at hop'
  obtain ⟨rfl, rfl⟩ := Op.advance.inj hop'
  exact ⟨rfl, hle⟩

/-- A quiet interval that starts with the newest step. -/
theorem Settling.start (hes : Chronological (es ++ [e])) (htime : Step.time e = t)
    (hq : s'.quietSince = some t) (ha : s'.progressAnchorCm = some h)
    (hp : s'.progressCandidateSince = none) (hno : ¬ FurtherDrop cfg h e)
    (hsince : ∃ pre d mid, es ++ [e] = pre ++ d :: mid ∧ Begins s'.episodeId pre d ∧
      Step.time d ≤ t ∧ ∀ f ∈ mid, InEpisode s'.episodeId f) :
    Settling cfg (es ++ [e]) s' where
  anchored := by simp [hq, ha]
  outage := by simp [hq]
  since q hq' := Option.some.inj (hq.symm.trans hq') ▸ hsince
  pending := by simp [hp]
  dropping A hA span hspan hP f hf :=
    (hno (Option.some.inj (ha.symm.trans hA) ▸ FurtherDrop.of_suffix hspan hP hf)).elim
  quiet q hq' A span hspan _ _ f hf := by
    rw [← Option.some.inj (hq.symm.trans hq'), ← htime]
    exact hes.le_last (hspan.subset (List.mem_of_mem_getLast? hf))

/-- The collection goes on: what began it still did. -/
theorem Settling.since_append {q : ℤ} (hs : Settling cfg es s) (hq : s.quietSince = some q)
    (he : InEpisode s.episodeId e) :
    ∃ pre d mid, es ++ [e] = pre ++ d :: mid ∧ Begins s.episodeId pre d ∧
      Step.time d ≤ q ∧ ∀ f ∈ mid, InEpisode s.episodeId f := by
  obtain ⟨pre, d, mid, rfl, hd, htime, hmid⟩ := hs.since q hq
  refine ⟨pre, d, mid ++ [e], by simp, hd, htime, ?_⟩
  exact List.forall_mem_append.2 ⟨hmid, by simpa using he⟩

/-- The drops seen before the newest step were over at `quiet_since`; those that end with it are
shorter than the confirm duration. -/
theorem Settling.quiet_append {q : ℤ} (hs : Settling cfg es s) (hq : s.quietSince = some q)
    (hshort : ∀ A span, span <:+ es ++ [e] →
      Lasts Step.time (seconds cfg.confirmSeconds) span → ¬ ∀ f ∈ span, FurtherDrop cfg A f)
    (span : History) (hspan : span <:+: es ++ [e])
    (hlast : Lasts Step.time (seconds cfg.confirmSeconds) span)
    (hP : ∀ f ∈ span, FurtherDrop cfg A f) : ∀ f ∈ span.getLast?, Step.time f ≤ q := by
  rcases List.infix_concat_iff.1 hspan with hsuffix | hinfix
  · exact (hshort A span hsuffix hlast hP).elim
  · exact hs.quiet q hq A span hinfix hlast hP

/-- What an observation during a collection does to the timers. -/
theorem Settling.progress (hs : Settling cfg es s) (hes : Chronological (es ++ [e]))
    (hop : e.op = .advance h t) (hpre : e.pre = s) (hcol : s.phase = .collecting)
    (hps : ProgressStep cfg (seen cfg s h t) h t s') : Settling cfg (es ++ [e]) s' := by
  have hband := cfg.bandCm_pos
  have htime : Step.time e = t := by rw [Step.time, hop, Op.time]
  have hin : InEpisode s.episodeId e := ⟨⟨h, t, hop⟩, by rw [hpre, hcol], by rw [hpre]⟩
  cases hps with
  | resumed hnone =>
    have hq : s.quietSince = none := hnone.elim hs.anchored.2 id
    have ha := hs.anchored.1 hq
    refine .start hes htime rfl rfl rfl (fun hdrop => ?_) ⟨es, e, [], rfl, ?_, htime.le, by simp⟩
    · rw [FurtherDrop, hpre, ha] at hdrop
      simp at hdrop
    · exact Or.inr ⟨hin, hs.outage hq⟩
  | confirmed ha hq hdrop hlast =>
    -- the anchor is now the height, which is no drop below itself
    refine .start hes htime rfl rfl rfl (fun hdrop' => ?_) ?_
    · obtain ⟨-, hle⟩ := hdrop'.anchor_eq hop (hpre ▸ ha)
      have := (hdrop'.anchor_eq hop (hpre ▸ ha)).1
      linarith
    · obtain ⟨pre, d, mid, heq, hd, -, hmid⟩ := hs.since_append hq hin
      exact ⟨pre, d, mid, heq, hd, htime ▸ hes.le_last (heq ▸ by simp), hmid⟩
  | pending ha hq hdrop hlast =>
    change t - s.progressCandidateSince.getD t < _ at hlast
    have hpend : ∀ A span, span <:+ es ++ [e] → (∀ f ∈ span, FurtherDrop cfg A f) →
        ∀ f ∈ span.head?, s.progressCandidateSince.getD t ≤ Step.time f := by
      intro A span hspan hP f hf
      obtain ⟨rfl, -⟩ := (FurtherDrop.of_suffix hspan hP hf).anchor_eq hop (hpre ▸ ha)
      rcases List.suffix_concat_iff.1 hspan with rfl | ⟨l, rfl, hl⟩
      · simp at hf
      cases l with
      | nil =>
        -- the drop begins with this observation, or was pending before it
        obtain rfl : e = f := by simpa using hf
        cases hp : s.progressCandidateSince with
        | none => exact htime.ge
        | some p =>
          obtain ⟨f, hf, rfl⟩ := hs.pending p hp
          exact hes.le_last (List.mem_append_left _ hf)
      | cons f' l =>
        obtain ⟨p, hp, hle⟩ := hs.dropping _ ha (f' :: l) hl
          (fun f hf => hP f (List.mem_append_left _ hf)) f (by simpa using hf)
        rw [Option.mem_def] at hp
        rwa [hp]
    exact
      { anchored := by simp
        outage := by simp
        since := by
          rintro _ ⟨⟩
          exact hs.since_append hq hin
        pending := by
          rintro _ ⟨⟩
          change ∃ f ∈ es ++ [e], Step.time f = s.progressCandidateSince.getD t
          cases hp : s.progressCandidateSince with
          | none => exact ⟨e, by simp, htime⟩
          | some p =>
            obtain ⟨f, hf, hfp⟩ := hs.pending p hp
            exact ⟨f, List.mem_append_left _ hf, hfp⟩
        dropping := fun A _ span hspan hP f hf => ⟨_, rfl, hpend A span hspan hP f hf⟩
        quiet := by
          rintro _ ⟨⟩ A
          refine hs.quiet_append hq fun A span hspan hlasts hP => ?_
          obtain ⟨a, ha, b, hb, hd⟩ := hlasts
          have hle := hpend A span hspan hP a ha
          have hbt := hes.le_last (hspan.subset (List.mem_of_mem_getLast? hb))
          change Step.time b ≤ Step.time e at hbt
          omega }
  | quiet ha hq hle hdrop =>
    -- the height is less than the band below the anchor
    have hno : ∀ A, ¬ FurtherDrop cfg A e := by
      intro A hA
      obtain ⟨-, hle⟩ := hA.anchor_eq hop (hpre ▸ ha)
      linarith
    exact
      { anchored := by simp
        outage := by simp
        since := by
          rintro _ ⟨⟩
          exact hs.since_append hq hin
        pending := by simp
        dropping := fun A _ span hspan hP f hf => (hno A (.of_suffix hspan hP hf)).elim
        quiet := by
          rintro _ ⟨⟩ A
          refine hs.quiet_append hq fun A span hspan hlasts hP => ?_
          obtain ⟨a, ha, -⟩ := hlasts
          exact hno A (.of_suffix hspan hP ha) }

/-- An outage keeps the collection and restarts the wait. -/
theorem Settling.of_invalidate {now : ℤ} :
    Settling cfg (es ++ [⟨s, .invalidate now, [], invalidate s⟩]) (invalidate s) := by
  have hq : (invalidate s).quietSince = none := by
    simp only [invalidate]
    split_ifs <;> rfl
  have ha : (invalidate s).progressAnchorCm = none := by
    simp only [invalidate]
    split_ifs <;> rfl
  have hp : (invalidate s).progressCandidateSince = none := by
    simp only [invalidate]
    split_ifs <;> rfl
  constructor <;> simp [hq, ha, hp]

theorem Settling.outcome {wait : ℤ} (hs : s.phase = .collecting → Settling cfg es s)
    (hes : Chronological (es ++ [⟨s, .advance h t, events, s'⟩]))
    (hout : Outcome cfg digest drop wait s h t s' events) (hcol : s'.phase = .collecting) :
    Settling cfg (es ++ [⟨s, .advance h t, events, s'⟩]) s' := by
  cases hout with
  | waiting hp => simp [setReference, seen, observe, hp] at hcol
  | ready | settled | idle => simp at hcol
  | candidate hp hb₀ hraise hdrop hsince hlast =>
    change _ = DetectionPhase.collecting at hcol
    subst hcol
    rcases hsince with ⟨-, -, hphase⟩ | ⟨-, hphase⟩
    · simp at hphase
    · simp [← hphase] at hp
  | collecting hp hps hset => exact (hs hp).progress hes rfl rfl hp hps
  | detected hp hb₀ hraise hdrop hsince hlast =>
    refine .start hes rfl rfl rfl rfl (fun hdrop => ?_)
      ⟨es, _, [], rfl, Or.inl ⟨_, _, _, _, List.mem_singleton_self _⟩, le_rfl, by simp⟩
    have hcol : s.phase = .collecting := hdrop.1
    simp [hcol] at hp

theorem Settling.of_run (hrun : Run (step cfg digest profile) s₀ es s)
    (h₀ : s₀.phase ≠ .collecting) (hes : Chronological es) (hcol : s.phase = .collecting) :
    Settling cfg es s := by
  induction hrun with
  | nil => exact (h₀ hcol).elim
  | snoc hrun hstep ih =>
    rcases step_cases hstep with ⟨now, rfl, rfl, rfl⟩ | ⟨h, t, d, rfl, -, hout⟩
    · exact .of_invalidate
    · exact .outcome (fun hp => ih (List.pairwise_append.1 hes).1 hp) hes hout hcol

/-- A collection that ends has been quiet, and no further drop is pending. -/
theorem settled_outcome {wait : ℤ} {heightCm : ℚ} {confirmed : Bool} (hwait : 0 < wait)
    (hout : Outcome cfg digest drop wait s h t s' events)
    (hev : .settled id heightCm confirmed ∈ events) :
    s.phase = .collecting ∧ s.episodeId = id ∧
      ∃ anchor quiet, s.progressAnchorCm = some anchor ∧ s.quietSince = some quiet ∧
        anchor - h < cfg.bandCm ∧ seconds wait ≤ t - quiet := by
  cases hout with
  | waiting | ready | collecting | idle | candidate | detected => simp at hev
  | settled hp hps hset =>
    have hquiet := hps.settled hwait hset
    obtain ⟨a, q, p, rfl⟩ := hps.frame
    simp only [List.mem_singleton, DetectionEvent.settled.injEq] at hev
    exact ⟨hp, hev.1.symm, hquiet⟩

/-- **The end of a collection is sound.** When a collection is settled at `t`, every operation of
the last `wait` seconds was an observation of this collection, so there was no outage among them;
the collection was detected, or resumed after an outage, at least `wait` seconds ago, and nothing
but its observations came since; every further drop that lasted for the confirm duration was over
by then, and none is pending now. -/
theorem settled_sound {pitId scopeToken : String} {observedAt : ℤ} {simulated : Bool}
    {pre post : History} {heightCm : ℚ} {confirmed : Bool}
    (hrun : Run (step cfg digest profile) (.fresh pitId scopeToken observedAt simulated)
      (pre ++ e :: post) s)
    (hes : Chronological (pre ++ e :: post))
    (hev : .settled id heightCm confirmed ∈ e.out) :
    (∀ f ∈ pre ++ [e], Step.time e - seconds (wait cfg profile) < Step.time f →
        InEpisode id f) ∧
      (∃ pre₀ d mid, pre = pre₀ ++ d :: mid ∧ Begins id pre₀ d ∧
        Step.time d ≤ Step.time e - seconds (wait cfg profile) ∧
        ∀ f ∈ mid ++ [e], InEpisode id f) ∧
      (∀ A span, span <:+: pre ++ [e] → Lasts Step.time (seconds cfg.confirmSeconds) span →
        (∀ f ∈ span, FurtherDrop cfg A f) →
          ∀ f ∈ span.getLast?, Step.time f ≤ Step.time e - seconds (wait cfg profile)) ∧
      ∀ A, ¬ FurtherDrop cfg A e := by
  obtain ⟨hpre, hstep⟩ := hrun.of_append_cons
  rw [← List.singleton_append, ← List.append_assoc] at hes
  have hes' : Chronological (pre ++ [e]) := (List.pairwise_append.1 hes).1
  rcases step_cases hstep with ⟨now, -, -, hout⟩ | ⟨h, t, d, hop, hd, hout⟩
  · simp [hout] at hev
  have htime : Step.time e = t := by rw [Step.time, hop, Op.time]
  obtain ⟨hcol, hid, anchor, q, ha, hq, hdrop, hlast⟩ :=
    settled_outcome (wait_pos cfg profile) hout hev
  have hs : Settling cfg pre e.pre :=
    Settling.of_run hpre (by simp [CollectionTracker.fresh]) (List.pairwise_append.1 hes').1 hcol
  have hin : InEpisode id e := ⟨⟨h, t, hop⟩, hcol, hid⟩
  have hno : ∀ A, ¬ FurtherDrop cfg A e := by
    intro A hA
    obtain ⟨-, hle⟩ := hA.anchor_eq hop ha
    linarith
  obtain ⟨pre₀, b, mid, rfl, hb, hbq, hmid⟩ := hs.since q hq
  rw [hid] at hb hmid
  have hmid' : ∀ f ∈ mid ++ [e], InEpisode id f :=
    List.forall_mem_append.2 ⟨hmid, by simpa using hin⟩
  refine ⟨?_, ⟨pre₀, b, mid, rfl, hb, by omega, hmid'⟩, ?_, hno⟩
  · -- what came up to the beginning of the collection is older
    intro f hf hrecent
    rw [List.append_assoc, List.cons_append] at hf hes'
    rcases List.mem_append.1 hf with hf | hf
    · have hfb := (List.pairwise_append.1 hes').2.2 f hf b (by simp)
      omega
    rcases List.mem_cons.1 hf with rfl | hf
    · omega
    · exact hmid' f hf
  · intro A span hspan hlasts hP f hf
    have hle := hs.quiet_append hq (fun A span hspan hlasts hP => ?_) span hspan hlasts hP f hf
    · omega
    · obtain ⟨a, ha, -⟩ := hlasts
      exact hno A (.of_suffix hspan hP ha)

/-- The theorem on a collection that is settled after five quiet seconds. -/
theorem settled_sound_quiet :
    ∃ es s, Run (step toySettings toyDigest none) toyTracker es s ∧
      ∃ e ∈ es, ∃ id pre d mid, Begins id pre d ∧
        pre ++ d :: (mid ++ [e]) <+: es ∧ Step.time d ≤ Step.time e - seconds 5 := by
  have hresult : (exec (step toySettings toyDigest none) toyTracker
      (feed 0 (List.replicate 4 1000 ++ List.replicate 9 650))).map
        (fun r => decide (Chronological r.1) &&
          r.1.any fun e => e.out.any fun ev => ev.baseline? = none) = some true := by
    decide +kernel
  obtain ⟨⟨es, s⟩, hexec, hs⟩ := Option.map_eq_some_iff.1 hresult
  obtain ⟨hes, hs⟩ := (Bool.and_eq_true _ _).mp hs
  replace hes : Chronological es := of_decide_eq_true hes
  obtain ⟨e, he, hany⟩ := List.any_eq_true.1 hs
  obtain ⟨ev, hev, hsettled⟩ := List.any_eq_true.1 hany
  obtain ⟨pre, post, rfl⟩ := List.append_of_mem he
  have hrun := Run.of_exec hexec
  cases ev with
  | detected => exact absurd hsettled (by simp [DetectionEvent.baseline?])
  | settled id _ _ =>
    obtain ⟨-, ⟨pre₀, d, mid, rfl, hd, hle, -⟩, -, -⟩ :=
      settled_sound hrun hes hev
    refine ⟨_, s, hrun, e, he, id, pre₀, d, mid, hd, ⟨post, ?_⟩, hle⟩
    simp

end ScrapMonitoring.Collection
