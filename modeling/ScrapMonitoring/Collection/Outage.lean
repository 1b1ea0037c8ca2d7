import ScrapMonitoring.Collection.Sweep
import ScrapMonitoring.Operations.Runs

/-!
# Sweeps and outages

An outage must not count as stable time. Two advances of one tracker come with no sweep between
them that begins another one; `SweepsSound` says of a sequence of sweeps that the later one has the
newer observation, that the tracker is invalidated between the two where a sweep between them has
found its input invalid, or where they are one after the other and further apart than the maximum
gap, and that a sweep that is repeated changes nothing.

A sweep that finds its input invalid invalidates the tracker that it sees, and it sees the tracker
of its own pit and scope only (`UnderOwnScope`, `outage_invalidates_iff`). With that condition on
the sweeps, `SweepsSound` holds of every sequence (`sweeps_sound`). While the depth of the pit is
not set there is no scope, and an outage passes the tracker by (`outage_passes_by`).
-/

namespace ScrapMonitoring.Collection

open Monitoring (MonitoringSource PitConfig)

variable {cfg : Settings} {hash : Json → String} {digest : String → ℤ → String}
variable {s s' : CollectionTracker} {h : ℚ} {t : ℤ} {settle : Option ℤ}
variable {events : List DetectionEvent} {row row' row₀ : Option TrackerRow} {i : SweepInput}
variable {out : Swept}

/-! ## What the operations leave of a tracker -/

@[simp] theorem invalidate_pitId (s : CollectionTracker) : (invalidate s).pitId = s.pitId := by
  simp only [invalidate]
  split_ifs <;> rfl

@[simp] theorem invalidate_inputValid (s : CollectionTracker) :
    (invalidate s).inputValid = false := by
  simp only [invalidate]
  split_ifs <;> rfl

/-- An advanced tracker is of the same pit and scope, valid, and at the observation. -/
theorem advance_frame (ha : advance cfg digest s h t settle = some (s', events)) :
    s'.pitId = s.pitId ∧ s'.scopeToken = s.scopeToken ∧ s'.observedAt = t ∧
      s'.inputValid = true := by
  obtain ⟨d, -, hout⟩ := advance_outcome ha
  cases hout with
  | collecting hp hs hset | settled hp hs hset =>
    obtain ⟨a, q, p, rfl⟩ := hs.frame
    exact ⟨rfl, rfl, rfl, rfl⟩
  | waiting | ready | idle | candidate | detected => exact ⟨rfl, rfl, rfl, rfl⟩

/-! ## What one sweep does -/

/-- The tracker is of the pit and of the scope of the sweep. -/
def Owns (hash : Json → String) (i : SweepInput) (s : CollectionTracker) : Prop :=
  s.pitId = i.source.pitId ∧ some s.scopeToken = i.scope hash

instance (hash : Json → String) (i : SweepInput) (s : CollectionTracker) :
    Decidable (Owns hash i s) :=
  inferInstanceAs (Decidable (_ ∧ _))

theorem state_eq_some : i.state hash row = some s ↔
    ∃ r, row = some r ∧ Owns hash i r.payload ∧ r.payload = s := by
  unfold SweepInput.state Owns
  cases row with
  | none => simp
  | some r =>
    rw [Option.bind_eq_bind, Option.bind_some]
    constructor
    · intro hstate
      split_ifs at hstate with hown
      exact ⟨r, rfl, hown, Option.some.inj hstate⟩
    · rintro ⟨r', hr, hown, rfl⟩
      obtain rfl := Option.some.inj hr
      exact if_pos hown

/-- Everything a sweep does with the row. -/
inductive SweepStep (hash : Json → String) (row : Option TrackerRow) (i : SweepInput) :
    Option TrackerRow → Swept → Prop
  /-- The detection is not enabled. -/
  | disabled (hoff : i.config.enabled = false) : SweepStep hash row i row .idle
  /-- The input is invalid, and the sweep sees no tracker that is valid. -/
  | passed (hinput : i.valid? hash = none)
      (hstate : ∀ s, i.state hash row = some s → s.inputValid = false) :
      SweepStep hash row i row .idle
  /-- The input is invalid, and the tracker no longer is valid either. -/
  | invalidated {r : TrackerRow} (hinput : i.valid? hash = none) (hrow : row = some r)
      (hown : Owns hash i r.payload) (hvalid : r.payload.inputValid = true) :
      SweepStep hash row i (some { r with payload := invalidate r.payload }) ⟨[.invalidate], []⟩
  /-- The tracker has seen the observation before. -/
  | seen {r : TrackerRow} {input : ValidInput} (hinput : i.valid? hash = some input)
      (hrow : row = some r) (hown : Owns hash i r.payload)
      (hold : input.observed ≤ r.payload.observedAt ∨
        input.observation.generatedAt ≤ r.generatedAt) :
      SweepStep hash row i row .idle
  /-- A fresh tracker takes the observation. -/
  | begun {input : ValidInput} {next : CollectionTracker} {events : List CollectionTransition}
      (hinput : i.valid? hash = some input) (hnone : i.state hash row = none)
      (hown : Owns hash i next) (hobserved : next.observedAt = input.observed)
      (hvalid : next.inputValid = true) :
      SweepStep hash row i
        (some ⟨input.observation.messageId, input.observation.generatedAt, next⟩)
        ⟨[.begin, .advance input.heightCm input.observed], events⟩
  /-- The tracker takes the observation, after a gap that is too long as invalid. -/
  | advanced {r : TrackerRow} {input : ValidInput} {next : CollectionTracker}
      {events : List CollectionTransition} (hinput : i.valid? hash = some input)
      (hrow : row = some r) (hown : Owns hash i r.payload)
      (hnew : r.payload.observedAt < input.observed) (hown' : Owns hash i next)
      (hobserved : next.observedAt = input.observed) (hvalid : next.inputValid = true) :
      SweepStep hash row i
        (some ⟨input.observation.messageId, input.observation.generatedAt, next⟩)
        ⟨(if seconds maxGapSeconds < input.observed - r.payload.observedAt then [.invalidate]
            else []) ++ [.advance input.heightCm input.observed], events⟩

/-- The scope of a valid input is the one of the sweep. -/
theorem scope_of_valid {input : ValidInput} (hinput : i.valid? hash = some input) :
    i.scope hash = some input.scope := by
  unfold SweepInput.valid? at hinput
  simp only [Option.bind_eq_bind, Option.bind_eq_some_iff] at hinput
  obtain ⟨scope, hscope, depth, -, observation, -, observed, -, heightCm, -, hif⟩ := hinput
  split_ifs at hif
  obtain rfl := Option.some.inj hif
  exact hscope

theorem prepare_calls (source : MonitoringSource) (input : ValidInput) (s : CollectionTracker) :
    (prepare source input (some s)).2 =
      if seconds maxGapSeconds < input.observed - s.observedAt then [.invalidate] else [] := by
  simp only [prepare]
  split_ifs <;> rfl

theorem outage_step (row : Option TrackerRow) (hinput : i.valid? hash = none) :
    SweepStep hash row i (outage row (i.state hash row)).1 (outage row (i.state hash row)).2 := by
  cases hstate : i.state hash row with
  | none =>
    cases row with
    | none => exact .passed hinput fun s hs => by rw [hstate] at hs; cases hs
    | some r => exact .passed hinput fun s hs => by rw [hstate] at hs; cases hs
  | some s =>
    obtain ⟨r, rfl, hown, rfl⟩ := state_eq_some.1 hstate
    simp only [outage]
    split_ifs with hvalid
    · exact .invalidated hinput rfl hown hvalid
    · refine .passed hinput fun s hs => ?_
      obtain rfl := Option.some.inj (hstate.symm.trans hs)
      exact Bool.eq_false_of_not_eq_true hvalid

theorem observe_step {input : ValidInput} (hinput : i.valid? hash = some input)
    (hnew : seenBefore row (i.state hash row) input = false)
    (hobserve : i.observe digest input (i.state hash row) = some (row', out)) :
    SweepStep hash row i row' out := by
  unfold SweepInput.observe at hobserve
  simp only [Option.bind_eq_bind, Option.bind_eq_some_iff] at hobserve
  obtain ⟨⟨next, events⟩, hadvance, hout⟩ := hobserve
  obtain ⟨rfl, rfl⟩ := Prod.ext_iff.1 (Option.some.inj hout)
  obtain ⟨hpit, hscope, hobserved, hvalid⟩ := advance_frame hadvance
  cases hstate : i.state hash row with
  | none =>
    rw [hstate] at hpit hscope
    exact .begun hinput hstate ⟨hpit, by rw [hscope]; exact (scope_of_valid hinput).symm⟩ hobserved
      hvalid
  | some s =>
    obtain ⟨r, rfl, hown, rfl⟩ := state_eq_some.1 hstate
    rw [hstate] at hpit hscope hnew
    have hlt : r.payload.observedAt < input.observed :=
      not_le.1 fun hle => by simp [seenBefore, hle] at hnew
    have hnext : Owns hash i next := by
      simp only [prepare] at hpit hscope
      unfold Owns
      rw [hpit, hscope]
      split_ifs
      · rw [invalidate_pitId, invalidate_scopeToken]
        exact hown
      · exact hown
    dsimp only
    rw [prepare_calls]
    exact .advanced hinput rfl hown hlt hnext hobserved hvalid

/-- **A sweep does one of these things.** -/
theorem sweep_step (hs : processCollectionSource hash digest row i = some (row', out)) :
    SweepStep hash row i row' out := by
  unfold processCollectionSource at hs
  split_ifs at hs with hon
  · cases hinput : i.valid? hash with
    | none =>
      rw [hinput] at hs
      have hout := Option.some.inj hs
      have hstep := outage_step row hinput
      rw [hout] at hstep
      exact hstep
    | some input =>
      rw [hinput] at hs
      dsimp only at hs
      split_ifs at hs with hseen
      · obtain ⟨rfl, rfl⟩ := Prod.ext_iff.1 (Option.some.inj hs)
        cases hstate : i.state hash row with
        | none => rw [hstate] at hseen; cases row <;> cases hseen
        | some s =>
          obtain ⟨r, rfl, hown, rfl⟩ := state_eq_some.1 hstate
          rw [hstate] at hseen
          exact .seen hinput rfl hown (of_decide_eq_true hseen)
      · exact observe_step hinput (Bool.eq_false_of_not_eq_true hseen) hs
  · obtain ⟨rfl, rfl⟩ := Prod.ext_iff.1 (Option.some.inj hs)
    exact .disabled (Bool.eq_false_of_not_eq_true hon)

/-! ## Sequences of sweeps -/

/-- A sweep of a sequence, with the row before and after it. -/
abbrev SweepEntry := Entry (Option TrackerRow) SweepInput Swept

variable {es mid : List SweepEntry} {e f g : SweepEntry}

/-- The sweep has advanced a tracker with an observation of that time. -/
def Advances (e : SweepEntry) (t : ℤ) : Prop := ∃ h, .advance h t ∈ e.out.calls

/-- The sweep has begun a fresh tracker, which takes the place of the one before. -/
def BeginsTracker (e : SweepEntry) : Prop := .begin ∈ e.out.calls

/-- The sweep has invalidated the tracker; where it has advanced it too, that came after. -/
def Invalidates (e : SweepEntry) : Prop := .invalidate ∈ e.out.calls

/-- The sweep has found its input invalid. -/
def FoundInvalid (hash : Json → String) (e : SweepEntry) : Prop :=
  e.op.config.enabled = true ∧ e.op.valid? hash = none

/-- What a sequence of sweeps does when it never counts an outage as stable time. -/
structure SweepsSound (hash : Json → String) (digest : String → ℤ → String)
    (es : List SweepEntry) : Prop where
  /-- A tracker is advanced with newer and newer observations. -/
  newer : ∀ pre e mid f post t₁ t₂, es = pre ++ e :: (mid ++ f :: post) → Advances e t₁ →
    Advances f t₂ → (∀ g ∈ mid ++ [f], ¬ BeginsTracker g) → t₁ < t₂
  /-- An outage between two advances of a tracker invalidates it. -/
  outage : ∀ pre e mid f post t₁ t₂, es = pre ++ e :: (mid ++ f :: post) → Advances e t₁ →
    Advances f t₂ → (∀ g ∈ mid ++ [f], ¬ BeginsTracker g) →
    (∃ g ∈ mid, FoundInvalid hash g) → ∃ g ∈ mid ++ [f], Invalidates g
  /-- So does a gap between one advance of a tracker and the next. -/
  gap : ∀ pre e mid f post t₁ t₂, es = pre ++ e :: (mid ++ f :: post) → Advances e t₁ →
    Advances f t₂ → (∀ g ∈ mid ++ [f], ¬ BeginsTracker g) → (∀ g ∈ mid, ∀ t, ¬ Advances g t) →
    seconds maxGapSeconds < t₂ - t₁ → ∃ g ∈ mid ++ [f], Invalidates g
  /-- A sweep that is repeated changes nothing and records no event. -/
  repeated : ∀ e ∈ es, processCollectionSource hash digest e.post e.op = some (e.post, .idle)

/-- A sweep that finds its input invalid does so under the pit and the scope of the tracker that is
stored, unless that one is not valid anyway. -/
def UnderOwnScope (hash : Json → String) (row : Option TrackerRow) (i : SweepInput) : Prop :=
  i.config.enabled = true → i.valid? hash = none →
    ∀ r ∈ row, r.payload.inputValid = true → Owns hash i r.payload

/-- **Exactly under that condition** a sweep with an invalid input leaves no valid tracker. -/
theorem outage_invalidates_iff
    (hs : processCollectionSource hash digest row i = some (row', out))
    (hon : i.config.enabled = true) (hinput : i.valid? hash = none) :
    (∀ r ∈ row', r.payload.inputValid = false) ↔ UnderOwnScope hash row i := by
  cases sweep_step hs with
  | disabled hoff => rw [hon] at hoff; cases hoff
  | seen hvalid | begun hvalid | advanced hvalid => rw [hinput] at hvalid; cases hvalid
  | invalidated _ hrow hown _ =>
    refine iff_of_true ?_ ?_
    · rintro r hr
      obtain rfl := Option.some.inj hr
      exact invalidate_inputValid _
    · rintro - - r hr -
      obtain rfl := Option.some.inj (hrow.symm.trans hr)
      exact hown
  | passed _ hstate =>
    constructor
    · intro hnone _ _ r hr hvalid
      rw [hnone r hr] at hvalid
      cases hvalid
    · intro hscope r hr
      by_contra hvalid
      rw [Bool.not_eq_false] at hvalid
      have hfalse := hstate r.payload
        (state_eq_some.2 ⟨r, hr, hscope hon hinput r hr hvalid, rfl⟩)
      rw [hfalse] at hvalid
      cases hvalid

/-- Such a sweep invalidates a tracker that is valid. -/
theorem invalidates_of_invalid {r : TrackerRow}
    (hs : processCollectionSource hash digest row i = some (row', out))
    (hon : i.config.enabled = true) (hinput : i.valid? hash = none)
    (hscope : UnderOwnScope hash row i) (hrow : row = some r)
    (hvalid : r.payload.inputValid = true) : .invalidate ∈ out.calls := by
  have hafter := (outage_invalidates_iff hs hon hinput).2 hscope
  cases sweep_step hs with
  | disabled | passed | seen =>
    rw [hafter r hrow] at hvalid
    cases hvalid
  | invalidated => exact List.mem_singleton_self _
  | begun hsome | advanced hsome => rw [hinput] at hsome; cases hsome

/-- What an advance does: the tracker is valid and at the observation, and unless it has been begun
it was behind it, and is invalidated first after a gap that is too long. -/
theorem advance_spec {h : ℚ} (hs : processCollectionSource hash digest row i = some (row', out))
    (hadvance : .advance h t ∈ out.calls) :
    (∃ r', row' = some r' ∧ r'.payload.observedAt = t ∧ r'.payload.inputValid = true) ∧
      (.begin ∉ out.calls → ∃ r, row = some r ∧ r.payload.observedAt < t ∧
        (seconds maxGapSeconds < t - r.payload.observedAt → .invalidate ∈ out.calls)) := by
  cases sweep_step hs with
  | disabled | passed | seen => cases hadvance
  | invalidated => simp at hadvance
  | begun _ _ _ hobserved hvalid =>
    simp only [List.mem_cons, reduceCtorEq, TrackerCall.advance.injEq, List.not_mem_nil, or_false,
      false_or] at hadvance
    obtain ⟨-, rfl⟩ := hadvance
    exact ⟨⟨_, rfl, hobserved, hvalid⟩, fun hbegin => absurd List.mem_cons_self hbegin⟩
  | @advanced r input _ _ _ hrow _ hnew _ hobserved hvalid =>
    have ht : t = input.observed := by
      rcases List.mem_append.1 hadvance with hmem | hmem
      · split_ifs at hmem <;> simp at hmem
      · exact (TrackerCall.advance.inj (List.mem_singleton.1 hmem)).2
    subst ht
    refine ⟨⟨_, rfl, hobserved, hvalid⟩, fun _ => ⟨_, hrow, hnew, fun hgap => ?_⟩⟩
    rw [if_pos hgap]
    exact List.mem_append_left _ (List.mem_singleton_self _)

/-- What a sweep that begins no tracker does to the tracker that is stored. -/
theorem stored_spec {r : TrackerRow}
    (hs : processCollectionSource hash digest row i = some (row', out)) (hrow : row = some r)
    (hbegin : .begin ∉ out.calls) :
    ∃ r', row' = some r' ∧ r.payload.observedAt ≤ r'.payload.observedAt ∧
      ((∀ h t, .advance h t ∉ out.calls) → r'.payload.observedAt = r.payload.observedAt) ∧
      (r.payload.inputValid = true → r'.payload.inputValid = false →
        .invalidate ∈ out.calls) := by
  cases sweep_step hs with
  | disabled | passed | seen =>
    refine ⟨r, hrow, le_rfl, fun _ => rfl, fun hvalid hinvalid => ?_⟩
    rw [hvalid] at hinvalid
    cases hinvalid
  | invalidated _ hrow' =>
    obtain rfl := Option.some.inj (hrow.symm.trans hrow')
    have hobserved : (invalidate r.payload).observedAt = r.payload.observedAt := by
      simp only [invalidate]
      split_ifs <;> rfl
    exact ⟨_, rfl, hobserved.ge, fun _ => hobserved, fun _ _ => List.mem_singleton_self _⟩
  | begun => exact absurd List.mem_cons_self hbegin
  | advanced _ hrow' _ hnew _ hobserved hvalid =>
    obtain rfl := Option.some.inj (hrow'.symm.trans hrow)
    refine ⟨_, rfl, hnew.le.trans hobserved.ge, fun hadvance => ?_, fun _ hinvalid => ?_⟩
    · exact absurd (List.mem_append_right _ (List.mem_singleton_self _)) (hadvance _ _)
    · rw [hvalid] at hinvalid
      cases hinvalid

/-- The tracker `r` is still the one that is stored after the sweeps `es`. -/
structure Continued (r : TrackerRow) (es : List SweepEntry) (row : Option TrackerRow)
    (r' : TrackerRow) : Prop where
  stored : row = some r'
  newer : r.payload.observedAt ≤ r'.payload.observedAt
  still : (∀ g ∈ es, ∀ t, ¬ Advances g t) → r'.payload.observedAt = r.payload.observedAt
  invalidated : r.payload.inputValid = true → r'.payload.inputValid = false →
    ∃ g ∈ es, Invalidates g

theorem continued_of_run {r : TrackerRow}
    (hrun : Run (processCollectionSource hash digest) (some r) es row)
    (hbegin : ∀ g ∈ es, ¬ BeginsTracker g) : ∃ r', Continued r es row r' := by
  induction hrun with
  | nil =>
    refine ⟨r, rfl, le_rfl, fun _ => rfl, fun hvalid hinvalid => ?_⟩
    rw [hvalid] at hinvalid
    cases hinvalid
  | @snoc es row row' i out hrun hs ih =>
    obtain ⟨r₁, hstored, hnewer, hstill, hinvalidated⟩ :=
      ih fun g hg => hbegin g (List.mem_append_left _ hg)
    have hlast : (⟨row, i, out, row'⟩ : SweepEntry) ∈ es ++ [⟨row, i, out, row'⟩] :=
      List.mem_append_right _ (List.mem_singleton_self _)
    obtain ⟨r₂, hstored', hnewer', hstill', hinvalidated'⟩ :=
      stored_spec hs hstored (hbegin _ hlast)
    refine ⟨r₂, hstored', hnewer.trans hnewer', fun hnone => ?_, fun hvalid hinvalid => ?_⟩
    · rw [hstill' fun h t hmem => hnone _ hlast t ⟨h, hmem⟩]
      exact hstill fun g hg => hnone g (List.mem_append_left _ hg)
    · -- the tracker turned invalid in the last sweep or before it
      cases hmiddle : r₁.payload.inputValid with
      | true => exact ⟨_, hlast, hinvalidated' hmiddle hinvalid⟩
      | false =>
        obtain ⟨g, hg, hcall⟩ := hinvalidated hvalid hmiddle
        exact ⟨g, List.mem_append_left _ hg, hcall⟩

/-! ## The sweeps that are sound -/

/-- Between two advances of a tracker, up to any sweep between them or to the second advance. -/
theorem continued_between {pre post : List SweepEntry} {t₁ : ℤ}
    (hrun : Run (processCollectionSource hash digest) row₀ (pre ++ e :: (mid ++ f :: post)) row)
    (he : Advances e t₁) (hbegin : ∀ g ∈ mid, ¬ BeginsTracker g) :
    ∃ r r', r.payload.observedAt = t₁ ∧ r.payload.inputValid = true ∧ Continued r mid f.pre r' := by
  obtain ⟨h, he⟩ := he
  obtain ⟨⟨r, hpost, hobserved, hvalid⟩, -⟩ := advance_spec hrun.of_append_cons.2 he
  have hrest := hrun.rest.of_append_cons.1
  rw [hpost] at hrest
  obtain ⟨r', hcontinued⟩ := continued_of_run hrest hbegin
  exact ⟨r, r', hobserved, hvalid, hcontinued⟩

theorem sweeps_newer {pre post : List SweepEntry} {t₁ t₂ : ℤ}
    (hrun : Run (processCollectionSource hash digest) row₀ (pre ++ e :: (mid ++ f :: post)) row)
    (he : Advances e t₁) (hf : Advances f t₂) (hbegin : ∀ g ∈ mid ++ [f], ¬ BeginsTracker g) :
    t₁ < t₂ := by
  obtain ⟨r, r', rfl, -, hcontinued⟩ :=
    continued_between hrun he fun g hg => hbegin g (List.mem_append_left _ hg)
  obtain ⟨h, hf⟩ := hf
  obtain ⟨r₂, hpre, hlt, -⟩ := (advance_spec hrun.rest.of_append_cons.2 hf).2
    (hbegin f (List.mem_append_right _ (List.mem_singleton_self _)))
  obtain rfl := Option.some.inj (hcontinued.stored.symm.trans hpre)
  exact hcontinued.newer.trans_lt hlt

theorem sweeps_gap {pre post : List SweepEntry} {t₁ t₂ : ℤ}
    (hrun : Run (processCollectionSource hash digest) row₀ (pre ++ e :: (mid ++ f :: post)) row)
    (he : Advances e t₁) (hf : Advances f t₂) (hbegin : ∀ g ∈ mid ++ [f], ¬ BeginsTracker g)
    (hnone : ∀ g ∈ mid, ∀ t, ¬ Advances g t) (hgap : seconds maxGapSeconds < t₂ - t₁) :
    Invalidates f := by
  obtain ⟨r, r', rfl, -, hcontinued⟩ :=
    continued_between hrun he fun g hg => hbegin g (List.mem_append_left _ hg)
  obtain ⟨h, hf⟩ := hf
  obtain ⟨r₂, hpre, -, hcall⟩ := (advance_spec hrun.rest.of_append_cons.2 hf).2
    (hbegin f (List.mem_append_right _ (List.mem_singleton_self _)))
  obtain rfl := Option.some.inj (hcontinued.stored.symm.trans hpre)
  refine hcall ?_
  rw [hcontinued.still hnone]
  exact hgap

theorem sweeps_outage {pre post : List SweepEntry} {t₁ : ℤ}
    (hrun : Run (processCollectionSource hash digest) row₀ (pre ++ e :: (mid ++ f :: post)) row)
    (he : Advances e t₁) (hbegin : ∀ g ∈ mid, ¬ BeginsTracker g) (hg : g ∈ mid)
    (hinvalid : FoundInvalid hash g) (hscope : UnderOwnScope hash g.pre g.op) :
    ∃ g ∈ mid, Invalidates g := by
  obtain ⟨before, rest, rfl⟩ := List.append_of_mem hg
  rw [List.append_assoc, List.cons_append] at hrun
  obtain ⟨r, r', -, hvalid, hcontinued⟩ :=
    continued_between hrun he fun g' hg' => hbegin g' (List.mem_append_left _ hg')
  cases hmiddle : r'.payload.inputValid with
  | true =>
    exact ⟨g, hg, invalidates_of_invalid hrun.rest.of_append_cons.2 hinvalid.1 hinvalid.2 hscope
      hcontinued.stored hmiddle⟩
  | false =>
    obtain ⟨g', hg', hcall⟩ := hcontinued.invalidated hvalid hmiddle
    exact ⟨g', List.mem_append_left _ hg', hcall⟩

theorem sweep_idle_of_invalid {r : TrackerRow} (hinput : i.valid? hash = none)
    (hinvalid : r.payload.inputValid = false) :
    processCollectionSource hash digest (some r) i = some (some r, .idle) := by
  unfold processCollectionSource
  rw [hinput]
  split_ifs
  · cases hstate : i.state hash (some r) with
    | none => rfl
    | some s =>
      obtain ⟨r', hr, -, rfl⟩ := state_eq_some.1 hstate
      obtain rfl := Option.some.inj hr
      simp [outage, hinvalid]
  · rfl

theorem sweep_idle_of_seen {r : TrackerRow} {input : ValidInput}
    (hinput : i.valid? hash = some input) (hown : Owns hash i r.payload)
    (hobserved : r.payload.observedAt = input.observed) :
    processCollectionSource hash digest (some r) i = some (some r, .idle) := by
  have hstate : i.state hash (some r) = some r.payload := state_eq_some.2 ⟨r, rfl, hown, rfl⟩
  unfold processCollectionSource
  rw [hinput, hstate]
  split_ifs
  · simp [seenBefore, hobserved]
  · rfl

/-! ### No sweep fails -/

theorem prepare_coherent (source : MonitoringSource) (input : ValidInput)
    {state : Option CollectionTracker} (hstate : ∀ s ∈ state, Coherent s) :
    Coherent (prepare source input state).1 := by
  cases state with
  | none => exact .fresh ..
  | some s =>
    simp only [prepare]
    split_ifs
    · exact (hstate s rfl).invalidate
    · exact hstate s rfl

/-- A scope comes with a drop. -/
theorem dropMeters_of_valid {input : ValidInput} (hinput : i.valid? hash = some input) :
    i.config.detection.dropMeters.isSome := by
  have hscope := scope_of_valid hinput
  unfold SweepInput.scope collectionScope at hscope
  simp only [Option.bind_eq_bind, Option.bind_eq_some_iff] at hscope
  obtain ⟨method, -, drop, hdrop, -⟩ := hscope
  exact Option.isSome_of_mem hdrop

theorem state_coherent (hash : Json → String) (i : SweepInput)
    (hrow : ∀ r ∈ row, Coherent r.payload) : ∀ s ∈ i.state hash row, Coherent s := by
  intro s hs
  obtain ⟨r, rfl, -, rfl⟩ := state_eq_some.1 hs
  exact hrow r rfl

theorem outage_coherent (hrow : ∀ r ∈ row, Coherent r.payload) :
    ∀ r ∈ (outage row (i.state hash row)).1, Coherent r.payload := by
  cases hstate : i.state hash row with
  | none => cases row <;> exact hrow
  | some s =>
    obtain ⟨r, rfl, -, rfl⟩ := state_eq_some.1 hstate
    simp only [outage]
    split_ifs
    · rintro r' hr'
      obtain rfl := Option.some.inj hr'
      exact (hrow r rfl).invalidate
    · exact hrow

theorem observe_coherent (digest : String → ℤ → String) {input : ValidInput}
    (hinput : i.valid? hash = some input) (hrow : ∀ r ∈ row, Coherent r.payload) :
    ∃ r out, i.observe digest input (i.state hash row) = some (some r, out) ∧
      Coherent r.payload := by
  have hready := prepare_coherent i.source input (state_coherent hash i hrow)
  have hsome : (advance i.config.detection digest (prepare i.source input (i.state hash row)).1
      input.heightCm input.observed (some (collectionSettleSeconds i.config i.source))).isSome :=
    advance_isSome (dropMeters_of_valid hinput) hready.baseline
  obtain ⟨⟨next, events⟩, hadvance⟩ := Option.isSome_iff_exists.1 hsome
  obtain ⟨d, -, hout⟩ := advance_outcome hadvance
  have hobserve : i.observe digest input (i.state hash row) =
      some (some ⟨input.observation.messageId, input.observation.generatedAt, next⟩,
        ⟨(prepare i.source input (i.state hash row)).2 ++ [.advance input.heightCm input.observed],
          events.map (i.transition input next.simulated)⟩) := by
    unfold SweepInput.observe
    simp only [hadvance, Option.bind_eq_bind, Option.bind_some]
    rfl
  exact ⟨_, _, hobserve, hready.outcome hout⟩

/-- No sweep fails, and the tracker stays coherent. -/
theorem sweep_total (hash : Json → String) (digest : String → ℤ → String)
    (hrow : ∀ r ∈ row, Coherent r.payload) (i : SweepInput) :
    ∃ row' out, processCollectionSource hash digest row i = some (row', out) ∧
      ∀ r ∈ row', Coherent r.payload := by
  unfold processCollectionSource
  split_ifs
  · cases hinput : i.valid? hash with
    | none => exact ⟨_, _, rfl, outage_coherent hrow⟩
    | some input =>
      dsimp only
      split_ifs
      · exact ⟨row, .idle, rfl, hrow⟩
      · obtain ⟨r, out, hobserve, hr⟩ := observe_coherent digest hinput hrow
        refine ⟨some r, out, hobserve, fun r' hr' => ?_⟩
        obtain rfl := Option.some.inj hr'
        exact hr
  · exact ⟨row, .idle, rfl, hrow⟩

/-- **Every sequence of sweeps goes on**, whatever the next one reads. -/
theorem sweeps_total (hrun : Run (processCollectionSource hash digest) none es row)
    (i : SweepInput) : (processCollectionSource hash digest row i).isSome := by
  have hcoherent : ∀ r ∈ row, Coherent r.payload := by
    refine hrun.invariant (I := fun row => ∀ r ∈ row, Coherent r.payload) (by simp) ?_
    intro row i row' out hrow hs
    obtain ⟨row'', out', hs', hrow'⟩ := sweep_total hash digest hrow i
    obtain ⟨rfl, rfl⟩ := Prod.ext_iff.1 (Option.some.inj (hs.symm.trans hs'))
    exact hrow'
  obtain ⟨row', out, hs, -⟩ := sweep_total hash digest hcoherent i
  exact Option.isSome_of_mem hs

/-- **A sweep that is repeated changes nothing.** -/
theorem sweep_repeated (hs : processCollectionSource hash digest row i = some (row', out)) :
    processCollectionSource hash digest row' i = some (row', .idle) := by
  cases sweep_step hs with
  | disabled | passed | seen => exact hs
  | invalidated hinput => exact sweep_idle_of_invalid hinput (invalidate_inputValid _)
  | begun hinput _ hown hobserved => exact sweep_idle_of_seen hinput hown hobserved
  | advanced hinput _ _ _ hown hobserved => exact sweep_idle_of_seen hinput hown hobserved

/-- **Sweeps never count an outage as stable time**, where each one that finds its input invalid
does so under the pit and the scope of the tracker. -/
theorem sweeps_sound (hrun : Run (processCollectionSource hash digest) row₀ es row)
    (hscope : ∀ e ∈ es, UnderOwnScope hash e.pre e.op) : SweepsSound hash digest es where
  newer := by
    rintro pre e mid f post t₁ t₂ rfl he hf hbegin
    exact sweeps_newer hrun he hf hbegin
  outage := by
    rintro pre e mid f post t₁ t₂ rfl he - hbegin ⟨g, hg, hinvalid⟩
    obtain ⟨g', hg', hcall⟩ := sweeps_outage hrun he
      (fun g' hg' => hbegin g' (List.mem_append_left _ hg')) hg hinvalid (hscope g (by simp [hg]))
    exact ⟨g', List.mem_append_left _ hg', hcall⟩
  gap := by
    rintro pre e mid f post t₁ t₂ rfl he hf hbegin hnone hgap
    exact ⟨f, List.mem_append_right _ (List.mem_singleton_self _),
      sweeps_gap hrun he hf hbegin hnone hgap⟩
  repeated := fun _ he => sweep_repeated (hrun.step_of_mem he)

/-! ### Samples

A pit is observed at second 100 and again at second 102; the sweep in between finds its input
invalid. -/

def sampleConfiguration : Configuration where
  enabled := true
  heightBasis := .representative
  monitoring :=
    { Monitoring.sampleSettings with
      heightFillEnabled := true
      heightReferences := [.height "pit" ["sensor"] true .null] }
  detection := toySettings

def samplePit : PitConfig := ⟨"pit", "pit", 1000, 75, 85, 0⟩

/-- A sweep of an observation of 80 %, in the configuration and with the pit's settings. -/
def sampleSweep (messageId : String) (time : ℤ) (pit : Option PitConfig) : SweepInput where
  config := sampleConfiguration
  source := ⟨"pit", "site", "edge-a"⟩
  snapshot := Operations.sampleSnapshot "edge-a" messageId time 80 (by norm_num)
  pit := pit
  heightWindow := none
  windowScope := ""
  timeBasis := "SOURCE_UTC"

/-- A sweep that finds the observation stale. -/
def staleSweep (sweep : SweepInput) : SweepInput :=
  { sweep with snapshot := { sweep.snapshot with dataState := .stale } }

/-- The theorem where the observation has gone stale in between. -/
theorem sweeps_sound_stale : ∃ es row,
    Run (processCollectionSource (fun _ => "") toyDigest) none es row ∧
      es.map (fun e => e.out.calls) = [[.begin, .advance 800 (seconds 100)], [.invalidate],
        [.advance 800 (seconds 102)]] ∧ SweepsSound (fun _ => "") toyDigest es := by
  have hresult : (exec (processCollectionSource (fun _ => "") toyDigest) none
      [sampleSweep "m-1" (seconds 100) (some samplePit),
        staleSweep (sampleSweep "m-1" (seconds 100) (some samplePit)),
        sampleSweep "m-2" (seconds 102) (some samplePit)]).map
      (fun r => (r.1.map fun e => e.out.calls,
        r.1.all fun e => e.pre.all fun r => Owns (fun _ => "") e.op r.payload)) =
      some ([[.begin, .advance 800 (seconds 100)], [.invalidate], [.advance 800 (seconds 102)]],
        true) := by decide +kernel
  obtain ⟨⟨es, row⟩, hexec, hes⟩ := Option.map_eq_some_iff.1 hresult
  obtain ⟨hcalls, hall⟩ := Prod.ext_iff.1 hes
  have hrun := Run.of_exec hexec
  refine ⟨es, row, hrun, hcalls, sweeps_sound hrun fun e he _ _ r hr _ => ?_⟩
  have hpre := List.all_eq_true.1 hall e he
  rw [hr] at hpre
  exact of_decide_eq_true hpre

/-- **While the depth of the pit is not set, an outage passes the tracker by.** -/
theorem outage_passes_by : ¬ ∀ (hash : Json → String) (digest : String → ℤ → String)
    (es : List SweepEntry) (row : Option TrackerRow),
    Run (processCollectionSource hash digest) none es row → SweepsSound hash digest es := by
  intro hall
  have hresult : (exec (processCollectionSource (fun _ => "") toyDigest) none
      [sampleSweep "m-1" (seconds 100) (some samplePit), sampleSweep "m-1" (seconds 100) none,
        sampleSweep "m-2" (seconds 102) (some samplePit)]).map
      (fun r => r.1.map fun e => (e.out.calls, e.op.config.enabled,
        (e.op.valid? fun _ => "").isNone)) =
      some [([.begin, .advance 800 (seconds 100)], true, false), ([], true, true),
        ([.advance 800 (seconds 102)], true, false)] := by decide +kernel
  obtain ⟨⟨es, row⟩, hexec, hes⟩ := Option.map_eq_some_iff.1 hresult
  obtain ⟨e, g, f, rfl⟩ := List.length_eq_three.1 ((List.length_map _).symm.trans (congrArg _ hes))
  simp only [List.map_cons, List.map_nil, List.cons.injEq, Prod.mk.injEq, and_true] at hes
  obtain ⟨⟨he, -⟩, ⟨hg, hon, hinvalid⟩, hf, -⟩ := hes
  have hsound := hall _ _ _ _ (Run.of_exec hexec)
  obtain ⟨g', hg', hcall⟩ := hsound.outage [] e [g] f [] (seconds 100) (seconds 102) rfl
    ⟨800, by rw [he]; simp⟩ ⟨800, by rw [hf]; simp⟩ (by simp [BeginsTracker, hg, hf])
    ⟨g, List.mem_singleton_self g, hon, Option.isNone_iff_eq_none.1 hinvalid⟩
  simp only [List.mem_append, List.mem_singleton] at hg'
  rcases hg' with rfl | rfl <;> simp [Invalidates, hg, hf] at hcall

end ScrapMonitoring.Collection
