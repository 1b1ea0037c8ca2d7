import ScrapMonitoring.Foundations.Tiles
import ScrapMonitoring.Replay.Resolve
import Mathlib.Algebra.BigOperators.Group.List.Basic
import Mathlib.Algebra.Order.BigOperators.Group.List
import Mathlib.Tactic.Linarith

/-!
# A replay partitions the window of its event

Every piece of the window is accounted for once: by a part of the archive that maps it linearly, or
by an unavailable interval (`Resolved.tiles`). A day cuts its piece into what is covered, the gaps
and what the two leave (`remaining_tiles`); the days of the window follow one another, and the loop
over them is long enough to reach its end (`resolveDays_resolved`). From this follow the properties
of the whole replay (`replay_exact`).
-/

namespace ScrapMonitoring.Replay

/-! ## What some intervals leave -/

theorem remainingFrom_tiles {start stop cursor : ℤ} {l : List (ℤ × ℤ)}
    (hl : ∀ i ∈ l, start ≤ i.1 ∧ i.1 ≤ i.2 ∧ i.2 ≤ stop)
    (hsorted : l.Pairwise fun i j => i.1 ≤ j.1) :
    Tiles (remainingFrom start stop cursor l) (Set.Ico cursor stop \ covered l) ∧
      ∀ i ∈ remainingFrom start stop cursor l, i.1 < i.2 := by
  induction l generalizing cursor with
  | nil =>
    rw [remainingFrom, covered_nil, Set.sdiff_empty]
    split_ifs with h
    · exact ⟨Tiles.singleton cursor stop, by simpa using h⟩
    · rw [Set.Ico_eq_empty h]
      exact ⟨Tiles.nil, by simp⟩
  | cons i l ih =>
    obtain ⟨hstart, hi, hstop⟩ := hl i List.mem_cons_self
    obtain ⟨hfirst, hsorted⟩ := List.pairwise_cons.1 hsorted
    obtain ⟨htiles, hpos⟩ :=
      @ih (max cursor i.2) (fun j hj => hl j (List.mem_cons_of_mem _ hj)) hsorted
    have hlater : ∀ t ∈ covered l, i.1 ≤ t := fun t ⟨j, hj, ht⟩ => (hfirst j hj).trans ht.1
    simp only [remainingFrom, max_eq_left hstart, min_eq_left hstop]
    rw [covered_cons]
    split_ifs with h
    · have hset : Set.Ico cursor stop \ (Set.Ico i.1 i.2 ∪ covered l) =
          Set.Ico cursor i.1 ∪ (Set.Ico (max cursor i.2) stop \ covered l) := by
        ext t
        simp only [Set.mem_sdiff, Set.mem_union, Set.mem_Ico]
        by_cases ht : t ∈ covered l
        · have hle := hlater t ht
          simp only [ht, or_true, not_true_eq_false, and_false, or_false, false_iff]
          omega
        · simp only [ht, or_false, not_false_eq_true, and_true]
          omega
      rw [hset]
      refine ⟨(Tiles.singleton cursor i.1).append htiles ?_, ?_⟩
      · refine Set.disjoint_left.2 fun t ht ht' => ?_
        simp only [Set.mem_sdiff, Set.mem_Ico] at ht ht'
        omega
      · simpa using ⟨h, fun a b hmem => hpos (a, b) hmem⟩
    · have hset : Set.Ico cursor stop \ (Set.Ico i.1 i.2 ∪ covered l) =
          Set.Ico (max cursor i.2) stop \ covered l := by
        ext t
        simp only [Set.mem_sdiff, Set.mem_union, Set.mem_Ico]
        by_cases ht : t ∈ covered l
        · simp only [ht, or_true, not_true_eq_false, and_false]
        · simp only [ht, or_false, not_false_eq_true, and_true]
          omega
      rw [hset]
      exact ⟨htiles, hpos⟩

/-- Pairs in order are in order of their first components. -/
theorem pairwise_fst (l : List (ℤ × ℤ)) : (sortedBy toLex l).Pairwise fun i j => i.1 ≤ j.1 := by
  refine (pairwise_sortedBy toLex l).imp fun {i j} hij => ?_
  rcases Prod.Lex.toLex_le_toLex.1 hij with h | h
  · exact h.le
  · exact h.1.le

/-- What the intervals leave of a range is the rest of the range, in intervals with points. -/
theorem remaining_tiles {start stop : ℤ} {l : List (ℤ × ℤ)}
    (hl : ∀ i ∈ l, start ≤ i.1 ∧ i.1 ≤ i.2 ∧ i.2 ≤ stop) :
    Tiles (remaining start stop l) (Set.Ico start stop \ covered l) ∧
      ∀ i ∈ remaining start stop l, i.1 < i.2 := by
  rw [remaining, ← covered_perm (sortedBy_perm toLex l)]
  exact remainingFrom_tiles (fun i hi => hl i ((mem_sortedBy toLex l).1 hi)) (pairwise_fst l)

/-! ## The seconds of disjoint intervals -/

theorem durationFrom_eq {l : List (ℤ × ℤ)} (hpos : ∀ i ∈ l, i.1 < i.2)
    (hpairwise : l.Pairwise fun i j => i.2 ≤ j.1) {previous : Option ℤ}
    (hprevious : ∀ p ∈ previous, ∀ i ∈ l, p ≤ i.1) :
    durationFrom previous l = (l.map fun i => totalSeconds (i.2 - i.1)).sum := by
  induction l generalizing previous with
  | nil => rfl
  | cons i l ih =>
    obtain ⟨left, right⟩ := i
    obtain ⟨hfirst, hrest⟩ := List.pairwise_cons.1 hpairwise
    have hi : left < right := hpos (left, right) List.mem_cons_self
    have hleft : (previous.map (max left)).getD left = left := by
      cases previous with
      | none => rfl
      | some p => exact max_eq_left (hprevious p rfl _ List.mem_cons_self)
    have hright : (previous.map fun p => max p right).getD right = right := by
      cases previous with
      | none => rfl
      | some p => exact max_eq_right ((hprevious p rfl _ List.mem_cons_self).trans hi.le)
    simp only [durationFrom, hleft, hright, if_pos hi, List.map_cons, List.sum_cons]
    rw [ih (fun j hj => hpos j (List.mem_cons_of_mem _ hj)) hrest]
    intro p hp j hj
    obtain rfl := Option.some.inj hp
    exact hfirst j hj

/-- The duration of disjoint intervals is the sum of theirs. -/
theorem duration_eq {l : List (ℤ × ℤ)} {s : Set ℤ} (h : Tiles l s) (hpos : ∀ i ∈ l, i.1 < i.2) :
    duration l = (l.map fun i => totalSeconds (i.2 - i.1)).sum := by
  have hperm := sortedBy_perm toLex l
  have hpos' : ∀ i ∈ sortedBy toLex l, i.1 < i.2 := fun i hi =>
    hpos i ((mem_sortedBy toLex l).1 hi)
  rw [duration, durationFrom_eq hpos' ((h.perm hperm.symm).pairwise_le hpos' (pairwise_fst l))
    (by simp)]
  exact (hperm.map _).sum_eq

/-! ## The intervals of a day -/

def ReplayPart.span (part : ReplayPart) : ℤ × ℤ := (part.fromAt, part.toAt)

def UnavailableInterval.span (interval : UnavailableInterval) : ℤ × ℤ :=
  (interval.fromAt, interval.toAt)

/-- The spans of the parts that map a stretch of time. -/
def linearSpans (parts : List ReplayPart) : List (ℤ × ℤ) :=
  (parts.filter fun part => part.mapping = .linear).map ReplayPart.span

/-- A part plays an available interval of a day: a stretch of it, or its only point. -/
structure Plays (day : DailyRecording) (interval : DailyAvailableInterval) (part : ReplayPart) :
    Prop where
  recordingId : part.recordingId = day.recordingId
  recordingDate : part.recordingDate = day.recordingDate
  from_le : interval.startAt ≤ part.fromAt
  le_to : part.toAt ≤ interval.endAt
  start_le : interval.playbackStartSeconds ≤ part.startSeconds
  forward : part.startSeconds < part.endSeconds
  le_end : part.endSeconds ≤ interval.playbackEndSeconds
  linear : part.mapping = .linear → part.fromAt < part.toAt
  point : part.mapping = .pointTimestamp → part.fromAt = part.toAt

section Interval

variable (day : DailyRecording) (gaps : List (ℤ × ℤ)) (start confirmed availableTo : ℤ)
  (interval : DailyAvailableInterval)

/-- An interval adds no part, a point in the piece, or footage within the piece that meets no
gap. -/
theorem resolveInterval_cases :
    let r := resolveInterval day gaps start confirmed availableTo interval
    (r.part = none ∧ r.covered = none) ∨
    (∃ part, r.part = some part ∧ r.covered = none ∧ part.mapping = .pointTimestamp ∧
      Plays day interval part ∧ start ≤ part.fromAt ∧ part.toAt < confirmed) ∨
    ∃ part, r.part = some part ∧ r.covered = some part.span ∧ part.mapping = .linear ∧
      Plays day interval part ∧ start ≤ part.fromAt ∧ part.toAt ≤ availableTo ∧
      ∀ gap ∈ gaps, gap.1 < part.toAt → gap.2 ≤ part.fromAt := by
  intro r
  simp only [r, resolveInterval]
  split_ifs with hpoint hin hempty hgap hprecision
  · refine .inr (.inl ⟨_, rfl, rfl, rfl, ?_, hin.1.1, hin.1.2⟩)
    exact ⟨rfl, rfl, le_refl _, interval.ordered, le_refl _, interval.playbackOrdered, le_refl _,
      fun h => (by cases h), fun _ => rfl⟩
  · exact .inl ⟨rfl, rfl⟩
  · exact .inl ⟨rfl, rfl⟩
  · exact .inl ⟨rfl, rfl⟩
  · exact .inl ⟨rfl, rfl⟩
  · have hwall : 0 < totalSeconds (interval.endAt - interval.startAt) :=
      totalSeconds_pos (sub_pos.2 (lt_of_le_of_ne interval.ordered hpoint))
    have hplayback := sub_nonneg.2 interval.playbackOrdered.le
    refine .inr (.inr ⟨_, rfl, rfl, rfl, ?_, le_max_left _ _, min_le_left _ _, ?_⟩)
    · refine ⟨rfl, rfl, le_max_right _ _, min_le_right _ _, ?_, not_le.1 hprecision, ?_,
        fun _ => not_le.1 hempty, fun h => by cases h⟩
      · -- the piece starts in the interval
        refine le_add_of_nonneg_right (div_nonneg (mul_nonneg hplayback ?_) hwall.le)
        exact totalSeconds_nonneg (sub_nonneg.2 (le_max_right _ _))
      · -- and ends in it
        rw [← le_sub_iff_add_le', div_le_iff₀ hwall]
        refine mul_le_mul_of_nonneg_left (totalSeconds_mono ?_) hplayback
        exact sub_le_sub_right (min_le_right _ _) _
    · intro gap hmem hlt
      by_contra hle
      exact hgap ⟨gap, hmem, hlt, not_le.1 hle⟩

variable {day gaps start confirmed availableTo interval}

theorem resolveInterval_part {part : ReplayPart} (hto : availableTo ≤ confirmed)
    (h : (resolveInterval day gaps start confirmed availableTo interval).part = some part) :
    Plays day interval part ∧ start ≤ part.fromAt ∧ part.toAt ≤ confirmed := by
  rcases resolveInterval_cases day gaps start confirmed availableTo interval with
    ⟨hpart, -⟩ | ⟨p, hpart, -, -, hplays, hstart, hstop⟩ |
    ⟨p, hpart, -, -, hplays, hstart, hstop, -⟩
  · rw [hpart] at h
    cases h
  · obtain rfl := Option.some.inj (hpart.symm.trans h)
    exact ⟨hplays, hstart, hstop.le⟩
  · obtain rfl := Option.some.inj (hpart.symm.trans h)
    exact ⟨hplays, hstart, hstop.trans hto⟩

theorem resolveInterval_covered {i : ℤ × ℤ}
    (h : (resolveInterval day gaps start confirmed availableTo interval).covered = some i) :
    (start ≤ i.1 ∧ i.1 < i.2 ∧ i.2 ≤ availableTo) ∧
      (interval.startAt ≤ i.1 ∧ i.2 ≤ interval.endAt) ∧
      ∀ gap ∈ gaps, gap.1 < i.2 → gap.2 ≤ i.1 := by
  rcases resolveInterval_cases day gaps start confirmed availableTo interval with
    ⟨-, hcovered⟩ | ⟨p, -, hcovered, -⟩ |
    ⟨p, -, hcovered, hmapping, hplays, hstart, hstop, hgap⟩
  · rw [hcovered] at h
    cases h
  · rw [hcovered] at h
    cases h
  · obtain rfl := Option.some.inj (hcovered.symm.trans h)
    exact ⟨⟨hstart, hplays.linear hmapping, hstop⟩, ⟨hplays.from_le, hplays.le_to⟩, hgap⟩

variable (day gaps start confirmed availableTo)

/-- What is covered is what the linear parts span. -/
theorem covered_found (intervals : List DailyAvailableInterval) :
    let found := intervals.map (resolveInterval day gaps start confirmed availableTo)
    found.filterMap IntervalReplay.covered =
      linearSpans (found.filterMap IntervalReplay.part) := by
  induction intervals with
  | nil => rfl
  | cons interval intervals ih =>
    simp only [linearSpans, List.map_cons, List.filterMap_cons] at ih ⊢
    rcases resolveInterval_cases day gaps start confirmed availableTo interval with
      ⟨hpart, hcovered⟩ | ⟨part, hpart, hcovered, hmapping, -⟩ |
        ⟨part, hpart, hcovered, hmapping, -⟩
    · simp only [hpart, hcovered, ih]
    · simp [hpart, hcovered, ih, hmapping]
    · simp [hpart, hcovered, ih, hmapping]

end Interval

section Gap

variable {start confirmed : ℤ}

theorem clipGap_spec {gap : DailyGap} {i : ℤ × ℤ} (h : clipGap start confirmed gap = some i) :
    (start ≤ i.1 ∧ i.1 ≤ i.2 ∧ i.2 ≤ confirmed) ∧ gap.startAt ≤ i.1 ∧ i.2 ≤ gap.endAt := by
  simp only [clipGap] at h
  split_ifs at h with hclip
  obtain rfl := Option.some.inj h
  omega

theorem gaps_pairwise (day : DailyRecording) :
    (day.gaps.filterMap (clipGap start confirmed)).Pairwise fun i j => i.2 ≤ j.1 := by
  have hordered := List.pairwise_map.1 day.gapsOrdered.pairwise
  refine hordered.filterMap _ fun gap gap' hle i hi j hj => ?_
  obtain ⟨-, -, hi⟩ := clipGap_spec hi
  obtain ⟨-, hj, -⟩ := clipGap_spec hj
  exact (hi.trans hle).trans hj

theorem missing_span {left right : ℤ} (h : left ≤ right) (kind : UnavailableKind)
    (reason : String) :
    (missing left right kind reason).map UnavailableInterval.span = [(left, right)] := by
  rw [missing, if_pos h]
  rfl

/-- The gaps of a day are reported as they are clipped. -/
theorem gaps_span (gaps : List DailyGap) :
    (gaps.flatMap fun gap => ((clipGap start confirmed gap).map fun span =>
      missing span.1 span.2 .gap gap.reasonCode).getD []).map UnavailableInterval.span =
      gaps.filterMap (clipGap start confirmed) := by
  induction gaps with
  | nil => rfl
  | cons gap gaps ih =>
    rw [List.flatMap_cons, List.map_append, ih, List.filterMap_cons]
    cases h : clipGap start confirmed gap with
    | none => rfl
    | some i =>
      have hle : i.1 ≤ i.2 := (clipGap_spec h).1.2.1
      simp only [Option.map_some, Option.getD_some, missing_span hle]
      rfl

theorem unconfirmed_span {l : List (ℤ × ℤ)} (hl : ∀ i ∈ l, i.1 < i.2) (kind : UnavailableKind)
    (reason : ℤ × ℤ → String) :
    (l.flatMap fun i => missing i.1 i.2 kind (reason i)).map UnavailableInterval.span = l := by
  induction l with
  | nil => rfl
  | cons i l ih =>
    rw [List.flatMap_cons, List.map_append, ih fun j hj => hl j (List.mem_cons_of_mem _ hj),
      missing_span (hl i List.mem_cons_self).le]
    rfl

end Gap

/-! ## A piece of the window -/

/-- What has been found for a piece of the window accounts for each of its points once, with parts
of the days. -/
structure Resolved (days : Set DailyRecording) (now start stop : ℤ) (found : DayReplay) : Prop where
  tiles : Tiles (found.covered ++ found.unavailable.map UnavailableInterval.span)
    (Set.Ico start stop)
  linear : found.covered = linearSpans found.parts
  inside : ∀ part ∈ found.parts, start ≤ part.fromAt ∧ part.toAt ≤ stop ∧ part.toAt ≤ now
  plays : ∀ part ∈ found.parts, ∃ day ∈ days, ∃ interval ∈ day.availableIntervals,
    Plays day interval part

section Resolved

variable {days : Set DailyRecording} {now start stop : ℤ}

theorem linearSpans_append (parts parts' : List ReplayPart) :
    linearSpans (parts ++ parts') = linearSpans parts ++ linearSpans parts' := by
  rw [linearSpans, List.filter_append, List.map_append]
  rfl

/-- Two pieces make up a larger one. -/
theorem Resolved.append {a b c d : ℤ} {r s : DayReplay} (h : Resolved days now a b r)
    (h' : Resolved days now c d s) (hdisjoint : Disjoint (Set.Ico a b) (Set.Ico c d))
    (hunion : Set.Ico a b ∪ Set.Ico c d = Set.Ico start stop) (ha : start ≤ a) (hb : b ≤ stop)
    (hc : start ≤ c) (hd : d ≤ stop) : Resolved days now start stop (r.append s) where
  tiles := by
    rw [← hunion]
    refine (h.tiles.append h'.tiles hdisjoint).perm ?_
    rw [DayReplay.append, List.map_append]
    simp only [List.append_assoc]
    refine List.Perm.append_left _ ?_
    simp only [← List.append_assoc]
    exact List.perm_append_comm.append_right _
  linear := by rw [DayReplay.append, linearSpans_append, h.linear, h'.linear]
  inside := by
    intro part hpart
    rcases List.mem_append.1 hpart with hpart | hpart
    · obtain ⟨hfrom, hto, hnow⟩ := h.inside part hpart
      exact ⟨ha.trans hfrom, hto.trans hb, hnow⟩
    · obtain ⟨hfrom, hto, hnow⟩ := h'.inside part hpart
      exact ⟨hc.trans hfrom, hto.trans hd, hnow⟩
  plays := by
    intro part hpart
    rcases List.mem_append.1 hpart with hpart | hpart
    · exact h.plays part hpart
    · exact h'.plays part hpart

/-- A piece that is unavailable as a whole. -/
theorem resolved_missing {kind : UnavailableKind} {reason : String} (h : start ≤ stop) :
    Resolved days now start stop { unavailable := missing start stop kind reason } where
  tiles := by
    rw [missing_span h, List.nil_append]
    exact Tiles.singleton start stop
  linear := rfl
  inside := by simp
  plays := by simp

theorem resolved_empty (start : ℤ) : Resolved days now start start {} where
  tiles := by
    rw [Set.Ico_self]
    exact Tiles.nil
  linear := rfl
  inside := by simp
  plays := by simp

/-- The gaps of a day, its footage and what they leave are the whole of a piece that is over. -/
theorem footage_resolved {day : DailyRecording} {confirmed availableTo : ℤ} (hday : day ∈ days)
    (hnow : confirmed ≤ now) (hto : availableTo ≤ confirmed)
    {intervals : List DailyAvailableInterval} (hsub : intervals.Sublist day.availableIntervals)
    (reason : ℤ × ℤ → String) (reasonCodes : List String) :
    let gaps := day.gaps.filterMap (clipGap start confirmed)
    let found := intervals.map (resolveInterval day gaps start confirmed availableTo)
    Resolved days now start confirmed
      { parts := found.filterMap IntervalReplay.part
        unavailable :=
          (day.gaps.flatMap fun gap => ((clipGap start confirmed gap).map fun span =>
            missing span.1 span.2 .gap gap.reasonCode).getD []) ++
          (remaining start confirmed (found.filterMap IntervalReplay.covered ++ gaps)).flatMap
            fun span => missing span.1 span.2 .unconfirmed (reason span)
        reasonCodes := reasonCodes
        covered := found.filterMap IntervalReplay.covered } := by
  intro gaps found
  have hgaps : ∀ i ∈ gaps, start ≤ i.1 ∧ i.1 ≤ i.2 ∧ i.2 ≤ confirmed := by
    intro i hi
    obtain ⟨gap, -, hgap⟩ := List.mem_filterMap.1 hi
    exact (clipGap_spec hgap).1
  have hfootage : ∀ i ∈ found.filterMap IntervalReplay.covered,
      (start ≤ i.1 ∧ i.1 < i.2 ∧ i.2 ≤ availableTo) ∧ ∀ gap ∈ gaps, gap.1 < i.2 → gap.2 ≤ i.1 := by
    intro i hi
    simp only [found, List.filterMap_map, List.mem_filterMap, Function.comp_apply] at hi
    obtain ⟨interval, -, hi⟩ := hi
    obtain ⟨hinside, -, hgap⟩ := resolveInterval_covered hi
    exact ⟨hinside, hgap⟩
  have hpairwise : (found.filterMap IntervalReplay.covered).Pairwise fun i j => i.2 ≤ j.1 := by
    have hordered := (List.pairwise_map.1 day.intervalsOrdered.pairwise).sublist hsub
    simp only [found, List.filterMap_map]
    refine hordered.filterMap _ fun interval interval' hle i hi j hj => ?_
    obtain ⟨-, ⟨-, hi⟩, -⟩ := resolveInterval_covered hi
    obtain ⟨-, ⟨hj, -⟩, -⟩ := resolveInterval_covered hj
    exact (hi.trans hle).trans hj
  have hinside : ∀ i ∈ found.filterMap IntervalReplay.covered ++ gaps,
      start ≤ i.1 ∧ i.1 ≤ i.2 ∧ i.2 ≤ confirmed := by
    intro i hi
    rcases List.mem_append.1 hi with hi | hi
    · obtain ⟨hstart, hlt, hstop⟩ := (hfootage i hi).1
      exact ⟨hstart, hlt.le, hstop.trans hto⟩
    · exact hgaps i hi
  have hdisjoint : Disjoint (covered (found.filterMap IntervalReplay.covered)) (covered gaps) := by
    refine Set.disjoint_left.2 ?_
    rintro t ⟨i, hi, ht⟩ ⟨gap, hgap, ht'⟩
    have hle := (hfootage i hi).2 gap hgap (ht'.1.trans_lt ht.2)
    exact absurd (ht'.2.trans_le hle) (not_lt.2 ht.1)
  have hparts : ∀ part ∈ found.filterMap IntervalReplay.part, start ≤ part.fromAt ∧
      part.toAt ≤ confirmed ∧ ∃ interval ∈ day.availableIntervals, Plays day interval part := by
    intro part hpart
    simp only [found, List.filterMap_map, List.mem_filterMap, Function.comp_apply] at hpart
    obtain ⟨interval, hmem, hpart⟩ := hpart
    obtain ⟨hplays, hstart, hstop⟩ := resolveInterval_part hto hpart
    exact ⟨hstart, hstop, interval, hsub.subset hmem, hplays⟩
  obtain ⟨hremaining, hpos⟩ := remaining_tiles hinside
  refine ⟨?_, covered_found day gaps start confirmed availableTo intervals, ?_, ?_⟩
  · rw [List.map_append, gaps_span, unconfirmed_span hpos, ← List.append_assoc]
    have hboth := (Tiles.of_pairwise_le hpairwise).append
      (Tiles.of_pairwise_le (gaps_pairwise day)) hdisjoint
    rw [← covered_append] at hboth
    have hwhole := hboth.append hremaining Set.disjoint_sdiff_right
    rwa [Set.union_sdiff_cancel] at hwhole
    rintro t ⟨i, hi, ht⟩
    obtain ⟨hstart, -, hstop⟩ := hinside i hi
    exact ⟨hstart.trans ht.1, ht.2.trans_le hstop⟩
  · intro part hpart
    obtain ⟨hstart, hstop, -⟩ := hparts part hpart
    exact ⟨hstart, hstop, hstop.trans hnow⟩
  · intro part hpart
    obtain ⟨-, -, interval, hmem, hplays⟩ := hparts part hpart
    exact ⟨day, hday, interval, hmem, hplays⟩

theorem resolveRecording_resolved {day : DailyRecording} {confirmed : ℤ} (hday : day ∈ days)
    (hnow : confirmed ≤ now) :
    Resolved days now start confirmed (resolveRecording day start confirmed) := by
  have hmap : ∀ (playable : Bool) (l : List DailyAvailableInterval)
      (resolve : DailyAvailableInterval → IntervalReplay),
      (if playable then l.map resolve else []) = (if playable then l else []).map resolve := by
    intro playable l resolve
    cases playable <;> rfl
  have hsub : ∀ (playable : Bool) (l : List DailyAvailableInterval),
      (if playable then l else []).Sublist l := by
    intro playable l
    cases playable
    · exact List.nil_sublist l
    · exact List.Sublist.refl l
  simp only [resolveRecording, hmap]
  exact footage_resolved hday hnow (min_le_left _ _) (hsub _ _) _ _

/-- A piece of the window that lies in one day. -/
theorem resolveDay_resolved {day : Option DailyRecording} (hday : ∀ d ∈ day, d ∈ days)
    (h : start ≤ stop) : Resolved days now start stop (resolveDay day start stop now) := by
  have hfuture : Resolved days now (max start (min stop now)) stop
      { unavailable :=
          if now < stop then missing (max start now) stop .future "FUTURE_INTERVAL" else [] } := by
    split_ifs with hnow
    · rw [min_eq_right hnow.le]
      exact resolved_missing (max_le h hnow.le)
    · rw [min_eq_left (not_lt.1 hnow), max_eq_right h]
      exact resolved_empty stop
  by_cases hconfirmed : min stop now ≤ start
  · simp only [resolveDay, if_pos hconfirmed]
    rwa [max_eq_left hconfirmed] at hfuture
  · have hlt := not_le.1 hconfirmed
    have hstop : min stop now ≤ stop := min_le_left _ _
    rw [max_eq_right hlt.le] at hfuture
    simp only [resolveDay, if_neg hconfirmed]
    refine hfuture.append (c := start) (d := min stop now) ?_ ?_ ?_ hlt.le (le_refl _) (le_refl _)
      hstop
    · cases day with
      | none => exact resolved_missing hlt.le
      | some day =>
        dsimp only
        split_ifs
        · exact resolved_missing hlt.le
        · exact resolveRecording_resolved (hday day rfl) (min_le_right _ _)
    · rw [disjoint_comm]
      exact Set.Ico_disjoint_Ico_same
    · rw [Set.union_comm]
      exact Set.Ico_union_Ico_eq_Ico hlt.le hstop

/-! ## The days of the window -/

/-- The loop over the days comes to the end of the window: until then each of its steps but the last
goes on to the next date. -/
theorem resolveDays_resolved {dayAt : ℤ → Option DailyRecording}
    (hdays : ∀ date, ∀ day ∈ dayAt date, day ∈ days) {fuel : ℕ} {current : ℤ}
    {result found : DayReplay} (hstart : start ≤ current) (hstop : current ≤ stop)
    (hfuel : current = stop ∨ kstDate stop - kstDate current + 1 ≤ fuel)
    (hresult : Resolved days now start current result)
    (hfound : resolveDays dayAt stop now fuel current result = some found) :
    Resolved days now start stop found := by
  induction fuel generalizing current result with
  | zero =>
    have hend : current = stop := by
      have hdate := kstDate_mono hstop
      omega
    obtain rfl := Option.some.inj hfound
    rwa [hend] at hresult
  | succ fuel ih =>
    simp only [resolveDays] at hfound
    split_ifs at hfound with hlt hparts
    · set next := min stop (midnight (kstDate current + 1)) with hnext
      have hcurrent : current ≤ next := le_min hstop (lt_midnight current).le
      have hpiece : Resolved days now current next _ :=
        resolveDay_resolved (hdays (kstDate current)) hcurrent
      refine ih (hstart.trans hcurrent) (min_le_left _ _) ?_ ?_ hfound
      · rcases min_choice stop (midnight (kstDate current + 1)) with h | h
        · exact .inl (hnext.trans h)
        · refine .inr ?_
          rw [hnext, h, kstDate_midnight]
          omega
      · refine hresult.append hpiece ?_ ?_ (le_refl _) hcurrent hstart (le_refl _)
        · exact Set.Ico_disjoint_Ico_same
        · exact Set.Ico_union_Ico_eq_Ico hstart hcurrent
    · obtain rfl := Option.some.inj hfound
      rwa [le_antisymm hstop (not_lt.1 hlt)] at hresult

end Resolved

theorem resolveWindow_resolved {days : List DailyRecording} {start stop now : ℤ} {found : DayReplay}
    (h : start ≤ stop) (hfound : resolveWindow days start stop now = some found) :
    Resolved {day | day ∈ days} now start stop found := by
  refine resolveDays_resolved (fun date day hday => ?_) (le_refl start) h (.inr ?_)
    (resolved_empty start) hfound
  · exact List.mem_reverse.1 (List.mem_of_find?_eq_some hday)
  · exact Int.self_le_toNat _

/-! ## The timeline -/

/-- The parts follow one another on the timeline of the playback, from `time` to `finish`. -/
def Timeline (finish : ℚ) : ℚ → List ReplayPart → Prop
  | time, [] => time = finish
  | time, part :: parts =>
    part.relativeStartSeconds = time ∧
      part.relativeEndSeconds = time + (part.endSeconds - part.startSeconds) ∧
      Timeline finish part.relativeEndSeconds parts

theorem timeline_spec (time : ℚ) (parts : List ReplayPart) :
    Timeline (timeline time parts).2 time (timeline time parts).1 := by
  induction parts generalizing time with
  | nil => rfl
  | cons part parts ih => exact ⟨rfl, rfl, ih _⟩

/-- A part off the timeline. -/
def ReplayPart.erase (part : ReplayPart) : ReplayPart :=
  { part with relativeStartSeconds := 0, relativeEndSeconds := 0 }

theorem timeline_erase (time : ℚ) (parts : List ReplayPart) :
    (timeline time parts).1.map ReplayPart.erase = parts.map ReplayPart.erase := by
  induction parts generalizing time with
  | nil => rfl
  | cons part parts ih =>
    simp only [timeline, List.map_cons, ih]
    rfl

theorem linearSpans_erase (parts : List ReplayPart) :
    linearSpans (parts.map ReplayPart.erase) = linearSpans parts := by
  rw [linearSpans, List.filter_map, List.map_map]
  rfl

theorem linearSpans_timeline (time : ℚ) (parts : List ReplayPart) :
    linearSpans (timeline time parts).1 = linearSpans parts := by
  rw [← linearSpans_erase, timeline_erase, linearSpans_erase]

/-- What does not depend on the timeline holds of the parts on it. -/
theorem forall_timeline {p : ReplayPart → Prop} (hp : ∀ part, p part ↔ p part.erase) (time : ℚ)
    {parts : List ReplayPart} (h : ∀ part ∈ parts, p part) :
    ∀ part ∈ (timeline time parts).1, p part := by
  intro part hpart
  have hmem := List.mem_map_of_mem (f := ReplayPart.erase) hpart
  rw [timeline_erase] at hmem
  obtain ⟨original, horiginal, heq⟩ := List.mem_map.1 hmem
  rw [hp, ← heq, ← hp]
  exact h original horiginal

/-! ## The replay -/

/-- The order of the parts. -/
def ReplayPart.key (part : ReplayPart) : ℤ ×ₗ ℤ ×ₗ ℚ :=
  toLex (part.fromAt, toLex (part.recordingDate, part.startSeconds))

/-- The seconds of the parts that map a stretch of time. -/
def linearSeconds (parts : List ReplayPart) : ℚ :=
  ((linearSpans parts).map fun span => totalSeconds (span.2 - span.1)).sum

/-- A replay at `now` partitions `[start, stop)`. -/
structure ExactReplay (days : List DailyRecording) (now start stop : ℤ)
    (replay : EventRecordingReplay) : Prop where
  tiles : Tiles (linearSpans replay.parts ++ (replay.unavailableIntervals.map
    UnavailableInterval.span).filter fun span => span.1 < span.2) (Set.Ico start stop)
  inside : ∀ part ∈ replay.parts, start ≤ part.fromAt ∧ part.fromAt ≤ part.toAt ∧
    part.toAt ≤ stop ∧ part.toAt ≤ now
  sorted : replay.parts.Pairwise fun part part' => part.key ≤ part'.key
  seconds : replay.coveredSeconds = linearSeconds replay.parts
  timeline : Timeline replay.playbackSeconds 0 replay.parts
  plays : ∀ part ∈ replay.parts, ∃ day ∈ days, ∃ interval ∈ day.availableIntervals,
    Plays day interval part
  available : replay.state = .available ↔ start < stop ∧
    covered (linearSpans replay.parts) = Set.Ico start stop ∧ replay.unavailableIntervals = [] ∧
    replay.event.windowState ≠ .opened

theorem Plays.erase {day : DailyRecording} {interval : DailyAvailableInterval} {part : ReplayPart} :
    Plays day interval part ↔ Plays day interval part.erase :=
  ⟨fun h => ⟨h.1, h.2, h.3, h.4, h.5, h.6, h.7, h.8, h.9⟩,
    fun h => ⟨h.1, h.2, h.3, h.4, h.5, h.6, h.7, h.8, h.9⟩⟩

theorem Plays.from_le_to {day : DailyRecording} {interval : DailyAvailableInterval}
    {part : ReplayPart} (h : Plays day interval part) : part.fromAt ≤ part.toAt := by
  cases hmapping : part.mapping with
  | linear => exact (h.linear hmapping).le
  | pointTimestamp => exact (h.point hmapping).le

section Replay

variable {days : Set DailyRecording} {now start stop : ℤ} {found : DayReplay}

theorem Resolved.covered_subset (h : Resolved days now start stop found) :
    covered found.covered ⊆ Set.Ico start stop := by
  rw [← h.tiles.union, covered_append]
  exact Set.subset_union_left

theorem Resolved.forward (h : Resolved days now start stop found) :
    ∀ span ∈ found.covered, start ≤ span.1 ∧ span.1 < span.2 ∧ span.2 ≤ stop := by
  intro span hspan
  rw [h.linear] at hspan
  obtain ⟨part, hpart, rfl⟩ := List.mem_map.1 hspan
  obtain ⟨hmem, hmapping⟩ := List.mem_filter.1 hpart
  obtain ⟨hstart, hstop, -⟩ := h.inside part hmem
  obtain ⟨day, -, interval, -, hplays⟩ := h.plays part hmem
  exact ⟨hstart, hplays.linear (of_decide_eq_true hmapping), hstop⟩

/-- The linear parts leave nothing exactly if they cover the window. -/
theorem Resolved.complete_iff (h : Resolved days now start stop found) :
    remaining start stop found.covered = [] ↔ covered found.covered = Set.Ico start stop := by
  have hl : ∀ i ∈ found.covered, start ≤ i.1 ∧ i.1 ≤ i.2 ∧ i.2 ≤ stop := fun i hi =>
    ⟨(h.forward i hi).1, (h.forward i hi).2.1.le, (h.forward i hi).2.2⟩
  obtain ⟨htiles, hpos⟩ := remaining_tiles hl
  constructor
  · intro hnil
    have hempty := htiles.union
    rw [hnil, covered_nil] at hempty
    exact Set.Subset.antisymm h.covered_subset (Set.sdiff_eq_empty.1 hempty.symm)
  · intro hcovered
    rw [hcovered, Set.sdiff_self] at htiles
    refine List.eq_nil_iff_forall_not_mem.2 fun i hi => ?_
    have hmem : i.1 ∈ covered (remaining start stop found.covered) :=
      ⟨i, hi, le_refl _, hpos i hi⟩
    rw [htiles.union] at hmem
    exact hmem

/-- Sorting does not change what the linear parts span. -/
theorem linearSpans_perm {parts parts' : List ReplayPart} (h : parts.Perm parts') :
    (linearSpans parts).Perm (linearSpans parts') :=
  (h.filter _).map _

end Replay

/-- **The replay of a known window is an exact partition of it**, if it is below the limit of its
parts. -/
theorem replay_exact (event : EventRecording) (now : ℤ) (days : List DailyRecording)
    (hknown : event.windowState ≠ .unknown)
    (hparts : resolveWindow days event.windowFrom (event.windowTo.getD now) now ≠ none) :
    ExactReplay days now event.windowFrom (event.windowTo.getD now)
      (resolveEventReplay event now days) := by
  obtain ⟨found, hfound⟩ := Option.ne_none_iff_exists'.1 hparts
  simp only [resolveEventReplay, if_neg hknown, hfound]
  by_cases hempty : event.windowTo.getD now ≤ event.windowFrom
  · rw [if_pos hempty]
    constructor
    · rw [Set.Ico_eq_empty (not_lt.2 hempty)]
      exact Tiles.nil
    · simp
    · exact List.Pairwise.nil
    · rfl
    · rfl
    · simp
    · simp [not_lt.2 hempty]
  · rw [if_neg hempty]
    have hresolved := resolveWindow_resolved (not_le.1 hempty).le hfound
    have hkey : (fun part : ReplayPart =>
      toLex (part.fromAt, toLex (part.recordingDate, part.startSeconds))) = ReplayPart.key := rfl
    simp only [hkey]
    set sorted := sortedBy ReplayPart.key found.parts with hsorted
    set parts := (timeline 0 sorted).1 with hparts
    have hmem : ∀ {p : ReplayPart → Prop}, (∀ part, p part ↔ p part.erase) →
        (∀ part ∈ found.parts, p part) → ∀ part ∈ parts, p part := fun hp h =>
      forall_timeline hp 0 fun part hpart => h part ((mem_sortedBy _ _).1 hpart)
    have hspans : (linearSpans parts).Perm found.covered := by
      rw [hparts, linearSpans_timeline, hresolved.linear]
      exact linearSpans_perm (sortedBy_perm _ _)
    constructor
    · have hfilter : found.covered.filter (fun span => span.1 < span.2) = found.covered :=
        List.filter_eq_self.2 fun span hspan => decide_eq_true (hresolved.forward span hspan).2.1
      have htiles := hresolved.tiles.filter
      rw [List.filter_append, hfilter] at htiles
      exact htiles.perm (hspans.symm.append_right _)
    · refine hmem (fun part => Iff.rfl) fun part hpart => ?_
      obtain ⟨hstart, hstop, hnow⟩ := hresolved.inside part hpart
      obtain ⟨day, -, interval, -, hplays⟩ := hresolved.plays part hpart
      exact ⟨hstart, hplays.from_le_to, hstop, hnow⟩
    · have herase : sorted.map ReplayPart.erase = parts.map ReplayPart.erase :=
        (timeline_erase 0 sorted).symm
      have hpairwise : (sorted.map ReplayPart.erase).Pairwise fun p q => p.key ≤ q.key :=
        List.pairwise_map.2 (pairwise_sortedBy ReplayPart.key found.parts)
      rw [herase, List.pairwise_map] at hpairwise
      exact hpairwise
    · have hpos : ∀ span ∈ found.covered, span.1 < span.2 := fun span hspan =>
        (hresolved.forward span hspan).2.1
      rw [linearSeconds, (hspans.map _).sum_eq]
      exact duration_eq hresolved.tiles.left hpos
    · exact timeline_spec 0 sorted
    · refine hmem (fun part => ?_) hresolved.plays
      simp only [← Plays.erase]
    · have hwhole := hresolved.complete_iff
      rw [← covered_perm hspans] at hwhole
      rw [← hwhole]
      by_cases hcomplete :
          (remaining event.windowFrom (event.windowTo.getD now) found.covered = [] ∧
            found.unavailable = []) ∧ event.windowState ≠ .opened
      · rw [if_pos hcomplete]
        obtain ⟨⟨hcovered, hunavailable⟩, hopened⟩ := hcomplete
        exact ⟨fun _ => ⟨not_le.1 hempty, hcovered, hunavailable, hopened⟩, fun _ => rfl⟩
      · rw [if_neg hcomplete]
        constructor
        · intro h
          split_ifs at h
        · rintro ⟨-, hcovered, hunavailable, hopened⟩
          exact absurd ⟨⟨hcovered, hunavailable⟩, hopened⟩ hcomplete

/-- A day of ten minutes' footage, of which the archive has lost the second. -/
def tenMinutes : DailyRecording where
  recordingId := "day"
  recordingDate := 0
  windowStartAt := midnight 0
  windowEndAt := midnight 0 + dayLength
  status := .recording
  coverageAsOfAt := midnight 0 + seconds 600
  playableUntilAt := some (midnight 0 + seconds 600)
  gaps := [⟨⟨midnight 0 + seconds 60, midnight 0 + seconds 120, by decide⟩, "LOST", by decide⟩]
  availableIntervals := [
    ⟨⟨midnight 0, midnight 0 + seconds 60, by decide⟩, 0, 60, by norm_num, by norm_num,
      by norm_num⟩,
    ⟨⟨midnight 0 + seconds 120, midnight 0 + seconds 600, by decide⟩, 60, 540, by norm_num,
      by norm_num, by norm_num⟩]
  playbackState := .ready
  playbackPath := some "/day"
  expiresAt := none
  error := none
  window := by decide
  coverageInWindow := by decide
  playableConfirmed := by decide
  gapsOrdered := ⟨by decide, by decide, trivial⟩
  intervalsOrdered := ⟨by decide, by decide, by decide, by decide, trivial⟩

/-- An event in it. -/
def minuteEvent : EventRecording where
  eventId := "event"
  windowState := .closed
  windowFrom := midnight 0 + seconds 30
  windowTo := some (midnight 0 + seconds 150)

theorem replay_exact_minute : ExactReplay [tenMinutes] (midnight 0 + seconds 900)
    (midnight 0 + seconds 30) (midnight 0 + seconds 150)
    (resolveEventReplay minuteEvent (midnight 0 + seconds 900) [tenMinutes]) :=
  replay_exact minuteEvent (midnight 0 + seconds 900) [tenMinutes] (by decide) (by decide +kernel)

/-- A collection that ended when it began, and one whose end was not recorded. -/
def emptyCycle : EventRecording where
  eventId := "event"
  windowState := .closed
  windowFrom := midnight 0
  windowTo := some (midnight 0)

def endlessCycle : EventRecording where
  eventId := "event"
  windowState := .unknown
  windowFrom := midnight 0
  windowTo := none
  reasonCodes := ["COLLECTION_END_NOT_RECORDED"]

/-- Of an empty window nothing is missing and yet it is not available, and of a window that is not
known nothing is resolved. -/
theorem replay_not_exact :
    let now := midnight 0 + seconds 900
    let empty := resolveEventReplay emptyCycle now [tenMinutes]
    let endless := resolveEventReplay endlessCycle now [tenMinutes]
    (covered (linearSpans empty.parts) = Set.Ico (midnight 0) (midnight 0) ∧
      empty.unavailableIntervals = [] ∧ empty.event.windowState ≠ .opened ∧
      empty.state ≠ .available) ∧
    ¬Tiles (linearSpans endless.parts ++
      (endless.unavailableIntervals.map UnavailableInterval.span).filter
        fun span => span.1 < span.2) (Set.Ico (midnight 0) now) := by
  intro now empty endless
  refine ⟨⟨?_, rfl, by decide, by decide⟩, fun h => ?_⟩
  · rw [Set.Ico_self]
    exact covered_nil
  · have hmem : midnight 0 ∈ Set.Ico (midnight 0) now := by
      rw [Set.mem_Ico]
      decide
    rw [← h.union] at hmem
    simp [covered_nil, linearSpans, endless, endlessCycle, resolveEventReplay] at hmem

end ScrapMonitoring.Replay
