import ScrapMonitoring.Replay.Loading
import ScrapMonitoring.Replay.Partition

/-!
# Summaries agree with replays

An event is summarized from the intervals and gaps of its dates that can overlap it. What is left
out adds nothing to any piece of the window (`resolveDay_overlapping`), and the dates are those
whose metadata the pieces read (`resolveEventReplay_congr`), so a summary that has a state is the
one of the replay from the whole archive (`summary_agrees`).
-/

namespace ScrapMonitoring.Replay

/-! ## What cannot overlap adds nothing -/

theorem filterMap_filter_eq {α β : Type*} {p : α → Bool} {f : α → Option β} {l : List α}
    (h : ∀ a ∈ l, p a = false → f a = none) : (l.filter p).filterMap f = l.filterMap f := by
  rw [List.filterMap_filter]
  refine List.filterMap_congr fun a ha => ?_
  cases hp : p a with
  | true => rfl
  | false => exact (h a ha hp).symm

theorem flatMap_filter_eq {α β : Type*} {p : α → Bool} {f : α → List β} {l : List α}
    (h : ∀ a ∈ l, p a = false → f a = []) : (l.filter p).flatMap f = l.flatMap f := by
  induction l with
  | nil => rfl
  | cons a l ih =>
    have hrest := ih fun b hb => h b (List.mem_cons_of_mem _ hb)
    cases hp : p a with
    | true => rw [List.filter_cons_of_pos hp, List.flatMap_cons, List.flatMap_cons, hrest]
    | false =>
      rw [List.filter_cons_of_neg (by simp [hp]), hrest, List.flatMap_cons,
        h a List.mem_cons_self hp, List.nil_append]

section Overlapping

variable {start stop a confirmed : ℤ}

theorem clipGap_eq_none {gap : DailyGap} (ha : start ≤ a) (hconfirmed : confirmed ≤ stop)
    (h : ¬(gap.startAt < stop ∧ start ≤ gap.endAt)) : clipGap a confirmed gap = none := by
  have hordered := gap.ordered
  unfold clipGap
  rw [if_neg]
  omega

theorem resolveInterval_eq_empty {day : DailyRecording} {gaps : List (ℤ × ℤ)} {availableTo : ℤ}
    {interval : DailyAvailableInterval} (ha : start ≤ a) (hconfirmed : confirmed ≤ stop)
    (hto : availableTo ≤ confirmed) (h : ¬(interval.startAt < stop ∧ start ≤ interval.endAt)) :
    resolveInterval day gaps a confirmed availableTo interval = {} := by
  have hordered := interval.ordered
  unfold resolveInterval
  dsimp only
  split_ifs with hpoint hin hempty
  · omega
  · rfl
  · rfl
  · omega
  · omega
  · omega

/-- A piece that is over is resolved from what can overlap the window it is in. -/
theorem resolveRecording_overlapping (day : DailyRecording) (ha : start ≤ a)
    (hconfirmed : confirmed ≤ stop) :
    resolveRecording (overlapping start stop day) a confirmed =
      resolveRecording day a confirmed := by
  have hgap : ∀ gap ∈ day.gaps, decide (gap.startAt < stop ∧ start ≤ gap.endAt) = false →
      clipGap a confirmed gap = none := fun gap _ h =>
    clipGap_eq_none ha hconfirmed (of_decide_eq_false h)
  have hgaps := filterMap_filter_eq hgap
  have hreported : ∀ f : DailyGap → ℤ × ℤ → List UnavailableInterval,
      ((day.gaps.filter fun gap => gap.startAt < stop ∧ start ≤ gap.endAt).flatMap fun gap =>
        ((clipGap a confirmed gap).map (f gap)).getD []) =
      day.gaps.flatMap fun gap => ((clipGap a confirmed gap).map (f gap)).getD [] := by
    intro f
    refine flatMap_filter_eq fun gap hmem h => ?_
    rw [hgap gap hmem h]
    rfl
  have hfound : ∀ {β : Type} (playable : Bool) (gaps : List (ℤ × ℤ)) (availableTo : ℤ)
      (g : IntervalReplay → Option β), g {} = none → availableTo ≤ confirmed →
      (if playable then (day.availableIntervals.filter fun span =>
        span.startAt < stop ∧ start ≤ span.endAt).map
          (resolveInterval day gaps a confirmed availableTo) else []).filterMap g =
      (if playable then day.availableIntervals.map
          (resolveInterval day gaps a confirmed availableTo) else []).filterMap g := by
    intro β playable gaps availableTo g hg hto
    cases playable with
    | false => rfl
    | true =>
      simp only [if_true, List.filterMap_map]
      refine filterMap_filter_eq fun span _ h => ?_
      rw [Function.comp_apply,
        resolveInterval_eq_empty ha hconfirmed hto (of_decide_eq_false h), hg]
  -- neither the day's identity nor what it says of itself depends on its intervals
  have hday : ∀ gaps availableTo, resolveInterval (overlapping start stop day) gaps a confirmed
      availableTo = resolveInterval day gaps a confirmed availableTo := fun _ _ => rfl
  simp only [resolveRecording, hday]
  simp only [overlapping, hgaps, hreported]
  simp only [hfound _ _ _ IntervalReplay.part rfl (min_le_left _ _),
    hfound _ _ _ IntervalReplay.covered rfl (min_le_left _ _),
    hfound _ _ _ IntervalReplay.reasonCode rfl (min_le_left _ _)]
  rfl

/-- So is a piece of the window. -/
theorem resolveDay_overlapping (day : Option DailyRecording) {b now : ℤ} (ha : start ≤ a)
    (hb : min b now ≤ stop) :
    resolveDay (day.map (overlapping start stop)) a b now = resolveDay day a b now := by
  cases day with
  | none => rfl
  | some day =>
    unfold resolveDay
    rw [Option.map_some]
    dsimp only
    rw [resolveRecording_overlapping day ha hb]
    rfl

end Overlapping

/-! ## The dates that are read -/

/-- A piece that is not over does not read the metadata of its day. -/
theorem resolveDay_future {day day' : Option DailyRecording} {a b now : ℤ} (h : min b now ≤ a) :
    resolveDay day a b now = resolveDay day' a b now := by
  unfold resolveDay
  dsimp only
  rw [if_pos h, if_pos h]

theorem resolveDays_congr {dayAt dayAt' : ℤ → Option DailyRecording} {start stop now : ℤ}
    (h : ∀ a b, start ≤ a → b ≤ stop →
      resolveDay (dayAt (kstDate a)) a b now = resolveDay (dayAt' (kstDate a)) a b now)
    {fuel : ℕ} {current : ℤ} {result : DayReplay} (hstart : start ≤ current) :
    resolveDays dayAt stop now fuel current result =
      resolveDays dayAt' stop now fuel current result := by
  induction fuel generalizing current result with
  | zero => rfl
  | succ fuel ih =>
    unfold resolveDays
    dsimp only
    by_cases hlt : current < stop
    · have hnext : start ≤ min stop (midnight (kstDate current + 1)) := by
        apply hstart.trans
        exact le_min hlt.le (lt_midnight current).le
      rw [if_pos hlt, if_pos hlt, h current _ hstart (min_le_left _ _), ih hnext]
    · rw [if_neg hlt, if_neg hlt]

/-- The dates of a window are those of its points until now. -/
theorem eventDates_mem {event : EventRecording} {now t : ℤ} {dates : List ℤ}
    (hdates : eventDates event now = some dates) (hknown : event.windowState ≠ .unknown)
    (hfrom : event.windowFrom ≤ t) (ht : t < min (event.windowTo.getD now) now) :
    kstDate t ∈ dates := by
  unfold eventDates at hdates
  dsimp only at hdates
  rw [if_neg (not_or.2 ⟨hknown, not_le.2 (hfrom.trans_lt ht)⟩)] at hdates
  split_ifs at hdates
  obtain rfl := Option.some.inj hdates
  have hfirst := kstDate_mono hfrom
  have hlast : kstDate t ≤ kstDate (min (event.windowTo.getD now) now - 1) :=
    kstDate_mono (Int.le_sub_one_of_lt ht)
  refine List.mem_map.2 ⟨(kstDate t - kstDate event.windowFrom).toNat, List.mem_range.2 ?_, ?_⟩
  · omega
  · omega

theorem eventDates_le {event : EventRecording} {now date : ℤ} {dates : List ℤ}
    (hdates : eventDates event now = some dates) (hdate : date ∈ dates) :
    date ≤ kstDate (now - 1) := by
  unfold eventDates at hdates
  dsimp only at hdates
  split_ifs at hdates
  · obtain rfl := Option.some.inj hdates
    cases hdate
  · obtain rfl := Option.some.inj hdates
    obtain ⟨n, hn, rfl⟩ := List.mem_map.1 hdate
    have hlt := List.mem_range.1 hn
    have hlast : kstDate (min (event.windowTo.getD now) now - 1) ≤ kstDate (now - 1) :=
      kstDate_mono (by omega)
    omega

/-- A replay reads the dates of the window until now, and of these what can overlap the window. -/
theorem resolveEventReplay_congr {event : EventRecording} {now : ℤ}
    {days days' : List DailyRecording} {dates : List ℤ} (hdates : eventDates event now = some dates)
    (h : ∀ date ∈ dates, byDate days date = (byDate days' date).map
      (overlapping event.windowFrom (min (event.windowTo.getD now) now))) :
    resolveEventReplay event now days = resolveEventReplay event now days' := by
  unfold resolveEventReplay
  by_cases hunknown : event.windowState = .unknown
  · rw [if_pos hunknown, if_pos hunknown]
  · rw [if_neg hunknown, if_neg hunknown]
    dsimp only
    by_cases hempty : event.windowTo.getD now ≤ event.windowFrom
    · rw [if_pos hempty, if_pos hempty]
    · have hwindow : resolveWindow days event.windowFrom (event.windowTo.getD now) now =
          resolveWindow days' event.windowFrom (event.windowTo.getD now) now := by
        unfold resolveWindow
        refine resolveDays_congr (fun a b ha hb => ?_) (le_refl _)
        by_cases hpast : min b now ≤ a
        · exact resolveDay_future hpast
        · have hmem : kstDate a ∈ dates := by
            refine eventDates_mem hdates hunknown ha ?_
            omega
          rw [h _ hmem]
          exact resolveDay_overlapping _ ha (min_le_min_right now hb)
      rw [hwindow]

/-! ## Selected events -/

/-- An event has been left out, or its dates are selected. -/
def Selected (selection : Selection) (now : ℤ) (event marked : EventRecording) : Prop :=
  (∃ reason, marked = unknown event reason) ∨
    marked = event ∧ eventDates event now = some (selection.windows event.eventId) ∧
      selection.windows event.eventId ⊆ selection.selected

theorem selectDates_grows {now : ℤ} {events : List EventRecording} {selection : Selection} :
    selection.selected ⊆ (selectDates now events selection).2.selected := by
  induction events generalizing selection with
  | nil => exact fun _ h => h
  | cons event events ih =>
    unfold selectDates
    dsimp only
    split
    · exact ih
    · exact fun date hdate => ih (List.mem_union_iff.2 (.inr hdate))

/-- An event's dates are not changed by events of other ids. -/
theorem selectDates_windows {now : ℤ} {events : List EventRecording} {selection : Selection}
    {id : String} (hid : id ∉ events.map EventRecording.eventId) :
    (selectDates now events selection).2.windows id = selection.windows id := by
  induction events generalizing selection with
  | nil => rfl
  | cons event events ih =>
    obtain ⟨hne, hrest⟩ := not_or.1 (fun h => hid (List.mem_cons.2 h))
    unfold selectDates
    dsimp only
    split
    · exact ih hrest
    · rw [ih hrest]
      exact Function.update_of_ne hne _ _

/-- The selected dates are not too many and have begun. -/
theorem selectDates_bounded {now : ℤ} {events : List EventRecording} {selection : Selection}
    (hlength : selection.selected.length ≤ maxDates)
    (hnow : ∀ date ∈ selection.selected, date ≤ kstDate (now - 1)) :
    (selectDates now events selection).2.selected.length ≤ maxDates ∧
      ∀ date ∈ (selectDates now events selection).2.selected, date ≤ kstDate (now - 1) := by
  induction events generalizing selection with
  | nil => exact ⟨hlength, hnow⟩
  | cons event events ih =>
    unfold selectDates
    dsimp only
    split
    next => exact ih hlength hnow
    next dates hdates =>
      obtain ⟨heventDates, hfew⟩ := Option.filter_eq_some_iff.1 hdates
      refine ih (of_decide_eq_true hfew) fun date hdate => ?_
      rcases List.mem_union_iff.1 hdate with hdate | hdate
      · exact eventDates_le heventDates hdate
      · exact hnow date hdate

theorem selectDates_selected {now : ℤ} {events : List EventRecording} {selection : Selection}
    (hnodup : (events.map EventRecording.eventId).Nodup) :
    List.Forall₂ (Selected (selectDates now events selection).2 now) events
      (selectDates now events selection).1 := by
  induction events generalizing selection with
  | nil => exact .nil
  | cons event events ih =>
    obtain ⟨hid, hrest⟩ := List.nodup_cons.1 hnodup
    unfold selectDates
    dsimp only
    split
    next => exact .cons (.inl ⟨_, rfl⟩) (ih hrest)
    next dates hdates =>
      obtain ⟨heventDates, -⟩ := Option.filter_eq_some_iff.1 hdates
      set selection' : Selection :=
        { selected := dates ∪ selection.selected
          windows := Function.update selection.windows event.eventId dates }
      have hwindow : (selectDates now events selection').2.windows event.eventId = dates := by
        rw [selectDates_windows hid]
        exact Function.update_self event.eventId dates selection.windows
      refine .cons (.inr ⟨rfl, ?_, ?_⟩) (ih hrest)
      · rw [hwindow, heventDates]
      · rw [hwindow]
        intro date hdate
        apply selectDates_grows
        exact List.mem_union_iff.2 (.inl hdate)

/-! ## Agreement -/

/-- An event has got a summary; one that has a state is the one of its replay. -/
def Agrees (archive : List DailyRecording) (now : ℤ) (event summarized : EventRecording) : Prop :=
  ∃ playback : EventPlaybackSummary, summarized = { event with playback := some playback } ∧
    ∀ state, playback.state = some state →
      let replay := resolveEventReplay event now archive
      state = replay.state ∧ playback.playbackSeconds = some replay.playbackSeconds ∧
        playback.reasonCodes = replay.reasonCodes

theorem agrees_unknown (archive : List DailyRecording) (now : ℤ) (event : EventRecording)
    (reason : String) : Agrees archive now event (unknown event reason) :=
  ⟨{ state := none, reasonCodes := [reason] }, rfl, fun _ h => by cases h⟩

theorem byDate_overlapping (days : List DailyRecording) (start stop date : ℤ) :
    byDate (days.map (overlapping start stop)) date =
      (byDate days date).map (overlapping start stop) := by
  unfold byDate
  rw [← List.map_reverse, List.find?_map]
  rfl

section Summarize

variable {archive : List DailyRecording} {loading : Loading} {selection : Selection} {now : ℤ}

theorem summarizeEvent_agrees (hsound : loading.Sound archive)
    (hsettled : ∀ date ∈ selection.selected, loading.Settled date) (work : ℕ)
    {event marked : EventRecording} (hfresh : event.playback = none)
    (h : Selected selection now event marked) :
    Agrees archive now event (summarizeEvent loading selection.windows now work marked).1 := by
  rcases h with ⟨reason, rfl⟩ | ⟨rfl, hdates, hselected⟩
  · exact agrees_unknown archive now event reason
  · unfold summarizeEvent
    rw [hfresh]
    dsimp only [Option.isSome_none]
    rw [if_neg (by simp)]
    set dates := selection.windows marked.eventId with hwindow
    cases herror : (dates.findSome? loading.errors).filter (· ≠ "") with
    | some error => exact agrees_unknown archive now marked error
    | none =>
      -- no date has an error, so all are confirmed
      have hmetadata : ∀ date ∈ dates, loading.metadata date = byDate archive date := by
        intro date hdate
        refine hsound.confirmed date ((hsettled date (hselected hdate)).resolve_right ?_)
        rw [not_not]
        have hall : dates.findSome? loading.errors = none := by
          cases hfirst : dates.findSome? loading.errors with
          | none => rfl
          | some code =>
            obtain ⟨date', -, hcode⟩ := List.exists_of_findSome?_eq_some hfirst
            have hne := hsound.errors date' code hcode
            rw [hfirst] at herror
            simp [Option.filter, hne] at herror
        exact List.findSome?_eq_none_iff.1 hall date hdate
      dsimp only
      split_ifs
      · exact agrees_unknown archive now marked _
      · exact agrees_unknown archive now marked _
      · exact agrees_unknown archive now marked _
      · refine ⟨_, rfl, fun state hstate => ?_⟩
        obtain rfl := Option.some.inj hstate
        have hreplay : resolveEventReplay marked now ((dates.filterMap loading.metadata).map
            (overlapping marked.windowFrom (min (marked.windowTo.getD now) now))) =
            resolveEventReplay marked now archive := by
          refine resolveEventReplay_congr hdates fun date hdate => ?_
          rw [byDate_overlapping, byDate_filterMap _ hdate, hmetadata date hdate]
          exact fun date day hday => (hsound.metadata date day hday).2
        dsimp only
        rw [hreplay]
        exact ⟨rfl, rfl, rfl⟩

theorem summarize_agrees (hsound : loading.Sound archive)
    (hsettled : ∀ date ∈ selection.selected, loading.Settled date) (work : ℕ)
    {events marked : List EventRecording} (hfresh : ∀ event ∈ events, event.playback = none)
    (h : List.Forall₂ (Selected selection now) events marked) :
    List.Forall₂ (Agrees archive now) events
      (summarize loading selection.windows now work marked) := by
  induction h generalizing work with
  | nil => exact .nil
  | cons hselected _ ih =>
    refine .cons ?_ (ih _ fun event hevent => hfresh event (List.mem_cons_of_mem _ hevent))
    exact summarizeEvent_agrees hsound hsettled work (hfresh _ List.mem_cons_self) hselected

end Summarize

/-- The events of a page, rows of the event table that have no summary yet. -/
structure EventPage where
  events : List EventRecording
  ids : (events.map EventRecording.eventId).Nodup
  fresh : ∀ event ∈ events, event.playback = none

/-- **The summary of an event is that of its replay from the whole archive**, unless it has no
state. -/
theorem summary_agrees (archive : List DailyRecording) (service : ℕ → Params → Answer)
    (hlists : Lists archive service) (page : EventPage) (now : ℤ) :
    ∃ summarized, addPlaybackSummaries service page.events now = some summarized ∧
      List.Forall₂ (Agrees archive now) page.events summarized := by
  obtain ⟨hlength, hnow⟩ := @selectDates_bounded now page.events {} (by decide) (by simp)
  obtain ⟨loading, hloading, hsound, hsettled⟩ := load_sound hlists hnow hlength
  refine ⟨_, congrArg (Option.map _) hloading, ?_⟩
  exact summarize_agrees hsound hsettled 0 page.fresh (selectDates_selected page.ids)

/-- A service that lists the archive on one page. -/
def onePage (archive : List DailyRecording) : ℕ → Params → Answer := fun _ params =>
  .page ⟨archive.filter fun day => params.fromDate ≤ day.recordingDate ∧
    day.recordingDate < params.toDate, none⟩

theorem lists_onePage (archive : List DailyRecording) : Lists archive (onePage archive) := by
  intro fromDate toDate items h day
  cases h with
  | last hpage _ =>
    cases hpage
    rw [List.mem_filter, decide_eq_true_eq]
  | next hpage hnext _ =>
    cases hpage
    cases hnext

theorem summary_agrees_minute :
    ∃ summarized, addPlaybackSummaries (onePage [tenMinutes]) [minuteEvent]
      (midnight 0 + seconds 900) = some summarized ∧
        (summarized.map fun event => event.playback.bind EventPlaybackSummary.state) =
          [some .partly] ∧
        List.Forall₂ (Agrees [tenMinutes] (midnight 0 + seconds 900)) [minuteEvent] summarized := by
  obtain ⟨summarized, hsummarized, hagrees⟩ :=
    summary_agrees [tenMinutes] (onePage [tenMinutes]) (lists_onePage [tenMinutes])
      ⟨[minuteEvent], by decide, by decide⟩ (midnight 0 + seconds 900)
  refine ⟨summarized, hsummarized, ?_, hagrees⟩
  have hstates : (addPlaybackSummaries (onePage [tenMinutes]) [minuteEvent]
      (midnight 0 + seconds 900)).map (List.map fun event =>
        event.playback.bind EventPlaybackSummary.state) = some [some .partly] := by
    decide +kernel
  rw [show addPlaybackSummaries (onePage [tenMinutes]) [minuteEvent] (midnight 0 + seconds 900) =
    some summarized from hsummarized] at hstates
  exact Option.some.inj hstates

end ScrapMonitoring.Replay
