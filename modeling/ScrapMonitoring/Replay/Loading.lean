import ScrapMonitoring.Replay.Summary

/-!
# What the summaries load is what the archive has

The archive is known through the answers of the media service. `Lists archive service` says that a
listing which comes to its end has the recordings of the dates that were asked for; single requests
may fail or time out. What has been loaded of a date is then what the archive has of it, or the date
has an error (`load_sound`).
-/

namespace ScrapMonitoring.Replay

/-! ## Recordings by date -/

theorem byDate_mem {days : List DailyRecording} {date : ℤ} {day : DailyRecording}
    (h : byDate days date = some day) : day ∈ days ∧ day.recordingDate = date := by
  have hdate := List.find?_some h
  exact ⟨List.mem_reverse.1 (List.mem_of_find?_eq_some h), of_decide_eq_true hdate⟩

theorem byDate_eq_none {days : List DailyRecording} {date : ℤ} :
    byDate days date = none ↔ ∀ day ∈ days, day.recordingDate ≠ date := by
  simp [byDate, List.find?_eq_none]

/-- The recordings of some dates from a dictionary are found under their dates. -/
theorem byDate_filterMap {metadata : ℤ → Option DailyRecording}
    (hmetadata : ∀ date day, metadata date = some day → day.recordingDate = date) {dates : List ℤ}
    {date : ℤ} (hdate : date ∈ dates) : byDate (dates.filterMap metadata) date = metadata date := by
  cases h : byDate (dates.filterMap metadata) date with
  | none =>
    cases hday : metadata date with
    | none => rfl
    | some day =>
      have hmem : day ∈ dates.filterMap metadata := List.mem_filterMap.2 ⟨date, hdate, hday⟩
      exact absurd (hmetadata date day hday) (byDate_eq_none.1 h day hmem)
  | some day =>
    obtain ⟨hmem, rfl⟩ := byDate_mem h
    obtain ⟨date', -, hday⟩ := List.mem_filterMap.1 hmem
    rw [← hday, hmetadata date' day hday]

/-! ## Listings -/

/-- The pages of a listing, from a cursor to the end. -/
inductive Listing (service : ℕ → Params → Answer) (fromDate toDate : ℤ) :
    Option String → List DailyRecording → Prop
  | last {n : ℕ} {cursor : Option String} {page : DailyPage}
      (hpage : service n ⟨fromDate, toDate, 100, cursor⟩ = .page page)
      (hlast : page.nextCursor = none) : Listing service fromDate toDate cursor page.items
  | next {n : ℕ} {cursor : Option String} {page : DailyPage} {c : String}
      {rest : List DailyRecording}
      (hpage : service n ⟨fromDate, toDate, 100, cursor⟩ = .page page)
      (hnext : page.nextCursor = some c) (hrest : Listing service fromDate toDate (some c) rest) :
      Listing service fromDate toDate cursor (page.items ++ rest)

/-- The service lists the recordings of the archive from one date to before another. -/
def Lists (archive : List DailyRecording) (service : ℕ → Params → Answer) : Prop :=
  ∀ fromDate toDate items, Listing service fromDate toDate none items → ∀ day,
    day ∈ items ↔ day ∈ archive ∧ fromDate ≤ day.recordingDate ∧ day.recordingDate < toDate

/-- What is fetched is an answer of the service. -/
def Fetches {σ : Type} (service : ℕ → Params → Answer) (fetch : Fetch σ) : Prop :=
  ∀ params s page s', fetch params s = (.ok page, s') → ∃ n, service n params = .page page

theorem fetches_fetch (service : ℕ → Params → Answer) : Fetches service (fetch service) := by
  intro params usage page usage' h
  unfold fetch at h
  split_ifs at h
  · cases h
  · refine ⟨usage.requests, ?_⟩
    cases hanswer : service usage.requests params with
    | failed error =>
      rw [hanswer] at h
      cases h
    | timedOut =>
      rw [hanswer] at h
      cases h
    | page answer =>
      rw [hanswer] at h
      dsimp only at h
      split_ifs at h
      · cases h
      · cases h
        rfl

theorem addItems_eq {first last : ℤ} {items page items' : List DailyRecording}
    (h : addItems first last items page = some items')
    (hnodup : (items.map DailyRecording.recordingDate).Nodup) :
    items' = items ++ page ∧ (items'.map DailyRecording.recordingDate).Nodup := by
  induction page generalizing items with
  | nil =>
    obtain rfl := Option.some.inj h
    exact ⟨(List.append_nil items).symm, hnodup⟩
  | cons item page ih =>
    unfold addItems at h
    split_ifs at h with hbad
    simp only [not_or, not_not] at hbad
    obtain ⟨-, hdate, -⟩ := hbad
    have hnodup' : ((items ++ [item]).map DailyRecording.recordingDate).Nodup := by
      rw [List.map_append]
      exact hnodup.append (List.nodup_singleton _) (List.disjoint_singleton.2 hdate)
    obtain ⟨rfl, hall⟩ := ih h hnodup'
    exact ⟨List.append_assoc items [item] page, hall⟩

section Listing

variable {σ : Type} {service : ℕ → Params → Answer} {fetch : Fetch σ}

/-- A listing that succeeds has followed the pages to the end, without a date twice. -/
theorem archivePages_ok (hfetch : Fetches service fetch) {first last : ℤ} {fuel : ℕ}
    {cursor : Option String} {items days : List DailyRecording} {cursors : List String} {s s' : σ}
    (h : archivePages fetch first last fuel cursor items cursors s = (.ok days, s'))
    (hnodup : (items.map DailyRecording.recordingDate).Nodup) :
    (∃ rest, Listing service first (last + 1) cursor rest ∧ days = items ++ rest) ∧
      (days.map DailyRecording.recordingDate).Nodup := by
  induction fuel generalizing cursor items cursors s with
  | zero => cases h
  | succ fuel ih =>
    unfold archivePages at h
    rcases hpage : fetch { fromDate := first, toDate := last + 1, cursor := cursor } s with
      ⟨interruption | page, s₁⟩
    · rw [hpage] at h
      cases h
    · rw [hpage] at h
      obtain ⟨n, hanswer⟩ := hfetch _ _ _ _ hpage
      dsimp only at h
      cases hitems : addItems first last items page.items with
      | none =>
        rw [hitems] at h
        cases h
      | some items' =>
        rw [hitems] at h
        obtain ⟨rfl, hall⟩ := addItems_eq hitems hnodup
        dsimp only at h
        cases hcursor : page.nextCursor with
        | none =>
          rw [hcursor] at h
          cases h
          exact ⟨⟨page.items, .last hanswer hcursor, rfl⟩, hall⟩
        | some c =>
          rw [hcursor] at h
          dsimp only at h
          split_ifs at h
          · cases h
          · obtain ⟨⟨rest, hrest, rfl⟩, hdays⟩ := ih h hall
            exact ⟨⟨page.items ++ rest, .next hanswer hcursor hrest, List.append_assoc _ _ _⟩,
              hdays⟩

/-- The recordings of the archive from one date to another, each date once. -/
structure Loaded (archive : List DailyRecording) (first last : ℤ) (days : List DailyRecording) :
    Prop where
  nodup : (days.map DailyRecording.recordingDate).Nodup
  mem : ∀ day, day ∈ days ↔ day ∈ archive ∧ first ≤ day.recordingDate ∧ day.recordingDate ≤ last

/-- Within the dates that were asked for a listing is as good as the archive. -/
theorem Loaded.byDate_eq {archive days : List DailyRecording} {first last date : ℤ}
    (h : Loaded archive first last days) (hfirst : first ≤ date) (hlast : date ≤ last) :
    byDate days date = byDate archive date := by
  cases harchive : byDate archive date with
  | none =>
    refine byDate_eq_none.2 fun day hday => ?_
    exact byDate_eq_none.1 harchive day ((h.mem day).1 hday).1
  | some day =>
    obtain ⟨hmem, rfl⟩ := byDate_mem harchive
    have hday : day ∈ days := (h.mem day).2 ⟨hmem, hfirst, hlast⟩
    cases hfound : byDate days day.recordingDate with
    | none => exact absurd rfl (byDate_eq_none.1 hfound day hday)
    | some found =>
      obtain ⟨hfoundMem, hdate⟩ := byDate_mem hfound
      rw [List.inj_on_of_nodup_map h.nodup hfoundMem hday hdate]

theorem archiveDays_ok {archive : List DailyRecording} (hlists : Lists archive service)
    (hfetch : Fetches service fetch) {start stop now : ℤ} {days : List DailyRecording} {s s' : σ}
    (h : archiveDays fetch start stop now s = (.ok days, s')) (hlt : start < min stop now) :
    Loaded archive (kstDate start) (kstDate (min stop now - 1)) days := by
  unfold archiveDays at h
  dsimp only at h
  rw [if_neg (not_le.2 hlt)] at h
  split_ifs at h
  · cases h
  · obtain ⟨⟨rest, hrest, rfl⟩, hnodup⟩ := archivePages_ok hfetch h List.nodup_nil
    refine ⟨hnodup, fun day => ?_⟩
    rw [hlists _ _ _ hrest day, Int.lt_add_one_iff]

end Listing

/-! ## Groups of consecutive dates -/

/-- The dates from `first` on, `n` more than one. -/
def dateRun (first : ℤ) (n : ℕ) : List ℤ := (List.range (n + 1)).map fun i : ℕ => first + i

theorem dateRun_succ (first : ℤ) (n : ℕ) :
    dateRun first (n + 1) = dateRun first n ++ [first + n + 1] := by
  unfold dateRun
  rw [List.range_succ, List.map_append, List.map_singleton, Nat.cast_succ, add_assoc]

theorem mem_dateRun {first date : ℤ} {n : ℕ} :
    date ∈ dateRun first n ↔ first ≤ date ∧ date ≤ first + n := by
  unfold dateRun
  rw [List.mem_map]
  constructor
  · rintro ⟨i, hi, rfl⟩
    have hlt := List.mem_range.1 hi
    omega
  · rintro ⟨hfirst, hlast⟩
    refine ⟨(date - first).toNat, List.mem_range.2 ?_, ?_⟩ <;> omega

theorem getLast?_dateRun (first : ℤ) (n : ℕ) : (dateRun first n).getLast? = some (first + n) := by
  cases n with
  | zero => rfl
  | succ n =>
    rw [dateRun_succ, List.getLast?_concat, Nat.cast_succ, add_assoc]

theorem headD_dateRun (first : ℤ) (n : ℕ) : (dateRun first n).headD 0 = first := by
  unfold dateRun
  rw [List.range_succ_eq_map, List.map_cons, List.headD_cons, Nat.cast_zero, add_zero]

theorem getLastD_dateRun (first : ℤ) (n : ℕ) : (dateRun first n).getLastD 0 = first + n := by
  rw [List.getLastD_eq_getLast?, getLast?_dateRun, Option.getD_some]

theorem addDate_spec {groups : List (List ℤ)}
    (h : ∀ group ∈ groups, ∃ first n, group = dateRun first n) (day : ℤ) :
    (∀ group ∈ addDate groups day, ∃ first n, group = dateRun first n) ∧
      (addDate groups day).flatten = groups.flatten ++ [day] := by
  unfold addDate
  cases hlast : groups.getLast? with
  | none =>
    obtain rfl := List.getLast?_eq_none_iff.1 hlast
    refine ⟨fun group hgroup => ⟨day, 0, ?_⟩, rfl⟩
    simpa [dateRun] using hgroup
  | some group =>
    have hgroups := List.dropLast_append_getLast? group hlast
    obtain ⟨first, n, rfl⟩ := h group (List.mem_of_getLast? hlast)
    dsimp only
    rw [getLast?_dateRun]
    split_ifs with hnext
    · have hday : day = first + n + 1 := by
        have heq := Option.some.inj hnext
        omega
      rw [hday, ← dateRun_succ]
      constructor
      · intro group hgroup
        rcases List.mem_append.1 hgroup with hmem | hmem
        · exact h group (List.dropLast_subset _ hmem)
        · exact ⟨first, n + 1, List.mem_singleton.1 hmem⟩
      · nth_rewrite 2 [← hgroups]
        simp [dateRun_succ]
    · constructor
      · intro group hgroup
        rcases List.mem_append.1 hgroup with hmem | hmem
        · exact h group hmem
        · refine ⟨day, 0, ?_⟩
          simpa [dateRun] using hmem
      · simp

/-- The groups are runs of consecutive dates, and together the selected dates. -/
theorem dateGroups_spec (selected : List ℤ) :
    (∀ group ∈ dateGroups selected, ∃ first n, group = dateRun first n) ∧
      (dateGroups selected).flatten = sortedBy id selected := by
  have hfold : ∀ (dates : List ℤ) (groups : List (List ℤ)),
      (∀ group ∈ groups, ∃ first n, group = dateRun first n) →
      (∀ group ∈ dates.foldl addDate groups, ∃ first n, group = dateRun first n) ∧
        (dates.foldl addDate groups).flatten = groups.flatten ++ dates := by
    intro dates
    induction dates with
    | nil => exact fun groups h => ⟨h, (List.append_nil _).symm⟩
    | cons day dates ih =>
      intro groups h
      obtain ⟨hruns, hflatten⟩ := addDate_spec h day
      obtain ⟨hall, hdates⟩ := ih _ hruns
      refine ⟨hall, ?_⟩
      rw [List.foldl_cons, hdates, hflatten, List.append_assoc]
      rfl
  exact hfold (sortedBy id selected) [] (by simp)

/-! ## Loading -/

namespace Loading

/-- What has been loaded is of the archive, and of confirmed dates it is all that the archive
has. -/
structure Sound (archive : List DailyRecording) (loading : Loading) : Prop where
  metadata : ∀ date day, loading.metadata date = some day →
    day ∈ archive ∧ day.recordingDate = date
  confirmed : ∀ date ∈ loading.confirmed, loading.metadata date = byDate archive date
  errors : ∀ date code, loading.errors date = some code → code ≠ ""

/-- A date has been confirmed or has an error. -/
def Settled (loading : Loading) (date : ℤ) : Prop :=
  date ∈ loading.confirmed ∨ loading.errors date ≠ none

variable {archive days : List DailyRecording} {loading : Loading} {group : List ℤ}

theorem Sound.confirm (h : loading.Sound archive) {first last : ℤ}
    (hdays : Loaded archive first last days) (hgroup : ∀ date ∈ group, first ≤ date ∧ date ≤ last) :
    (loading.confirm group days).Sound archive where
  metadata := by
    intro date day hday
    rcases Option.or_eq_some_iff.1 hday with hfound | ⟨-, hold⟩
    · obtain ⟨hmem, hdate⟩ := byDate_mem hfound
      exact ⟨((hdays.mem day).1 hmem).1, hdate⟩
    · exact h.metadata date day hold
  confirmed := by
    intro date hdate
    show (byDate days date).or (loading.metadata date) = byDate archive date
    cases hfound : byDate days date with
    | some day =>
      obtain ⟨hmem, hday⟩ := byDate_mem hfound
      obtain ⟨-, hfirst, hlast⟩ := (hdays.mem day).1 hmem
      rw [hday] at hfirst hlast
      rw [← hdays.byDate_eq hfirst hlast, hfound]
      rfl
    | none =>
      rw [Option.none_or]
      rcases List.mem_append.1 hdate with hold | hnew
      · exact h.confirmed date hold
      · obtain ⟨hfirst, hlast⟩ := hgroup date hnew
        rw [← hdays.byDate_eq hfirst hlast, hfound, Option.eq_none_iff_forall_ne_some]
        intro day hday
        obtain ⟨hmem, hdate⟩ := h.metadata date day hday
        rw [hdays.byDate_eq hfirst hlast] at hfound
        exact byDate_eq_none.1 hfound day hmem hdate
  errors := h.errors

theorem Sound.fail (h : loading.Sound archive) (error : MediaServiceError) :
    (loading.fail group error).Sound archive where
  metadata := h.metadata
  confirmed := h.confirmed
  errors := by
    intro date code hcode
    unfold Loading.fail at hcode
    dsimp only at hcode
    split_ifs at hcode
    · obtain rfl := Option.some.inj hcode
      exact error.code_ne
    · exact h.errors date code hcode

theorem Sound.interrupt (h : loading.Sound archive) {selected : List ℤ} {reason : String}
    (hreason : reason ≠ "") : (loading.interrupt selected reason).Sound archive where
  metadata := h.metadata
  confirmed := h.confirmed
  errors := by
    intro date code hcode
    unfold Loading.interrupt at hcode
    dsimp only at hcode
    split_ifs at hcode
    · obtain rfl := Option.some.inj hcode
      exact hreason
    · exact h.errors date code hcode

theorem Settled.confirm {date : ℤ} (h : loading.Settled date ∨ date ∈ group) :
    (loading.confirm group days).Settled date := by
  rcases h with (hconfirmed | herror) | hgroup
  · exact .inl (List.mem_append_left _ hconfirmed)
  · exact .inr herror
  · exact .inl (List.mem_append_right _ hgroup)

theorem Settled.fail {date : ℤ} {error : MediaServiceError}
    (h : loading.Settled date ∨ date ∈ group) : (loading.fail group error).Settled date := by
  by_cases hgroup : date ∈ group
  · refine .inr ?_
    simp [Loading.fail, hgroup]
  · rcases h.resolve_right hgroup with hconfirmed | herror
    · exact .inl hconfirmed
    · refine .inr ?_
      simpa [Loading.fail, hgroup] using herror

theorem settled_interrupt {selected : List ℤ} {reason : String} {date : ℤ}
    (hdate : date ∈ selected) : (loading.interrupt selected reason).Settled date := by
  by_cases hconfirmed : date ∈ loading.confirmed
  · exact .inl hconfirmed
  · refine .inr ?_
    cases herror : loading.errors date <;> simp [Loading.interrupt, hdate, hconfirmed, herror]

end Loading

section Groups

variable {σ : Type} {service : ℕ → Params → Answer} {fetch : Fetch σ}
  {archive : List DailyRecording} {now : ℤ}

/-- Loading a group confirms it, fails for it or is interrupted. -/
theorem loadGroups_sound (hlists : Lists archive service) (hfetch : Fetches service fetch)
    {groups : List (List ℤ)} (hruns : ∀ group ∈ groups, ∃ first n, group = dateRun first n)
    (hnow : ∀ date ∈ groups.flatten, date ≤ kstDate (now - 1)) {loading : Loading} {s : σ}
    (h : loading.Sound archive) :
    (loadGroups fetch now groups loading s).1.Sound archive ∧
      ((loadGroups fetch now groups loading s).2 = none → ∀ date,
        loading.Settled date ∨ date ∈ groups.flatten →
          (loadGroups fetch now groups loading s).1.Settled date) := by
  induction groups generalizing loading s with
  | nil => exact ⟨h, fun _ date hdate => hdate.resolve_right (List.not_mem_nil)⟩
  | cons group groups ih =>
    obtain ⟨first, n, hgroup⟩ := hruns group List.mem_cons_self
    have hruns' : ∀ group ∈ groups, ∃ first n, group = dateRun first n := fun g hg =>
      hruns g (List.mem_cons_of_mem _ hg)
    have hnow' : ∀ date ∈ groups.flatten, date ≤ kstDate (now - 1) := fun date hdate =>
      hnow date (List.mem_append_right _ hdate)
    unfold loadGroups
    rw [hgroup, headD_dateRun, getLastD_dateRun]
    dsimp only
    set stop := midnight (first + n + 1) with hstop
    -- the dates of the group are those that are listed
    have hdates : ∀ date ∈ dateRun first n, first ≤ date ∧ date ≤ kstDate (min stop now - 1) := by
      intro date hdate
      have hpast := le_kstDate_iff.1 (hnow date (List.mem_append_left _ (hgroup ▸ hdate)))
      obtain ⟨hfirst, hlast⟩ := mem_dateRun.1 hdate
      refine ⟨hfirst, le_kstDate_iff.2 ?_⟩
      simp only [midnight, dayLength] at hstop hpast ⊢
      omega
    have hlt : midnight first < min stop now := by
      obtain ⟨-, hlast⟩ := hdates first (mem_dateRun.2 ⟨le_refl _, by omega⟩)
      have hle := le_kstDate_iff.1 hlast
      omega
    rcases hdays : archiveDays fetch (midnight first) stop now s with ⟨interruption | days, s₁⟩
    · cases interruption with
      | media error =>
        dsimp only
        obtain ⟨hsound, hsettled⟩ := @ih hruns' hnow' _ s₁ (h.fail error)
        refine ⟨hsound, fun hnone date hdate => hsettled hnone date ?_⟩
        rw [List.flatten_cons, List.mem_append, ← or_assoc] at hdate
        exact hdate.imp_left Loading.Settled.fail
      | summaryLimit => exact ⟨h, fun hnone => by cases hnone⟩
      | timeout => exact ⟨h, fun hnone => by cases hnone⟩
      | tooManyDates => exact ⟨h, fun hnone => by cases hnone⟩
    · dsimp only
      have hloaded := archiveDays_ok hlists hfetch hdays hlt
      rw [kstDate_midnight] at hloaded
      obtain ⟨hsound, hsettled⟩ := @ih hruns' hnow' _ s₁ (h.confirm hloaded hdates)
      refine ⟨hsound, fun hnone date hdate => hsettled hnone date ?_⟩
      rw [List.flatten_cons, List.mem_append, ← or_assoc] at hdate
      exact hdate.imp_left Loading.Settled.confirm

/-! ## Dates within the limit -/

theorem fetch_ne_tooManyDates (service : ℕ → Params → Answer) (params : Params) (usage : Usage) :
    (Replay.fetch service params usage).1 ≠ .error .tooManyDates := by
  intro h
  unfold Replay.fetch at h
  split_ifs at h
  · cases h
  · cases hanswer : service usage.requests params with
    | failed error =>
      rw [hanswer] at h
      cases h
    | timedOut =>
      rw [hanswer] at h
      cases h
    | page answer =>
      rw [hanswer] at h
      dsimp only at h
      split_ifs at h
      cases h

theorem archivePages_ne_tooManyDates
    (hfetch : ∀ params s, (fetch params s).1 ≠ .error .tooManyDates) {first last : ℤ} {fuel : ℕ}
    {cursor : Option String} {items : List DailyRecording} {cursors : List String} {s : σ} :
    (archivePages fetch first last fuel cursor items cursors s).1 ≠ .error .tooManyDates := by
  induction fuel generalizing cursor items cursors s with
  | zero => exact fun h => by cases h
  | succ fuel ih =>
    have hpage := hfetch { fromDate := first, toDate := last + 1, cursor := cursor } s
    unfold archivePages
    rcases hresult : fetch { fromDate := first, toDate := last + 1, cursor := cursor } s with
      ⟨interruption | page, s₁⟩
    · intro h
      cases h
      exact hpage (congrArg Prod.fst hresult)
    · dsimp only
      cases addItems first last items page.items with
      | none => exact fun h => by cases h
      | some items' =>
        dsimp only
        cases page.nextCursor with
        | none => exact fun h => by cases h
        | some c =>
          dsimp only
          split_ifs
          · exact fun h => by cases h
          · exact ih

theorem length_dateRun (first : ℤ) (n : ℕ) : (dateRun first n).length = n + 1 := by
  rw [dateRun, List.length_map, List.length_range]

/-- A group of no more dates than the limit can be listed. -/
theorem archiveDays_ne_tooManyDates
    (hfetch : ∀ params s, (fetch params s).1 ≠ .error .tooManyDates) {first : ℤ} {n : ℕ} {s : σ}
    (hn : n + 1 ≤ maxDates) :
    (archiveDays fetch (midnight first) (midnight (first + n + 1)) now s).1 ≠
      .error .tooManyDates := by
  unfold archiveDays
  dsimp only
  split_ifs with hempty hmany
  · exact fun h => by cases h
  · have hlast : kstDate (min (midnight (first + n + 1)) now - 1) < first + n + 1 := by
      rw [← not_le, le_kstDate_iff]
      omega
    rw [kstDate_midnight] at hmany
    omega
  · exact archivePages_ne_tooManyDates hfetch

theorem loadGroups_interruption
    (hfetch : ∀ params s, (fetch params s).1 ≠ .error .tooManyDates)
    {groups : List (List ℤ)} (hruns : ∀ group ∈ groups, ∃ first n, group = dateRun first n)
    (hlength : ∀ group ∈ groups, group.length ≤ maxDates) {loading : Loading} {s : σ}
    {interruption : Interruption}
    (h : (loadGroups fetch now groups loading s).2 = some interruption) :
    interruption = .timeout ∨ interruption = .summaryLimit := by
  induction groups generalizing loading s with
  | nil => cases h
  | cons group groups ih =>
    obtain ⟨first, n, rfl⟩ := hruns group List.mem_cons_self
    have hn := hlength _ List.mem_cons_self
    rw [length_dateRun] at hn
    have hmany := @archiveDays_ne_tooManyDates _ _ now hfetch first n s hn
    have hrest : ∀ {loading : Loading} {s : σ},
        (loadGroups fetch now groups loading s).2 = some interruption →
          interruption = .timeout ∨ interruption = .summaryLimit :=
      ih (fun g hg => hruns g (List.mem_cons_of_mem _ hg))
        fun g hg => hlength g (List.mem_cons_of_mem _ hg)
    unfold loadGroups at h
    rw [headD_dateRun, getLastD_dateRun] at h
    dsimp only at h
    rcases hdays : archiveDays fetch (midnight first) (midnight (first + n + 1)) now s with
      ⟨found | days, s₁⟩
    · rw [hdays] at h hmany
      cases found with
      | media error => exact hrest h
      | timeout => exact .inl (Option.some.inj h).symm
      | summaryLimit => exact .inr (Option.some.inj h).symm
      | tooManyDates => exact absurd rfl hmany
    · rw [hdays] at h
      exact hrest h

end Groups

/-- **Of every selected date the archive's recording is known, or there is an error.** -/
theorem load_sound {archive : List DailyRecording} {service : ℕ → Params → Answer}
    (hlists : Lists archive service) {selected : List ℤ} {now : ℤ}
    (hnow : ∀ date ∈ selected, date ≤ kstDate (now - 1)) (hlength : selected.length ≤ maxDates) :
    ∃ loading, load service selected now = some loading ∧ loading.Sound archive ∧
      ∀ date ∈ selected, loading.Settled date := by
  obtain ⟨hruns, hflatten⟩ := dateGroups_spec selected
  have hmem : ∀ date, date ∈ (dateGroups selected).flatten ↔ date ∈ selected := by
    intro date
    rw [hflatten]
    exact mem_sortedBy id selected
  have hshort : ∀ group ∈ dateGroups selected, group.length ≤ maxDates := by
    intro group hgroup
    have hle := (List.sublist_flatten_of_mem hgroup).length_le
    rw [hflatten, (sortedBy_perm id selected).length_eq] at hle
    exact hle.trans hlength
  have hinitial : ({} : Loading).Sound archive := ⟨by simp, by simp, by simp⟩
  obtain ⟨hsound, hsettled⟩ := @loadGroups_sound _ service _ archive now hlists
    (fetches_fetch service) _ hruns (fun date hdate => hnow date ((hmem date).1 hdate)) _
    ({} : Usage) hinitial
  unfold load
  cases hloaded : (loadGroups (fetch service) now (dateGroups selected) {} {}).2 with
  | none =>
    simp only [hloaded]
    exact ⟨_, rfl, hsound, fun date hdate => hsettled hloaded date (.inr ((hmem date).2 hdate))⟩
  | some interruption =>
    simp only [hloaded]
    rcases loadGroups_interruption (fetch_ne_tooManyDates service) hruns hshort hloaded with
      rfl | rfl
    · exact ⟨_, rfl, hsound.interrupt (by decide), fun date => Loading.settled_interrupt⟩
    · exact ⟨_, rfl, hsound.interrupt (by decide), fun date => Loading.settled_interrupt⟩

end ScrapMonitoring.Replay
