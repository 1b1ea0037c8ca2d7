import Mathlib.Tactic.IntervalCases
import ScrapMonitoring.Collection.Outage
import ScrapMonitoring.Events.StablePages

/-!
# Frozen listings do not change

Every step of the service is one or two steps of the store of event lists (`Stepped`), and its
builds are the requests that wait (`Refines.of_run`): what is begun is ended, so the store keeps its
limits in every run, and at most two requests wait at once.

A list is frozen whole or not at all (`freeze_rows`). Its pages are pages of the events that one
selection has read, whatever happens to the database and to the other lists (`stable_pages`).
-/

namespace ScrapMonitoring.Events.Stable

variable {text hash digest : Json → String} {limits : Limits} {codec : Codec}
variable {s s' : State} {op : Op} {out : Answer StablePage} {listing : Listing}

/-! ## Freezing -/

/-- The events that the selection of a build reads. -/
def eventsOf (text hash : Json → String) (listing : Listing) (config : Collection.Configuration)
    (tracker : Option Collection.TrackerRow) (pitConfig : Option Monitoring.PitConfig)
    (store : Store) : List EventRecording :=
  recordings text store (listing.query (activeAt hash listing config tracker pitConfig))

/-- The size that a list of events takes up. -/
def frozenSize (encode : EventRecording → Bytes) (events : List EventRecording) : ℕ :=
  (events.map fun event => (encode event).length + 64).sum

theorem sizeOf_map (encode : EventRecording → Bytes) (events : List EventRecording) :
    sizeOf (events.map encode) = 1024 + frozenSize encode events := by
  unfold sizeOf frozenSize
  rw [List.map_map]
  rfl

/-- The loop ends with all items, or with none. -/
theorem freezeLoop_eq (encode : EventRecording → Bytes) (events : List EventRecording)
    {items : List Bytes} {size : ℕ} (hitems : items.length ≤ maxItems)
    (hsize : size ≤ maxSnapshotBytes) :
    freezeLoop encode events items size =
      if items.length + events.length ≤ maxItems ∧
          size + frozenSize encode events ≤ maxSnapshotBytes then
        some (items ++ events.map encode)
      else none := by
  induction events generalizing items size with
  | nil =>
    rw [freezeLoop, if_pos ⟨hitems, by simpa [frozenSize] using hsize⟩]
    simp
  | cons event rest ih =>
    have hcost : frozenSize encode (event :: rest) =
        (encode event).length + 64 + frozenSize encode rest := by
      simp [frozenSize]
    rw [freezeLoop, hcost, List.length_cons]
    by_cases hfull : maxItems ≤ items.length
    · rw [if_pos hfull, if_neg]
      omega
    · rw [if_neg hfull]
      dsimp only
      by_cases hlarge : maxSnapshotBytes < size + (encode event).length + 64
      · rw [if_pos hlarge, if_neg]
        omega
      · rw [if_neg hlarge, ih (by simp; omega) (by omega)]
        have hiff : (items ++ [encode event]).length + rest.length ≤ maxItems ∧
            size + (encode event).length + 64 + frozenSize encode rest ≤ maxSnapshotBytes ↔
              items.length + (rest.length + 1) ≤ maxItems ∧
            size + ((encode event).length + 64 + frozenSize encode rest) ≤ maxSnapshotBytes := by
          simp only [List.length_append, List.length_singleton]
          omega
        rw [if_congr hiff rfl rfl]
        simp

/-- **The events of a listing are frozen whole or not at all.** -/
theorem freeze_rows {config : Collection.Configuration} {tracker : Option Collection.TrackerRow}
    {pitConfig : Option Monitoring.PitConfig} {store : Store} {items : List Bytes}
    (h : freeze (α := StablePage) text hash codec.encode listing
      (.rows config tracker pitConfig store) = .ok items) :
    items = (eventsOf text hash listing config tracker pitConfig store).map codec.encode ∧
      (eventsOf text hash listing config tracker pitConfig store).length ≤ maxItems ∧
      sizeOf items ≤ maxSnapshotBytes := by
  have hselected : selected text hash listing config tracker pitConfig store =
      (eventsOf text hash listing config tracker pitConfig store).take (maxItems + 1) := by
    unfold selected eventsOf recordings
    rw [← List.map_take]
    rfl
  have hbytes : 1024 ≤ maxSnapshotBytes := by decide
  unfold freeze at h
  dsimp only at h
  rw [freezeLoop_eq codec.encode _ (Nat.zero_le _) hbytes, hselected] at h
  split_ifs at h with hfits
  · obtain ⟨hlength, hsize⟩ := hfits
    rw [List.length_nil, List.length_take] at hlength
    have hle : (eventsOf text hash listing config tracker pitConfig store).length ≤ maxItems := by
      omega
    rw [List.take_of_length_le (by omega)] at h hsize
    obtain rfl := Except.ok.inj h
    refine ⟨rfl, hle, ?_⟩
    rw [List.nil_append, sizeOf_map]
    exact hsize

/-! ## What a step does -/

/-- The answer is no page. -/
def Refuses (out : Answer StablePage) : Prop := ∀ page, out ≠ .page page

/-- The steps of the service, over those of the store. -/
inductive Stepped (text hash digest : Json → String) (limits : Limits) (codec : Codec) (s : State) :
    Op → State → Answer StablePage → Prop
  | refused {r : PageRequest} {settings : Settings} {clock : ℚ} {now : Datetime}
      {out : Answer StablePage} (hout : Refuses out) :
      Stepped text hash digest limits codec s (.request r settings clock now) s out
  | began {r : PageRequest} {settings : Settings} {clock : ℚ} {now : Datetime} {build : Build}
      (hbuilds : ¬2 ≤ s.store.builds) :
      Stepped text hash digest limits codec s (.request r settings clock now)
        ⟨{ s.store with builds := s.store.builds + 1 }, s.pending ++ [build]⟩ .waiting
  | got {r : PageRequest} {settings : Settings} {clock : ℚ} {now : Datetime} {token : String}
      {store : EventPageStore} {value : Events.Out} {out : Answer StablePage}
      (htoken : r.token = some token) (hget : get s.store clock token r.owner = some (store, value))
      (hout : Refuses out ∨ ∃ saved scope, value = .value saved ∧
        playbackScope settings.playback r.pitId = .ok scope ∧
        sameQuery saved.context (digest (settings.bound scope.1 scope.2)) r = .ok () ∧
        out = servePage codec.decode saved r.page) :
      Stepped text hash digest limits codec s (.request r settings clock now)
        { s with store := store } out
  | ended {i : ℕ} {reading : Reading} {clock clock' : ℚ} {drawn : List String} {now : ℤ}
      {build : Build} {out : Answer StablePage} (hbuild : s.pending[i]? = some build)
      (hout : Refuses out) :
      Stepped text hash digest limits codec s (.reply i reading clock clock' drawn now)
        ⟨endBuild s.store, s.pending.eraseIdx i⟩ out
  | put {i : ℕ} {config : Collection.Configuration} {tracker : Option Collection.TrackerRow}
      {pitConfig : Option Monitoring.PitConfig} {rows : Store} {clock clock' : ℚ}
      {drawn : List String} {now : ℤ} {build : Build} {items : List Bytes} {store : EventPageStore}
      {value : Events.Out} {out : Answer StablePage} (hbuild : s.pending[i]? = some build)
      (hfreeze : freeze (α := StablePage) text hash codec.encode build.listing
        (.rows config tracker pitConfig rows) = .ok items)
      (hput : Events.put limits s.store clock clock' drawn build.owner build.listing.context items
        now = some (store, value))
      (hout : (Refuses out ∧ ∀ saved, value ≠ .value saved) ∨ ∃ saved, value = .value saved ∧
        out = servePage codec.decode saved 1) :
      Stepped text hash digest limits codec s
        (.reply i (.rows config tracker pitConfig rows) clock clock' drawn now)
        ⟨endBuild store, s.pending.eraseIdx i⟩ out

theorem refuses_raised (error : ApiError) : Refuses (.raised error) := by
  intro page h
  cases h

theorem refuses_failed : Refuses .failed := by
  intro page h
  cases h

/-- An error of the database is answered as such, or is not answered. -/
theorem freeze_error {reading : Reading} {answer : Answer StablePage}
    (h : freeze text hash codec.encode listing reading = .error answer) : Refuses answer := by
  cases reading with
  | rows config tracker pitConfig store =>
    unfold freeze at h
    dsimp only at h
    split at h
    · obtain rfl := Except.error.inj h
      exact refuses_raised _
    · cases h
  | timeout =>
    obtain rfl := Except.error.inj h
    exact refuses_raised _
  | sqlError sqlstate =>
    obtain rfl := Except.error.inj h
    exact refuses_raised _
  | interrupted =>
    obtain rfl := Except.error.inj h
    exact refuses_failed

/-- Only rows are frozen. -/
theorem freeze_ok {reading : Reading} {items : List Bytes}
    (h : freeze (α := StablePage) text hash codec.encode listing reading = .ok items) :
    ∃ config tracker pitConfig store, reading = .rows config tracker pitConfig store := by
  cases reading with
  | rows config tracker pitConfig store => exact ⟨config, tracker, pitConfig, store, rfl⟩
  | timeout => cases h
  | sqlError sqlstate => cases h
  | interrupted => cases h

theorem stepped_request {r : PageRequest} {settings : Settings} {clock : ℚ} {now : Datetime}
    (h : request digest codec s r settings clock now = some (s', out)) :
    Stepped text hash digest limits codec s (.request r settings clock now) s' out := by
  unfold request at h
  split at h
  · simp only [Option.some.injEq, Prod.mk.injEq] at h
    obtain ⟨rfl, rfl⟩ := h
    exact .refused (refuses_raised _)
  · split at h
    · simp only [Option.some.injEq, Prod.mk.injEq] at h
      obtain ⟨rfl, rfl⟩ := h
      exact .refused (refuses_raised _)
    · rename_i pit source hscope
      unfold serve at h
      split at h
      · rename_i token htoken
        split at h
        · cases h
        · rename_i store saved hget
          split at h
          · simp only [Option.some.injEq, Prod.mk.injEq] at h
            obtain ⟨rfl, rfl⟩ := h
            exact .got htoken hget (.inl (refuses_raised _))
          · rename_i hsame
            simp only [Option.some.injEq, Prod.mk.injEq] at h
            obtain ⟨rfl, rfl⟩ := h
            exact .got htoken hget (.inr ⟨saved, _, rfl, hscope, hsame, rfl⟩)
        · rename_i hget
          simp only [Option.some.injEq, Prod.mk.injEq] at h
          obtain ⟨rfl, rfl⟩ := h
          exact .got htoken hget (.inl (refuses_raised _))
        · rename_i hget
          simp only [Option.some.injEq, Prod.mk.injEq] at h
          obtain ⟨rfl, rfl⟩ := h
          exact .got htoken hget (.inl refuses_failed)
      · split at h
        · simp only [Option.some.injEq, Prod.mk.injEq] at h
          obtain ⟨rfl, rfl⟩ := h
          exact .refused (refuses_raised _)
        · split_ifs at h with hbuilds
          · simp only [Option.some.injEq, Prod.mk.injEq] at h
            obtain ⟨rfl, rfl⟩ := h
            exact .refused (refuses_raised _)
          · simp only [Option.some.injEq, Prod.mk.injEq] at h
            obtain ⟨rfl, rfl⟩ := h
            exact .began hbuilds

theorem stepped_reply {i : ℕ} {reading : Reading} {clock clock' : ℚ} {drawn : List String} {now : ℤ}
    (h : reply text hash limits codec s i reading clock clock' drawn now = some (s', out)) :
    Stepped text hash digest limits codec s (.reply i reading clock clock' drawn now) s' out := by
  unfold reply at h
  split at h
  · cases h
  · rename_i build hbuild
    split at h
    · rename_i answer hfreeze
      simp only [Option.some.injEq, Prod.mk.injEq] at h
      obtain ⟨rfl, rfl⟩ := h
      exact .ended hbuild (freeze_error hfreeze)
    · rename_i items hfreeze
      obtain ⟨config, tracker, pitConfig, store, rfl⟩ := freeze_ok hfreeze
      split at h
      · cases h
      · rename_i saved hput
        simp only [Option.some.injEq, Prod.mk.injEq] at h
        obtain ⟨rfl, rfl⟩ := h
        exact .put hbuild hfreeze hput (.inr ⟨saved, rfl, rfl⟩)
      · rename_i hput
        simp only [Option.some.injEq, Prod.mk.injEq] at h
        obtain ⟨rfl, rfl⟩ := h
        exact .put hbuild hfreeze hput (.inl ⟨refuses_raised _, fun _ h => by cases h⟩)
      · rename_i hput
        simp only [Option.some.injEq, Prod.mk.injEq] at h
        obtain ⟨rfl, rfl⟩ := h
        exact .put hbuild hfreeze hput (.inl ⟨refuses_failed, fun _ h => by cases h⟩)

/-- **What a step does.** -/
theorem stepped (h : step text hash digest limits codec s op = some (s', out)) :
    Stepped text hash digest limits codec s op s' out := by
  cases op with
  | request r settings clock now => exact stepped_request h
  | reply i reading clock clock' drawn now => exact stepped_reply h

/-! ## Builds are requests that wait -/

abbrev Step := Entry State Op (Answer StablePage)

/-- The steps are those of the store of the service, and its builds are the requests that wait. -/
structure Refines (limits : Limits) (s : State) (steps : List Events.Step) : Prop where
  run : Run (Events.step limits) {} steps s.store
  matched : Matched steps
  builds : s.store.builds = s.pending.length

theorem matched_snoc {steps : List Events.Step} {e : Events.Step} (h : Matched steps)
    (he : ends e = true → steps.countP ends < steps.countP begins) : Matched (steps ++ [e]) := by
  intro before f after hes hf
  cases after using List.reverseRecOn with
  | nil =>
    obtain ⟨rfl, hlast⟩ := List.append_inj' hes rfl
    obtain rfl := List.singleton_inj.1 hlast
    exact he hf
  | append_singleton after g =>
    rw [← List.cons_append, ← List.append_assoc] at hes
    obtain ⟨rfl, -⟩ := List.append_inj' hes rfl
    exact h before f after rfl hf

theorem put_builds {store store' : EventPageStore} {value : Events.Out} {clock clock' : ℚ}
    {drawn : List String} {owner : String} {context : PageContext} {items : List Bytes} {now : ℤ}
    (hwithin : Within limits store)
    (h : Events.put limits store clock clock' drawn owner context items now =
      some (store', value)) :
    store'.builds = store.builds := by
  rcases put_spec clock clock' drawn owner context items now hwithin with
    ⟨-, store'', hput, hshrinks, -⟩ | ⟨room, hshrinks, -, hput⟩
  · rw [hput] at h
    simp only [Option.some.injEq, Prod.mk.injEq] at h
    rw [← h.1]
    exact hshrinks.builds
  · rw [hput] at h
    obtain ⟨token, -, hresult⟩ := Option.map_eq_some_iff.1 h
    simp only [Prod.mk.injEq] at hresult
    rw [← hresult.1]
    exact hshrinks.builds

/-- A request that waited has been counted. -/
theorem Refines.counted {steps : List Events.Step} (h : Refines limits s steps) {i : ℕ}
    {build : Build} (hbuild : s.pending[i]? = some build) :
    steps.countP ends < steps.countP begins := by
  obtain ⟨hlt, -⟩ := List.getElem?_eq_some_iff.1 hbuild
  have hbuilds := (sound_of_run h.run).builds_eq
  rw [h.builds] at hbuilds
  omega

/-- The end of a build is a step of the store. -/
theorem Refines.ends {steps : List Events.Step} (h : Refines limits s steps) {i : ℕ} {build : Build}
    (hbuild : s.pending[i]? = some build) :
    Refines limits ⟨endBuild s.store, s.pending.eraseIdx i⟩
      (steps ++ [⟨s.store, .endBuild, .none, endBuild s.store⟩]) where
  run := h.run.snoc rfl
  matched := matched_snoc h.matched fun _ => h.counted hbuild
  builds := by
    obtain ⟨hlt, -⟩ := List.getElem?_eq_some_iff.1 hbuild
    have hbuilds := h.builds
    rw [List.length_eraseIdx_of_lt hlt]
    dsimp only [endBuild]
    omega

/-- **Each step of the service is made of steps of the store.** -/
theorem Refines.stepped {steps : List Events.Step} (h : Refines limits s steps)
    (hs : Stepped text hash digest limits codec s op s' out) :
    ∃ steps', Refines limits s' (steps ++ steps') := by
  have hwithin := (sound_of_run h.run).within
  cases hs with
  | refused hout => exact ⟨[], by simpa using h⟩
  | began hbuilds =>
    refine ⟨[⟨s.store, .beginBuild, .none, { s.store with builds := s.store.builds + 1 }⟩], ?_, ?_,
      ?_⟩
    · refine h.run.snoc ?_
      rw [Events.step, if_neg hbuilds]
    · exact matched_snoc h.matched fun hends => by cases hends
    · have := h.builds
      simp only [List.length_append, List.length_singleton, Nat.cast_add, Nat.cast_one]
      omega
  | @got r settings clock now token store value out htoken hget hout =>
    refine ⟨[⟨s.store, .get clock token r.owner, value, store⟩], h.run.snoc hget,
      matched_snoc h.matched (fun hends => by cases hends), ?_⟩
    obtain ⟨store', out', hget', hshrinks, -⟩ := get_spec clock token r.owner hwithin
    rw [hget] at hget'
    simp only [Option.some.injEq, Prod.mk.injEq] at hget'
    obtain ⟨rfl, -⟩ := hget'
    exact hshrinks.builds.trans h.builds
  | ended hbuild hout => exact ⟨_, h.ends hbuild⟩
  | @put i config tracker pitConfig rows clock clock' drawn now build items store value out hbuild
      hfreeze hput hout =>
    have hstored : Refines limits { s with store := store } (steps ++ [⟨s.store, .put clock clock'
        drawn build.owner build.listing.context items now, value, store⟩]) :=
      ⟨h.run.snoc hput, matched_snoc h.matched (fun hends => by cases hends),
        (put_builds hwithin hput).trans h.builds⟩
    have hends := hstored.ends hbuild
    rw [List.append_assoc] at hends
    exact ⟨_, hends⟩

/-- The service refines the store, with its ends matched. -/
theorem Refines.of_run {es : List Step} (hrun : Run (step text hash digest limits codec) {} es s) :
    ∃ steps, Refines limits s steps := by
  induction hrun with
  | nil => exact ⟨[], .nil, fun before e after hes => by simp at hes, rfl⟩
  | snoc _ hs ih =>
    obtain ⟨steps, h⟩ := ih
    obtain ⟨steps', h'⟩ := h.stepped (Stable.stepped hs)
    exact ⟨_, h'⟩

/-- A request is always taken, and so is the answer to one that waits. -/
theorem Refines.steps {steps : List Events.Step} (h : Refines limits s steps)
    (text hash digest : Json → String) (codec : Codec) :
    (∀ r settings clock now, ∃ s' out, step text hash digest limits codec s
      (.request r settings clock now) = some (s', out)) ∧
    ∀ i reading clock clock' drawn now, i < s.pending.length →
      (∃ token ∈ drawn, token ∉ s.store.tokens) →
      ∃ s' out, step text hash digest limits codec s (.reply i reading clock clock' drawn now) =
        some (s', out) := by
  have hsound := sound_of_run h.run
  constructor
  · intro r settings clock now
    unfold step
    dsimp only
    unfold request
    split
    · exact ⟨_, _, rfl⟩
    · split
      · exact ⟨_, _, rfl⟩
      · unfold serve
        split
        · rename_i token htoken
          obtain ⟨store, value, hget, -⟩ := get_spec clock token r.owner hsound.within
          rw [hget]
          cases value with
          | none => exact ⟨_, _, rfl⟩
          | value saved =>
            dsimp only
            split
            · exact ⟨_, _, rfl⟩
            · exact ⟨_, _, rfl⟩
          | raised status detail => exact ⟨_, _, rfl⟩
        · split
          · exact ⟨_, _, rfl⟩
          · split_ifs
            · exact ⟨_, _, rfl⟩
            · exact ⟨_, _, rfl⟩
  · intro i reading clock clock' drawn now hi hdraws
    unfold step
    dsimp only
    unfold reply
    rw [List.getElem?_eq_getElem hi]
    dsimp only
    split
    · exact ⟨_, _, rfl⟩
    · rename_i items hfreeze
      have hput : ∃ store value, Events.step limits s.store (.put clock clock' drawn
          s.pending[i].owner s.pending[i].listing.context items now) = some (store, value) :=
        hsound.steps hdraws
      obtain ⟨store, value, hput⟩ := hput
      change put limits s.store clock clock' drawn s.pending[i].owner
        s.pending[i].listing.context items now = some (store, value) at hput
      rw [hput]
      cases value with
      | none => exact ⟨_, _, rfl⟩
      | value saved => exact ⟨_, _, rfl⟩
      | raised status detail => exact ⟨_, _, rfl⟩

/-- **In every run the service keeps the limits of its store**, and at most two of its requests
wait: whatever comes of a build, it is ended, and no step takes a list from where there is none. -/
theorem service_within_limits {es : List Step}
    (hrun : Run (step text hash digest limits codec) {} es s) :
    (∃ steps, Run (Events.step limits) {} steps s.store ∧ Matched steps) ∧
    s.store.builds = s.pending.length ∧ s.pending.length ≤ 2 ∧
    s.store.size = EventPageStore.bytes s.store.entries ∧ s.store.size ≤ limits.maxBytes ∧
    s.store.entries.length ≤ limits.maxEntries ∧
    (∀ owner, (s.store.owned owner).length ≤ limits.maxOwnerEntries) ∧
    (∀ r settings clock now, ∃ s' out, step text hash digest limits codec s
      (.request r settings clock now) = some (s', out)) ∧
    ∀ i reading clock clock' drawn now, i < s.pending.length →
      (∃ token ∈ drawn, token ∉ s.store.tokens) →
      ∃ s' out, step text hash digest limits codec s (.reply i reading clock clock' drawn now) =
        some (s', out) := by
  obtain ⟨steps, h⟩ := Refines.of_run hrun
  have hsound := sound_of_run h.run
  have hbuilds := hsound.builds_le
  rw [h.builds] at hbuilds
  obtain ⟨hrequest, hreply⟩ := h.steps text hash digest codec
  exact ⟨⟨steps, h.run, h.matched⟩, h.builds, by exact_mod_cast hbuilds, hsound.within.counted.size,
    hsound.within.bytes_le, hsound.within.entries_le, hsound.within.owned_le, hrequest, hreply⟩

/-! ## Pages -/

/-- The list that a step has frozen, which stands last. -/
def frozenList (e : Step) : Option FrozenEventList :=
  match e.op, e.out with
  | .reply .., .page _ => e.post.store.entries.getLast?
  | _, _ => none

/-- The events that a step reads to be frozen. -/
def readEvents (text hash : Json → String) (e : Step) : List EventRecording :=
  match e.op with
  | .reply i (.rows config tracker pitConfig store) _ _ _ _ =>
    match e.pre.pending[i]? with
    | some build => eventsOf text hash build.listing config tracker pitConfig store
    | none => []
  | _ => []

/-- A step has frozen the events of the listing for the owner, under the token. -/
def Froze (text hash : Json → String) (e : Step) (owner token : String) (listing : Listing)
    (events : List EventRecording) : Prop :=
  ∃ i config tracker pitConfig store clock clock' drawn now page,
    e.op = .reply i (.rows config tracker pitConfig store) clock clock' drawn now ∧
    e.pre.pending[i]? = some ⟨owner, listing⟩ ∧
    events = eventsOf text hash listing config tracker pitConfig store ∧
    e.out = .page page ∧ page.snapshotToken = token

/-- A step has frozen a list under the token. -/
def Issues (token : String) (e : Step) : Prop :=
  ∃ value, frozenList e = some value ∧ value.token = token

/-- The answer is a page of the events of the listing. -/
structure IsPage (listing : Listing) (events : List EventRecording) (answer : StablePage) :
    Prop where
  items : answer.items = pageOf listing.pageSize answer.page events
  pageSize : answer.pageSize = listing.pageSize
  totalItems : answer.totalItems = events.length
  totalPages : answer.totalPages = totalPages events.length listing.pageSize
  fromTime : answer.fromTime = listing.lower.1
  toTime : answer.toTime = listing.upper.1
  asOf : answer.asOf = listing.now.1

/-- The list holds the events of the listing. -/
structure Holds (encode : EventRecording → Bytes) (value : FrozenEventList) (listing : Listing)
    (events : List EventRecording) : Prop where
  context : value.context = listing.context
  items : value.items = events.map encode

/-- **A page of a list of events is a page of the events.** -/
theorem Holds.servePage {value : FrozenEventList} {events : List EventRecording}
    (h : Holds codec.encode value listing events)
    (hcodec : ∀ event ∈ events, codec.decode (codec.encode event) = some event) (page : ℕ) :
    ∃ answer, servePage codec.decode value page = .page answer ∧ IsPage listing events answer ∧
      answer.page = page ∧ answer.snapshotToken = value.token := by
  have hitems : ((value.items.drop ((page - 1) * value.context.pageSize)).take
      value.context.pageSize).mapM codec.decode = some (pageOf listing.pageSize page events) := by
    rw [h.items, h.context, ← List.map_drop, ← List.map_take, List.mapM_map, pageOf_eq]
    have hid := mapM_eq_some (f := fun event => codec.decode (codec.encode event)) (g := id)
      (l := (events.drop ((page - 1) * listing.pageSize)).take listing.pageSize)
      fun event hevent => hcodec event (List.mem_of_mem_drop (List.mem_of_mem_take hevent))
    rw [List.map_id] at hid
    exact hid
  unfold Stable.servePage
  dsimp only
  rw [hitems]
  refine ⟨_, rfl, ⟨rfl, ?_, ?_, ?_, ?_, ?_, ?_⟩, rfl, rfl⟩
  · rw [h.context]
    rfl
  · rw [h.items, List.length_map]
  · rw [h.items, List.length_map, h.context]
    rfl
  · rw [h.context]
    rfl
  · rw [h.context]
    rfl
  · rw [h.context]
    rfl

/-- A step that puts no list takes lists out; if it answers with a page, it is a request. -/
structure TakesOut (e : Step) : Prop where
  frozen : frozenList e = none
  entries : e.post.store.entries.Sublist e.pre.store.entries
  page : ∀ page, e.out = .page page → ∃ r settings clock now, e.op = .request r settings clock now

/-- A step that puts a list has frozen it and answers with its first page. -/
structure PutsList (text hash : Json → String) (codec : Codec) (e : Step) (value : FrozenEventList)
    (room : List FrozenEventList) (listing : Listing) (events : List EventRecording) : Prop where
  frozen : frozenList e = some value
  entries : e.post.store.entries = room ++ [value]
  kept : room.Sublist e.pre.store.entries
  fresh : value.token ∉ room.map FrozenEventList.token
  froze : Froze text hash e value.owner value.token listing events
  holds : Holds codec.encode value listing events
  length : events.length ≤ maxItems
  out : e.out = servePage codec.decode value 1

theorem frozenList_of_refuses {e : Step} (h : Refuses e.out) : frozenList e = none := by
  obtain ⟨pre, op, out, post⟩ := e
  unfold frozenList
  cases out with
  | page page => exact absurd rfl (h page)
  | raised error => cases op <;> rfl
  | waiting => cases op <;> rfl
  | failed => cases op <;> rfl

/-- A reply to a build whose rows are frozen puts a list, unless it is too large for the store. -/
theorem reply_puts {i : ℕ} {config : Collection.Configuration}
    {tracker : Option Collection.TrackerRow} {pitConfig : Option Monitoring.PitConfig}
    {rows : Store}
    {clock clock' : ℚ} {drawn : List String} {now : ℤ} {build : Build} {items : List Bytes}
    {store : EventPageStore} {value : Events.Out} (hwithin : Within limits s.store)
    (hcodec : ∀ event ∈ eventsOf text hash build.listing config tracker pitConfig rows,
      codec.decode (codec.encode event) = some event)
    (hbuild : s.pending[i]? = some build)
    (hfreeze : freeze (α := StablePage) text hash codec.encode build.listing
      (.rows config tracker pitConfig rows) = .ok items)
    (hput : put limits s.store clock clock' drawn build.owner build.listing.context items now =
      some (store, value))
    (hout : (Refuses out ∧ ∀ saved, value ≠ .value saved) ∨
      ∃ saved, value = .value saved ∧ out = servePage codec.decode saved 1) :
    let e : Step := ⟨s, .reply i (.rows config tracker pitConfig rows) clock clock' drawn now, out,
      ⟨endBuild store, s.pending.eraseIdx i⟩⟩
    TakesOut e ∨
      ∃ value room listing events, PutsList text hash codec e value room listing events := by
  intro e
  obtain ⟨hitems, hlength, -⟩ := freeze_rows hfreeze
  rcases put_spec clock clock' drawn build.owner build.listing.context items now hwithin with
    ⟨-, store', hlarge, hshrinks, -⟩ | ⟨room, hshrinks, -, hroom⟩
  · rw [hlarge] at hput
    simp only [Option.some.injEq, Prod.mk.injEq] at hput
    obtain ⟨rfl, rfl⟩ := hput
    rcases hout with ⟨hrefuses, -⟩ | ⟨saved, hsaved, -⟩
    · exact .inl ⟨frozenList_of_refuses hrefuses, hshrinks.entries,
        fun page hpage => absurd hpage (hrefuses page)⟩
    · cases hsaved
  · rw [hroom] at hput
    obtain ⟨token, hfind, hresult⟩ := Option.map_eq_some_iff.1 hput
    simp only [Prod.mk.injEq] at hresult
    obtain ⟨rfl, rfl⟩ := hresult
    rcases hout with ⟨-, hno⟩ | ⟨saved, hsaved, rfl⟩
    · exact absurd rfl (hno _)
    · obtain rfl := Out.value.inj hsaved
      have hholds : Holds codec.encode
          (frozen limits clock' token build.owner build.listing.context items now) build.listing
          (eventsOf text hash build.listing config tracker pitConfig rows) := ⟨rfl, hitems⟩
      obtain ⟨answer, hanswer, -, -, htoken⟩ := hholds.servePage hcodec 1
      have hlist : frozenList e =
          some (frozen limits clock' token build.owner build.listing.context items now) := by
        unfold frozenList
        dsimp only [e]
        rw [hanswer]
        dsimp only [endBuild]
        rw [List.getLast?_concat]
      refine .inr ⟨_, room.entries, build.listing, _, hlist, rfl, hshrinks.entries, ?_,
        ⟨i, config, tracker, pitConfig, rows, clock, clock', drawn, now, answer, rfl, hbuild, rfl,
          hanswer, htoken⟩, hholds, hlength, rfl⟩
      have hfresh := List.find?_some hfind
      exact of_decide_eq_true hfresh

/-- **A step puts a list or takes lists out.** -/
theorem takesOut_or_putsList {e : Step} (hwithin : Within limits e.pre.store)
    (hcodec : ∀ event ∈ readEvents text hash e, codec.decode (codec.encode event) = some event)
    (hs : Stepped text hash digest limits codec e.pre e.op e.post e.out) :
    TakesOut e ∨
      ∃ value room listing events, PutsList text hash codec e value room listing events := by
  obtain ⟨pre, op, out, post⟩ := e
  dsimp only at hs hwithin
  cases hs with
  | refused hout =>
    exact .inl ⟨frozenList_of_refuses hout, List.Sublist.refl _, fun _ _ => ⟨_, _, _, _, rfl⟩⟩
  | began hbuilds => exact .inl ⟨rfl, List.Sublist.refl _, fun _ _ => ⟨_, _, _, _, rfl⟩⟩
  | @got r settings clock now token store value out htoken hget hout =>
    obtain ⟨store', out', hget', hshrinks, -⟩ := get_spec clock token r.owner hwithin
    rw [hget] at hget'
    simp only [Option.some.injEq, Prod.mk.injEq] at hget'
    obtain ⟨rfl, -⟩ := hget'
    exact .inl ⟨rfl, hshrinks.entries, fun _ _ => ⟨_, _, _, _, rfl⟩⟩
  | ended hbuild hout =>
    exact .inl ⟨frozenList_of_refuses hout, List.Sublist.refl _,
      fun page hpage => absurd hpage (hout page)⟩
  | put hbuild hfreeze hput hout =>
    refine reply_puts hwithin (fun event hevent => hcodec event ?_) hbuild hfreeze hput hout
    unfold readEvents
    dsimp only
    rw [hbuild]
    exact hevent

section

variable {es : List Step} {e : Step}

/-- What has been frozen can be read back. -/
def Decodes (text hash : Json → String) (codec : Codec) (es : List Step) : Prop :=
  ∀ e ∈ es, ∀ event ∈ readEvents text hash e, codec.decode (codec.encode event) = some event

theorem within_of_run (hrun : Run (step text hash digest limits codec) {} es s) :
    Within limits s.store := by
  obtain ⟨steps, h⟩ := Refines.of_run hrun
  exact (sound_of_run h.run).within

/-- A list of the store has been frozen, and no list has been frozen under its token since. -/
theorem since_of_run (hrun : Run (step text hash digest limits codec) {} es s)
    (hcodec : Decodes text hash codec es) :
    ∀ value ∈ s.store.entries, Since frozenList (Issues value.token) value es := by
  induction hrun with
  | nil =>
    intro value hvalue
    cases hvalue
  | @snoc es s s' op out hrun hs ih =>
    have hbefore : Decodes text hash codec es :=
      fun e he => hcodec e (List.mem_append_left _ he)
    have hlast := takesOut_or_putsList (e := ⟨s, op, out, s'⟩) (within_of_run hrun)
      (hcodec _ (by simp)) (stepped hs)
    intro value hvalue
    rcases hlast with ⟨hnone, hsub, -⟩ | ⟨new, room, listing, events, hputs⟩
    · refine (ih hbefore value (hsub.mem hvalue)).extend ?_
      rintro ⟨other, hother, -⟩
      rw [hnone] at hother
      cases hother
    · rw [hputs.entries] at hvalue
      rcases List.mem_append.1 hvalue with hvalue | hvalue
      · refine (ih hbefore value (hputs.kept.mem hvalue)).extend ?_
        rintro ⟨other, hother, htoken⟩
        rw [hputs.frozen] at hother
        obtain rfl := Option.some.inj hother
        exact hputs.fresh (List.mem_map.2 ⟨value, hvalue, htoken.symm⟩)
      · rw [List.mem_singleton.1 hvalue]
        exact Since.start es hputs.frozen

/-- What a request with a token has in common with the list that it is answered from. -/
structure Asks (digest : Json → String) (r : PageRequest) (settings : Settings) (owner : String)
    (listing : Listing) (answer : StablePage) : Prop where
  owner : r.owner = owner
  token : r.token = some answer.snapshotToken
  page : r.page = answer.page
  category : r.category = listing.category
  pageSize : r.pageSize = listing.pageSize
  context : r.before = listing.before ∧ r.after = listing.after
  fromTime : ∀ value ∈ r.fromTime, value = listing.lower.1
  toTime : ∀ value ∈ r.toTime, value = listing.upper.1
  binding : ∃ scope, playbackScope settings.playback r.pitId = .ok scope ∧
    digest (settings.bound scope.1 scope.2) = listing.binding

theorem sameTime_succeeds (expected : ℤ) (given : Option ℤ) :
    Succeeds (sameTime expected given)
      (∀ value ∈ given, (datetimeMin ≤ value ∧ value ≤ datetimeMax) ∧ value = expected) () := by
  cases given with
  | none => exact (Succeeds.pure ()).congr (by simp)
  | some value =>
    unfold sameTime utc
    dsimp only
    by_cases hrange : datetimeMin ≤ value ∧ value ≤ datetimeMax
    · rw [dif_pos hrange]
      exact (Succeeds.ite () queryChanged).congr (by simp [hrange])
    · rw [dif_neg hrange]
      exact Succeeds.error _ () fun h => hrange (h value rfl).1

theorem name_injective : Function.Injective EventCategory.name := by
  intro c c' h
  cases c <;> cases c' <;> first | rfl | simp [EventCategory.name] at h

/-- A request that is answered asks for the list as it was frozen. -/
theorem sameQuery_ok {ctx : PageContext} {binding : String} {r : PageRequest}
    (h : sameQuery ctx binding r = .ok ()) :
    ctx.binding = binding ∧ r.category.name = ctx.category ∧ r.pageSize = ctx.pageSize ∧
      r.before = ctx.before ∧ r.after = ctx.after ∧ (∀ value ∈ r.fromTime, value = ctx.lower) ∧
      ∀ value ∈ r.toTime, value = ctx.upper := by
  have hspec := ((Succeeds.refuse _).bind ((Succeeds.refuse _).bind
    ((sameTime_succeeds ctx.lower r.fromTime).bind (sameTime_succeeds ctx.upper r.toTime)))).of_ok h
  obtain ⟨⟨hbinding, hquery, hlower, hupper⟩, -⟩ := hspec
  push Not at hbinding hquery
  obtain ⟨hcategory, hsize, hbefore, hafter⟩ := hquery
  exact ⟨hbinding, hcategory, hsize, hbefore, hafter, fun value hvalue => (hlower value hvalue).2,
    fun value hvalue => (hupper value hvalue).2⟩

/-- A page is served from a list of the store, which a request names. -/
theorem page_source {answer : StablePage} (hwithin : Within limits e.pre.store)
    (hcodec : ∀ event ∈ readEvents text hash e, codec.decode (codec.encode event) = some event)
    (hs : Stepped text hash digest limits codec e.pre e.op e.post e.out)
    (hpage : e.out = .page answer) :
    ∃ saved ∈ e.post.store.entries, ∃ page, e.out = servePage codec.decode saved page ∧
      ∀ r settings clock now, e.op = .request r settings clock now →
        page = r.page ∧ r.token = some saved.token ∧ r.owner = saved.owner ∧
        ∃ scope, playbackScope settings.playback r.pitId = .ok scope ∧
          sameQuery saved.context (digest (settings.bound scope.1 scope.2)) r = .ok () := by
  rcases takesOut_or_putsList hwithin hcodec hs with htakes | ⟨value, room, listing, events, hputs⟩
  · obtain ⟨r, settings, clock, now, hop⟩ := htakes.page answer hpage
    obtain ⟨pre, op, out, post⟩ := e
    dsimp only at hs hop hpage hwithin ⊢
    subst hop hpage
    cases hs with
    | refused hout => exact absurd rfl (hout answer)
    | @got r settings clock now token store value out htoken hget hout =>
      rcases hout with hrefuses | ⟨saved, scope, rfl, hscope, hsame, hout⟩
      · exact absurd rfl (hrefuses answer)
      · obtain ⟨store', out', hget', -, -, hvalue⟩ := get_spec clock token r.owner hwithin
        rw [hget] at hget'
        simp only [Option.some.injEq, Prod.mk.injEq] at hget'
        obtain ⟨rfl, rfl⟩ := hget'
        rcases hvalue with hgone | ⟨saved', hmem, hsaved, htoken', howner⟩
        · cases hgone
        · obtain rfl := Out.value.inj hsaved
          refine ⟨saved, hmem, r.page, hout, ?_⟩
          rintro r' settings' clock' now' hop'
          cases hop'
          exact ⟨rfl, by rw [htoken, htoken'], howner.symm, scope, hscope, hsame⟩
  · have hmem : value ∈ e.post.store.entries := by
      rw [hputs.entries]
      simp
    refine ⟨value, hmem, 1, hputs.out, ?_⟩
    intro r settings clock now hop
    obtain ⟨i, config, tracker, pitConfig, store, clock, clock', drawn, now, page, hop', -⟩ :=
      hputs.froze
    rw [hop] at hop'
    cases hop'

/-- **A page is a page of a frozen listing**: of the one that was frozen last under its token. -/
theorem page_of_run {before after : List Step} {answer : StablePage}
    (hrun : Run (step text hash digest limits codec) {} es s) (hcodec : Decodes text hash codec es)
    (hes : es = before ++ e :: after) (hpage : e.out = .page answer) :
    ∃ earlier f later owner listing events, before ++ [e] = earlier ++ f :: later ∧
      Froze text hash f owner answer.snapshotToken listing events ∧
      IsPage listing events answer ∧ events.length ≤ maxItems ∧
      (∀ g ∈ later, ¬Issues answer.snapshotToken g) ∧
      ∀ r settings clock now, e.op = .request r settings clock now →
        Asks digest r settings owner listing answer := by
  subst hes
  have hcut : Run (step text hash digest limits codec) {} (before ++ [e]) e.post := by
    have hstep := hrun.of_append_cons
    exact hstep.1.snoc hstep.2
  have hdecodes : Decodes text hash codec (before ++ [e]) := by
    intro f hf
    exact hcodec f (by rw [List.append_cons]; exact List.mem_append_left _ hf)
  have hlast := hcut.snoc_inv
  obtain ⟨saved, hsaved, page, hout, hasks⟩ := page_source (within_of_run hlast.1)
    (hdecodes e (by simp)) (stepped hlast.2.1) hpage
  obtain ⟨earlier, f, later, hsplit, hfrozen, hlater⟩ :=
    since_of_run hcut hdecodes saved hsaved
  have hf := hsplit ▸ hcut
  have hfmem : f ∈ before ++ [e] := by
    rw [hsplit]
    simp
  rcases takesOut_or_putsList (within_of_run hf.of_append_cons.1) (hdecodes f hfmem)
    (stepped hf.of_append_cons.2) with htakes | ⟨value, room, listing, events, hputs⟩
  · rw [htakes.frozen] at hfrozen
    cases hfrozen
  · rw [hputs.frozen] at hfrozen
    obtain rfl := Option.some.inj hfrozen
    have hread : ∀ event ∈ events, codec.decode (codec.encode event) = some event := by
      obtain ⟨i, config, tracker, pitConfig, store, clock, clock', drawn, now, page, hop, hbuild,
        rfl, -⟩ := hputs.froze
      intro event hevent
      apply hdecodes f hfmem
      unfold readEvents
      rw [hop]
      dsimp only
      rw [hbuild]
      exact hevent
    obtain ⟨answer', hanswer, hispage, hnumber, htoken⟩ := hputs.holds.servePage hread page
    rw [hpage, hanswer] at hout
    obtain rfl := Answer.page.inj hout
    refine ⟨earlier, f, later, value.owner, listing, events, hsplit, ?_, hispage, hputs.length, ?_,
      ?_⟩
    · rw [htoken]
      exact hputs.froze
    · rw [htoken]
      exact hlater
    · intro r settings clock now hop
      obtain ⟨hr, hrtoken, howner, scope, hscope, hsame⟩ := hasks r settings clock now hop
      have hcontext := hputs.holds.context
      obtain ⟨hbinding, hcategory, hsize, hbefore, hafter, hlower, hupper⟩ := sameQuery_ok hsame
      rw [hcontext] at hbinding hcategory hsize hbefore hafter hlower hupper
      exact ⟨howner, hrtoken.trans (congrArg some htoken.symm), hr.symm.trans hnumber.symm,
        name_injective hcategory, hsize, ⟨hbefore, hafter⟩, hlower, hupper, scope, hscope,
        hbinding.symm⟩

theorem froze_unique {owner owner' token token' : String} {listing' : Listing}
    {events events' : List EventRecording} (h : Froze text hash e owner token listing events)
    (h' : Froze text hash e owner' token' listing' events') :
    owner' = owner ∧ listing' = listing ∧ events' = events := by
  obtain ⟨i, config, tracker, pitConfig, store, _, _, _, _, _, hop, hbuild, rfl, -⟩ := h
  obtain ⟨i', config', tracker', pitConfig', store', _, _, _, _, _, hop', hbuild', rfl, -⟩ := h'
  rw [hop] at hop'
  cases hop'
  rw [hbuild] at hbuild'
  cases hbuild'
  exact ⟨rfl, rfl, rfl⟩

/-- A step that freezes under a token issues it. -/
theorem Froze.issues {owner token : String} {events : List EventRecording}
    (hwithin : Within limits e.pre.store)
    (hcodec : ∀ event ∈ readEvents text hash e, codec.decode (codec.encode event) = some event)
    (hs : Stepped text hash digest limits codec e.pre e.op e.post e.out)
    (h : Froze text hash e owner token listing events) : Issues token e := by
  obtain ⟨i, config, tracker, pitConfig, store, _, _, _, _, page, hop, -, -, hpage, htoken⟩ := h
  rcases takesOut_or_putsList hwithin hcodec hs with htakes | ⟨value, room, listing, events, hputs⟩
  · obtain ⟨r, settings, clock, now, hop'⟩ := htakes.page page hpage
    rw [hop] at hop'
    cases hop'
  · obtain ⟨_, _, _, _, _, _, _, _, _, page', -, -, -, hpage', htoken'⟩ := hputs.froze
    rw [hpage] at hpage'
    obtain rfl := Answer.page.inj hpage'
    exact ⟨value, hputs.frozen, htoken'.symm.trans htoken⟩

/-- **Pages fit together.** A page is a page of the listing that was frozen last under its token,
for the one who asks; and while a token is not drawn again, the pages under it are together the
events that one selection has read, whatever is written to the database between them. -/
theorem stable_pages (hrun : Run (step text hash digest limits codec) {} es s)
    (hcodec : Decodes text hash codec es) :
    (∀ before e after answer, es = before ++ e :: after → e.out = .page answer →
      ∃ earlier f later owner listing events, before ++ [e] = earlier ++ f :: later ∧
        Froze text hash f owner answer.snapshotToken listing events ∧
        IsPage listing events answer ∧ events.length ≤ maxItems ∧
        (∀ g ∈ later, ¬Issues answer.snapshotToken g) ∧
        ∀ r settings clock now, e.op = .request r settings clock now →
          Asks digest r settings owner listing answer) ∧
    ∀ earlier f later owner token listing events, es = earlier ++ f :: later →
      Froze text hash f owner token listing events → (∀ g ∈ later, ¬Issues token g) →
      ∀ answers : ℕ → StablePage,
        (∀ k < totalPages events.length listing.pageSize, ∃ pre g post,
          f :: later = pre ++ g :: post ∧ g.out = .page (answers k) ∧
          (answers k).snapshotToken = token ∧ (answers k).page = k + 1) →
        (List.range (totalPages events.length listing.pageSize)).flatMap
          (fun k => (answers k).items) = events := by
  refine ⟨fun before e after answer => page_of_run hrun hcodec, ?_⟩
  intro earlier f later owner token listing events hes hfroze honce answers hanswers
  have hitems : ∀ k < totalPages events.length listing.pageSize,
      (answers k).items = pageOf listing.pageSize (k + 1) events := by
    intro k hk
    obtain ⟨pre, g, post, hsplit, hg, htoken, hnumber⟩ := hanswers k hk
    have hes' : es = (earlier ++ pre) ++ g :: post := by
      rw [hes, hsplit, List.append_assoc]
    obtain ⟨earlier', f', later', owner', listing', events', hcut, hfroze', hispage, -, hlater', -⟩
      := page_of_run hrun hcodec hes' hg
    rw [htoken] at hfroze' hlater'
    -- the listing of the page is the one that was frozen at `f`, for both are the last of the token
    obtain ⟨pre', hpre⟩ : ∃ pre', pre ++ [g] = f :: pre' ∧ pre' <+: later := by
      cases pre with
      | nil =>
        obtain ⟨rfl, rfl⟩ := List.cons.inj hsplit
        exact ⟨[], rfl, List.nil_prefix⟩
      | cons x pre =>
        obtain ⟨rfl, rfl⟩ := List.cons.inj hsplit
        exact ⟨pre ++ [g], rfl, post, by simp⟩
    have hcut' : earlier ++ f :: pre' = earlier' ++ f' :: later' := by
      rw [← hcut, List.append_assoc, hpre.1]
    have hissues : ∀ {a b : List Step} {x : Step} {o l ev}, es = a ++ x :: b →
        Froze text hash x o token l ev → Issues token x := by
      intro a b x o l ev hx hfx
      subst hx
      have hstep := hrun.of_append_cons
      exact hfx.issues (within_of_run hstep.1) (hcodec x (by simp)) (stepped hstep.2)
    have hes'' : es = earlier' ++ f' :: (later' ++ post) := by
      rw [hes', List.append_cons, hcut, List.append_assoc, List.cons_append]
    obtain ⟨rfl, rfl, -⟩ := eq_of_last hcut' (hissues hes hfroze) (hissues hes'' hfroze')
      (fun x hx => honce x (hpre.2.subset hx)) hlater'
    obtain ⟨-, rfl, rfl⟩ := froze_unique hfroze hfroze'
    rw [hispage.items, hnumber]
  have hflat : (List.range (totalPages events.length listing.pageSize)).flatMap
      (fun k => (answers k).items) =
      (List.range (totalPages events.length listing.pageSize)).flatMap
      (fun k => pageOf listing.pageSize (k + 1) events) :=
    List.flatMap_congr fun k hk => hitems k (List.mem_range.1 hk)
  rw [hflat, pages_flatten listing.size_pos]

end

/-! ### A listing of two pages

A collection and its confirmation are listed, one on a page. -/

/-- `encode()`. -/
def utf8 (s : String) : Bytes := s.toByteArray.data.toList

/-- The text of the confirmation. -/
def manualText : String :=
  "\x7b\"eventId\":\"evt-col-1\",\"pitId\":\"pit\",\"category\":\"collection\"," ++
  "\"title\":\"수거 완료 확인\",\"eventType\":\"MANUAL_COLLECTION\"," ++
  "\"occurredAt\":\"1970-01-01T00:02:00Z\",\"eventTo\":\"1970-01-01T00:02:00Z\"," ++
  "\"windowKind\":\"EVENT_CONTEXT\",\"windowState\":\"POINT\"," ++
  "\"windowFrom\":\"1970-01-01T00:01:30Z\",\"windowTo\":\"1970-01-01T00:02:30Z\"," ++
  "\"simulated\":null,\"stateAtOccurrence\":null,\"pitAttribution\":\"RECORDED\"," ++
  "\"reasonCodes\":[],\"playback\":null,\"thumbnailInfoPath\":" ++
  "\"/api/v2/recordings/events/evt-col-1/thumbnail-info?pit_id=pit&before_seconds=30" ++
  "&after_seconds=30\",\"dailyThumbnailInfoPath\":" ++
  "\"/api/v2/recordings/daily/by-date/1970-01-01/thumbnail-info\"\x7d"

/-- The text of the collection. -/
def cycleText : String :=
  "\x7b\"eventId\":\"evt-auto-col-start-1\",\"pitId\":\"pit\",\"category\":\"collection\"," ++
  "\"title\":\"수거 구간\",\"eventType\":\"COLLECTION\"," ++
  "\"occurredAt\":\"1970-01-01T00:01:40Z\",\"eventTo\":\"1970-01-01T00:02:40Z\"," ++
  "\"windowKind\":\"COLLECTION_CYCLE\",\"windowState\":\"CLOSED\"," ++
  "\"windowFrom\":\"1970-01-01T00:01:40Z\",\"windowTo\":\"1970-01-01T00:02:40Z\"," ++
  "\"simulated\":null,\"stateAtOccurrence\":null,\"pitAttribution\":\"RECORDED\"," ++
  "\"reasonCodes\":[],\"playback\":null,\"thumbnailInfoPath\":" ++
  "\"/api/v2/recordings/events/evt-auto-col-start-1/thumbnail-info?pit_id=pit" ++
  "&before_seconds=30&after_seconds=30\",\"dailyThumbnailInfoPath\":" ++
  "\"/api/v2/recordings/daily/by-date/1970-01-01/thumbnail-info\"\x7d"

def sampleEvents : List EventRecording := recordings (fun _ => "") sampleStore sampleQuery

/-- The texts of the events of the sample. -/
def sampleCodec : Codec where
  encode event := utf8 (if event.eventId = "evt-col-1" then manualText else cycleText)
  decode bytes := if bytes = utf8 manualText then sampleEvents[0]? else sampleEvents[1]?

def sampleSettings : Settings where
  mediaPitId := "pit"
  mediaCameraId := "camera"
  mediaServiceUrl := none
  mediaDailyServiceUrl := some "http://media/api/v2"
  monitoringSources := [⟨"pit", "site", "edge"⟩]

theorem sampleSize : 1 ≤ 1 ∧ 1 ≤ 100 := by decide

def sampleRequest (token : Option String) (page : ℕ) (hpage : 1 ≤ page) : PageRequest where
  owner := "a"
  token := token
  pitId := none
  category := .all
  fromTime := some (seconds 130)
  toTime := some (seconds 200)
  page := page
  pageSize := 1
  before := 30
  after := 30
  page_pos := hpage
  size_range := sampleSize

/-- The limits of the service. -/
def defaultLimits : Limits where
  ttl := 300
  maxEntries := 32
  maxBytes := 32 * 1024 * 1024
  maxOwnerEntries := 4
  ttl_pos := Nat.succ_pos _
  maxEntries_pos := Nat.succ_pos _
  maxBytes_pos := Nat.succ_pos _
  maxOwnerEntries_pos := Nat.succ_pos _

def sampleStep : State → Op → Option (State × Answer StablePage) :=
  step (fun _ => "") (fun _ => "") (fun _ => "binding") defaultLimits sampleCodec

def sampleListing : Listing where
  pit := "pit"
  source := some ⟨"pit", "site", "edge"⟩
  binding := "binding"
  category := .all
  pageSize := 1
  before := 30
  after := 30
  lower := sampleTime 130
  upper := sampleTime 200
  now := sampleTime 300
  size_pos := Nat.one_pos

/-- The state in which the first request waits. -/
def sampleWaiting : State := ⟨{ builds := 1 }, [⟨"a", sampleListing⟩]⟩

def sampleFirst : Op :=
  .request (sampleRequest none 1 le_rfl) sampleSettings 0 (sampleTime 300)

def sampleReply : Op :=
  .reply 0 (.rows Collection.sampleConfiguration none none sampleStore) 0 0 ["t"] 0

def sampleSecond : Op :=
  .request (sampleRequest (some "t") 2 (Nat.le_succ 1)) sampleSettings 1 (sampleTime 301)

theorem sample_began : sampleStep {} sampleFirst = some (sampleWaiting, .waiting) := rfl

/-- The token and the number of a page. -/
def shown : Answer StablePage → Option (String × ℕ)
  | .page page => some (page.snapshotToken, page.page)
  | _ => none

theorem sample_answers : ((sampleStep sampleWaiting sampleReply).bind fun r =>
    (sampleStep r.1 sampleSecond).map fun r' => (shown r.2, shown r'.2)) =
      some (some ("t", 1), some ("t", 2)) := by
  decide +kernel

theorem sample_eventIds : sampleEvents.map EventRecording.eventId =
    ["evt-col-1", "evt-auto-col-start-1"] := by
  decide +kernel

theorem shown_eq {out : Answer StablePage} {token : String} {n : ℕ}
    (h : shown out = some (token, n)) :
    ∃ page, out = .page page ∧ page.snapshotToken = token ∧ page.page = n := by
  cases out with
  | page page =>
    simp only [shown, Option.some.injEq, Prod.mk.injEq] at h
    exact ⟨page, rfl, h⟩
  | raised error => cases h
  | waiting => cases h
  | failed => cases h

theorem sample_decodes : ∀ event ∈ sampleEvents,
    sampleCodec.decode (sampleCodec.encode event) = some event := by
  have hids := sample_eventIds
  obtain ⟨a, rest, hevents, ha, hrest⟩ := List.map_eq_cons_iff.1 hids
  obtain ⟨b, rest', rfl, hb, hnil⟩ := List.map_eq_cons_iff.1 hrest
  obtain rfl := List.map_eq_nil_iff.1 hnil
  have hne : utf8 cycleText ≠ utf8 manualText := by decide +kernel
  intro event hevent
  rw [hevents] at hevent
  unfold sampleCodec
  dsimp only
  rcases List.mem_cons.1 hevent with rfl | hevent
  · rw [if_pos ha, if_pos rfl, hevents]
    rfl
  · obtain rfl := List.mem_singleton.1 hevent
    have hother : event.eventId ≠ "evt-col-1" := by
      rw [hb]
      decide
    rw [if_neg hother, if_neg hne, hevents]
    rfl

/-- The theorem where a request waits. -/
theorem service_within_limits_sample : ∃ es s, Run sampleStep {} es s ∧ s.pending.length = 1 ∧
    s.store.builds = s.pending.length :=
  ⟨_, _, Run.nil.snoc sample_began, rfl, (service_within_limits (Run.nil.snoc sample_began)).2.1⟩

/-- The theorem where a second page is asked for: the two pages hold the two events. -/
theorem stable_pages_sample : ∃ es s first second, Run sampleStep {} es s ∧
    es.map Entry.out = [.waiting, .page first, .page second] ∧
    first.items ++ second.items = sampleEvents := by
  obtain ⟨⟨s₂, o₂⟩, hs₂, hrest⟩ := Option.bind_eq_some_iff.1 sample_answers
  obtain ⟨⟨s₃, o₃⟩, hs₃, hshown⟩ := Option.map_eq_some_iff.1 hrest
  obtain ⟨hfirst, hsecond⟩ := Prod.mk.inj hshown
  obtain ⟨first, rfl, htoken, hpage⟩ := shown_eq hfirst
  obtain ⟨second, rfl, htoken', hpage'⟩ := shown_eq hsecond
  have hrun := ((Run.nil.snoc sample_began).snoc hs₂).snoc hs₃
  refine ⟨_, _, first, second, hrun, rfl, ?_⟩
  have hcodec : Decodes (fun _ => "") (fun _ => "") sampleCodec
      ([] ++ [⟨{}, sampleFirst, .waiting, sampleWaiting⟩] ++
        [⟨sampleWaiting, sampleReply, .page first, s₂⟩] ++
        [⟨s₂, sampleSecond, .page second, s₃⟩]) := by
    intro e he event hevent
    simp only [List.nil_append, List.cons_append, List.mem_cons, List.not_mem_nil, or_false] at he
    rcases he with rfl | rfl | rfl
    · cases hevent
    · exact sample_decodes event hevent
    · cases hevent
  have hfroze : Froze (fun _ => "") (fun _ => "") ⟨sampleWaiting, sampleReply, .page first, s₂⟩
      "a" "t" sampleListing sampleEvents :=
    ⟨0, _, _, _, _, _, _, _, _, first, rfl, rfl, rfl, rfl, htoken⟩
  have htotal : totalPages sampleEvents.length sampleListing.pageSize = 2 := by
    have hlength := congrArg List.length sample_eventIds
    rw [List.length_map] at hlength
    rw [hlength]
    rfl
  have hpages := (stable_pages hrun hcodec).2 [⟨{}, sampleFirst, .waiting, sampleWaiting⟩] _
    [⟨s₂, sampleSecond, .page second, s₃⟩] "a" "t" sampleListing sampleEvents rfl hfroze (by
      intro g hg
      obtain rfl := List.mem_singleton.1 hg
      rintro ⟨value, hvalue, -⟩
      cases hvalue) (fun k => if k = 0 then first else second) (by
      intro k hk
      rw [htotal] at hk
      interval_cases k
      · exact ⟨[], _, _, rfl, rfl, htoken, hpage⟩
      · exact ⟨[_], _, [], rfl, rfl, htoken', hpage'⟩)
  rw [htotal] at hpages
  simpa [List.range_succ] using hpages

end ScrapMonitoring.Events.Stable
