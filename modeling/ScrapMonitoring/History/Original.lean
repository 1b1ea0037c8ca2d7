import ScrapMonitoring.History.Tally

/-!
# The reader of the original rows

`Written` says of a row what its writer guarantees: its slots lie in its minute, and statistics
that are stored are those of the slots. The readers need a little less (`Located`): the groups that
`legacyStreamGroups` makes of such rows represent the slots of the range (`legacy_represents`),
whatever the order and the pages in which the rows were read.
-/

namespace ScrapMonitoring.History

/-! ## What the writer guarantees -/

/-- The invariants of a row. A row from before the statistics were stored has no counts. -/
structure Written (row : EdgeV2Minute) : Prop where
  aligned : floorMinute row.bucketStart = row.bucketStart
  stamps : (row.payload.values.map Prod.fst).Nodup
  placed : ∀ v ∈ row.payload.values,
    row.bucketStart ≤ seconds v.1 ∧ seconds v.1 < row.bucketStart + seconds 60
  retained : ∀ v ∈ row.payload.values, ∀ r, row.payload.metadata.lookup v.1 = some r →
    floorMinute r.generatedAt = row.bucketStart
  sources : ∀ s ∈ row.payload.sources, s.2 ≠ ""
  statistics : row.payload.validCount = none ∨
    row.payload.sum = some row.payload.valid.sum ∧ row.payload.minimum = row.payload.valid.min? ∧
      row.payload.maximum = row.payload.valid.max?

theorem slot_stamp (payload : MinutePayload) (v : ℤ × Option ℚ) :
    (payload.slot v).time.tdiv 1000000 = v.1 := by
  simp only [MinutePayload.slot, slotTime]
  split
  · exact Int.mul_tdiv_cancel v.1 (by norm_num)
  · split_ifs with h
    · exact h
    · exact Int.mul_tdiv_cancel v.1 (by norm_num)

theorem tdiv_mono {a b : ℤ} (h : a ≤ b) : a.tdiv 1000000 ≤ b.tdiv 1000000 :=
  Int.tdiv_le_tdiv (by norm_num) h

/-- Slots are in the order of their stamps. -/
theorem slot_time_lt {payload : MinutePayload} {v w : ℤ × Option ℚ} (h : v.1 < w.1) :
    (payload.slot v).time < (payload.slot w).time := by
  by_contra hle
  have hmono := tdiv_mono (not_lt.1 hle)
  rw [slot_stamp, slot_stamp] at hmono
  omega

/-- The invariants of a row that its readers rely on: the times of the slots are of the minute. -/
structure Located (row : EdgeV2Minute) : Prop where
  aligned : floorMinute row.bucketStart = row.bucketStart
  stamps : (row.payload.values.map Prod.fst).Nodup
  slot_time : ∀ {v : ℤ × Option ℚ}, v ∈ row.payload.values →
    row.bucketStart ≤ (row.payload.slot v).time ∧
      (row.payload.slot v).time < row.bucketStart + seconds 60
  sources : ∀ s ∈ row.payload.sources, s.2 ≠ ""
  statistics : row.payload.validCount = none ∨
    row.payload.sum = some row.payload.valid.sum ∧ row.payload.minimum = row.payload.valid.min? ∧
      row.payload.maximum = row.payload.valid.max?

theorem Written.located {row : EdgeV2Minute} (h : Written row) : Located row where
  aligned := h.aligned
  stamps := h.stamps
  slot_time := by
    intro v hv
    have hplaced := h.placed v hv
    simp only [MinutePayload.slot, slotTime]
    cases hr : row.payload.metadata.lookup v.1 with
    | none => exact hplaced
    | some r =>
      have hret := h.retained v hv r hr
      simp only
      split_ifs
      · simp only [floorMinute, seconds] at hret ⊢
        omega
      · exact hplaced
  sources := h.sources
  statistics := h.statistics

theorem Located.floorMinute_slot {row : EdgeV2Minute} (h : Located row) {v : ℤ × Option ℚ}
    (hv : v ∈ row.payload.values) : floorMinute (row.payload.slot v).time = row.bucketStart := by
  obtain ⟨hle, hlt⟩ := h.slot_time hv
  have haligned := h.aligned
  simp only [floorMinute, seconds] at haligned hle hlt ⊢
  omega

/-- A device has one row for a minute. -/
theorem eq_of_bucketStart {store : EdgeV2Minutes} {source : MonitoringSource}
    {row row' : EdgeV2Minute} (h : row ∈ store.ofSource source) (h' : row' ∈ store.ofSource source)
    (hstart : row.bucketStart = row'.bucketStart) : row = row' := by
  simp only [EdgeV2Minutes.ofSource, List.mem_filter, decide_eq_true_eq] at h h'
  refine List.inj_on_of_nodup_map store.primaryKey h.1 h'.1 ?_
  rw [EdgeV2Minute.key, EdgeV2Minute.key, h.2.1, h.2.2, h'.2.1, h'.2.2, hstart]

theorem find_bucketStart {store : EdgeV2Minutes} {source : MonitoringSource}
    {rows : List EdgeV2Minute} (hrows : ∀ row ∈ rows, row ∈ store.ofSource source)
    {row : EdgeV2Minute} (hrow : row ∈ rows) :
    rows.find? (fun r => r.bucketStart = row.bucketStart) = some row := by
  cases hfind : rows.find? fun r => r.bucketStart = row.bucketStart with
  | none => exact absurd (List.find?_eq_none.1 hfind row hrow) (by simp)
  | some r =>
    have hstart : r.bucketStart = row.bucketStart := by simpa using List.find?_some hfind
    rw [eq_of_bucketStart (hrows r (List.mem_of_find?_eq_some hfind)) (hrows row hrow) hstart]

/-- Rows of different minutes have no two slots of one time. -/
theorem time_inj {rows : List EdgeV2Minute} (hwritten : ∀ row ∈ rows, Located row)
    (hminutes : ∀ row ∈ rows, ∀ row' ∈ rows, row.bucketStart = row'.bucketStart → row = row') :
    ∀ a ∈ rows.flatMap fun row => row.payload.slots,
      ∀ b ∈ rows.flatMap fun row => row.payload.slots, a.time = b.time → a = b := by
  intro a ha b hb htime
  obtain ⟨row, hrow, ha⟩ := List.mem_flatMap.1 ha
  obtain ⟨row', hrow', hb⟩ := List.mem_flatMap.1 hb
  obtain ⟨v, hv, rfl⟩ := List.mem_map.1 ha
  obtain ⟨w, hw, rfl⟩ := List.mem_map.1 hb
  have hstart : row.bucketStart = row'.bucketStart := by
    rw [← (hwritten row hrow).floorMinute_slot hv, htime, (hwritten row' hrow').floorMinute_slot hw]
  obtain rfl := hminutes row hrow row' hrow' hstart
  have hstamp : v.1 = w.1 := by
    rw [← slot_stamp row.payload v, htime, slot_stamp]
  rw [List.inj_on_of_nodup_map (hwritten row hrow).stamps hv hw hstamp]

/-- No two slots of one device have one time. -/
theorem slots_time_inj {store : EdgeV2Minutes} (hwritten : ∀ row ∈ store.rows, Located row)
    (source : MonitoringSource) :
    ∀ a ∈ (store.ofSource source).flatMap fun row => row.payload.slots,
      ∀ b ∈ (store.ofSource source).flatMap fun row => row.payload.slots,
      a.time = b.time → a = b :=
  time_inj (fun row hrow => hwritten row (List.mem_filter.1 hrow).1)
    fun _ hrow _ hrow' hstart => eq_of_bucketStart hrow hrow' hstart

/-! ## Minutes and slots are parts of groups -/

theorem foldl_provenance (payload : MinutePayload) (values : List (ℤ × Option ℚ)) (group : Group) :
    values.foldl (fun g v => g.provenance v.1 v.2 payload) group =
      { group with
        sources := (inputSources (values.map payload.slot)).foldl distinct group.sources
        methods := (methodVersions (values.map payload.slot)).foldl distinct group.methods
        simulated := group.simulated ||
          (values.map payload.slot).any fun slot => isSimulation slot.method } := by
  induction values generalizing group with
  | nil => simp [inputSources, methodVersions]
  | cons v values ih =>
    rw [List.foldl_cons, ih, Group.provenance]
    cases hvalue : v.2 with
    | none =>
      simp [inputSources, methodVersions, MinutePayload.slot, hvalue, Bool.or_assoc]
    | some q =>
      cases hmethod : payload.slotMethod v.1 <;>
        simp [inputSources, methodVersions, MinutePayload.slot, hvalue, hmethod, Bool.or_assoc]

/-- The group after the slots of a list. -/
def Group.absorbSlots (group : Group) (slots : List Slot) : Group :=
  group.absorb (tally slots) ((inputSources slots).foldl distinct group.sources)
    ((methodVersions slots).foldl distinct group.methods)

theorem Represents.absorbSlots {group : Group} {l : List Slot} (h : Represents group l)
    (slots : List Slot) : Represents (group.absorbSlots slots) (l ++ slots) :=
  h.absorb (represents_tally slots) (adds_foldl_distinct _ _) (adds_foldl_distinct _ _)

theorem addSlot_eq (group : Group) (v : ℤ × Option ℚ) (payload : MinutePayload) :
    group.addSlot v.1 v.2 payload = group.absorbSlots [payload.slot v] := by
  have hfold := foldl_provenance payload [v] group
  rw [List.foldl_cons, List.foldl_nil, List.map_singleton] at hfold
  rw [Group.addSlot, hfold]
  cases hvalue : v.2 <;>
    simp [Group.absorbSlots, Group.absorb, Group.stats, Group.last, Group.setLast, tally,
      validValues, lastMax, MinutePayload.slot, Slot.lastSlot, hvalue]

/-- The newest slot of three parts. -/
theorem later_assoc (a b c : Option LastSlot) :
    (c.map (later ((b.map (later a)).getD a))).getD ((b.map (later a)).getD a) =
      (((c.map (later b)).getD b).map (later a)).getD a := by
  cases c with
  | none => rfl
  | some c =>
    cases b with
    | none => simp [later]
    | some b =>
      by_cases hbc : b.lastTime ≤ c.lastTime
      · cases a with
        | none => simp [later, hbc]
        | some a =>
          by_cases hab : a.lastTime ≤ b.lastTime
          · simp [later, hab, hbc, hab.trans hbc]
          · by_cases hac : a.lastTime ≤ c.lastTime <;> simp [later, hab, hbc, hac]
      · cases a with
        | none => simp [later, hbc]
        | some a =>
          by_cases hab : a.lastTime ≤ b.lastTime
          · simp [later, hab, hbc]
          · have hac : ¬a.lastTime ≤ c.lastTime := by omega
            simp [later, hab, hbc, hac]

/-- **Slots are absorbed in parts as they are together.** -/
theorem absorbSlots_append (group : Group) (l l' : List Slot) :
    (group.absorbSlots l).absorbSlots l' = group.absorbSlots (l ++ l') := by
  have hmin : ∀ l : List Slot, (tally l).count = 0 → (tally l).minimum = none := by
    intro l h0
    have hnil : validValues l = [] := List.length_eq_zero_iff.1 h0
    simp [tally, hnil]
  have hmax : ∀ l : List Slot, (tally l).count = 0 → (tally l).maximum = none := by
    intro l h0
    have hnil : validValues l = [] := List.length_eq_zero_iff.1 h0
    simp [tally, hnil]
  simp only [Group.absorbSlots, Group.absorb, Group.stats, Group.mk.injEq]
  rw [merge_extremum (hmin l), merge_extremum (hmin l'), merge_extremum (hmin (l ++ l')),
    merge_extremum (hmax l), merge_extremum (hmax l'), merge_extremum (hmax (l ++ l'))]
  refine ⟨?_, ?_, ?_, ?_, ?_, ?_, ?_, ?_, ?_, ?_⟩
  · simp [tally, validValues_append, add_assoc]
  · simp [tally, validValues_append, Nat.add_assoc]
  · simp [tally, Nat.add_assoc]
  · simp only [tally, validValues_append, min?_append]
    exact Std.Associative.assoc _ _ _
  · simp only [tally, validValues_append, max?_append]
    exact Std.Associative.assoc _ _ _
  · simp [inputSources]
  · simp [methodVersions]
  · simp [tally]
  · simp [tally, Bool.or_assoc]
  · rw [lastSlot_append]
    exact later_assoc _ _ _

theorem absorbSlots_nil (group : Group) : group.absorbSlots [] = group := by
  simp [Group.absorbSlots, Group.absorb, Group.stats, tally, validValues, inputSources,
    methodVersions, lastMax]

/-- Slots are absorbed one by one as they are together. -/
theorem foldl_addSlot (payload : MinutePayload) (values : List (ℤ × Option ℚ)) (group : Group) :
    values.foldl (fun group v => group.addSlot v.1 v.2 payload) group =
      group.absorbSlots (values.map payload.slot) := by
  induction values using List.reverseRecOn with
  | nil => exact (absorbSlots_nil group).symm
  | append_singleton values v ih =>
    rw [List.foldl_append, List.foldl_cons, List.foldl_nil, ih, addSlot_eq, absorbSlots_append,
      List.map_append, List.map_singleton]

theorem validValues_slots (payload : MinutePayload) :
    validValues payload.slots = payload.valid := by
  rw [validValues, MinutePayload.slots, List.filterMap_map, MinutePayload.valid]
  rfl

/-- The slots that are not valid. -/
theorem invalid_eq (slots : List Slot) :
    (tally slots).invalid = slots.length - (validValues slots).length := by
  rw [tally, validValues]
  induction slots with
  | nil => rfl
  | cons slot slots ih =>
    have hle : (slots.filterMap Slot.value).length ≤ slots.length := List.length_filterMap_le _ _
    simp only at ih
    rw [List.countP_cons, ih, List.filterMap_cons]
    cases slot.value with
    | none =>
      simp only [Option.isNone_none, if_true, List.length_cons]
      omega
    | some q => simp

/-- The slot with the greatest stamp is the newest. -/
theorem lastMax_slots {payload : MinutePayload} {v : ℤ × Option ℚ}
    (hstamps : (payload.values.map Prod.fst).Nodup) (h : payload.values.argmax Prod.fst = some v) :
    lastMax Slot.time payload.slots = some (payload.slot v) := by
  have hv := List.argmax_mem h
  refine lastMax_eq_of_lt (List.mem_map_of_mem hv) fun a ha hne => ?_
  obtain ⟨w, hw, rfl⟩ := List.mem_map.1 ha
  refine slot_time_lt (lt_of_le_of_ne (List.le_of_mem_argmax hw h) fun heq => hne ?_)
  rw [List.inj_on_of_nodup_map hstamps hw hv heq]

/-- Stored statistics are those of the slots. -/
theorem minuteStats_eq {row : EdgeV2Minute} (h : Located row) (group : Group) :
    group.minuteStats row.payload =
      group.stats (tally row.payload.slots).count (tally row.payload.slots).invalid
        (tally row.payload.slots).total (tally row.payload.slots).minimum
        (tally row.payload.slots).maximum := by
  have hcached : row.payload.cached = true → row.payload.sum = some row.payload.valid.sum ∧
      row.payload.minimum = row.payload.valid.min? ∧
      row.payload.maximum = row.payload.valid.max? := by
    intro hc
    refine h.statistics.resolve_left fun hnone => ?_
    simp [MinutePayload.cached, hnone] at hc
  have hlength : row.payload.slots.length = row.payload.values.length := List.length_map _
  simp only [Group.minuteStats]
  rw [invalid_eq, hlength]
  simp only [tally, validValues_slots]
  split_ifs with hc
  · obtain ⟨hsum, hmin, hmax⟩ := hcached hc
    rw [hsum, hmin, hmax, Option.getD_some]
  · rfl

/-- A whole minute is absorbed with all its slots. -/
theorem wholeMinute_eq {row : EdgeV2Minute} (h : Located row) (groups : Groups) (bucket : ℤ)
    (hne : row.payload.values ≠ []) :
    wholeMinute groups bucket row.payload =
      groups.modify bucket fun group => group.absorbSlots row.payload.slots := by
  rw [wholeMinute]
  cases hmax : row.payload.values.argmax Prod.fst with
  | none => exact absurd (List.argmax_eq_none.1 hmax) hne
  | some v =>
    have hlast := lastMax_slots h.stamps hmax
    simp only [foldl_provenance, minuteStats_eq h]
    congr 1
    funext group
    simp only [Group.absorbSlots, Group.absorb, Group.last, Group.setLast, Group.stats]
    simp only [tally, hlast, Option.map_some, Option.getD_some, Bool.or_false]
    rfl

/-! ## Groups of the slots of a range -/

/-- The slots of a bucket. -/
def inBucket (interval bucket : ℤ) (slots : List Slot) : List Slot :=
  slots.filter fun slot => bucketOf interval slot.time = bucket

/-- The slots of a range. -/
def inWindow (start stop : ℤ) (slots : List Slot) : List Slot :=
  slots.filter fun slot => start ≤ slot.time ∧ slot.time < stop

/-- The tallies of the buckets that have slots. -/
def tallies (interval : ℤ) (slots : List Slot) : Groups := fun bucket =>
  if inBucket interval bucket slots = [] then none
  else some (tally (inBucket interval bucket slots))

/-- Every bucket that has slots has a group, which represents them. -/
def Groups.Represents (groups : Groups) (interval : ℤ) (slots : List Slot) : Prop :=
  ∀ bucket, (groups bucket = none ∧ inBucket interval bucket slots = []) ∨
    ∃ group, groups bucket = some group ∧ inBucket interval bucket slots ≠ [] ∧
      History.Represents group (inBucket interval bucket slots)

theorem Groups.represents_nil (interval : ℤ) : Groups.Represents (fun _ => none) interval [] :=
  fun _ => Or.inl ⟨rfl, rfl⟩

/-- **Groups that represent the slots have the points of the tallies.** -/
theorem Groups.Represents.result_eq {groups : Groups} {interval : ℤ} {slots : List Slot}
    (h : groups.Represents interval slots) (start stop : ℤ) :
    compactResult groups start stop = compactResult (tallies interval slots) start stop := by
  funext bucket
  rw [compactResult, compactResult, tallies]
  rcases h bucket with ⟨hnone, hempty⟩ | ⟨group, hsome, hne, hrep⟩
  · rw [hnone, if_pos hempty]
  · rw [hsome, if_neg hne, Option.map_some, Option.map_some, hrep.point_eq]

/-- A part of one bucket is absorbed. -/
theorem Groups.Represents.modify {groups : Groups} {interval bucket : ℤ} {slots part : List Slot}
    {f : Group → Group} (h : groups.Represents interval slots) (hne : part ≠ [])
    (hpart : ∀ slot ∈ part, bucketOf interval slot.time = bucket)
    (hf : ∀ group l, History.Represents group l → History.Represents (f group) (l ++ part)) :
    (groups.modify bucket f).Represents interval (slots ++ part) := by
  intro b
  rw [inBucket, List.filter_append]
  by_cases hb : b = bucket
  · subst hb
    have hall : part.filter (fun slot => bucketOf interval slot.time = b) = part := by
      refine List.filter_eq_self.2 fun slot hslot => ?_
      simpa using hpart slot hslot
    rw [hall, Groups.modify, Function.update_self]
    refine Or.inr ⟨_, rfl, by simp [hne], hf _ _ ?_⟩
    rcases h b with ⟨hnone, hempty⟩ | ⟨group, hsome, _, hrep⟩
    · rw [inBucket] at hempty
      rw [hnone, hempty]
      exact History.represents_nil
    · rw [hsome]
      exact hrep
  · have hnil : part.filter (fun slot => bucketOf interval slot.time = b) = [] := by
      refine List.filter_eq_nil_iff.2 fun slot hslot => ?_
      rw [hpart slot hslot]
      simpa using Ne.symm hb
    rw [hnil, List.append_nil, Groups.modify, Function.update_of_ne hb]
    exact h b

theorem tallies_perm {interval : ℤ} {l l' : List Slot} (h : l.Perm l')
    (hinj : ∀ a ∈ l, ∀ b ∈ l, a.time = b.time → a = b) :
    tallies interval l = tallies interval l' := by
  funext bucket
  have hperm : (inBucket interval bucket l).Perm (inBucket interval bucket l') := h.filter _
  have htally := tally_perm hperm fun a ha b hb =>
    hinj a (List.mem_filter.1 ha).1 b (List.mem_filter.1 hb).1
  rw [tallies, tallies, htally]
  simp only [← List.length_eq_zero_iff, hperm.length_eq]

/-! ## The reader -/

/-- A slot lies in the bucket of its minute. -/
theorem Located.bucketOf_slot {row : EdgeV2Minute} (h : Located row) {interval : ℤ}
    (hinterval : 60 ∣ interval) {v : ℤ × Option ℚ} (hv : v ∈ row.payload.values) :
    bucketOf interval (row.payload.slot v).time = bucketOf interval row.bucketStart := by
  obtain ⟨m, rfl⟩ := hinterval
  obtain ⟨hle, hlt⟩ := h.slot_time hv
  have haligned := h.aligned
  have hminute : ∀ t, bucketOf (60 * m) t = t / seconds 60 / m := by
    intro t
    rw [bucketOf, seconds, seconds, Int.ediv_ediv_of_nonneg (by norm_num)]
    congr 1
    omega
  rw [hminute, hminute]
  congr 1
  simp only [floorMinute, seconds] at haligned hle hlt ⊢
  omega

/-- The slots of a row, those in the range one by one. -/
theorem foldl_slots {payload : MinutePayload} {start stop interval : ℤ}
    {add : Group → ℤ × Option ℚ → Group}
    (hadd : ∀ group l v, Represents group l → Represents (add group v) (l ++ [payload.slot v]))
    (values : List (ℤ × Option ℚ)) {groups : Groups} {slots : List Slot}
    (h : groups.Represents interval slots) :
    (values.foldl (fun groups v =>
      let time := (slotTime v.1 payload.metadata).1
      if start ≤ time ∧ time < stop then
        groups.modify (bucketOf interval time) fun group => add group v
      else groups) groups).Represents interval
      (slots ++ inWindow start stop (values.map payload.slot)) := by
  induction values generalizing groups slots with
  | nil => simpa [inWindow] using h
  | cons v values ih =>
    have htime : (payload.slot v).time = (slotTime v.1 payload.metadata).1 := rfl
    rw [List.foldl_cons, List.map_cons, inWindow, List.filter_cons, htime]
    by_cases hin : start ≤ (slotTime v.1 payload.metadata).1 ∧
        (slotTime v.1 payload.metadata).1 < stop
    · rw [if_pos (decide_eq_true hin), ← List.singleton_append, ← List.append_assoc]
      refine ih ?_
      simp only [hin, and_self, if_true]
      refine h.modify (List.cons_ne_nil _ _) (fun slot hmem => ?_) fun group l hrep =>
        hadd group l v hrep
      rw [List.mem_singleton.1 hmem, htime]
    · rw [if_neg fun hd => hin (of_decide_eq_true hd)]
      refine ih ?_
      simp only [hin, if_false]
      exact h

/-- The slots of a whole minute, all in the range and in one bucket. -/
theorem Located.represents_whole {row : EdgeV2Minute} (h : Located row) {start stop interval : ℤ}
    (hinterval : 60 ∣ interval) (hwhole : start ≤ row.bucketStart ∧
      row.bucketStart + seconds 60 ≤ stop) {groups : Groups} {slots : List Slot} {f : Group → Group}
    (hgroups : groups.Represents interval slots) (hne : row.payload.values ≠ [])
    (hf : ∀ group l, Represents group l → Represents (f group) (l ++ row.payload.slots)) :
    (groups.modify (bucketOf interval row.bucketStart) f).Represents interval
      (slots ++ inWindow start stop row.payload.slots) := by
  have hwindow : inWindow start stop row.payload.slots = row.payload.slots := by
    refine List.filter_eq_self.2 fun slot hslot => ?_
    obtain ⟨v, hv, rfl⟩ := List.mem_map.1 hslot
    obtain ⟨hle, hlt⟩ := h.slot_time hv
    exact decide_eq_true ⟨hwhole.1.trans hle, hlt.trans_le hwhole.2⟩
  rw [hwindow]
  refine hgroups.modify ?_ (fun slot hslot => ?_) hf
  · simpa [MinutePayload.slots] using hne
  · obtain ⟨v, hv, rfl⟩ := List.mem_map.1 hslot
    exact h.bucketOf_slot hinterval hv

theorem accumulateMinute_represents {row : EdgeV2Minute} (h : Located row)
    {start stop interval : ℤ} (hinterval : 60 ∣ interval) {groups : Groups} {slots : List Slot}
    (hgroups : groups.Represents interval slots) :
    (accumulateMinute groups row.bucketStart row.payload start stop interval).Represents interval
      (slots ++ inWindow start stop row.payload.slots) := by
  rw [accumulateMinute]
  split_ifs with hwhole
  · by_cases hne : row.payload.values = []
    · simpa [wholeMinute, hne, MinutePayload.slots, inWindow] using hgroups
    · rw [wholeMinute_eq h groups _ hne]
      exact h.represents_whole hinterval hwhole.1 hgroups hne fun group l hrep =>
        hrep.absorbSlots _
  · refine foldl_slots (fun group l v hrep => ?_) row.payload.values hgroups
    rw [addSlot_eq]
    exact hrep.absorbSlots _

/-- The slots of a range, row by row. -/
def rangeSlots (rows : List EdgeV2Minute) (start stop : ℤ) : List Slot :=
  rows.flatMap fun row => inWindow start stop row.payload.slots

/-- A reader that adds items one by one. -/
theorem foldl_represents {α : Type*} {interval : ℤ} {added : α → List Slot}
    {step : Groups → α → Groups} (items : List α)
    (hstep : ∀ item ∈ items, ∀ {groups : Groups} {slots : List Slot},
      groups.Represents interval slots →
        (step groups item).Represents interval (slots ++ added item))
    {groups : Groups} {slots : List Slot} (h : groups.Represents interval slots) :
    (items.foldl step groups).Represents interval (slots ++ items.flatMap added) := by
  induction items generalizing groups slots with
  | nil => simpa using h
  | cons item items ih =>
    rw [List.foldl_cons, List.flatMap_cons, ← List.append_assoc]
    exact ih (fun i hi => hstep i (List.mem_cons_of_mem _ hi)) (hstep item List.mem_cons_self h)

theorem legacy_represents {pages : List (List EdgeV2Minute)}
    (hwritten : ∀ row ∈ pages.flatten, Located row) (start stop : ℤ) {interval : ℤ}
    (hinterval : 60 ∣ interval) :
    (legacyStreamGroups pages start stop interval).Represents interval
      (rangeSlots pages.flatten start stop) := by
  rw [legacyStreamGroups, ← List.foldl_flatten]
  rw [← List.nil_append (rangeSlots pages.flatten start stop)]
  exact foldl_represents pages.flatten
    (fun row hrow _ _ h => accumulateMinute_represents (hwritten row hrow) hinterval h)
    (Groups.represents_nil interval)

theorem rangeSlots_perm {rows rows' : List EdgeV2Minute} (h : rows.Perm rows') (start stop : ℤ) :
    (rangeSlots rows start stop).Perm (rangeSlots rows' start stop) :=
  h.flatMap_right _

/-- A range of one device has no two slots of one time. -/
theorem rangeSlots_time_inj {store : EdgeV2Minutes} {source : MonitoringSource}
    (hwritten : ∀ row ∈ store.rows, Located row) {start stop : ℤ} :
    ∀ a ∈ rangeSlots (store.between source start stop) start stop,
      ∀ b ∈ rangeSlots (store.between source start stop) start stop, a.time = b.time → a = b := by
  have hmem : ∀ a ∈ rangeSlots (store.between source start stop) start stop,
      a ∈ (store.ofSource source).flatMap fun row => row.payload.slots := by
    intro a ha
    obtain ⟨row, hrow, ha⟩ := List.mem_flatMap.1 ha
    exact List.mem_flatMap.2 ⟨row, (List.mem_filter.1 hrow).1, (List.mem_filter.1 ha).1⟩
  exact fun a ha b hb => slots_time_inj hwritten source a (hmem a ha) b (hmem b hb)

/-- Slots in another order have the same tallies. -/
theorem tallies_range {store : EdgeV2Minutes} {source : MonitoringSource}
    (hwritten : ∀ row ∈ store.rows, Located row) {start stop : ℤ} (interval : ℤ) {slots : List Slot}
    (h : slots.Perm (rangeSlots (store.between source start stop) start stop)) :
    tallies interval slots =
      tallies interval (rangeSlots (store.between source start stop) start stop) :=
  (tallies_perm h.symm (rangeSlots_time_inj hwritten)).symm

/-- **The points of the history are those of the tallies of the slots of the range**, whatever the
pages and the order in which the rows were read. -/
theorem legacy_result_eq {store : EdgeV2Minutes} {source : MonitoringSource}
    {start stop interval : ℤ} (hinterval : 60 ∣ interval)
    (hwritten : ∀ row ∈ store.rows, Located row) {pages : List (List EdgeV2Minute)}
    (hpages : pages.flatten.Perm (store.between source start stop)) :
    compactResult (legacyStreamGroups pages start stop interval) start stop =
      compactResult (tallies interval
        (rangeSlots (store.between source start stop) start stop)) start stop := by
  have hrows : ∀ row ∈ pages.flatten, Located row := by
    intro row hrow
    exact hwritten row (List.mem_filter.1 (List.mem_filter.1 (hpages.mem_iff.1 hrow)).1).1
  rw [(legacy_represents hrows start stop hinterval).result_eq,
    tallies_range hwritten interval (rangeSlots_perm hpages start stop)]

end ScrapMonitoring.History
