import ScrapMonitoring.Foundations.Dict
import ScrapMonitoring.History.Summary
import Mathlib.Algebra.BigOperators.Group.Finset.Basic

/-!
# Every second counts once

The points that are made of the rows of a device do not depend on the order and the pages in which
the rows were read, and every stored second of the range counts in one of them, that of its bucket
(`accumulation_conserves`).
-/

namespace ScrapMonitoring.History

/-! ## Points that are read -/

/-- The members of what is retained that a point needs. -/
def pointMembers : List String := ["observedAt", "assessmentId", "dataState", "reasonCodes"]

def Complete (fields : Fields) : Prop := ∀ key ∈ pointMembers, (fields.lookup key).isSome

instance (fields : Fields) : Decidable (Complete fields) :=
  inferInstanceAs (Decidable (∀ key ∈ pointMembers, _))

/-- A row as its writer leaves it: all that a point needs is retained. -/
structure WriterValid (row : EdgeV2Minute) : Prop extends Written row where
  last : Complete row.payload.last.fields
  metadata : ∀ entry ∈ row.payload.metadata, Complete entry.2.fields

/-- What the point of a slot reads is there. -/
structure Readable (fields : Fields) : Prop where
  complete : Complete fields
  generated : ((fields.lookup "generatedAt").bind instant?).isSome

section

variable {group : Group} {groups : Groups} {slot : LastSlot} {start stop interval : ℤ}
variable {slots : List Slot}

/-- The number of samples of a point. -/
def HistorySample.samples (sample : HistorySample) : ℕ :=
  sample.validSamples + sample.invalidSamples

/-- **The point of a group** counts all its samples. -/
theorem point_of_readable (hslot : group.lastSlot = some slot) (h : Readable slot.last)
    (start stop : ℤ) : ∃ time sample, group.point start stop = some (time, sample) ∧
      sample.samples = group.count + group.invalid := by
  obtain ⟨generated, hgenerated⟩ := Option.isSome_iff_exists.1 h.generated
  obtain ⟨observedAt, hobserved⟩ := Option.isSome_iff_exists.1 (h.complete "observedAt" (by decide))
  obtain ⟨assessmentId, hassessment⟩ :=
    Option.isSome_iff_exists.1 (h.complete "assessmentId" (by decide))
  obtain ⟨dataState, hstate⟩ := Option.isSome_iff_exists.1 (h.complete "dataState" (by decide))
  obtain ⟨reasonCodes, hreasons⟩ :=
    Option.isSome_iff_exists.1 (h.complete "reasonCodes" (by decide))
  unfold Group.point
  rw [hslot]
  simp only [Option.bind_eq_bind, Option.bind_some, hgenerated, hobserved, hassessment, hstate,
    hreasons]
  generalize (decide (start ≤ generated ∧ generated < stop ∧
    generated.tdiv 1000000 = slot.lastTime.tdiv 1000000)) = retained
  cases group.isMixed with
  | true =>
    cases retained <;> exact ⟨_, _, rfl, (Nat.zero_add _).trans (Nat.add_comm _ _)⟩
  | false =>
    cases retained <;> exact ⟨_, _, rfl, rfl⟩

/-! ## Buckets -/

/-- The number of samples of the point of a bucket. -/
def counted (result : ℤ → Option (Option (ℤ × HistorySample))) (bucket : ℤ) : ℕ :=
  match result bucket with
  | some (some (_, sample)) => sample.samples
  | _ => 0

/-- The point of a bucket counts the slots of the bucket, and there is one of every bucket with
slots. -/
theorem Groups.Represents.counted_eq (h : groups.Represents interval slots)
    (hreadable : ∀ slot ∈ slots, Readable slot.last) (start stop bucket : ℤ) :
    counted (compactResult groups start stop) bucket = (inBucket interval bucket slots).length ∧
      compactResult groups start stop bucket ≠ some none ∧
      (compactResult groups start stop bucket = none ↔ inBucket interval bucket slots = []) := by
  unfold counted compactResult
  rcases h bucket with ⟨hnone, hempty⟩ | ⟨group, hsome, hne, hrep⟩
  · rw [hnone, hempty]
    exact ⟨rfl, by simp, by simp⟩
  · obtain ⟨slot, hslot⟩ : ∃ slot, lastMax Slot.time (inBucket interval bucket slots) = some slot :=
      Option.ne_none_iff_exists'.1 fun hnil => hne (lastMax_eq_none.1 hnil)
    have hmem := List.mem_of_mem_filter (lastMax_mem hslot)
    have hlast : group.lastSlot = some slot.lastSlot := by
      rw [hrep.lastSlot]
      unfold tally
      rw [hslot]
      rfl
    obtain ⟨time, sample, hpoint, hsamples⟩ :=
      point_of_readable hlast (hreadable slot hmem) start stop
    have hle : (validValues (inBucket interval bucket slots)).length ≤
        (inBucket interval bucket slots).length := List.length_filterMap_le _ _
    rw [hsome, Option.map_some, hpoint]
    refine ⟨?_, by simp, by simp [hne]⟩
    dsimp only
    have hcount : (tally (inBucket interval bucket slots)).count =
        (validValues (inBucket interval bucket slots)).length := rfl
    rw [hsamples, hrep.count, hrep.invalid, invalid_eq, hcount]
    omega

/-- **The buckets have all the slots, each once.** -/
theorem sum_inBucket (interval : ℤ) (slots : List Slot) :
    ∑ bucket ∈ (slots.map fun slot => bucketOf interval slot.time).toFinset,
      (inBucket interval bucket slots).length = slots.length := by
  have hcount : ∀ bucket, (inBucket interval bucket slots).length =
      (slots.map fun slot => bucketOf interval slot.time).count bucket := by
    intro bucket
    rw [List.count_eq_countP, List.countP_map, inBucket, ← List.countP_eq_length_filter]
    rfl
  calc ∑ bucket ∈ (slots.map fun slot => bucketOf interval slot.time).toFinset,
        (inBucket interval bucket slots).length
      = ∑ bucket ∈ (slots.map fun slot => bucketOf interval slot.time).toFinset,
          (slots.map fun slot => bucketOf interval slot.time).count bucket :=
        Finset.sum_congr rfl fun bucket _ => hcount bucket
    _ = slots.length := by rw [List.sum_toFinset_count_eq_length, List.length_map]

theorem mem_buckets {bucket : ℤ} :
    bucket ∈ (slots.map fun slot => bucketOf interval slot.time).toFinset ↔
      inBucket interval bucket slots ≠ [] := by
  rw [List.mem_toFinset, List.mem_map, Ne, inBucket, List.filter_eq_nil_iff]
  simp

/-- The slots of a bucket are those of its seconds. -/
theorem inBucket_eq (hinterval : 0 < interval) (bucket : ℤ) (slots : List Slot) :
    inBucket interval bucket slots = slots.filter fun slot =>
      bucket * seconds interval ≤ slot.time ∧ slot.time < (bucket + 1) * seconds interval := by
  have hpos := seconds_pos hinterval
  refine List.filter_congr fun slot _ => decide_eq_decide.2 ?_
  unfold bucketOf
  rw [Int.ediv_eq_iff_of_pos hpos]
  constructor <;> rintro ⟨hle, hlt⟩ <;> exact ⟨by linarith, by linarith⟩

end

/-! ## Rows and pages -/

section

variable {rows : List EdgeV2Minute} {start stop interval : ℤ}

/-- The slots of the range are readable. -/
theorem readable_rangeSlots (hlast : ∀ row ∈ rows, Complete row.payload.last.fields)
    (hmetadata : ∀ row ∈ rows, ∀ entry ∈ row.payload.metadata, Complete entry.2.fields) :
    ∀ slot ∈ rangeSlots rows start stop, Readable slot.last := by
  intro slot hslot
  obtain ⟨row, hrow, hmem⟩ := List.mem_flatMap.1 hslot
  obtain ⟨v, -, rfl⟩ := List.mem_map.1 (List.mem_of_mem_filter hmem)
  have hretained : ∃ retained : Retained, Complete retained.fields ∧
      (row.payload.slot v).last = retained.fields := by
    simp only [MinutePayload.slot, slotTime]
    cases hlookup : row.payload.metadata.lookup v.1 with
    | none => exact ⟨_, hlast row hrow, rfl⟩
    | some retained =>
      have hcomplete := hmetadata row hrow _ (mem_of_lookup hlookup)
      dsimp only
      split_ifs
      · exact ⟨retained, hcomplete, rfl⟩
      · exact ⟨_, hlast row hrow, rfl⟩
  obtain ⟨retained, hcomplete, hfields⟩ := hretained
  rw [hfields]
  exact ⟨hcomplete, by rw [retained.parses]; rfl⟩

/-- The points of the tallies of the slots of the rows, in whatever order and pages these were
read. -/
theorem result_eq_tallies (hwritten : ∀ row ∈ rows, Located row)
    (hminutes : (rows.map EdgeV2Minute.bucketStart).Nodup) (hinterval : 60 ∣ interval)
    {pages : List (List EdgeV2Minute)} (hpages : pages.flatten.Perm rows) :
    compactResult (legacyStreamGroups pages start stop interval) start stop =
      compactResult (tallies interval (rangeSlots rows start stop)) start stop := by
  have hrows : ∀ row ∈ pages.flatten, Located row :=
    fun row hrow => hwritten row (hpages.mem_iff.1 hrow)
  have hinj : ∀ a ∈ rangeSlots rows start stop, ∀ b ∈ rangeSlots rows start stop,
      a.time = b.time → a = b := by
    have hmem : ∀ a ∈ rangeSlots rows start stop, a ∈ rows.flatMap fun row =>
        row.payload.slots := by
      intro a ha
      obtain ⟨row, hrow, ha⟩ := List.mem_flatMap.1 ha
      exact List.mem_flatMap.2 ⟨row, hrow, List.mem_of_mem_filter ha⟩
    intro a ha b hb
    exact time_inj hwritten (List.inj_on_of_nodup_map hminutes) a (hmem a ha) b (hmem b hb)
  rw [(legacy_represents hrows start stop hinterval).result_eq,
    tallies_perm (rangeSlots_perm hpages start stop) ?_]
  intro a ha b hb
  exact hinj a ((rangeSlots_perm hpages start stop).mem_iff.1 ha) b
    ((rangeSlots_perm hpages start stop).mem_iff.1 hb)

/-- **The accumulation of buckets** does not depend on the order and the pages of the rows, and
counts every stored second of the range in the one bucket that contains it. -/
theorem accumulation_conserves (hvalid : ∀ row ∈ rows, WriterValid row)
    (hminutes : (rows.map EdgeV2Minute.bucketStart).Nodup) (start stop : ℤ) (hpos : 0 < interval)
    (hinterval : 60 ∣ interval) {pages : List (List EdgeV2Minute)}
    (hpages : pages.flatten.Perm rows) :
    (∀ pages' : List (List EdgeV2Minute), pages'.flatten.Perm rows →
      compactResult (legacyStreamGroups pages' start stop interval) start stop =
        compactResult (legacyStreamGroups pages start stop interval) start stop) ∧
    (∀ bucket,
      counted (compactResult (legacyStreamGroups pages start stop interval) start stop) bucket =
      ((rangeSlots rows start stop).filter fun slot =>
        bucket * seconds interval ≤ slot.time ∧
        slot.time < (bucket + 1) * seconds interval).length) ∧
    ∃ buckets : Finset ℤ,
      (∀ bucket,
        compactResult (legacyStreamGroups pages start stop interval) start stop bucket ≠ some none ∧
        (bucket ∈ buckets ↔
          compactResult (legacyStreamGroups pages start stop interval) start stop bucket ≠ none)) ∧
      ∑ bucket ∈ buckets,
        counted (compactResult (legacyStreamGroups pages start stop interval) start stop) bucket =
          (rangeSlots rows start stop).length := by
  have hwritten : ∀ row ∈ rows, Located row := fun row hrow => (hvalid row hrow).located
  have hresult : ∀ pages' : List (List EdgeV2Minute), pages'.flatten.Perm rows →
      compactResult (legacyStreamGroups pages' start stop interval) start stop =
        compactResult (legacyStreamGroups pages start stop interval) start stop :=
    fun pages' hpages' =>
      (result_eq_tallies hwritten hminutes hinterval hpages').trans
        (result_eq_tallies hwritten hminutes hinterval hpages).symm
  have hflatten : ([rows] : List (List EdgeV2Minute)).flatten = rows := List.flatten_singleton
  have hrepresents : (legacyStreamGroups [rows] start stop interval).Represents interval
      (rangeSlots rows start stop) := by
    have hrows : ∀ row ∈ ([rows] : List (List EdgeV2Minute)).flatten, Located row := by
      rwa [hflatten]
    have hlegacy := legacy_represents hrows start stop hinterval
    rwa [hflatten] at hlegacy
  have hcounted :=
    hrepresents.counted_eq (readable_rangeSlots (fun row hrow => (hvalid row hrow).last)
      fun row hrow => (hvalid row hrow).metadata) start stop
  rw [hresult [rows] (List.Perm.of_eq hflatten)] at hcounted
  refine ⟨hresult, fun bucket => ?_,
    ((rangeSlots rows start stop).map fun slot => bucketOf interval slot.time).toFinset,
    fun bucket => ⟨(hcounted bucket).2.1, ?_⟩, ?_⟩
  · rw [(hcounted bucket).1, inBucket_eq hpos]
  · rw [Ne, (hcounted bucket).2.2, mem_buckets]
  · rw [Finset.sum_congr rfl fun bucket _ => (hcounted bucket).1, sum_inBucket]

end

/-! ## The rows of a store -/

theorem demoStore_valid : ∀ row ∈ demoStore.rows, WriterValid row := by
  have hcomplete : Complete demoRetained.fields := by decide
  intro row hrow
  refine { demoStore_written row hrow with last := ?_, metadata := ?_ }
  all_goals
    simp only [demoStore, List.mem_cons, List.not_mem_nil, or_false] at hrow
    rcases hrow with rfl | rfl
  · exact hcomplete
  · exact hcomplete
  · simpa [demoPayload] using hcomplete
  · simp

/-- The rows one by one, the last one first, and a range that ends in the second minute. -/
theorem accumulation_conserves_demo :
    (demoStore.rows.reverse.map fun row => [row]).flatten.Perm demoStore.rows ∧
      ∃ buckets : Finset ℤ, ∑ bucket ∈ buckets,
        counted (compactResult (legacyStreamGroups (demoStore.rows.reverse.map fun row => [row])
          1767225600000000 1767225690000000 60) 1767225600000000 1767225690000000) bucket = 3 := by
  have hpages : (demoStore.rows.reverse.map fun row => [row]).flatten.Perm demoStore.rows :=
    List.Perm.swap _ _ _
  obtain ⟨-, -, buckets, -, hsum⟩ := accumulation_conserves demoStore_valid (by decide)
    1767225600000000 1767225690000000 (by decide : (0 : ℤ) < 60) (by decide) hpages
  have hslots : (rangeSlots demoStore.rows 1767225600000000 1767225690000000).length = 3 := by
    decide +kernel
  exact ⟨hpages, buckets, hsum.trans hslots⟩

end ScrapMonitoring.History
