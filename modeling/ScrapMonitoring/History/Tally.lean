import ScrapMonitoring.Foundations.Extrema
import ScrapMonitoring.Foundations.Newest
import ScrapMonitoring.Foundations.Sketch
import ScrapMonitoring.History.Minute
import Mathlib.Algebra.BigOperators.Group.List.Basic

/-!
# What a group says of the slots of its bucket

`tally` is the exact statistics of a list of slots: the sums and extrema, all the sources and
methods of the valid slots, and the newest slot. The readers keep less: of the sources and methods
a sketch. A group `Represents` the slots it has been made of, and that is enough for its point of
the history to be that of the tally (`Represents.point_eq`).

Every reader builds its groups by absorbing parts, a slot or a minute at a time
(`Represents.absorb`), so that a dictionary of groups represents the slots of the range.
-/

namespace ScrapMonitoring.History

/-- An observed second. -/
structure Slot where
  stamp : ℤ
  time : ℤ
  value : Option ℚ
  last : Fields
  source : String
  method : Option String

def Slot.lastSlot (slot : Slot) : LastSlot :=
  ⟨slot.time, slot.value, slot.last, .str slot.source, (slot.method.map Json.str).getD .null⟩

def MinutePayload.slot (payload : MinutePayload) (v : ℤ × Option ℚ) : Slot where
  stamp := v.1
  time := (slotTime v.1 payload.metadata).1
  value := v.2
  last := ((slotTime v.1 payload.metadata).2.getD payload.last).fields
  source := payload.slotSource v.1
  method := payload.slotMethod v.1

def MinutePayload.slots (payload : MinutePayload) : List Slot := payload.values.map payload.slot

/-! ## The tally -/

def validValues (slots : List Slot) : List ℚ := slots.filterMap Slot.value

def inputSources (slots : List Slot) : List String :=
  (slots.filter fun slot => slot.value.isSome).map Slot.source

def methodVersions (slots : List Slot) : List String :=
  (slots.filter fun slot => slot.value.isSome).filterMap Slot.method

/-- The statistics of the slots. -/
def tally (slots : List Slot) : Group where
  total := (validValues slots).sum
  count := (validValues slots).length
  invalid := slots.countP fun slot => slot.value.isNone
  minimum := (validValues slots).min?
  maximum := (validValues slots).max?
  sources := (inputSources slots).toFinset
  methods := (methodVersions slots).toFinset
  simulated := slots.any fun slot => isSimulation slot.method
  lastSlot := (lastMax Slot.time slots).map Slot.lastSlot

theorem validValues_append (l l' : List Slot) :
    validValues (l ++ l') = validValues l ++ validValues l' := List.filterMap_append

theorem sources_append (l l' : List Slot) :
    (tally (l ++ l')).sources = (tally l).sources ∪ (tally l').sources := by
  simp [tally, inputSources]

theorem methods_append (l l' : List Slot) :
    (tally (l ++ l')).methods = (tally l).methods ∪ (tally l').methods := by
  simp [tally, methodVersions]

theorem lastSlot_append (l l' : List Slot) :
    (tally (l ++ l')).lastSlot =
      ((tally l').lastSlot.map (later (tally l).lastSlot)).getD (tally l).lastSlot := by
  simp only [tally, lastMax_append]
  cases lastMax Slot.time l' with
  | none => rfl
  | some r =>
    cases lastMax Slot.time l with
    | none => rfl
    | some c => by_cases h : c.time ≤ r.time <;> simp [h, Slot.lastSlot, later]

theorem tally_perm {l l' : List Slot} (h : l.Perm l')
    (hinj : ∀ a ∈ l, ∀ b ∈ l, a.time = b.time → a = b) : tally l = tally l' := by
  have hvalid : (validValues l).Perm (validValues l') := h.filterMap _
  have hsources : (inputSources l).Perm (inputSources l') := (h.filter _).map _
  have hmethods : (methodVersions l).Perm (methodVersions l') := (h.filter _).filterMap _
  unfold tally
  rw [hvalid.sum_eq, hvalid.length_eq, h.countP_eq, min?_perm hvalid, max?_perm hvalid,
    List.toFinset_eq_of_perm _ _ hsources, List.toFinset_eq_of_perm _ _ hmethods, h.any_eq,
    lastMax_perm h hinj]

/-! ## Groups that represent slots -/

/-- The group has been made of the slots: it has their statistics, and tells of their sources and
methods whether there are several. -/
structure Represents (group : Group) (slots : List Slot) : Prop where
  total : group.total = (tally slots).total
  count : group.count = (tally slots).count
  invalid : group.invalid = (tally slots).invalid
  minimum : group.minimum = (tally slots).minimum
  maximum : group.maximum = (tally slots).maximum
  sources : Sketch group.sources (tally slots).sources (group.mixed = true)
  methods : Sketch group.methods (tally slots).methods (group.mixed = true)
  mixed : group.mixed = true → (tally slots).isMixed = true
  simulated : group.simulated = (tally slots).simulated
  lastSlot : group.lastSlot = (tally slots).lastSlot

theorem represents_tally (slots : List Slot) : Represents (tally slots) slots :=
  ⟨rfl, rfl, rfl, rfl, rfl, Sketch.refl _ _, Sketch.refl _ _, fun h => absurd h (by simp [tally]),
    rfl, rfl⟩

theorem represents_nil : Represents {} [] := represents_tally []

theorem isMixed_iff {group : Group} :
    group.isMixed = true ↔
      group.mixed = true ∨ 1 < group.sources.card ∨ 1 < group.methods.card := by
  simp [Group.isMixed, or_assoc]

theorem Represents.isMixed_eq {group : Group} {slots : List Slot} (h : Represents group slots) :
    group.isMixed = (tally slots).isMixed := by
  rw [Bool.eq_iff_iff]
  constructor
  · rw [isMixed_iff]
    rintro (hmixed | hcard | hcard)
    · exact h.mixed hmixed
    · exact isMixed_iff.2 (Or.inr (Or.inl (hcard.trans_le (Finset.card_le_card h.sources.subset))))
    · exact isMixed_iff.2 (Or.inr (Or.inr (hcard.trans_le (Finset.card_le_card h.methods.subset))))
  · rw [isMixed_iff, isMixed_iff]
    rintro (hmixed | hcard | hcard)
    · exact absurd hmixed (by simp [tally])
    · exact (h.sources.many hcard).imp_right Or.inl
    · exact (h.methods.many hcard).imp_right Or.inr

/-- **A group that represents slots has the point of their tally.** -/
theorem Represents.point_eq {group : Group} {slots : List Slot} (h : Represents group slots)
    (start stop : ℤ) : group.point start stop = (tally slots).point start stop := by
  unfold Group.point
  rw [h.lastSlot, h.isMixed_eq, h.count, h.total, h.invalid, h.minimum, h.maximum, h.simulated]
  cases hmixed : (tally slots).isMixed with
  | true => simp only [if_true]
  | false =>
    have hno : ¬ (group.mixed = true ∨ 1 < group.sources.card ∨ 1 < group.methods.card) := by
      rw [← isMixed_iff, h.isMixed_eq, hmixed]
      simp
    simp only [not_or] at hno
    rw [h.sources.eq hno.1 hno.2.1, h.methods.eq hno.1 hno.2.2]

/-! ## Absorbing a part -/

theorem adds_foldl_distinct (l : List String) (kept : Finset String) :
    Adds kept l.toFinset (l.foldl distinct kept) := by
  induction l generalizing kept with
  | nil => simpa using Adds.union kept ∅
  | cons a l ih =>
    obtain ⟨hkept, hsub, hnew⟩ := ih (distinct kept a)
    rw [List.foldl_cons, List.toFinset_cons]
    by_cases hcard : kept.card < 2
    · rw [distinct, if_pos hcard] at hkept hsub hnew ⊢
      refine ⟨(Finset.subset_insert _ _).trans hkept, hsub.trans ?_, hnew.imp_left fun h => ?_⟩
      · rw [Finset.insert_union, Finset.union_insert]
      · exact Finset.insert_subset (hkept (Finset.mem_insert_self _ _)) h
    · rw [distinct, if_neg hcard] at hkept hsub hnew ⊢
      refine ⟨hkept, hsub.trans (Finset.union_subset_union_right (Finset.subset_insert _ _)),
        Or.inr ?_⟩
      have hle := Finset.card_le_card hkept
      omega

/-- The group after a part, with the sources and methods that are kept of both. -/
def Group.absorb (group part : Group) (sources methods : Finset String) : Group :=
  { group.stats part.count part.invalid part.total part.minimum part.maximum with
    sources := sources
    methods := methods
    mixed := group.mixed || part.mixed
    simulated := group.simulated || part.simulated
    lastSlot := (part.lastSlot.map (later group.lastSlot)).getD group.lastSlot }

theorem isMixed_append_left {l : List Slot} (l' : List Slot) (h : (tally l).isMixed = true) :
    (tally (l ++ l')).isMixed = true := by
  rw [isMixed_iff, sources_append, methods_append]
  rcases isMixed_iff.1 h with h | h | h
  · exact absurd h (by simp [tally])
  · exact Or.inr (Or.inl (h.trans_le (Finset.card_le_card Finset.subset_union_left)))
  · exact Or.inr (Or.inr (h.trans_le (Finset.card_le_card Finset.subset_union_left)))

theorem isMixed_append_right (l : List Slot) {l' : List Slot} (h : (tally l').isMixed = true) :
    (tally (l ++ l')).isMixed = true := by
  rw [isMixed_iff, sources_append, methods_append]
  rcases isMixed_iff.1 h with h | h | h
  · exact absurd h (by simp [tally])
  · exact Or.inr (Or.inl (h.trans_le (Finset.card_le_card Finset.subset_union_right)))
  · exact Or.inr (Or.inr (h.trans_le (Finset.card_le_card Finset.subset_union_right)))

/-- A running extremum is changed by no part without valid slots. -/
theorem merge_extremum {f : ℚ → ℚ → ℚ} {count : ℕ} {m : Option ℚ} (h : count = 0 → m = none)
    (o : Option ℚ) : (if count = 0 then o else o.merge f m) = o.merge f m := by
  split_ifs with h0
  · rw [h h0, Option.merge_none_right]
  · rfl

/-- **A group that absorbs a part represents the slots of both.** -/
theorem Represents.absorb {group part : Group} {l l' : List Slot} {sources methods : Finset String}
    (h : Represents group l) (h' : Represents part l')
    (hsources : Adds group.sources part.sources sources)
    (hmethods : Adds group.methods part.methods methods) :
    Represents (group.absorb part sources methods) (l ++ l') := by
  have hempty : part.count = 0 → validValues l' = [] := by
    intro h0
    rw [h'.count] at h0
    exact List.length_eq_zero_iff.1 h0
  have hmin : part.count = 0 → part.minimum = none := by
    intro h0
    simp [h'.minimum, tally, hempty h0]
  have hmax : part.count = 0 → part.maximum = none := by
    intro h0
    simp [h'.maximum, tally, hempty h0]
  have hmixed : (group.mixed || part.mixed) = true ↔ group.mixed = true ∨ part.mixed = true := by
    rw [Bool.or_eq_true]
  refine ⟨?_, ?_, ?_, ?_, ?_, ?_, ?_, ?_, ?_, ?_⟩
  · simp [Group.absorb, Group.stats, h.total, h'.total, tally, validValues_append]
  · simp [Group.absorb, Group.stats, h.count, h'.count, tally, validValues_append]
  · simp [Group.absorb, Group.stats, h.invalid, h'.invalid, tally]
  · simp only [Group.absorb, Group.stats]
    rw [merge_extremum hmin, h.minimum, h'.minimum]
    simp only [tally, validValues_append, min?_append]
  · simp only [Group.absorb, Group.stats]
    rw [merge_extremum hmax, h.maximum, h'.maximum]
    simp only [tally, validValues_append, max?_append]
  · rw [sources_append]
    exact (h.sources.union h'.sources hsources).imp hmixed.2
  · rw [methods_append]
    exact (h.methods.union h'.methods hmethods).imp hmixed.2
  · intro hm
    rcases hmixed.1 hm with hm | hm
    · exact isMixed_append_left l' (h.mixed hm)
    · exact isMixed_append_right l (h'.mixed hm)
  · simp [Group.absorb, h.simulated, h'.simulated, tally]
  · simp only [Group.absorb]
    rw [lastSlot_append, h.lastSlot, h'.lastSlot]

end ScrapMonitoring.History
