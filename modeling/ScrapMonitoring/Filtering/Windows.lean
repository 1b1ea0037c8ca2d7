import ScrapMonitoring.Filtering.Slots
import ScrapMonitoring.Foundations.Lasts

/-!
# The selected samples

What `observationSlots` keeps of samples in the order of time: of those in the window, the last one
of each slot, and of these the newest (`pick_observationSlots`). From this follow the facts that
every reader of a window uses: the samples are in the order of time and at most as many as the
window has slots, and a window that is full spans almost all of its slots (`full_span`).
-/

namespace ScrapMonitoring.Filtering

variable {α : Type*}

/-! ## Sorted slots -/

theorem setSlot_append {slot : ℤ} {index : ℕ} {slots slots' : List (ℤ × ℕ)}
    (h : ∀ entry ∈ slots, entry.1 ≠ slot) :
    setSlot slot index (slots ++ slots') = slots ++ setSlot slot index slots' := by
  induction slots with
  | nil => rfl
  | cons entry rest ih =>
    rw [List.cons_append, setSlot, if_neg (h entry List.mem_cons_self),
      ih fun other hother => h other (List.mem_cons_of_mem entry hother), List.cons_append]

/-- **The dictionary of slots, of observations in the order of time.** -/
theorem slotsOf_eq_lasts {anchor : ℤ} {current : List (ℤ × ℕ)}
    (h : current.Pairwise fun a b => slotOf anchor a.1 ≤ slotOf anchor b.1) :
    slotsOf anchor current =
      (lasts (fun entry => slotOf anchor entry.1) current).map
        fun entry => (slotOf anchor entry.1, entry.2) := by
  induction current using List.reverseRecOn with
  | nil => rfl
  | append_singleton current entry ih =>
    obtain ⟨hcurrent, -, hlast⟩ := List.pairwise_append.1 h
    rw [slotsOf_concat, ih hcurrent]
    have hlt := pairwise_lasts hcurrent
    cases current using List.reverseRecOn with
    | nil => rfl
    | append_singleton rest last _ =>
      have hle : slotOf anchor last.1 ≤ slotOf anchor entry.1 :=
        hlast last (by simp) entry List.mem_cons_self
      by_cases hslot : slotOf anchor last.1 = slotOf anchor entry.1
      · obtain ⟨kept, hkept, hkept'⟩ :=
          lasts_concat_of_eq (fun entry : ℤ × ℕ => slotOf anchor entry.1) rest hslot
        rw [hkept] at hlt
        rw [hkept, hkept', List.map_append, setSlot_append]
        · simp [setSlot, hslot]
        · intro other hother
          obtain ⟨sample, hsample, rfl⟩ := List.mem_map.1 hother
          have hbefore := (List.pairwise_append.1 hlt).2.2 sample hsample last List.mem_cons_self
          exact ne_of_lt (hslot ▸ hbefore)
      · have hbefore :
            ∀ sample ∈ rest ++ [last], slotOf anchor sample.1 < slotOf anchor entry.1 := by
          intro sample hsample
          refine lt_of_le_of_lt ?_ (lt_of_le_of_ne hle hslot)
          rcases List.mem_append.1 hsample with hsample | hsample
          · exact (List.pairwise_append.1 hcurrent).2.2 sample hsample last List.mem_cons_self
          · rw [List.mem_singleton.1 hsample]
        rw [lasts_concat_of_ne (fun entry : ℤ × ℕ => slotOf anchor entry.1) rest hslot,
          List.map_append, ← List.append_nil (List.map _ (lasts _ (rest ++ [last]))),
          setSlot_append]
        · simp [setSlot]
        · intro other hother
          obtain ⟨sample, hsample, rfl⟩ := List.mem_map.1 hother
          exact ne_of_lt (hbefore sample ((lasts_sublist _ _).mem hsample))

/-! ## The samples that are kept -/

/-- The samples of the window that ends now. -/
def recent (time : α → ℤ) (now : ℤ) (size : ℕ) (samples : List α) : List α :=
  samples.filter fun sample => 0 ≤ now - time sample ∧ now - time sample < seconds size

theorem recent_sublist (time : α → ℤ) (now : ℤ) (size : ℕ) (samples : List α) :
    (recent time now size samples).Sublist samples := List.filter_sublist

/-- The newest entries. -/
def newest (size : ℕ) (l : List α) : List α := l.drop (l.length - size)

theorem slotOf_mono {anchor : ℤ} {t t' : ℤ} (h : t ≤ t') : slotOf anchor t ≤ slotOf anchor t' := by
  unfold slotOf
  omega

theorem pick_zipIdx {samples : List α} {entries : List (α × ℕ)}
    (h : entries.Sublist samples.zipIdx) :
    pick samples (entries.map Prod.snd) = entries.map Prod.fst := by
  have hall : ∀ entry ∈ entries, samples[entry.2]? = some entry.1 := fun entry hentry =>
    List.mem_zipIdx_iff_getElem?.1 (h.mem hentry)
  clear h
  induction entries with
  | nil => rfl
  | cons entry rest ih =>
    have hrest := ih fun other hother => hall other (List.mem_cons_of_mem entry hother)
    unfold pick at hrest ⊢
    rw [List.map_cons, List.filterMap_cons_some (hall entry List.mem_cons_self), hrest,
      List.map_cons]

/-- The selected positions, in terms of the anchor that is selected. -/
theorem observationSlots_fst (times : List ℤ) (now : ℤ) (size : ℕ) (anchor : Option ℤ) :
    (observationSlots times now size anchor).1 = newest size ((slotsOf
      (observationSlots times now size anchor).2 (inWindow times now size)).map Prod.snd) := by
  unfold observationSlots
  cases inWindow times now size with
  | nil => simp [newest, slotsOf]
  | cons first rest => rfl

theorem map_newest {β : Type*} (f : α → β) (size : ℕ) (l : List α) :
    (newest size l).map f = newest size (l.map f) := by
  simp [newest, List.map_drop]

theorem newest_sublist (size : ℕ) (l : List α) : (newest size l).Sublist l := List.drop_sublist _ l

/-- **What is kept**: of the samples in the window the last one of each slot, and of these the
newest. -/
theorem pick_observationSlots {time : α → ℤ} {samples : List α} {now : ℤ} {size : ℕ}
    {anchor : Option ℤ} (hsorted : samples.Pairwise fun a b => time a ≤ time b) :
    pick samples (observationSlots (samples.map time) now size anchor).1 =
      newest size (lasts (fun sample => slotOf
        (observationSlots (samples.map time) now size anchor).2 (time sample))
        (recent time now size samples)) := by
  generalize hanchor : (observationSlots (samples.map time) now size anchor).2 = anchor'
  obtain ⟨entries, hentries⟩ : ∃ entries, entries = samples.zipIdx.filter fun entry =>
    0 ≤ now - time entry.1 ∧ now - time entry.1 < seconds size := ⟨_, rfl⟩
  have hsublist : entries.Sublist samples.zipIdx := by
    rw [hentries]
    exact List.filter_sublist
  have hwindow : inWindow (samples.map time) now size = entries.map (Prod.map time id) := by
    rw [hentries]
    unfold inWindow
    rw [List.zipIdx_map, List.filter_map]
    rfl
  have hrecent : recent time now size samples = entries.map Prod.fst := by
    have hfst : samples = samples.zipIdx.map Prod.fst := (List.zipIdx_map_fst 0 samples).symm
    rw [hentries]
    unfold recent
    conv_lhs => rw [hfst]
    rw [List.filter_map]
    rfl
  have hpairwise : entries.Pairwise fun a b =>
      slotOf anchor' (time a.1) ≤ slotOf anchor' (time b.1) := by
    have hzip : (samples.zipIdx.map Prod.fst).Pairwise fun a b => time a ≤ time b := by
      rw [List.zipIdx_map_fst]
      exact hsorted
    rw [List.pairwise_map] at hzip
    exact (hzip.sublist hsublist).imp fun h => slotOf_mono h
  have hslots : slotsOf anchor' (entries.map (Prod.map time id)) =
      (lasts (fun entry => slotOf anchor' (time entry.1)) entries).map
        fun entry => (slotOf anchor' (time entry.1), entry.2) := by
    rw [slotsOf_eq_lasts (List.pairwise_map.2 hpairwise)]
    have hmap := map_lasts (fun entry : ℤ × ℕ => slotOf anchor' entry.1) (Prod.map time id) entries
    rw [← hmap, List.map_map]
    rfl
  have hlasts := map_lasts (fun sample => slotOf anchor' (time sample)) Prod.fst entries
  have hkept : (newest size (lasts (fun entry => slotOf anchor' (time entry.1)) entries)).Sublist
      samples.zipIdx :=
    (newest_sublist size _).trans ((lasts_sublist _ entries).trans hsublist)
  rw [observationSlots_fst, hanchor, hwindow, hslots, List.map_map, ← map_newest]
  calc pick samples ((newest size (lasts _ entries)).map Prod.snd)
      = (newest size (lasts (fun entry => slotOf anchor' (time entry.1)) entries)).map Prod.fst :=
        pick_zipIdx hkept
    _ = newest size
      (lasts (fun sample => slotOf anchor' (time sample)) (entries.map Prod.fst)) := by
        rw [map_newest, ← hlasts]
        rfl
    _ = _ := by rw [hrecent]

/-! ## Increasing slots -/

section

variable {key : α → ℤ} {l : List α} {a b : α} {size : ℕ}

/-- Increasing slots are as many as their range has place for. -/
theorem length_le_of_increasing (key : α → ℤ) (h : l.Pairwise fun a b => key a < key b)
    (ha : l.head? = some a) (hb : l.getLast? = some b) : (l.length : ℤ) ≤ key b - key a + 1 := by
  induction l generalizing a with
  | nil => cases ha
  | cons c l ih =>
    obtain rfl := Option.some.inj ha
    obtain ⟨hlt, htail⟩ := List.pairwise_cons.1 h
    cases l with
    | nil =>
      obtain rfl := Option.some.inj hb
      simp
    | cons d l =>
      rw [List.getLast?_cons_cons] at hb
      have hle := ih htail rfl hb
      have hcd := hlt d List.mem_cons_self
      rw [List.length_cons]
      push_cast
      omega

theorem length_newest (size : ℕ) (l : List α) : (newest size l).length = min size l.length := by
  rw [newest, List.length_drop]
  omega

theorem getLast?_newest (hsize : 0 < size) (l : List α) :
    (newest size l).getLast? = l.getLast? := by
  rw [newest, List.getLast?_drop]
  by_cases hl : l = []
  · simp [hl]
  · have hpos := List.length_pos_of_ne_nil hl
    rw [if_neg (by omega)]

end

/-! ## A window with a new sample -/

/-- The longest time between two observations of one window, a second and a half. -/
def gapLimit : ℤ := 1500000

/-- The window of the samples and a new one, and its anchor. -/
def slide (time : α → ℤ) (size : ℕ) (samples : List α) (anchor : Option ℤ) (new : α) : List α × ℤ :=
  let candidates := samples ++ [new]
  let selection := observationSlots (candidates.map time) (time new) size anchor
  (pick candidates selection.1, selection.2)

section

variable {time : α → ℤ} {size : ℕ} {samples : List α} {anchor : Option ℤ} {new : α}

/-- The samples are in the order of time. -/
def Chronological (time : α → ℤ) (l : List α) : Prop := l.Pairwise fun a b => time a < time b

theorem chronological_concat : Chronological time (samples ++ [new]) ↔
    Chronological time samples ∧ ∀ sample ∈ samples, time sample < time new := by
  unfold Chronological
  rw [List.pairwise_append]
  simp

theorem slide_fst (h : Chronological time (samples ++ [new])) :
    (slide time size samples anchor new).1 =
      newest size (lasts (fun sample => slotOf (slide time size samples anchor new).2 (time sample))
        (recent time (time new) size (samples ++ [new]))) :=
  pick_observationSlots (h.imp le_of_lt)

theorem recent_concat (hsize : 0 < size) : recent time (time new) size (samples ++ [new]) =
    recent time (time new) size samples ++ [new] := by
  have hpos : 0 < seconds size := seconds_pos (by exact_mod_cast hsize)
  unfold recent
  rw [List.filter_append]
  simp [hpos]

/-- The slots of the samples in the window, from an anchor on. -/
theorem pairwise_slots (size : ℕ) (h : Chronological time (samples ++ [new])) (anchor : ℤ) :
    (lasts (fun sample => slotOf anchor (time sample))
      (recent time (time new) size (samples ++ [new]))).Pairwise
        fun a b => slotOf anchor (time a) < slotOf anchor (time b) := by
  refine pairwise_lasts ?_
  have hrecent := h.sublist (recent_sublist time (time new) size (samples ++ [new]))
  exact hrecent.imp fun hlt => slotOf_mono (le_of_lt hlt)

/-- **What a window is**: samples of it and the new one, in the order of time, one of each slot, the
last of which is new. -/
structure Selected (time : α → ℤ) (size : ℕ) (anchor : ℤ) (l : List α) (new : α) : Prop where
  last : l.getLast? = some new
  length_le : l.length ≤ size
  recent : ∀ sample ∈ l, time sample ≤ time new ∧ time new - time sample < seconds size
  slots : l.Pairwise fun a b => slotOf anchor (time a) < slotOf anchor (time b)

theorem slide_sublist (h : Chronological time (samples ++ [new])) :
    (slide time size samples anchor new).1.Sublist (samples ++ [new]) := by
  rw [slide_fst h]
  exact (newest_sublist _ _).trans ((lasts_sublist _ _).trans List.filter_sublist)

theorem slide_selected (hsize : 0 < size) (h : Chronological time (samples ++ [new])) :
    Selected time size (slide time size samples anchor new).2
      (slide time size samples anchor new).1 new := by
  have hslots := pairwise_slots size h (slide time size samples anchor new).2
  have hsublist := (newest_sublist size (lasts (fun sample => slotOf
    (slide time size samples anchor new).2 (time sample))
      (recent time (time new) size (samples ++ [new]))))
  constructor
  · rw [slide_fst h, getLast?_newest hsize, getLast?_lasts, recent_concat hsize]
    simp
  · rw [slide_fst h, length_newest]
    exact min_le_left _ _
  · intro sample hsample
    rw [slide_fst h] at hsample
    have hmem := (lasts_sublist _ _).mem (hsublist.mem hsample)
    obtain ⟨-, hrange⟩ := List.mem_filter.1 hmem
    obtain ⟨hle, hlt⟩ := of_decide_eq_true hrange
    exact ⟨by omega, hlt⟩
  · rw [slide_fst h]
    exact hslots.sublist hsublist

/-- Slots that increase are of increasing times. -/
theorem Selected.chronological {anchor : ℤ} {l : List α} (h : Selected time size anchor l new) :
    Chronological time l :=
  h.slots.imp fun hlt => by
    by_contra hle
    exact absurd hlt (not_lt.2 (slotOf_mono (not_lt.1 hle)))

/-- **A full window spans almost all of its slots.** -/
theorem Selected.full_span {anchor : ℤ} {l : List α} {first : α}
    (h : Selected time size anchor l new) (hfull : l.length = size)
    (hfirst : l.head? = some first) :
    seconds (size - 2) < time new - time first := by
  have hlength :=
    length_le_of_increasing (fun sample => slotOf anchor (time sample)) h.slots hfirst h.last
  unfold slotOf at hlength
  unfold seconds
  rw [hfull] at hlength
  omega

end

end ScrapMonitoring.Filtering
