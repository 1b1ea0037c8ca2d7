import Mathlib.Algebra.Order.Field.Basic
import Mathlib.Algebra.Order.Ring.Rat
import Mathlib.Data.List.Chain
import Mathlib.Tactic.Linarith
import Mathlib.Tactic.NormNum
import ScrapMonitoring.Filtering.Windows

/-!
# Streams of observations

`slideAll` is the window of a stream of samples: every sample is added to what the window kept of
the ones before. Where the gaps of the stream are a second, up to an error whose sum over the window
is less than half a second, the window is the newest samples (`slideAll_of_paced`). Where they are
at most a second, the window of a stream that has lasted as long as the window is full at every
sample, if and only if it is full wherever its anchor is renewed (`full_iff_renewals`).
-/

namespace ScrapMonitoring.Filtering

variable {α : Type*}

/-- The window of the samples, and its anchor. -/
def slideAll (time : α → ℤ) (size : ℕ) (samples : List α) : List α × Option ℤ :=
  samples.foldl (fun window new => (slide time size window.1 window.2 new).map id some) ([], none)

section

variable {time : α → ℤ} {size : ℕ} {samples : List α} {anchor : Option ℤ} {new : α}

theorem slideAll_concat (time : α → ℤ) (size : ℕ) (samples : List α) (new : α) :
    slideAll time size (samples ++ [new]) =
      (slide time size (slideAll time size samples).1
        (slideAll time size samples).2 new).map id some := by
  rw [slideAll, List.foldl_append]
  rfl

theorem slideAll_sublist (h : Chronological time samples) :
    (slideAll time size samples).1.Sublist samples := by
  induction samples using List.reverseRecOn with
  | nil => exact List.Sublist.refl _
  | append_singleton samples new ih =>
    have hkept := (ih (chronological_concat.1 h).1).append (List.Sublist.refl [new])
    rw [slideAll_concat]
    exact (slide_sublist (h.sublist hkept)).trans hkept

/-- What the window kept, and the next sample, are in the order of time. -/
theorem chronological_kept (size : ℕ) (h : Chronological time (samples ++ [new])) :
    Chronological time ((slideAll time size samples).1 ++ [new]) :=
  h.sublist ((slideAll_sublist (chronological_concat.1 h).1).append (List.Sublist.refl [new]))

/-! ## The anchor -/

/-- The anchor is still in the window. -/
def Fresh (size : ℕ) (now anchor : ℤ) : Prop := 0 ≤ now - anchor ∧ now - anchor < seconds size

instance (size : ℕ) (now anchor : ℤ) : Decidable (Fresh size now anchor) :=
  inferInstanceAs (Decidable (_ ∧ _))

theorem map_inWindow (time : α → ℤ) (samples : List α) (now : ℤ) (size : ℕ) :
    (inWindow (samples.map time) now size).map Prod.fst =
      (recent time now size samples).map time := by
  have hfst : (samples.map time).zipIdx.map Prod.fst = samples.map time := List.zipIdx_map_fst 0 _
  calc (inWindow (samples.map time) now size).map Prod.fst
      = ((samples.map time).zipIdx.map Prod.fst).filter
          (fun t => 0 ≤ now - t ∧ now - t < seconds size) := by
        rw [List.filter_map]
        rfl
    _ = (recent time now size samples).map time := by
        rw [hfst, List.filter_map]
        rfl

/-- **The anchor of a window**: the one before while it is in the window, then the oldest sample
there. -/
theorem slide_snd (time : α → ℤ) (hsize : 0 < size) (samples : List α) (anchor : Option ℤ)
    (new : α) :
    ∃ first, (recent time (time new) size (samples ++ [new])).head? = some first ∧
      (slide time size samples anchor new).2 =
        (anchor.filter fun anchor => Fresh size (time new) anchor).getD (time first) := by
  have hmap := map_inWindow time (samples ++ [new]) (time new) size
  unfold slide observationSlots
  cases hrecent : recent time (time new) size (samples ++ [new]) with
  | nil =>
    rw [recent_concat hsize] at hrecent
    simp at hrecent
  | cons first rest =>
    rw [hrecent] at hmap
    cases hwindow : inWindow ((samples ++ [new]).map time) (time new) size with
    | nil =>
      rw [hwindow] at hmap
      cases hmap
    | cons entry entries =>
      rw [hwindow, List.map_cons, List.map_cons, List.cons.injEq] at hmap
      refine ⟨first, rfl, ?_⟩
      dsimp only
      rw [hwindow]
      dsimp only
      rw [hmap.1]
      rfl

/-- A fresh anchor is kept. -/
theorem slide_fresh {anchor : ℤ} (hsize : 0 < size) (h : Fresh size (time new) anchor) :
    (slide time size samples (some anchor) new).2 = anchor := by
  obtain ⟨first, -, hanchor⟩ := slide_snd time hsize samples (some anchor) new
  rw [hanchor, Option.filter_some, if_pos (decide_eq_true h)]
  rfl

/-- Any other anchor is renewed. -/
theorem slide_renewed (time : α → ℤ) (hsize : 0 < size) (samples : List α)
    (h : ∀ a, anchor = some a → ¬Fresh size (time new) a) :
    ∃ first, (recent time (time new) size (samples ++ [new])).head? = some first ∧
      (slide time size samples anchor new).2 = time first := by
  obtain ⟨first, hfirst, hanchor⟩ := slide_snd time hsize samples anchor new
  refine ⟨first, hfirst, ?_⟩
  have hnone : (anchor.filter fun a => Fresh size (time new) a) = none := by
    refine Option.filter_eq_none_iff.2 fun a ha => ?_
    rw [decide_eq_true_iff]
    exact h a ha
  rw [hanchor, hnone]
  rfl

/-! ## Gaps of a second -/

/-- The gaps are a second, up to the error. -/
def Paced (time : α → ℤ) (e : ℚ) (samples : List α) : Prop :=
  samples.IsChain fun a b =>
    (1 - e) * 1000000 ≤ time b - time a ∧ (time b - time a : ℚ) ≤ (1 + e) * 1000000

section

variable {e : ℚ} {a b : α} {l : List α}

/-- The errors of the gaps add up. -/
theorem Paced.drift_cons (h : Paced time e (a :: l)) {k : ℕ} (hb : l[k]? = some b) :
    ((k : ℚ) + 1) * ((1 - e) * 1000000) ≤ time b - time a ∧
      (time b - time a : ℚ) ≤ (k + 1) * ((1 + e) * 1000000) := by
  induction l generalizing a k with
  | nil => cases hb
  | cons c l ih =>
    obtain ⟨⟨hlow, hhigh⟩, htail⟩ := List.isChain_cons_cons.1 h
    cases k with
    | zero =>
      obtain rfl := Option.some.inj hb
      constructor <;> push_cast <;> linarith
    | succ k =>
      obtain ⟨hlow', hhigh'⟩ := ih htail hb
      constructor <;> push_cast <;> linarith

/-- The time between two samples of the stream. -/
theorem Paced.drift (h : Paced time e samples) {i j : ℕ} (hij : i < j) (ha : samples[i]? = some a)
    (hb : samples[j]? = some b) :
    ((j : ℚ) - i) * ((1 - e) * 1000000) ≤ time b - time a ∧
      (time b - time a : ℚ) ≤ (j - i) * ((1 + e) * 1000000) := by
  obtain ⟨hi, rfl⟩ := List.getElem?_eq_some_iff.1 ha
  have hdrop : samples.drop i = samples[i] :: samples.drop (i + 1) := List.drop_eq_getElem_cons hi
  have hchain : Paced time e (samples[i] :: samples.drop (i + 1)) := by
    rw [← hdrop]
    exact h.drop i
  have hindex : (samples.drop (i + 1))[j - i - 1]? = some b := by
    rw [List.getElem?_drop, ← hb]
    congr 1
    omega
  have hcast : ((j - i - 1 : ℕ) : ℚ) + 1 = j - i := by
    have hnat : j - i - 1 + 1 + i = j := by omega
    have hq : ((j - i - 1 : ℕ) : ℚ) + 1 + i = j := by exact_mod_cast hnat
    linarith
  have hdrift := hchain.drift_cons hindex
  rwa [hcast] at hdrift

theorem Paced.chronological (h : Paced time e samples) (he : e < 1) :
    Chronological time samples := by
  refine List.pairwise_iff_getElem.2 fun i j hi hj hij => ?_
  obtain ⟨hlow, -⟩ := h.drift hij (List.getElem?_eq_getElem hi) (List.getElem?_eq_getElem hj)
  have hpos : (0 : ℚ) < ((j : ℚ) - i) * ((1 - e) * 1000000) := by
    have hij' : (i : ℚ) < j := by exact_mod_cast hij
    have hgap : (0 : ℚ) < (1 - e) * 1000000 := by linarith
    exact mul_pos (by linarith) hgap
  have hlt : (time samples[i] : ℚ) < time samples[j] := by linarith
  exact_mod_cast hlt

/-- **Counted from a sample near by, the slot of a sample is its distance in the stream.** -/
theorem Paced.slotOf_eq (h : Paced time e samples) (he : 0 ≤ e) (hsum : size * e < 1 / 2) {i j : ℕ}
    (ha : samples[i]? = some a) (hb : samples[j]? = some b) (hij : i ≤ j + size)
    (hji : j ≤ i + size) :
    slotOf (time a) (time b) = (j : ℤ) - i := by
  have hbound : |(time b - time a : ℚ) - ((j : ℚ) - i) * 1000000| < 500000 := by
    rw [abs_lt]
    rcases lt_trichotomy i j with hlt | rfl | hlt
    · obtain ⟨hlow, hhigh⟩ := h.drift hlt ha hb
      have hj : (j : ℚ) - i ≤ size := by
        have hcast : (j : ℚ) ≤ i + size := by exact_mod_cast hji
        linarith
      have herror := mul_le_mul_of_nonneg_right hj he
      constructor <;> nlinarith
    · obtain rfl := Option.some.inj (ha.symm.trans hb)
      constructor <;> norm_num
    · obtain ⟨hlow, hhigh⟩ := h.drift hlt hb ha
      have hi : (i : ℚ) - j ≤ size := by
        have hcast : (i : ℚ) ≤ j + size := by exact_mod_cast hij
        linarith
      have herror := mul_le_mul_of_nonneg_right hi he
      constructor <;> nlinarith
  have hint : |(time b - time a) - ((j : ℤ) - i) * 1000000| < 500000 := by exact_mod_cast hbound
  rw [abs_lt] at hint
  unfold slotOf
  omega

theorem error_lt_half (hsize : 0 < size) (hsum : size * e < 1 / 2) : e < 1 / 2 := by
  have hone : (1 : ℚ) ≤ size := by exact_mod_cast hsize
  nlinarith

/-- A fresh anchor is near by. -/
theorem Paced.fresh_near (h : Paced time e samples) (hsum : size * e < 1 / 2) (hsize : 0 < size)
    {i j : ℕ} (ha : samples[i]? = some a) (hb : samples[j]? = some b)
    (hfresh : Fresh size (time b) (time a)) : j ≤ i + size := by
  by_contra hfar
  rw [not_le] at hfar
  obtain ⟨hlow, -⟩ := h.drift (by omega) ha hb
  have hdist : (size : ℚ) + 1 ≤ j - i := by
    have hcast : (i : ℚ) + size + 1 ≤ j := by exact_mod_cast hfar
    linarith
  have hsmall := error_lt_half hsize hsum
  have hlt : (time b - time a : ℚ) < size * 1000000 := by
    have hcast := hfresh.2
    unfold seconds at hcast
    exact_mod_cast hcast
  nlinarith

end

/-! ## The newest samples -/

theorem newest_eq_drop_of_le {size : ℕ} {l : List α} (h : l.length ≤ size) : newest size l = l := by
  rw [newest, Nat.sub_eq_zero_of_le h, List.drop_zero]

theorem newest_append_of_le {size : ℕ} {l l' : List α} (h : size ≤ l'.length) :
    newest size (l ++ l') = newest size l' := by
  have hsplit : (l ++ l').length - size = l.length + (l'.length - size) := by
    rw [List.length_append]
    omega
  rw [newest, newest, hsplit, ← List.drop_drop, List.drop_left]

/-- A filter that keeps the newest samples keeps them the newest. -/
theorem newest_filter {size : ℕ} {l : List α} {p : α → Bool} (h : ∀ a ∈ newest size l, p a) :
    newest size (l.filter p) = newest size l := by
  have hsplit : l = l.take (l.length - size) ++ newest size l := (List.take_append_drop _ l).symm
  have hnewest : (newest size l).filter p = newest size l := List.filter_eq_self.2 h
  have hfilter : l.filter p = (l.take (l.length - size)).filter p ++ newest size l := by
    conv_lhs => rw [hsplit]
    rw [List.filter_append, hnewest]
  have hlength := length_newest size l
  rw [hfilter]
  by_cases hle : size ≤ l.length
  · rw [newest_append_of_le (by omega), newest_eq_drop_of_le (by omega)]
  · have hnil : l.take (l.length - size) = [] := by
      rw [Nat.sub_eq_zero_of_le (by omega), List.take_zero]
    rw [hnil, List.filter_nil, List.nil_append, newest_eq_drop_of_le (by omega)]

theorem newest_concat (size : ℕ) (l : List α) (a : α) :
    newest size (newest size l ++ [a]) = newest size (l ++ [a]) := by
  unfold newest
  rw [← List.drop_append_of_le_length (Nat.sub_le l.length size), List.drop_drop]
  congr 1
  rw [List.length_drop, List.length_append]
  simp only [List.length_singleton]
  omega

section

variable {e : ℚ} {a b : α}

/-- The newest samples are in the window of the last one. -/
theorem Paced.recent_of_newest (h : Paced time e (samples ++ [new])) (hsize : 0 < size) (he : 0 ≤ e)
    (hsum : size * e < 1 / 2) (hb : b ∈ newest size (samples ++ [new])) :
    0 ≤ time new - time b ∧ time new - time b < seconds size := by
  have hnew : (samples ++ [new])[samples.length]? = some new := by simp
  obtain ⟨k, hk⟩ := List.mem_iff_getElem?.1 hb
  rw [newest, List.getElem?_drop, List.length_append, List.length_singleton] at hk
  generalize hindex : samples.length + 1 - size + k = i at hk
  have hlt : i < samples.length + 1 := by
    simpa using (List.getElem?_eq_some_iff.1 hk).1
  rcases Nat.lt_or_ge i samples.length with hbefore | hlast
  · obtain ⟨-, hhigh⟩ := h.drift hbefore hk hnew
    have hdist : (samples.length : ℚ) - i ≤ size - 1 := by
      have hcast : (samples.length : ℚ) + 1 ≤ i + size := by
        exact_mod_cast (by omega : samples.length + 1 ≤ i + size)
      linarith
    have hupper : (time new - time b : ℚ) < size * 1000000 := by nlinarith
    have hchronological := h.chronological (by linarith [error_lt_half hsize hsum])
    have hmem : b ∈ samples := by
      rw [List.getElem?_append_left hbefore] at hk
      exact List.mem_of_getElem? hk
    have hle := (chronological_concat.1 hchronological).2 b hmem
    unfold seconds
    exact ⟨by omega, by exact_mod_cast hupper⟩
  · obtain rfl : i = samples.length := by omega
    obtain rfl := Option.some.inj (hnew.symm.trans hk)
    rw [sub_self]
    exact ⟨le_rfl, seconds_pos (by exact_mod_cast hsize)⟩

/-- The samples of an end of the stream are in different slots of an anchor near by. -/
theorem Paced.slots_ne (h : Paced time e samples) (he : 0 ≤ e) (hsum : size * e < 1 / 2) {i d : ℕ}
    (ha : samples[i]? = some a) (hi : samples.length ≤ i + size + 1)
    (hd : samples.length ≤ d + size + 1) :
    (samples.drop d).Pairwise fun b c => slotOf (time a) (time b) ≠ slotOf (time a) (time c) := by
  have hlt := (List.getElem?_eq_some_iff.1 ha).1
  have hslot : ∀ (j : ℕ) (b : α), (samples.drop d)[j]? = some b →
      slotOf (time a) (time b) = (d + j : ℕ) - (i : ℤ) := by
    intro j b hb
    rw [List.getElem?_drop] at hb
    have hj := (List.getElem?_eq_some_iff.1 hb).1
    exact h.slotOf_eq he hsum ha hb (by omega) (by omega)
  refine List.pairwise_iff_getElem.2 fun j k hj hk hjk => ?_
  rw [hslot j _ (List.getElem?_eq_getElem hj), hslot k _ (List.getElem?_eq_getElem hk)]
  omega

/-- **The window of a paced stream is its newest samples**, counted from one of the stream. -/
theorem slideAll_of_paced (hsize : 0 < size) (he : 0 ≤ e) (hsum : size * e < 1 / 2)
    (h : Paced time e samples) :
    (slideAll time size samples).1 = newest size samples ∧
      ∀ anchor, (slideAll time size samples).2 = some anchor →
        ∃ (i : ℕ) (a : α), samples[i]? = some a ∧ anchor = time a := by
  induction samples using List.reverseRecOn with
  | nil => exact ⟨by simp [slideAll, newest], fun anchor hanchor => by cases hanchor⟩
  | append_singleton samples new ih =>
    obtain ⟨hkept, hanchors⟩ := ih (List.IsChain.left_of_append h)
    have hchronological := h.chronological (by linarith [error_lt_half hsize hsum])
    have hcandidates := chronological_kept size hchronological
    have hnew : (samples ++ [new])[samples.length]? = some new := by simp
    have hlength : (samples ++ [new]).length = samples.length + 1 := by simp
    rw [hkept] at hcandidates
    -- the candidates are an end of the stream
    have hdrop :
        newest size samples ++ [new] = (samples ++ [new]).drop (samples.length - size) := by
      rw [newest, List.drop_append_of_le_length (Nat.sub_le _ _)]
    obtain ⟨i, a, ha, hnear, hanchor⟩ : ∃ (i : ℕ) (a : α), (samples ++ [new])[i]? = some a ∧
        samples.length ≤ i + size ∧
        (slide time size (newest size samples) (slideAll time size samples).2 new).2 = time a := by
      by_cases hfresh : ∃ a, (slideAll time size samples).2 = some a ∧ Fresh size (time new) a
      · obtain ⟨anchor, hsome, hfresh⟩ := hfresh
        obtain ⟨i, a, ha, rfl⟩ := hanchors anchor hsome
        have hi : (samples ++ [new])[i]? = some a := by
          rw [List.getElem?_append_left (List.getElem?_eq_some_iff.1 ha).1, ha]
        rw [hsome]
        exact ⟨i, a, hi, h.fresh_near hsum hsize hi hnew hfresh, slide_fresh hsize hfresh⟩
      · obtain ⟨first, hfirst, hanchor⟩ := slide_renewed time hsize (newest size samples)
          fun a ha hf => hfresh ⟨a, ha, hf⟩
        have hmem : first ∈ newest size samples ++ [new] :=
          List.mem_of_mem_filter (List.mem_of_mem_head? hfirst)
        rw [hdrop] at hmem
        obtain ⟨j, hj⟩ := List.mem_iff_getElem?.1 hmem
        rw [List.getElem?_drop] at hj
        exact ⟨_, first, hj, by omega, hanchor⟩
    rw [slideAll_concat, hkept]
    refine ⟨?_, fun anchor' hanchor' => ⟨i, a, ha, (Option.some.inj hanchor').symm.trans hanchor⟩⟩
    have hne : (newest size samples ++ [new]).Pairwise fun b c =>
        slotOf (time a) (time b) ≠ slotOf (time a) (time c) := by
      rw [hdrop]
      exact h.slots_ne he hsum ha (by omega) (by omega)
    have hrecent : ∀ b ∈ newest size (newest size samples ++ [new]),
        (decide (0 ≤ time new - time b ∧ time new - time b < seconds size)) = true := by
      intro b hb
      rw [newest_concat] at hb
      exact decide_eq_true (h.recent_of_newest hsize he hsum hb)
    calc (slide time size (newest size samples) (slideAll time size samples).2 new).1
        = newest size (lasts (fun b => slotOf (time a) (time b))
            (recent time (time new) size (newest size samples ++ [new]))) := by
          rw [slide_fst hcandidates, hanchor]
      _ = newest size (recent time (time new) size (newest size samples ++ [new])) := by
          rw [lasts_of_pairwise_ne (hne.sublist (recent_sublist _ _ _ _))]
      _ = newest size (newest size samples ++ [new]) := newest_filter hrecent
      _ = newest size (samples ++ [new]) := newest_concat size samples new

end

/-! ## Gaps of at most a second -/

/-- The gaps are positive, and of a second at most. -/
def Dense (time : α → ℤ) (samples : List α) : Prop :=
  samples.IsChain fun a b => time a < time b ∧ time b - time a ≤ seconds 1

/-- The new sample has the window count its slots from another anchor. -/
def Renews (time : α → ℤ) (size : ℕ) (anchor : Option ℤ) (new : α) : Prop :=
  ∀ a, anchor = some a → ¬Fresh size (time new) a

/-- The window has samples for all of its slots: as many of those in it, each of another second from
the oldest one. -/
def Spread (time : α → ℤ) (size : ℕ) (samples : List α) (new : α) : Prop :=
  ∃ (first : α) (filled : List α),
    (recent time (time new) size (samples ++ [new])).head? = some first ∧
    filled.Sublist (recent time (time new) size (samples ++ [new])) ∧ filled.length = size ∧
    filled.Pairwise fun a b => slotOf (time first) (time a) ≠ slotOf (time first) (time b)

/-- Wherever the stream renews the anchor of its window, the window has samples for all of its
slots. -/
def SpreadRenewals (time : α → ℤ) (size : ℕ) (samples : List α) : Prop :=
  ∀ before new, before ++ [new] <+: samples → before ≠ [] →
    Renews time size (slideAll time size before).2 new →
    Spread time size (slideAll time size before).1 new

/-- The stream has lasted as long as a window. -/
def Lasted (time : α → ℤ) (size : ℕ) (samples : List α) : Prop :=
  ∃ first ∈ samples.head?, ∃ last ∈ samples.getLast?, seconds size ≤ time last - time first

instance (time : α → ℤ) (size : ℕ) (samples : List α) : Decidable (Lasted time size samples) :=
  inferInstanceAs (Decidable (∃ first ∈ samples.head?, ∃ last ∈ samples.getLast?, _))

section

variable {a b first last : α}

theorem Dense.chronological (h : Dense time samples) : Chronological time samples :=
  List.isChain_iff_pairwise.1 (h.imp fun _ _ hgap => hgap.1)

/-- An anchor of a window is still in it, and before its samples. -/
theorem slide_anchor (hsize : 0 < size) (h : Chronological time (samples ++ [new]))
    (hbefore : ∀ a, anchor = some a → ∀ sample ∈ samples, a ≤ time sample) :
    Fresh size (time new) (slide time size samples anchor new).2 ∧
      (∀ sample ∈ (slide time size samples anchor new).1,
        (slide time size samples anchor new).2 ≤ time sample) ∧
      (anchor = some (slide time size samples anchor new).2 ∨
        ∃ sample ∈ samples ++ [new], (slide time size samples anchor new).2 = time sample) := by
  by_cases hrenews : Renews time size anchor new
  · obtain ⟨first, hfirst, hanchor⟩ := slide_renewed time hsize samples hrenews
    have hmem := List.mem_of_mem_head? hfirst
    obtain ⟨hcandidate, hrange⟩ := List.mem_filter.1 hmem
    rw [hanchor]
    refine ⟨of_decide_eq_true hrange, fun sample hsample => ?_, .inr ⟨first, hcandidate, rfl⟩⟩
    -- the oldest sample of the window is the first one
    rw [slide_fst h] at hsample
    have hrecent := (lasts_sublist _ _).mem ((newest_sublist _ _).mem hsample)
    have horder := h.sublist (recent_sublist time (time new) size (samples ++ [new]))
    obtain ⟨rest, hrest⟩ := List.head?_eq_some_iff.1 hfirst
    rw [hrest] at hrecent horder
    rcases List.mem_cons.1 hrecent with rfl | htail
    · exact le_rfl
    · exact le_of_lt ((List.pairwise_cons.1 horder).1 sample htail)
  · unfold Renews at hrenews
    push Not at hrenews
    obtain ⟨a, rfl, hfresh⟩ := hrenews
    have hanchor : (slide time size samples (some a) new).2 = a := slide_fresh hsize hfresh
    rw [hanchor]
    refine ⟨hfresh, fun sample hsample => ?_, .inl rfl⟩
    rcases List.mem_append.1 ((slide_sublist h).mem hsample) with hmem | hmem
    · exact hbefore a rfl sample hmem
    · obtain rfl := List.mem_singleton.1 hmem
      exact sub_nonneg.1 hfresh.1

/-- **The anchor of a stream** is the time of a sample of it, still in the window and not after what
is kept. -/
theorem slideAll_anchor (hsize : 0 < size) (h : Chronological time samples) :
    ∀ anchor, (slideAll time size samples).2 = some anchor →
      (∃ sample ∈ samples, anchor = time sample) ∧
        (∀ sample ∈ (slideAll time size samples).1, anchor ≤ time sample) ∧
        ∀ last, samples.getLast? = some last → Fresh size (time last) anchor := by
  induction samples using List.reverseRecOn with
  | nil =>
    intro anchor hanchor
    cases hanchor
  | append_singleton samples new ih =>
    intro anchor hanchor
    have hsamples := ih (chronological_concat.1 h).1
    obtain ⟨hfresh, hle, hfrom⟩ := slide_anchor hsize (chronological_kept size h)
      fun a ha => (hsamples a ha).2.1
    rw [slideAll_concat] at hanchor ⊢
    obtain rfl := Option.some.inj hanchor
    refine ⟨?_, hle, fun last hlast => ?_⟩
    · rcases hfrom with hsome | ⟨sample, hsample, hsame⟩
      · obtain ⟨⟨sample, hsample, hsame⟩, -⟩ := hsamples _ hsome
        exact ⟨sample, List.mem_append_left _ hsample, hsame⟩
      · refine ⟨sample, ?_, hsame⟩
        rcases List.mem_append.1 hsample with hkept | hnew
        · exact List.mem_append_left _ ((slideAll_sublist (chronological_concat.1 h).1).mem hkept)
        · exact List.mem_append_right _ hnew
    · rw [List.getLast?_concat] at hlast
      obtain rfl := Option.some.inj hlast
      exact hfresh

theorem slideAll_selected (hsize : 0 < size) (h : Chronological time (samples ++ [new])) :
    ∃ anchor, (slideAll time size (samples ++ [new])).2 = some anchor ∧
      Selected time size anchor (slideAll time size (samples ++ [new])).1 new := by
  rw [slideAll_concat]
  exact ⟨_, rfl, slide_selected hsize (chronological_kept size h)⟩

/-! ## Renewals -/

/-- Samples in as many different slots as the window has fill it. -/
theorem length_of_spread (hsize : 0 < size) (h : Chronological time (samples ++ [new]))
    (hrenews : Renews time size anchor new) (hspread : Spread time size samples new) :
    (slide time size samples anchor new).1.length = size := by
  obtain ⟨first, hfirst, hanchor⟩ := slide_renewed time hsize samples hrenews
  obtain ⟨first', filled, hfirst', hsublist, hlength, hslots⟩ := hspread
  obtain rfl := Option.some.inj (hfirst.symm.trans hfirst')
  have hnodup : (filled.map fun sample => slotOf (time first) (time sample)).Nodup :=
    List.pairwise_map.2 hslots
  have hsubset : (filled.map fun sample => slotOf (time first) (time sample)) ⊆
      (lasts (fun sample => slotOf (time first) (time sample))
        (recent time (time new) size (samples ++ [new]))).map
          fun sample => slotOf (time first) (time sample) := by
    intro slot hslot
    obtain ⟨sample, hsample, rfl⟩ := List.mem_map.1 hslot
    obtain ⟨kept, hkept, hsame⟩ :=
      exists_mem_lasts (fun sample => slotOf (time first) (time sample)) (hsublist.mem hsample)
    exact List.mem_map.2 ⟨kept, hkept, hsame⟩
  have hle := (List.subperm_of_subset hnodup hsubset).length_le
  rw [List.length_map, List.length_map, hlength] at hle
  rw [slide_fst h, hanchor, length_newest]
  exact min_eq_left hle

/-- A window that is full where its anchor is renewed has samples for all of its slots. -/
theorem spread_of_length (hsize : 0 < size) (h : Chronological time (samples ++ [new]))
    (hrenews : Renews time size anchor new)
    (hlength : (slide time size samples anchor new).1.length = size) :
    Spread time size samples new := by
  obtain ⟨first, hfirst, hanchor⟩ := slide_renewed time hsize samples hrenews
  have hselected : Selected time size (slide time size samples anchor new).2
    (slide time size samples anchor new).1 new := slide_selected hsize h
  rw [hanchor] at hselected
  refine ⟨first, _, hfirst, ?_, hlength, hselected.slots.imp ne_of_lt⟩
  rw [slide_fst h]
  exact (newest_sublist _ _).trans (lasts_sublist _ _)

/-- With a fresh anchor the window has one more sample where the new one is in another slot than the
last. -/
theorem length_of_fresh {a : ℤ} (hsize : 0 < size) (h : Chronological time (samples ++ [new]))
    (hselected : Selected time size a samples last) (hle : ∀ sample ∈ samples, a ≤ time sample)
    (hgap : time new - time last ≤ seconds 1) (hfresh : Fresh size (time new) a) :
    ((slide time size samples (some a) new).1.length : ℤ) =
      min (size : ℤ) (samples.length + (slotOf a (time new) - slotOf a (time last))) := by
  obtain ⟨rest, rfl⟩ : ∃ rest, samples = rest ++ [last] := by
    obtain ⟨rest, hrest⟩ := List.getLast?_eq_some_iff.1 hselected.last
    exact ⟨rest, hrest⟩
  have hall : recent time (time new) size (rest ++ [last] ++ [new]) = rest ++ [last] ++ [new] := by
    refine List.filter_eq_self.2 fun sample hsample => decide_eq_true ?_
    have hafter : a ≤ time sample := by
      rcases List.mem_append.1 hsample with hmem | hmem
      · exact hle sample hmem
      · obtain rfl := List.mem_singleton.1 hmem
        exact sub_nonneg.1 hfresh.1
    have hbefore : time sample ≤ time new := by
      rcases List.mem_append.1 hsample with hmem | hmem
      · exact le_of_lt ((chronological_concat.1 h).2 sample hmem)
      · rw [List.mem_singleton.1 hmem]
    obtain ⟨-, hlt⟩ := hfresh
    omega
  have hlasts : lasts (fun sample => slotOf a (time sample)) (rest ++ [last]) = rest ++ [last] :=
    lasts_of_pairwise_ne (hselected.slots.imp ne_of_lt)
  have hnewer : time last < time new := (chronological_concat.1 h).2 last (by simp)
  rw [slide_fst h, slide_fresh hsize hfresh, hall, length_newest]
  push_cast
  congr 1
  by_cases hslot : slotOf a (time last) = slotOf a (time new)
  · obtain ⟨kept, hkept, hkept'⟩ :=
      lasts_concat_of_eq (fun sample => slotOf a (time sample)) rest hslot
    rw [hlasts] at hkept
    rw [hkept', ← List.append_cancel_right hkept, hslot]
    simp
  · rw [lasts_concat_of_ne (fun sample => slotOf a (time sample)) rest hslot, hlasts]
    have hone : slotOf a (time new) = slotOf a (time last) + 1 := by
      have hmono : slotOf a (time last) ≤ slotOf a (time new) := slotOf_mono (le_of_lt hnewer)
      unfold seconds at hgap
      unfold slotOf at hslot hmono ⊢
      omega
    rw [List.length_append, List.length_singleton, hone]
    push_cast
    omega

/-- The first sample of a stream is its window, and the anchor. -/
theorem slide_first (time : α → ℤ) (hsize : 0 < size) (new : α) :
    slide time size [] none new = ([new], time new) := by
  have hrenews : Renews time size none new := fun a ha => by cases ha
  have hchronological : Chronological time ([] ++ [new]) := List.pairwise_singleton _ _
  have hrecent : recent time (time new) size ([] ++ [new]) = [new] := recent_concat hsize
  obtain ⟨first, hfirst, hanchor⟩ := slide_renewed time hsize [] hrenews
  rw [hrecent] at hfirst
  obtain rfl := Option.some.inj hfirst
  refine Prod.ext ?_ hanchor
  rw [slide_fst hchronological, hrecent, lasts_singleton, newest_eq_drop_of_le]
  exact hsize

/-- **A window of a stream without a gap** is full, or has a sample for every slot since the stream
began. -/
theorem length_of_dense (hsize : 0 < size) (h : Dense time samples)
    (hrenewals : SpreadRenewals time size samples) (hfirst : samples.head? = some first)
    (hlast : samples.getLast? = some last) :
    (slideAll time size samples).1.length = size ∨
      (slideAll time size samples).2 = some (time first) ∧
        ((slideAll time size samples).1.length : ℤ) = slotOf (time first) (time last) + 1 := by
  induction samples using List.reverseRecOn generalizing last with
  | nil => cases hfirst
  | append_singleton samples new ih =>
    have hchronological := h.chronological
    have hsamples := (chronological_concat.1 hchronological).1
    have hkept := chronological_kept size hchronological
    obtain ⟨hdense, -, hgap⟩ := List.isChain_append.1 h
    rw [List.getLast?_concat] at hlast
    obtain rfl := Option.some.inj hlast
    rw [slideAll_concat]
    by_cases hnil : samples = []
    · subst hnil
      obtain rfl := Option.some.inj hfirst
      right
      rw [slideAll, List.foldl_nil, slide_first time hsize]
      simp [slotOf]
    · obtain ⟨rest, last, rfl⟩ := List.eq_nil_or_concat' samples |>.resolve_left hnil
      obtain ⟨anchor, hanchor, hselected⟩ := slideAll_selected hsize hsamples
      obtain ⟨-, hle, -⟩ := slideAll_anchor hsize hsamples anchor hanchor
      have hlast : (rest ++ [last]).getLast? = some last := List.getLast?_concat
      have hfirst' : (rest ++ [last]).head? = some first := by
        rwa [List.head?_append_of_ne_nil _ hnil] at hfirst
      have hprevious := ih hdense
        (fun before new' hbegins => hrenewals before new' (hbegins.trans (List.prefix_append _ _)))
        hfirst' hlast
      rw [hanchor] at hprevious ⊢
      by_cases hfresh : Fresh size (time new) anchor
      · -- the window goes on by a slot at most
        obtain ⟨-, hstep⟩ := hgap last hlast new rfl
        have hlength := length_of_fresh hsize hkept hselected hle hstep hfresh
        have hmono : slotOf anchor (time last) ≤ slotOf anchor (time new) :=
          slotOf_mono (le_of_lt ((chronological_concat.1 hchronological).2 last (by simp)))
        dsimp only [Prod.map, id]
        rw [slide_fresh hsize hfresh]
        rcases hprevious with hfull | ⟨hsome, hcount⟩
        · left
          omega
        · obtain rfl := Option.some.inj hsome
          rcases le_or_gt (size : ℤ) (slotOf (time first) (time new) + 1) with hfull | hfew
          · left
            omega
          · right
            refine ⟨rfl, ?_⟩
            omega
      · have hrenews : Renews time size (some anchor) new := by
          intro a ha
          obtain rfl := Option.some.inj ha
          exact hfresh
        left
        refine length_of_spread hsize hkept hrenews (hrenewals _ new List.prefix_rfl hnil ?_)
        rw [hanchor]
        exact hrenews

/-- **A stream without a gap keeps the window full**, once it has lasted as long, if and only if the
window has samples for all of its slots wherever the anchor is renewed. -/
theorem full_iff_renewals (hsize : 0 < size) (h : Dense time samples) :
    (∀ before, before <+: samples → Lasted time size before →
      (slideAll time size before).1.length = size) ↔ SpreadRenewals time size samples := by
  constructor
  · intro hfull before new hbegins hnil hrenews
    have hdense : Dense time (before ++ [new]) := List.IsChain.prefix h hbegins
    have hchronological := hdense.chronological
    have hbefore := (chronological_concat.1 hchronological).1
    have hkept := chronological_kept size hchronological
    refine spread_of_length hsize hkept hrenews ?_
    have hlength := hfull _ hbegins
    rw [slideAll_concat] at hlength
    refine hlength ?_
    -- the anchor that is renewed is not before the first sample
    obtain ⟨rest, last, rfl⟩ := List.eq_nil_or_concat' before |>.resolve_left hnil
    obtain ⟨anchor, hanchor, -⟩ := slideAll_selected hsize hbefore
    obtain ⟨⟨sample, hsample, rfl⟩, -⟩ := slideAll_anchor hsize hbefore anchor hanchor
    have hstale := hrenews _ hanchor
    obtain ⟨first, tail, hcons⟩ := List.exists_cons_of_ne_nil hnil
    have hnewer := (chronological_concat.1 hchronological).2 sample hsample
    refine ⟨first, ?_, new, List.getLast?_concat, ?_⟩
    · rw [hcons]
      rfl
    · have hfirst : time first ≤ time sample := by
        rw [hcons] at hsample hbefore
        rcases List.mem_cons.1 hsample with rfl | hmem
        · exact le_rfl
        · exact le_of_lt ((List.pairwise_cons.1 hbefore).1 sample hmem)
      unfold Fresh at hstale
      omega
  · rintro hrenewals before hbegins ⟨first, hfirst, last, hlast, hlasted⟩
    have hdense : Dense time before := List.IsChain.prefix h hbegins
    rcases length_of_dense hsize hdense
      (fun b new hb => hrenewals b new (hb.trans hbegins)) hfirst hlast with hfull | ⟨hanchor, -⟩
    · exact hfull
    · obtain ⟨-, -, hfresh⟩ := slideAll_anchor hsize hdense.chronological _ hanchor
      exact absurd hlasted (not_le.2 (hfresh last hlast).2)

/-- The same, for the samples up to each position. -/
theorem full_iff_renewals_take (hsize : 0 < size) (h : Dense time samples) :
    (∀ n, Lasted time size (samples.take n) →
      (slideAll time size (samples.take n)).1.length = size) ↔
    ∀ n new, samples[n]? = some new → n ≠ 0 →
      Renews time size (slideAll time size (samples.take n)).2 new →
        Spread time size (slideAll time size (samples.take n)).1 new := by
  have hfull : (∀ n, Lasted time size (samples.take n) →
      (slideAll time size (samples.take n)).1.length = size) ↔
      ∀ before, before <+: samples → Lasted time size before →
        (slideAll time size before).1.length = size := by
    refine ⟨fun hall before hbefore => ?_, fun hall n => hall _ (List.take_prefix n samples)⟩
    rw [List.prefix_iff_eq_take.1 hbefore]
    exact hall _
  rw [hfull, full_iff_renewals hsize h]
  refine ⟨fun hrenewals n new hnew hn => ?_, fun hall before new hbegins hne => ?_⟩
  · have hlt := (List.getElem?_eq_some_iff.1 hnew).1
    refine hrenewals _ new ?_ ?_
    · rw [← Option.toList_some, ← hnew, ← List.take_add_one]
      exact List.take_prefix (n + 1) samples
    · refine List.ne_nil_of_length_pos ?_
      rw [List.length_take]
      omega
  · obtain ⟨rest, rfl⟩ := hbegins
    have hbefore : (before ++ [new] ++ rest).take before.length = before := by simp
    have hall' := hall before.length new (by simp) (by simpa using hne)
    rwa [hbefore] at hall'

end

end

end ScrapMonitoring.Filtering
