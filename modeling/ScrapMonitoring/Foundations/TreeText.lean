import ScrapMonitoring.Foundations.Quote
import ScrapMonitoring.Foundations.Tree

/-!
# The text of a JSON value

`Tree.write` writes a value without blanks, its members as they stand. After a value stands nothing
or one of three marks (`Follows`). If the scalars form a code, that is, if the text of one
determines it together with what follows (`Code`), then so do the values (`write_append_inj`): no
text of a value is the beginning of another one, up to what may follow it.
-/

namespace ScrapMonitoring

namespace Tree

variable {α : Type} (text : α → List Char)

mutual

/-- The text of a value, over the texts of its scalars. -/
def write : Tree α → List Char
  | leaf a => text a
  | arr [] => ['[', ']']
  | arr (v :: vs) => '[' :: (write v ++ writeItems vs)
  | obj [] => ['{', '}']
  | obj ((k, v) :: ms) => '{' :: (quote k ++ ':' :: (write v ++ writeMembers ms))

/-- The rest of an array, behind an item. -/
def writeItems : List (Tree α) → List Char
  | [] => [']']
  | v :: vs => ',' :: (write v ++ writeItems vs)

/-- The rest of an object, behind a member. -/
def writeMembers : List (String × Tree α) → List Char
  | [] => ['}']
  | (k, v) :: ms => ',' :: (quote k ++ ':' :: (write v ++ writeMembers ms))

end

/-- What may stand behind a value. -/
def Follows (s : List Char) : Prop := ∀ c ∈ s.head?, c = ',' ∨ c = ']' ∨ c = '}'

/-- The texts of the scalars under a condition form a code: each determines its scalar and what
follows, and none begins with a bracket. -/
structure Code (text : α → List Char) (p : α → Bool) : Prop where
  append_inj : ∀ {a b : α} {s t : List Char}, p a → p b → Follows s → Follows t →
    text a ++ s = text b ++ t → a = b ∧ s = t
  head : ∀ {a : α}, p a → ∃ c ∈ (text a).head?, c ≠ '[' ∧ c ≠ ']' ∧ c ≠ '{'

theorem follows_nil : Follows [] := by
  intro c hc
  simp at hc

theorem follows_writeItems (vs : List (Tree α)) (s : List Char) :
    Follows (writeItems text vs ++ s) := by
  intro c hc
  cases vs with
  | nil => exact Or.inr (Or.inl (Option.some.inj hc).symm)
  | cons v vs => exact Or.inl (Option.some.inj hc).symm

theorem follows_writeMembers (ms : List (String × Tree α)) (s : List Char) :
    Follows (writeMembers text ms ++ s) := by
  intro c hc
  cases ms with
  | nil => exact Or.inr (Or.inr (Option.some.inj hc).symm)
  | cons m ms => exact Or.inl (Option.some.inj hc).symm

/-! ## A text determines its value -/

section

variable {text} {p : α → Bool}

theorem Code.text_ne (hcode : Code text p) {a : α} (ha : p a) {s t : List Char} :
    text a ++ s ≠ '[' :: t ∧ text a ++ s ≠ ']' :: t ∧ text a ++ s ≠ '{' :: t := by
  obtain ⟨c, hc, hne⟩ := hcode.head ha
  obtain ⟨rest, hrest⟩ := List.head?_eq_some_iff.1 hc
  rw [hrest, List.cons_append]
  exact ⟨fun h => hne.1 (List.head_eq_of_cons_eq h),
    fun h => hne.2.1 (List.head_eq_of_cons_eq h), fun h => hne.2.2 (List.head_eq_of_cons_eq h)⟩

/-- No value begins with the mark that closes an array. -/
theorem Code.write_ne (hcode : Code text p) {v : Tree α} (hv : v.all p) {s t : List Char} :
    write text v ++ s ≠ ']' :: t := by
  cases v with
  | leaf a =>
    rw [write]
    exact (hcode.text_ne hv).2.1
  | arr vs =>
    cases vs with
    | nil => simp [write]
    | cons v vs => simp [write]
  | obj ms =>
    cases ms with
    | nil => simp [write]
    | cons m ms => simp [write]

mutual

/-- **The text of a value determines it, and what follows.** -/
theorem Code.write_append_inj (hcode : Code text p) : ∀ (v w : Tree α) {s t : List Char},
    v.all p → w.all p → Follows s → Follows t → write text v ++ s = write text w ++ t →
      v = w ∧ s = t
  | leaf a, w, s, t, hv, hw, hs, ht, h => by
    cases w with
    | leaf b =>
      obtain ⟨rfl, htail⟩ := hcode.append_inj hv hw hs ht h
      exact ⟨rfl, htail⟩
    | arr ws =>
      rw [write] at h
      cases ws with
      | nil => exact absurd h (hcode.text_ne hv).1
      | cons w ws => exact absurd h (hcode.text_ne hv).1
    | obj ms =>
      rw [write] at h
      cases ms with
      | nil => exact absurd h (hcode.text_ne hv).2.2
      | cons m ms => exact absurd h (hcode.text_ne hv).2.2
  | arr vs, w, s, t, hv, hw, _, _, h => by
    cases w with
    | leaf b =>
      rw [write] at h
      cases vs with
      | nil => exact absurd h.symm (hcode.text_ne hw).1
      | cons v vs => exact absurd h.symm (hcode.text_ne hw).1
    | arr ws =>
      have hrest := Code.writeItems_append_inj hcode vs ws (s := s) (t := t) hv hw
      cases vs with
      | nil =>
        cases ws with
        | nil => exact ⟨rfl, List.append_cancel_left h⟩
        | cons w ws =>
          simp only [write, List.cons_append, List.append_assoc, List.cons.injEq, true_and] at h
          rw [all, allItems, Bool.and_eq_true] at hw
          exact absurd h.symm (hcode.write_ne hw.1)
      | cons v vs =>
        cases ws with
        | nil =>
          simp only [write, List.cons_append, List.append_assoc, List.cons.injEq, true_and] at h
          rw [all, allItems, Bool.and_eq_true] at hv
          exact absurd h (hcode.write_ne hv.1)
        | cons w ws =>
          obtain ⟨hitems, htail⟩ := hrest (congrArg (List.cons ',') (List.tail_eq_of_cons_eq h))
          exact ⟨congrArg arr hitems, htail⟩
    | obj ms =>
      cases vs <;> cases ms <;> simp [write] at h
  | obj ms, w, s, t, hv, hw, _, _, h => by
    cases w with
    | leaf b =>
      rw [write] at h
      cases ms with
      | nil => exact absurd h.symm (hcode.text_ne hw).2.2
      | cons m ms => exact absurd h.symm (hcode.text_ne hw).2.2
    | arr ws =>
      cases ms <;> cases ws <;> simp [write] at h
    | obj ns =>
      have hrest := Code.writeMembers_append_inj hcode ms ns (s := s) (t := t) hv hw
      cases ms with
      | nil =>
        cases ns with
        | nil => exact ⟨rfl, List.append_cancel_left h⟩
        | cons n ns => simp [write, quote] at h
      | cons m ms =>
        cases ns with
        | nil => simp [write, quote] at h
        | cons n ns =>
          obtain ⟨hmembers, htail⟩ := hrest (congrArg (List.cons ',') (List.tail_eq_of_cons_eq h))
          exact ⟨congrArg obj hmembers, htail⟩

theorem Code.writeItems_append_inj (hcode : Code text p) :
    ∀ (vs ws : List (Tree α)) {s t : List Char}, allItems p vs → allItems p ws →
      writeItems text vs ++ s = writeItems text ws ++ t → vs = ws ∧ s = t
  | [], ws, s, t, _, _, h => by
    cases ws with
    | nil => exact ⟨rfl, List.append_cancel_left h⟩
    | cons w ws => simp [writeItems] at h
  | v :: vs, ws, s, t, hv, hw, h => by
    cases ws with
    | nil => simp [writeItems] at h
    | cons w ws =>
      rw [allItems, Bool.and_eq_true] at hv hw
      simp only [writeItems, List.cons_append, List.append_assoc, List.cons.injEq, true_and] at h
      obtain ⟨rfl, hrest⟩ := Code.write_append_inj hcode v w hv.1 hw.1
        (follows_writeItems text vs s) (follows_writeItems text ws t) h
      obtain ⟨rfl, htail⟩ := Code.writeItems_append_inj hcode vs ws hv.2 hw.2 hrest
      exact ⟨rfl, htail⟩

theorem Code.writeMembers_append_inj (hcode : Code text p) :
    ∀ (ms ns : List (String × Tree α)) {s t : List Char}, allMembers p ms → allMembers p ns →
      writeMembers text ms ++ s = writeMembers text ns ++ t → ms = ns ∧ s = t
  | [], ns, s, t, _, _, h => by
    cases ns with
    | nil => exact ⟨rfl, List.append_cancel_left h⟩
    | cons n ns => simp [writeMembers] at h
  | (k, v) :: ms, ns, s, t, hv, hw, h => by
    cases ns with
    | nil => simp [writeMembers] at h
    | cons n ns =>
      obtain ⟨l, w⟩ := n
      rw [allMembers, Bool.and_eq_true] at hv hw
      simp only [writeMembers, List.cons_append, List.append_assoc, List.cons.injEq,
        true_and] at h
      obtain ⟨rfl, hmember⟩ := quote_append_inj h
      replace hmember := List.tail_eq_of_cons_eq hmember
      obtain ⟨rfl, hrest⟩ := Code.write_append_inj hcode v w hv.1 hw.1
        (follows_writeMembers text ms s) (follows_writeMembers text ns t) hmember
      obtain ⟨rfl, htail⟩ := Code.writeMembers_append_inj hcode ms ns hv.2 hw.2 hrest
      exact ⟨rfl, htail⟩

end

theorem Code.write_inj (hcode : Code text p) {v w : Tree α} (hv : v.all p) (hw : w.all p)
    (h : write text v = write text w) : v = w :=
  (Code.write_append_inj hcode v w hv hw follows_nil follows_nil
    (congrArg (fun u => u ++ []) h)).1

end

/-! ## Only ASCII is written -/

section

variable {text} {p : α → Bool}

mutual

theorem ascii_write (htext : ∀ a, p a → ∀ c ∈ text a, c.toNat < 128) :
    ∀ v : Tree α, v.all p → ∀ c ∈ write text v, c.toNat < 128
  | leaf a, hv, c, hc => htext a hv c hc
  | arr [], _, c, hc => by
    simp only [write, List.mem_cons, List.not_mem_nil, or_false] at hc
    rcases hc with rfl | rfl <;> decide
  | arr (v :: vs), hv, c, hc => by
    rw [all, allItems, Bool.and_eq_true] at hv
    simp only [write, List.mem_cons, List.mem_append] at hc
    rcases hc with rfl | hc | hc
    · decide
    · exact ascii_write htext v hv.1 c hc
    · exact ascii_writeItems htext vs hv.2 c hc
  | obj [], _, c, hc => by
    simp only [write, List.mem_cons, List.not_mem_nil, or_false] at hc
    rcases hc with rfl | rfl <;> decide
  | obj ((k, v) :: ms), hv, c, hc => by
    rw [all, allMembers, Bool.and_eq_true] at hv
    simp only [write, List.mem_cons, List.mem_append] at hc
    rcases hc with rfl | hc | rfl | hc | hc
    · decide
    · exact ascii_quote k c hc
    · decide
    · exact ascii_write htext v hv.1 c hc
    · exact ascii_writeMembers htext ms hv.2 c hc

theorem ascii_writeItems (htext : ∀ a, p a → ∀ c ∈ text a, c.toNat < 128) :
    ∀ vs : List (Tree α), allItems p vs → ∀ c ∈ writeItems text vs, c.toNat < 128
  | [], _, c, hc => by
    rw [List.mem_singleton.1 hc]
    decide
  | v :: vs, hv, c, hc => by
    rw [allItems, Bool.and_eq_true] at hv
    simp only [writeItems, List.mem_cons, List.mem_append] at hc
    rcases hc with rfl | hc | hc
    · decide
    · exact ascii_write htext v hv.1 c hc
    · exact ascii_writeItems htext vs hv.2 c hc

theorem ascii_writeMembers (htext : ∀ a, p a → ∀ c ∈ text a, c.toNat < 128) :
    ∀ ms : List (String × Tree α), allMembers p ms → ∀ c ∈ writeMembers text ms, c.toNat < 128
  | [], _, c, hc => by
    rw [List.mem_singleton.1 hc]
    decide
  | (k, v) :: ms, hv, c, hc => by
    rw [allMembers, Bool.and_eq_true] at hv
    simp only [writeMembers, List.mem_cons, List.mem_append] at hc
    rcases hc with rfl | hc | rfl | hc | hc
    · decide
    · exact ascii_quote k c hc
    · decide
    · exact ascii_write htext v hv.1 c hc
    · exact ascii_writeMembers htext ms hv.2 c hc

end

end

end Tree

end ScrapMonitoring
