import Mathlib.Algebra.BigOperators.Group.List.Basic
import Mathlib.Algebra.Order.BigOperators.Group.List
import Mathlib.Algebra.Order.Ring.Rat
import Mathlib.Data.Rat.Defs
import ScrapMonitoring.Foundations.Run
import ScrapMonitoring.Foundations.Session
import ScrapMonitoring.Foundations.Time

/-!
# The store of event lists

`EventPageStore` of `services/event_page_store.py` keeps frozen event lists for their owners, under
limits on their number, on their number for each owner, and on their bytes. A list expires; and
lists are evicted, the oldest first, to make room for a new one. The bytes are counted by hand in a
field of the store.

A `KeyError`, an `IndexError` or a `StopIteration` of the source is `none`. `within_limits` is about
every run of the store: its bounds hold, its loops never take a list from where there is none, and
what it returns is what was put there.
-/

namespace ScrapMonitoring.Events

/-- The limits of a store, which its constructor checks. -/
structure Limits where
  ttl : ℕ
  maxEntries : ℕ
  maxBytes : ℕ
  maxOwnerEntries : ℕ
  ttl_pos : 0 < ttl
  maxEntries_pos : 0 < maxEntries
  maxBytes_pos : 0 < maxBytes
  maxOwnerEntries_pos : 0 < maxOwnerEntries

abbrev Bytes := List UInt8

structure PageContext where
  pit : String
  binding : String
  category : String
  pageSize : ℕ
  before : ℕ
  after : ℕ
  lower : ℤ
  upper : ℤ
  asOf : ℤ
  deriving DecidableEq, Repr

/-- A list with its owner. `expiresAt` is for the reader; the store goes by the `deadline` on its
own clock. -/
structure FrozenEventList where
  owner : String
  context : PageContext
  items : List Bytes
  token : String
  expiresAt : ℤ
  deadline : ℚ
  size : ℕ
  deriving DecidableEq, Repr

/-- The store; the lists stand in the order in which they were put, each under its token. -/
structure EventPageStore where
  entries : List FrozenEventList := []
  size : ℤ := 0
  builds : ℤ := 0
  deriving DecidableEq, Repr

namespace EventPageStore

def tokens (store : EventPageStore) : List String := store.entries.map FrozenEventList.token

/-- The bytes of the lists, counted anew. -/
def bytes (entries : List FrozenEventList) : ℕ := (entries.map FrozenEventList.size).sum

/-- `_drop`. -/
def drop (store : EventPageStore) (token : String) : Option EventPageStore :=
  match store.entries.find? (·.token = token) with
  | none => none
  | some value =>
    some { store with
      entries := store.entries.eraseP (·.token = token)
      size := store.size - value.size }

/-- The loop of `_prune` over the lists that were there when it began. -/
def pruneLoop (now : ℚ) : List FrozenEventList → EventPageStore → Option EventPageStore
  | [], store => some store
  | value :: rest, store =>
    if value.deadline ≤ now then
      match store.drop value.token with
      | none => none
      | some store => pruneLoop now rest store
    else pruneLoop now rest store

/-- `_prune`. -/
def prune (now : ℚ) (store : EventPageStore) : Option EventPageStore :=
  pruneLoop now store.entries store

/-- The tokens of an owner. -/
def owned (store : EventPageStore) (owner : String) : List String :=
  (store.entries.filter (·.owner = owner)).map FrozenEventList.token

/-- The loop that makes room among the lists of the owner, whose tokens are given. -/
def evictOwned (limits : Limits) : List String → EventPageStore → Option EventPageStore
  | [], store => if limits.maxOwnerEntries ≤ 0 then none else some store
  | token :: rest, store =>
    if limits.maxOwnerEntries ≤ rest.length + 1 then
      match store.drop token with
      | none => none
      | some store => evictOwned limits rest store
    else some store

/-- The loop that makes room among all lists: it drops the first one. -/
def evictOldest (limits : Limits) (size : ℕ) :
    List FrozenEventList → ℤ → Option (List FrozenEventList × ℤ)
  | [], total =>
    if limits.maxEntries ≤ 0 ∨ limits.maxBytes < total + size then none else some ([], total)
  | value :: rest, total =>
    if limits.maxEntries ≤ rest.length + 1 ∨ limits.maxBytes < total + size then
      evictOldest limits size rest (total - value.size)
    else some (value :: rest, total)

end EventPageStore

/-- The size of a list of items. -/
def sizeOf (items : List Bytes) : ℕ := 1024 + (items.map fun item => item.length + 64).sum

/-! ## The store in steps -/

/-- The calls of the store, with what they read off the clock and draw as tokens. -/
inductive Op
  | beginBuild
  | endBuild
  | get (clock : ℚ) (token owner : String)
  | put (clock clock' : ℚ) (drawn : List String) (owner : String) (context : PageContext)
      (items : List Bytes) (now : ℤ)

inductive Out
  | none
  | value (value : FrozenEventList)
  | raised (status : ℕ) (detail : String)
  deriving DecidableEq, Repr

def busy : Out := .raised 503 "EVENT_LIST_SNAPSHOT_BUSY"

def gone : Out := .raised 410 "EVENT_LIST_SNAPSHOT_GONE"

def tooLarge : Out := .raised 422 "EVENT_LIST_SNAPSHOT_TOO_LARGE"

/-- The list that a `put` stores. -/
def frozen (limits : Limits) (clock : ℚ) (token owner : String) (context : PageContext)
    (items : List Bytes) (now : ℤ) : FrozenEventList where
  owner := owner
  context := context
  items := items
  token := token
  expiresAt := now + seconds limits.ttl
  deadline := clock + limits.ttl
  size := sizeOf items

def get (store : EventPageStore) (clock : ℚ) (token owner : String) :
    Option (EventPageStore × Out) :=
  match store.prune clock with
  | .none => .none
  | some store =>
    match store.entries.find? (·.token = token) with
    | .none => some (store, gone)
    | some value => if value.owner = owner then some (store, .value value) else some (store, gone)

/-- `put`. When every token that is drawn is in use, the call still draws: it has not taken its
step. -/
def put (limits : Limits) (store : EventPageStore) (clock clock' : ℚ) (drawn : List String)
    (owner : String) (context : PageContext) (items : List Bytes) (now : ℤ) :
    Option (EventPageStore × Out) :=
  match store.prune clock with
  | .none => .none
  | some store =>
    if limits.maxBytes < sizeOf items then some (store, tooLarge)
    else
      match EventPageStore.evictOwned limits (store.owned owner) store with
      | .none => .none
      | some store =>
        match EventPageStore.evictOldest limits (sizeOf items) store.entries store.size with
        | .none => .none
        | some (entries, total) =>
          match drawn.find? (· ∉ entries.map FrozenEventList.token) with
          | .none => .none
          | some token =>
            let value := frozen limits clock' token owner context items now
            some ({ store with entries := entries ++ [value], size := total + sizeOf items },
              .value value)

def step (limits : Limits) (store : EventPageStore) : Op → Option (EventPageStore × Out)
  | .beginBuild =>
    if 2 ≤ store.builds then some (store, busy)
    else some ({ store with builds := store.builds + 1 }, .none)
  | .endBuild => some ({ store with builds := store.builds - 1 }, .none)
  | .get clock token owner => get store clock token owner
  | .put clock clock' drawn owner context items now =>
    put limits store clock clock' drawn owner context items now

/-! ## What the loops do -/

namespace EventPageStore

section

variable {store store' : EventPageStore} {kept rest : List FrozenEventList}
    {value : FrozenEventList}
variable {limits : Limits} {now : ℚ}

@[simp] theorem bytes_append (l l' : List FrozenEventList) :
    bytes (l ++ l') = bytes l + bytes l' := by
  simp [bytes]

@[simp] theorem bytes_cons (value : FrozenEventList) (l : List FrozenEventList) :
    bytes (value :: l) = value.size + bytes l := by
  simp [bytes]

/-- The store counts its bytes right, and no two lists have the same token. -/
structure Counted (store : EventPageStore) : Prop where
  size : store.size = bytes store.entries
  unique : store.tokens.Nodup

/-- Dropping the token of a list takes this list out. -/
theorem drop_of_split (h : store.entries = kept ++ value :: rest)
    (hkept : value.token ∉ kept.map FrozenEventList.token) :
    store.drop value.token =
      some { store with entries := kept ++ rest, size := store.size - value.size } := by
  have hnot : ∀ other ∈ kept, ¬(decide (other.token = value.token)) = true := by
    intro other hother heq
    exact hkept (List.mem_map.2 ⟨other, hother, of_decide_eq_true heq⟩)
  have hfind : store.entries.find? (·.token = value.token) = some value := by
    rw [h, List.find?_append, List.find?_eq_none.2 hnot]
    simp
  have herase : store.entries.eraseP (·.token = value.token) = kept ++ rest := by
    rw [h, List.eraseP_append_right _ hnot, List.eraseP_cons_of_pos (by simp)]
  simp [drop, hfind, herase]

theorem Counted.notMem (h : store.Counted) (hentries : store.entries = kept ++ value :: rest) :
    value.token ∉ kept.map FrozenEventList.token := by
  have hnodup := h.unique
  rw [tokens, hentries, List.map_append, List.map_cons, List.nodup_append] at hnodup
  intro hmem
  exact hnodup.2.2 _ hmem _ List.mem_cons_self rfl

/-- A store from which lists have been taken out. -/
structure Shrinks (store store' : EventPageStore) : Prop where
  entries : store'.entries.Sublist store.entries
  counted : store.Counted → store'.Counted
  builds : store'.builds = store.builds

theorem Shrinks.refl (store : EventPageStore) : Shrinks store store :=
  ⟨List.Sublist.refl _, id, rfl⟩

theorem Shrinks.trans {store'' : EventPageStore} (h : Shrinks store store')
    (h' : Shrinks store' store'') : Shrinks store store'' :=
  ⟨h'.entries.trans h.entries, h'.counted ∘ h.counted, h'.builds.trans h.builds⟩

/-- A list is taken out, and its bytes are no longer counted. -/
theorem Shrinks.of_split (h : store.entries = kept ++ value :: rest) :
    Shrinks store { store with entries := kept ++ rest, size := store.size - value.size } where
  entries := by
    rw [h]
    exact List.Sublist.append_left (List.sublist_cons_self value rest) kept
  counted hcounted := by
    constructor
    · have hsize := hcounted.size
      rw [h] at hsize
      simp only [bytes_append, bytes_cons, Nat.cast_add] at hsize ⊢
      omega
    · have hnodup := hcounted.unique
      rw [tokens, h] at hnodup
      exact hnodup.sublist
        ((List.Sublist.append_left (List.sublist_cons_self value rest) kept).map _)
  builds := rfl

/-- **The expired lists are taken out.** -/
theorem pruneLoop_spec (hcounted : store.Counted) (h : store.entries = kept ++ rest) :
    ∃ store', pruneLoop now rest store = some store' ∧ Shrinks store store' ∧
      store'.entries = kept ++ rest.filter fun value => now < value.deadline := by
  induction rest generalizing store kept with
  | nil => exact ⟨store, rfl, .refl store, by simpa using h⟩
  | cons value rest ih =>
    unfold pruneLoop
    by_cases hexpired : value.deadline ≤ now
    · rw [if_pos hexpired, drop_of_split h (hcounted.notMem h)]
      have hshrinks := Shrinks.of_split h
      obtain ⟨store', hloop, hrest, hentries⟩ := @ih _ kept (hshrinks.counted hcounted) rfl
      refine ⟨store', hloop, hshrinks.trans hrest, ?_⟩
      rw [hentries, List.filter_cons_of_neg (by simpa using hexpired)]
    · rw [if_neg hexpired]
      rw [List.append_cons] at h
      obtain ⟨store', hloop, hrest, hentries⟩ := ih hcounted h
      refine ⟨store', hloop, hrest, ?_⟩
      rw [hentries, List.filter_cons_of_pos (by simpa using hexpired)]
      simp

theorem prune_spec (now : ℚ) (hcounted : store.Counted) :
    ∃ store', store.prune now = some store' ∧ Shrinks store store' ∧
      store'.entries = store.entries.filter fun value => now < value.deadline := by
  have hentries : store.entries = [] ++ store.entries := rfl
  exact pruneLoop_spec hcounted hentries

/-- **There is room for one more list of the owner.** -/
theorem evictOwned_spec (limits : Limits) (owner : String) (hcounted : store.Counted) :
    ∃ store', evictOwned limits (store.owned owner) store = some store' ∧ Shrinks store store' ∧
      (store'.owned owner).length < limits.maxOwnerEntries := by
  generalize hl : store.owned owner = l
  induction l generalizing store with
  | nil =>
    refine ⟨store, ?_, .refl store, ?_⟩
    · unfold evictOwned
      rw [if_neg (by have := limits.maxOwnerEntries_pos; omega)]
    · rw [hl]
      exact limits.maxOwnerEntries_pos
  | cons token tail ih =>
    unfold evictOwned
    by_cases hfull : limits.maxOwnerEntries ≤ tail.length + 1
    · rw [if_pos hfull]
      obtain ⟨value, others, hfilter, rfl, rfl⟩ := List.map_eq_cons_iff.1 hl
      obtain ⟨kept, rest, hentries, hkept, -, rfl⟩ := List.filter_eq_cons_iff.1 hfilter
      rw [drop_of_split hentries (hcounted.notMem hentries)]
      have hshrinks := Shrinks.of_split hentries
      have hempty : kept.filter (·.owner = owner) = [] := List.filter_eq_nil_iff.2 hkept
      obtain ⟨store', hloop, hrest, hroom⟩ := ih (hshrinks.counted hcounted) (by
        rw [owned, List.filter_append, hempty, List.nil_append])
      exact ⟨store', hloop, hshrinks.trans hrest, hroom⟩
    · rw [if_neg hfull]
      refine ⟨store, rfl, .refl store, ?_⟩
      rw [hl, List.length_cons]
      omega

/-- **There is room for a list of the size.** The loop ends before it runs out of lists. -/
theorem evictOldest_spec {size : ℕ} (hsize : size ≤ limits.maxBytes) (l : List FrozenEventList) :
    ∃ l', evictOldest limits size l (bytes l) = some (l', (bytes l' : ℤ)) ∧ l' <:+ l ∧
      l'.length < limits.maxEntries ∧ bytes l' + size ≤ limits.maxBytes := by
  induction l with
  | nil =>
    have hpos := limits.maxEntries_pos
    refine ⟨[], ?_, List.suffix_rfl, hpos, by simpa [bytes] using hsize⟩
    unfold evictOldest
    rw [if_neg]
    simp only [bytes, List.map_nil, List.sum_nil]
    omega
  | cons value rest ih =>
    unfold evictOldest
    by_cases hfull : limits.maxEntries ≤ rest.length + 1 ∨
        (limits.maxBytes : ℤ) < (bytes (value :: rest) : ℤ) + size
    · rw [if_pos hfull]
      obtain ⟨l', hloop, hsuffix, hroom⟩ := ih
      have htotal : (bytes (value :: rest) : ℤ) - value.size = bytes rest := by
        rw [bytes_cons, Nat.cast_add]
        omega
      rw [htotal]
      exact ⟨l', hloop, hsuffix.trans (List.suffix_cons value rest), hroom⟩
    · rw [if_neg hfull]
      refine ⟨value :: rest, rfl, List.suffix_rfl, ?_, ?_⟩
      · rw [List.length_cons]
        omega
      · omega

end

end EventPageStore

/-! ## What a step does -/

section

variable {limits : Limits} {store store' : EventPageStore}

/-- The bounds of the store. -/
structure Within (limits : Limits) (store : EventPageStore) : Prop where
  counted : store.Counted
  bytes_le : store.size ≤ limits.maxBytes
  entries_le : store.entries.length ≤ limits.maxEntries
  owned_le : ∀ owner, (store.owned owner).length ≤ limits.maxOwnerEntries

theorem Within.empty (limits : Limits) : Within limits {} where
  counted := ⟨rfl, by simp [EventPageStore.tokens]⟩
  bytes_le := by simp
  entries_le := by simp
  owned_le owner := by simp [EventPageStore.owned]

theorem Within.shrinks (h : Within limits store) (hshrinks : store.Shrinks store') :
    Within limits store' where
  counted := hshrinks.counted h.counted
  bytes_le := by
    rw [(hshrinks.counted h.counted).size]
    refine le_trans ?_ (h.counted.size ▸ h.bytes_le)
    exact_mod_cast (hshrinks.entries.map _).sum_le_sum fun _ _ => Nat.zero_le _
  entries_le := hshrinks.entries.length_le.trans h.entries_le
  owned_le owner := ((hshrinks.entries.filter _).map _).length_le.trans (h.owned_le owner)

/-- A step of `get`: the expired lists go, and the list of the token is returned to its owner. -/
theorem get_spec (clock : ℚ) (token owner : String) (h : Within limits store) : ∃ store' out,
    get store clock token owner = some (store', out) ∧ store.Shrinks store' ∧
    store'.entries = store.entries.filter (fun value => clock < value.deadline) ∧
    (out = gone ∨ ∃ value ∈ store'.entries, out = .value value ∧ value.token = token ∧
      value.owner = owner) := by
  obtain ⟨store', hprune, hshrinks, hentries⟩ := EventPageStore.prune_spec clock h.counted
  unfold get
  rw [hprune]
  dsimp only
  cases hfind : store'.entries.find? (·.token = token) with
  | none => exact ⟨store', gone, rfl, hshrinks, hentries, .inl rfl⟩
  | some value =>
    by_cases howner : value.owner = owner
    · refine ⟨store', .value value, by simp [howner], hshrinks, hentries, .inr ?_⟩
      have htoken := List.find?_some hfind
      exact ⟨value, List.mem_of_find?_eq_some hfind, rfl, of_decide_eq_true htoken, howner⟩
    · exact ⟨store', gone, by simp [howner], hshrinks, hentries, .inl rfl⟩

/-- A store with room for one more list of the owner. -/
structure HasRoom (limits : Limits) (size : ℕ) (owner : String) (store : EventPageStore) :
    Prop where
  owned_lt : (store.owned owner).length < limits.maxOwnerEntries
  entries_lt : store.entries.length < limits.maxEntries
  bytes_le : store.size + size ≤ limits.maxBytes

/-- A step of `put`: an oversized list is rejected after the expired ones have gone; otherwise lists
are evicted until there is room, and the list is added under the first token drawn that is not in
use. -/
theorem put_spec (clock clock' : ℚ) (drawn : List String) (owner : String) (context : PageContext)
    (items : List Bytes) (now : ℤ) (h : Within limits store) :
    (limits.maxBytes < sizeOf items ∧ ∃ store',
      put limits store clock clock' drawn owner context items now = some (store', tooLarge) ∧
      store.Shrinks store' ∧
      store'.entries = store.entries.filter fun value => clock < value.deadline) ∨
    ∃ room, store.Shrinks room ∧ HasRoom limits (sizeOf items) owner room ∧
      put limits store clock clock' drawn owner context items now =
        (drawn.find? (· ∉ room.tokens)).map fun token =>
          ({ room with
              entries := room.entries ++ [frozen limits clock' token owner context items now]
              size := room.size + sizeOf items },
            .value (frozen limits clock' token owner context items now)) := by
  obtain ⟨pruned, hprune, hpruned, hentries⟩ := EventPageStore.prune_spec clock h.counted
  unfold put
  rw [hprune]
  dsimp only
  by_cases hlarge : limits.maxBytes < sizeOf items
  · exact .inl ⟨hlarge, pruned, by rw [if_pos hlarge], hpruned, hentries⟩
  · rw [if_neg hlarge]
    have hcounted := hpruned.counted h.counted
    obtain ⟨evicted, hevict, hevicted, howned⟩ :=
      EventPageStore.evictOwned_spec limits owner hcounted
    have hcounted' := hevicted.counted hcounted
    obtain ⟨l, holdest, hsuffix, hlength, hbytes⟩ :=
      EventPageStore.evictOldest_spec (not_lt.1 hlarge) evicted.entries
    rw [hevict]
    dsimp only
    rw [hcounted'.size, holdest]
    dsimp only
    refine .inr ⟨{ evicted with entries := l, size := EventPageStore.bytes l }, ?_, ?_, ?_⟩
    · refine hpruned.trans (hevicted.trans ⟨hsuffix.sublist, fun hc => ⟨rfl, ?_⟩, rfl⟩)
      exact hc.unique.sublist (hsuffix.sublist.map _)
    · refine ⟨?_, hlength, ?_⟩
      · exact lt_of_le_of_lt ((hsuffix.sublist.filter _).map _).length_le howned
      · dsimp only
        exact_mod_cast hbytes
    · unfold EventPageStore.tokens
      dsimp only
      cases drawn.find? (· ∉ l.map FrozenEventList.token) with
      | none => rfl
      | some token => rfl

end

/-! ## Whole runs -/

section

variable {limits : Limits} {s : EventPageStore} {e : Entry EventPageStore Op Out}
variable {es before after : List (Entry EventPageStore Op Out)}

abbrev Step := Entry EventPageStore Op Out

/-- The build has begun. -/
def begins (e : Step) : Bool :=
  match e.op, e.out with
  | .beginBuild, .none => true
  | _, _ => false

def ends (e : Step) : Bool :=
  match e.op with
  | .endBuild => true
  | _ => false

/-- Every end matches a begin before it. -/
def Matched (es : List Step) : Prop :=
  ∀ before e after, es = before ++ e :: after → ends e = true →
    before.countP ends < before.countP begins

/-- The list that the step has put. -/
def putValue (e : Step) : Option FrozenEventList :=
  match e.op, e.out with
  | .put _ _ _ _ _ _ _, .value value => some value
  | _, _ => none

/-- The list has been put, and no list has been put under its token since. -/
def Put (value : FrozenEventList) (es : List Step) : Prop :=
  Since putValue (fun e => ∃ other, putValue e = some other ∧ other.token = value.token) value es

theorem Matched.prefix (h : Matched (es ++ [e])) : Matched es := by
  intro before f after hes hf
  exact h before f (after ++ [e]) (by simp [hes]) hf

/-- What holds of a store after a history. -/
structure Sound (limits : Limits) (es : List Step) (store : EventPageStore) : Prop where
  within : Within limits store
  builds_eq : store.builds = es.countP begins - es.countP ends
  builds_le : store.builds ≤ 2
  put : ∀ value ∈ store.entries, Put value es

/-- A step that puts nothing and takes lists out. -/
theorem Sound.shrinks {store' : EventPageStore} (h : Sound limits es e.pre)
    (hshrinks : e.pre.Shrinks store') (hbegins : begins e = false) (hends : ends e = false)
    (hput : putValue e = none) : Sound limits (es ++ [e]) store' where
  within := h.within.shrinks hshrinks
  builds_eq := by
    rw [hshrinks.builds, h.builds_eq]
    simp [hbegins, hends]
  builds_le := hshrinks.builds.le.trans h.builds_le
  put value hvalue := (h.put value (hshrinks.entries.mem hvalue)).extend (by simp [hput])

theorem Within.add {owner : String} {size : ℕ} {room : EventPageStore} {value : FrozenEventList}
    (h : Within limits room) (hroom : HasRoom limits size owner room) (hsize : value.size = size)
    (howner : value.owner = owner) (htoken : value.token ∉ room.tokens) :
    Within limits { room with entries := room.entries ++ [value], size := room.size + size } where
  counted := by
    constructor
    · have hcount := h.counted.size
      simp only [EventPageStore.bytes_append, EventPageStore.bytes_cons, Nat.cast_add]
      simp [hcount, hsize, EventPageStore.bytes]
    · have hunique := h.counted.unique
      unfold EventPageStore.tokens at hunique htoken ⊢
      rw [List.map_append, List.nodup_append]
      refine ⟨hunique, by simp, fun a ha b hb => ?_⟩
      rw [List.map_singleton, List.mem_singleton] at hb
      rintro rfl
      exact htoken (hb ▸ ha)
  bytes_le := hroom.bytes_le
  entries_le := by
    rw [List.length_append, List.length_singleton]
    exact hroom.entries_lt
  owned_le other := by
    have hlt := hroom.owned_lt
    have hle := h.owned_le other
    unfold EventPageStore.owned at hlt hle ⊢
    rw [List.filter_append, List.map_append, List.length_append]
    by_cases hother : value.owner = other
    · rw [← hother, howner]
      simp only [List.length_map] at hlt
      simp [howner]
      omega
    · simpa [hother] using hle

/-- **One step keeps the store sound.** -/
theorem Sound.step {store store' : EventPageStore} {op : Op} {out : Out} (h : Sound limits es store)
    (hs : step limits store op = some (store', out)) :
    Sound limits (es ++ [⟨store, op, out, store'⟩]) store' := by
  cases op with
  | beginBuild =>
    simp only [Events.step] at hs
    split_ifs at hs with hfull
    · simp only [Option.some.injEq, Prod.mk.injEq] at hs
      obtain ⟨rfl, rfl⟩ := hs
      exact Sound.shrinks (e := ⟨store, .beginBuild, busy, store⟩) h (.refl store) rfl rfl rfl
    · simp only [Option.some.injEq, Prod.mk.injEq] at hs
      obtain ⟨rfl, rfl⟩ := hs
      have hcounted := h.within.counted
      refine ⟨⟨⟨hcounted.size, hcounted.unique⟩, h.within.bytes_le, h.within.entries_le,
        h.within.owned_le⟩, ?_, ?_, fun value hvalue =>
          (h.put value hvalue).extend (by simp [putValue])⟩
      · have hbuilds := h.builds_eq
        simp [begins, ends]
        omega
      · dsimp only
        omega
  | endBuild =>
    simp only [Events.step, Option.some.injEq, Prod.mk.injEq] at hs
    obtain ⟨rfl, rfl⟩ := hs
    have hcounted := h.within.counted
    refine ⟨⟨⟨hcounted.size, hcounted.unique⟩, h.within.bytes_le, h.within.entries_le,
      h.within.owned_le⟩, ?_, ?_, fun value hvalue =>
        (h.put value hvalue).extend (by simp [putValue])⟩
    · have hbuilds := h.builds_eq
      simp [begins, ends]
      omega
    · have hbuilds := h.builds_le
      dsimp only
      omega
  | get clock token owner =>
    obtain ⟨store'', out', hget, hshrinks, -, -⟩ :=
      get_spec clock token owner h.within
    simp only [Events.step, hget, Option.some.injEq, Prod.mk.injEq] at hs
    obtain ⟨rfl, rfl⟩ := hs
    exact Sound.shrinks (e := ⟨store, .get clock token owner, out', store''⟩) h hshrinks rfl rfl rfl
  | put clock clock' drawn owner context items now =>
    simp only [Events.step] at hs
    rcases put_spec clock clock' drawn owner context items now h.within with
      ⟨-, store'', hput, hshrinks, -⟩ | ⟨room, hshrinks, hroom, hput⟩
    · rw [hput] at hs
      simp only [Option.some.injEq, Prod.mk.injEq] at hs
      obtain ⟨rfl, rfl⟩ := hs
      exact Sound.shrinks
        (e := ⟨store, .put clock clock' drawn owner context items now, tooLarge, store''⟩)
        h hshrinks rfl rfl rfl
    · rw [hput] at hs
      obtain ⟨token, hfind, hresult⟩ := Option.map_eq_some_iff.1 hs
      simp only [Prod.mk.injEq] at hresult
      obtain ⟨rfl, rfl⟩ := hresult
      have htoken : token ∉ room.tokens := by
        have hfound := List.find?_some hfind
        exact of_decide_eq_true hfound
      refine ⟨(h.within.shrinks hshrinks).add hroom rfl rfl htoken, ?_, ?_, ?_⟩
      · dsimp only
        rw [hshrinks.builds, h.builds_eq]
        simp [begins, ends]
      · exact hshrinks.builds.le.trans h.builds_le
      · intro value hvalue
        rcases List.mem_append.1 hvalue with hvalue | hvalue
        · refine (h.put value (hshrinks.entries.mem hvalue)).extend ?_
          rintro ⟨other, hother, hsame⟩
          simp only [putValue, Option.some.injEq] at hother
          subst hother
          refine htoken (List.mem_map.2 ⟨value, hvalue, hsame.symm⟩)
        · rw [List.mem_singleton.1 hvalue]
          exact Since.start es rfl

theorem sound_of_run (hrun : Run (step limits) {} es s) : Sound limits es s := by
  induction hrun with
  | nil => exact ⟨.empty limits, rfl, by simp, by simp⟩
  | snoc _ hs ih => exact ih.step hs

theorem countP_ends_le (hmatched : Matched es) : es.countP ends ≤ es.countP begins := by
  induction es using List.reverseRecOn with
  | nil => simp
  | append_singleton es e ih =>
    have hle := ih hmatched.prefix
    have hlt := hmatched es e [] rfl
    rw [List.countP_append, List.countP_append, List.countP_singleton]
    split_ifs with hends
    · have := hlt hends
      omega
    · omega

/-- A `put` draws a token that is not in use. -/
def Draws (store : EventPageStore) : Op → Prop
  | .put _ _ drawn _ _ _ _ => ∃ token ∈ drawn, token ∉ store.tokens
  | _ => True

/-- No step takes a list from where there is none. -/
theorem Sound.steps {store : EventPageStore} (h : Sound limits es store) {op : Op}
    (hdraws : Draws store op) : ∃ store' out, Events.step limits store op = some (store', out) := by
  cases op with
  | beginBuild =>
    unfold Events.step
    split_ifs
    · exact ⟨_, _, rfl⟩
    · exact ⟨_, _, rfl⟩
  | endBuild => exact ⟨_, _, rfl⟩
  | get clock token owner =>
    obtain ⟨store', out, hget, -⟩ := get_spec clock token owner h.within
    exact ⟨store', out, hget⟩
  | put clock clock' drawn owner context items now =>
    rcases put_spec clock clock' drawn owner context items now h.within with
      ⟨-, store', hput, -⟩ | ⟨room, hshrinks, -, hput⟩
    · exact ⟨store', tooLarge, hput⟩
    · obtain ⟨token, htoken, hfresh⟩ := hdraws
      have hroom : token ∉ room.tokens := fun hmem => hfresh ((hshrinks.entries.map _).mem hmem)
      have hsome : (drawn.find? (· ∉ room.tokens)).isSome := by
        rw [List.find?_isSome]
        exact ⟨token, htoken, by simpa using hroom⟩
      obtain ⟨token', hfind⟩ := Option.isSome_iff_exists.1 hsome
      rw [hfind] at hput
      exact ⟨_, _, hput⟩

/-- A step that puts a list puts what it is given. -/
theorem Sound.put_value {value : FrozenEventList} (h : Sound limits before e.pre)
    (hs : Events.step limits e.pre e.op = some (e.post, e.out)) (hput : putValue e = some value) :
    ∃ clock clock' drawn context items now,
      e.op = .put clock clock' drawn value.owner context items now ∧ e.out = .value value ∧
      value = frozen limits clock' value.token value.owner context items now := by
  obtain ⟨pre, op, out, post⟩ := e
  unfold putValue at hput
  split at hput
  · rename_i clock clock' drawn owner context items now value' hop hout
    dsimp only at hop hout h hs
    subst hop hout
    obtain rfl := Option.some.inj hput
    rcases Events.put_spec clock clock' drawn owner context items now h.within with
      ⟨-, store', hlarge, -⟩ | ⟨room, -, -, hroom⟩
    · rw [Events.step, hlarge] at hs
      cases hs
    · rw [Events.step, hroom] at hs
      obtain ⟨token, -, hresult⟩ := Option.map_eq_some_iff.1 hs
      simp only [Prod.mk.injEq, Out.value.injEq] at hresult
      obtain ⟨-, rfl⟩ := hresult
      exact ⟨clock, clock', drawn, context, items, now, rfl, rfl, rfl⟩
  · cases hput

/-- **The store keeps its limits**, whatever is put and by whom; its loops never take a list from
where there is none; a rejected list costs only expired ones; and an owner gets back the unexpired
list that was put last under the token. -/
theorem within_limits (hrun : Run (step limits) {} es s) (hmatched : Matched es) :
    (s.size = EventPageStore.bytes s.entries ∧ s.size ≤ limits.maxBytes ∧
      s.entries.length ≤ limits.maxEntries ∧
      (∀ owner, (s.owned owner).length ≤ limits.maxOwnerEntries) ∧ 0 ≤ s.builds ∧ s.builds ≤ 2) ∧
    (∀ op, Draws s op → ∃ s' out, step limits s op = some (s', out)) ∧
    (∀ clock clock' drawn owner context items now s' status detail,
      step limits s (.put clock clock' drawn owner context items now) =
        some (s', .raised status detail) →
      s'.entries = (s.entries.filter fun value => clock < value.deadline) ∧ s'.builds = s.builds) ∧
    ∀ clock token owner s' value,
      step limits s (.get clock token owner) = some (s', .value value) →
      value.owner = owner ∧ clock < value.deadline ∧
      ∃ before e after clock₁ clock₂ drawn context items now, es = before ++ e :: after ∧
        e.op = .put clock₁ clock₂ drawn owner context items now ∧ e.out = .value value ∧
        value = frozen limits clock₂ token owner context items now ∧
        ∀ f ∈ after, ∀ other, putValue f = some other → other.token ≠ token := by
  have hsound := sound_of_run hrun
  refine ⟨⟨hsound.within.counted.size, hsound.within.bytes_le, hsound.within.entries_le,
    hsound.within.owned_le, ?_, hsound.builds_le⟩, fun op => hsound.steps, ?_, ?_⟩
  · have hle := countP_ends_le hmatched
    rw [hsound.builds_eq]
    omega
  · intro clock clock' drawn owner context items now s' status detail hs
    rcases put_spec clock clock' drawn owner context items now hsound.within with
      ⟨-, store', hput, hshrinks, hentries⟩ | ⟨room, -, -, hput⟩
    · rw [step, hput] at hs
      simp only [Option.some.injEq, Prod.mk.injEq] at hs
      obtain ⟨rfl, -⟩ := hs
      exact ⟨hentries, hshrinks.builds⟩
    · rw [step, hput] at hs
      obtain ⟨token, -, hresult⟩ := Option.map_eq_some_iff.1 hs
      cases hresult
  · intro clock token owner s' value hs
    obtain ⟨store', out, hget, hshrinks, hentries, hout⟩ := get_spec clock token owner hsound.within
    rw [step, hget] at hs
    simp only [Option.some.injEq, Prod.mk.injEq] at hs
    obtain ⟨rfl, rfl⟩ := hs
    rcases hout with hgone | ⟨value', hmem, hvalue, rfl, rfl⟩
    · cases hgone
    · obtain rfl := Out.value.inj hvalue
      have hunexpired := hmem
      rw [hentries] at hunexpired
      refine ⟨rfl, of_decide_eq_true (List.mem_filter.1 hunexpired).2, ?_⟩
      obtain ⟨before, e, after, rfl, hput, hafter⟩ := hsound.put value (hshrinks.entries.mem hmem)
      obtain ⟨hbefore, hstep⟩ := hrun.of_append_cons
      obtain ⟨clock₁, clock₂, drawn, context, items, now, hop, hout, hvalue⟩ :=
        (sound_of_run hbefore).put_value hstep hput
      exact ⟨before, e, after, clock₁, clock₂, drawn, context, items, now, rfl, hop, hout, hvalue,
        fun f hf other hother hsame => hafter f hf ⟨other, hother, hsame⟩⟩

end

/-! ## A run -/

theorem matched_iff {es : List Step} : Matched es ↔ ∀ i : Fin es.length, ends (es.get i) = true →
    (es.take i).countP ends < (es.take i).countP begins := by
  constructor
  · intro h i hends
    refine h (es.take i) (es.get i) (es.drop (i + 1)) ?_ hends
    rw [List.get_eq_getElem, List.cons_getElem_drop_succ, List.take_append_drop]
  · rintro h before e after rfl hends
    have hlt : before.length < (before ++ e :: after).length := by simp
    have := h ⟨before.length, hlt⟩ (by simpa using hends)
    simpa using this

instance decidableMatched (es : List Step) : Decidable (Matched es) :=
  decidable_of_iff _ matched_iff.symm

/-- There is room for two lists of one item each. -/
def sampleLimits : Limits := ⟨300, 32, 2200, 4, by decide, by decide, by decide, by decide⟩

def sampleContext : PageContext := ⟨"pit-01", "source", "all", 1, 30, 30, 0, 0, 0⟩

def samplePut (clock : ℕ) (token owner : String) : Op :=
  .put clock clock [token] owner sampleContext [[120, 120]] (seconds clock)

def sampleList (clock : ℕ) (token owner : String) : FrozenEventList :=
  frozen sampleLimits clock token owner sampleContext [[120, 120]] (seconds clock)

/-- The third list evicts the first, and the second has expired when its owner asks for it. -/
def sampleOps : List Op :=
  [.beginBuild, samplePut 0 "t" "a", .endBuild, .beginBuild, samplePut 100 "u" "b", .endBuild,
    .beginBuild, samplePut 200 "v" "a", .endBuild, .get 399 "t" "a", .get 400 "u" "b"]

def evictedStore : EventPageStore := ⟨[sampleList 200 "v" "a"], 1090, 0⟩

theorem exec_sample : (exec (step sampleLimits) {} sampleOps).map (fun r =>
    (decide (Matched r.1), r.1.map Entry.out, r.2)) =
      some (true, [.none, .value (sampleList 0 "t" "a"), .none, .none,
        .value (sampleList 100 "u" "b"), .none, .none, .value (sampleList 200 "v" "a"), .none, gone,
        gone], evictedStore) := by
  decide +kernel

theorem within_limits_sample : ∃ es, Run (step sampleLimits) {} es evictedStore ∧ Matched es ∧
    es.map Entry.op = sampleOps ∧ evictedStore.size = EventPageStore.bytes evictedStore.entries ∧
    evictedStore.size ≤ 2200 ∧ ∃ value, step sampleLimits evictedStore (.get 450 "v" "a") =
      some (evictedStore, .value value) ∧ value.owner = "a" ∧ 450 < value.deadline ∧
        ∃ e ∈ es, e.out = .value value := by
  obtain ⟨⟨es, s⟩, hexec, hresult⟩ := Option.map_eq_some_iff.1 exec_sample
  simp only [Prod.mk.injEq, decide_eq_true_eq] at hresult
  obtain ⟨hmatched, -, rfl⟩ := hresult
  have hget : step sampleLimits evictedStore (.get 450 "v" "a") =
      some (evictedStore, .value (sampleList 200 "v" "a")) := by decide +kernel
  obtain ⟨⟨hsize, hbytes, -⟩, -, -, hgets⟩ := within_limits (.of_exec hexec) hmatched
  obtain ⟨howner, hunexpired, before, e, after, -, -, -, -, -, -, rfl, -, hout, -⟩ :=
    hgets 450 "v" "a" _ _ hget
  exact ⟨_, .of_exec hexec, hmatched, exec_ops hexec, hsize, hbytes, _, hget, howner, hunexpired,
    e, List.mem_append_right before List.mem_cons_self, hout⟩

end ScrapMonitoring.Events
