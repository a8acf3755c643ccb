import ForwardProxy.Proofs.Cache.Contents

/-!
# What a call leaves alone

Looking an entry up and setting one concern one key. Every other key keeps its entry and its place
among the others. There is one exception: where a new key is set in a full store, the key whose last
use is the longest ago has to go. A lookup is counted once, as one that found a live entry or as one
that did not, and no other call touches these counts.
-/

namespace ForwardProxy.Cache

open Time

namespace NewestFirst

/-- Looking a key up leaves the entries under other keys as they are. -/
theorem without_get (list : NewestFirst) (key : String) (now : Instant) :
    (list.get key now).2.without key = list.without key := by
  unfold get
  cases hfind : list.find? key with
  | none => rfl
  | some entry =>
    have hkey : entry.key = key := key_eq_of_find? Entry.key hfind
    by_cases hlate : ∃ last ∈ entry.expiresAt, last < now
    · simp only [if_pos hlate]
      simp [without]
    · simp only [if_neg hlate]
      simp [without, hkey]

end NewestFirst

namespace Store

/-- The keys but for one, from the newest to the oldest. -/
def keysBut (store : Store) (key : String) : List String := store.keys.filter (· ≠ key)

/-- Two stores hold the same under all keys but one, in the same order. -/
structure Agree (key : String) (before after : Store) : Prop where
  /-- The other keys are the same, in the same order. -/
  keys : after.keysBut key = before.keysBut key
  /-- The other keys have the same entries. -/
  entries : ∀ other : String, other ≠ key → after.entries[other]? = before.entries[other]?

/-- Where there is no room left, a new key takes the place of the one whose last use is the longest
ago. -/
structure PushesOut (key oldest : String) (before after : Store) : Prop where
  /-- The key had no entry. -/
  isNew : before.entries[key]? = none
  /-- There was no room left. -/
  full : before.size = before.capacity
  /-- The last use of the other is the longest ago. -/
  isOldest : before.keys.getLast? = some oldest
  /-- The key comes in at the front, and the other goes at the back. -/
  keys : after.keys = key :: before.keys.dropLast
  /-- All keys but these two have the same entries. -/
  entries : ∀ other : String, other ≠ key →
    after.entries[other]? = if other = oldest then none else before.entries[other]?

variable {key : String} {store next : Store} {list newer : NewestFirst}

/-- Stores whose lists have the same entries under other keys agree on these. -/
theorem Represents.agree (h : store.Represents list) (hnext : next.Represents newer)
    (hsame : newer.without key = list.without key) : Agree key store next where
  keys := by
    rw [keysBut, Store.keys, hnext.keys, ← map_key_without, hsame, map_key_without, ← h.keys]
    rfl
  entries := by
    intro other hother
    have hleft := list.find?_without key other
    have hright := newer.find?_without key other
    rw [if_neg hother] at hleft hright
    rw [hnext.lookup, h.lookup, ← hleft, ← hright, hsame]

/-- A new key that comes in at the front of a full list takes the place of the last entry. -/
theorem Represents.pushesOut (h : store.Represents list) (hnext : next.Represents newer)
    (hnone : list.find? key = none) {front : List Entry} {last made : Entry}
    (hfront : list.entries = front ++ [last]) (hfull : list.capacity = front.length + 1)
    (hkey : made.key = key) (hmade : newer.entries = made :: front) :
    PushesOut key last.key store next where
  isNew := by rw [h.lookup, hnone]
  full := by
    rw [size, h.size_eq, h.capacity, hfull, hfront, List.length_append, List.length_singleton]
  isOldest := by
    rw [Store.keys, h.keys, hfront]
    simp
  keys := by
    rw [Store.keys, hnext.keys, hmade, Store.keys, h.keys, hfront, ← hkey]
    simp
  entries := by
    intro other hother
    have hothers : list.without last.key = front := by
      rw [(h.without_last (by rw [hfront, List.getLast?_concat])).2, hfront, List.dropLast_concat]
    have hleft := list.find?_without last.key other
    rw [hothers] at hleft
    have hne : made.key ≠ other := hkey ▸ Ne.symm hother
    rw [hnext.lookup, h.lookup, NewestFirst.find?, hmade, List.find?_cons_of_neg (by simpa using hne),
      hleft]

/-- An entry that comes in at the front of those under other keys, as far as there is room, leaves
all other keys alone, or pushes the oldest of them out. -/
theorem Represents.agree_or_pushesOut (h : store.Represents list) (hnext : next.Represents newer)
    (hle : list.entries.length ≤ list.capacity) {made : Entry} (hkey : made.key = key)
    (hmade : newer.entries = (made :: list.without key).take list.capacity) :
    Agree key store next ∨ ∃ oldest, PushesOut key oldest store next := by
  by_cases hroom : (list.without key).length < list.capacity
  · left
    apply h.agree hnext
    rw [List.take_of_length_le (by rw [List.length_cons]; omega)] at hmade
    simp [NewestFirst.without, hmade, hkey]
  · -- No entry is under the key, or there would be room.
    have hnone : list.find? key = none := by
      rw [Option.eq_none_iff_forall_ne_some]
      intro entry hfind
      have hlt := NewestFirst.length_without_lt hfind
      omega
    rw [NewestFirst.without_of_find?_none hnone] at hroom hmade
    rcases list.entries.eq_nil_or_concat' with hnil | ⟨front, last, hfront⟩
    · left
      apply h.agree hnext
      have hzero : list.capacity = 0 := by simpa [hnil] using hroom
      simp [NewestFirst.without, hmade, hzero, hnil]
    · have hfull : list.capacity = front.length + 1 := by
        rw [hfront, List.length_append, List.length_singleton] at hle hroom
        omega
      rw [hfull, List.take_succ_cons, hfront, List.take_left] at hmade
      exact .inr ⟨last.key, h.pushesOut hnext hnone hfront hfull hkey hmade⟩

/-- Looking a key up leaves all other keys alone. -/
theorem InOrder.agree_get {capacity : Nat} (h : store.InOrder capacity) (key : String)
    (now : Instant) : Agree key store (store.get key now).2 := by
  obtain ⟨list, hlist, -, -⟩ := h
  exact hlist.agree (hlist.get key now).2 (list.without_get key now)

/-- Looking a key up and then setting it leaves all other keys alone, or pushes the oldest of them
out. -/
theorem InOrder.agree_or_pushesOut {capacity : Nat} (h : store.InOrder capacity) (key : String)
    (value : Bytes) (ttl : Option Span) (asked received : Instant) :
    let after := ((store.get key asked).2.set key value ttl received).2
    Agree key store after ∨ ∃ oldest, PushesOut key oldest store after := by
  obtain ⟨list, hlist, rfl, hle⟩ := h
  obtain ⟨hcapacity, hlength⟩ := list.get_le key asked
  have hlooked := (hlist.get key asked).2
  have hbound : (list.get key asked).2.entries.length ≤ (list.get key asked).2.capacity := by omega
  have hmade := NewestFirst.entries_set hbound key value ttl received
  rw [list.without_get, hcapacity] at hmade
  exact hlist.agree_or_pushesOut (hlooked.set key value ttl received).2 hle rfl hmade

/-- Two stores have counted the same lookups. -/
def SameLookups (before after : Store) : Prop :=
  after.counters.hits = before.counters.hits ∧ after.counters.misses = before.counters.misses

/-- Dropping an entry is no lookup. -/
theorem sameLookups_remove (store : Store) (key : String) :
    SameLookups store (store.remove key).2 := by
  unfold remove
  split <;> exact ⟨rfl, rfl⟩

/-- Dropping the oldest entries is no lookup. -/
theorem sameLookups_shrink (store : Store) : SameLookups store store.shrink := by
  fun_induction shrink store with
  | case2 store hlong oldest holdest hremoved ih =>
    have hremove := store.sameLookups_remove oldest
    exact ⟨ih.1.trans hremove.1, ih.2.trans hremove.2⟩
  | _ => exact ⟨rfl, rfl⟩

/-- Setting an entry is no lookup. -/
theorem sameLookups_set (store : Store) (key : String) (value : Bytes) (ttl : Option Span)
    (now : Instant) : SameLookups store (store.set key value ttl now).2 := by
  unfold set
  split
  · exact ⟨rfl, rfl⟩
  · exact sameLookups_shrink _

/-- A lookup that finds a live entry is counted as such. -/
theorem counters_get_of_some {now : Instant} {entry : Entry}
    (h : (store.get key now).1 = some entry) :
    (store.get key now).2.counters.hits = store.counters.hits + 1 ∧
      (store.get key now).2.counters.misses = store.counters.misses := by
  unfold get at h ⊢
  split at h
  · cases h
  · split at h
    · cases h
    · next hlive => simp [hlive, Statistics.hit]

/-- A lookup that finds no live entry is counted as such. -/
theorem counters_get_of_none {now : Instant} (h : (store.get key now).1 = none) :
    (store.get key now).2.counters.hits = store.counters.hits ∧
      (store.get key now).2.counters.misses = store.counters.misses + 1 := by
  have hremove := store.sameLookups_remove key
  unfold get at h ⊢
  split at h
  · exact ⟨rfl, rfl⟩
  · split at h
    · next hexpired =>
      simp only [hexpired, if_true, Statistics.miss]
      exact ⟨hremove.1, congrArg (· + 1) hremove.2⟩
    · cases h

end Store

end ForwardProxy.Cache
