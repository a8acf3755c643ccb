import ForwardProxy.Proofs.Cache.Operations
import ForwardProxy.Proofs.Cache.Recency
import ForwardProxy.Proofs.Keyed
import Mathlib.Algebra.BigOperators.Group.List.Basic
import Mathlib.Algebra.GroupWithZero.Nat

/-!
# The cache as a list of entries

A cache is no more than a list of entries from the newest to the oldest, with three counters.
`NewestFirst` says in terms of such a list what each call does, and `Store.Represents` relates the
maps, the clock and the running total of a `Store` to it. Every call keeps them related and gives
the same reply, so no sequence of calls tells a store from its list.
-/

namespace ForwardProxy.Cache

open Time

/-- An entry has expired when it has a last live instant and that has passed. -/
theorem Entry.expired_iff (entry : Entry) (now : Instant) :
    entry.expired now = true ↔ ∃ last ∈ entry.expiresAt, last < now := by
  cases hlast : entry.expiresAt <;> simp [Entry.expired, hlast]

/-- The entries of a cache from the newest to the oldest, with its counters. -/
structure NewestFirst where
  /-- The entries, the newest first. -/
  entries : List Entry := []
  /-- Lookups that found a live entry. -/
  hits : Nat := 0
  /-- Lookups that found no live entry. -/
  misses : Nat := 0
  /-- Entries that were pushed out, found expired, or removed. -/
  evictions : Nat := 0
  /-- The greatest number of entries. -/
  capacity : Nat

namespace NewestFirst

/-- A list without entries. -/
def new (capacity : Nat) : NewestFirst := { capacity }

/-- The entry under a key. -/
def find? (list : NewestFirst) (key : String) : Option Entry :=
  list.entries.find? (·.key = key)

/-- The entries under other keys. -/
def without (list : NewestFirst) (key : String) : List Entry :=
  list.entries.filter (·.key ≠ key)

/-- The last instant of an entry that is made at `now`: there is none without a time to live, with
one of zero, or where the calendar does not reach that far. -/
def lastInstant? (now : Instant) : Option Span → Option Instant
  | none => none
  | some ttl => if ttl = Span.zero then none else now.add? ttl

/-- Drops entries from the back, one by one, while there are more than the capacity. -/
def dropOldest (list : NewestFirst) : NewestFirst :=
  if list.capacity < list.entries.length then
    dropOldest { list with entries := list.entries.dropLast, evictions := list.evictions + 1 }
  else list
termination_by list.entries.length
decreasing_by
  simp only [List.length_dropLast]
  omega

/-- Puts an entry to the front, in place of the one that its key had. A new key may push entries out
at the back. -/
def set (list : NewestFirst) (key : String) (value : Bytes) (ttl : Option Span) (now : Instant) :
    Bool × NewestFirst :=
  let entry : Entry :=
    { key, value, size := value.length, createdAt := now, expiresAt := lastInstant? now ttl }
  match list.find? key with
  | some _ => (false, { list with entries := entry :: list.without key })
  | none => (true, dropOldest { list with entries := entry :: list.entries })

/-- Moves a live entry to the front. One that is past its last instant is dropped. -/
def get (list : NewestFirst) (key : String) (now : Instant) : Option Entry × NewestFirst :=
  match list.find? key with
  | none => (none, { list with misses := list.misses + 1 })
  | some entry =>
    if ∃ last ∈ entry.expiresAt, last < now then
      (none, { list with
        entries := list.without key
        evictions := list.evictions + 1
        misses := list.misses + 1 })
    else (some entry, { list with entries := entry :: list.without key, hits := list.hits + 1 })

/-- Takes an entry out. -/
def remove (list : NewestFirst) (key : String) : Bool × NewestFirst :=
  match list.find? key with
  | some _ =>
    (true, { list with entries := list.without key, evictions := list.evictions + 1 })
  | none => (false, list)

/-- Takes all entries out. The counters stay. -/
def clear (list : NewestFirst) : NewestFirst := { list with entries := [] }

/-- The mean number of octets of the values, rounded down. -/
def meanSize (list : NewestFirst) : Nat :=
  if list.entries = [] then 0
  else (list.entries.map (·.value.length)).sum / list.entries.length

/-- Carries out a call. -/
def perform (list : NewestFirst) : Operation → Reply × NewestFirst
  | .set key value ttl now =>
    let answer := list.set key value ttl now
    (.isNew answer.1, answer.2)
  | .get key now =>
    let answer := list.get key now
    (.found answer.1, answer.2)
  | .remove key =>
    let answer := list.remove key
    (.removed answer.1, answer.2)
  | .clear => (.done, list.clear)

/-- The list after a sequence of calls. -/
def after (list : NewestFirst) (operations : List Operation) : NewestFirst :=
  operations.foldl (fun list operation => (list.perform operation).2) list

/-- What can be read off the list. -/
def facts (list : NewestFirst) : Facts where
  size := list.entries.length
  isEmpty := list.entries.isEmpty
  keys := list.entries.map (·.key)
  statistics :=
    { size := list.entries.length
      capacity := list.capacity
      hits := list.hits
      misses := list.misses
      evictions := list.evictions
      meanSize := list.meanSize }

/-- The entries under other keys are all entries if there is none under the key. -/
theorem without_of_find?_none {list : NewestFirst} {key : String} (h : list.find? key = none) :
    list.without key = list.entries := by
  rw [without, List.filter_eq_self]
  simpa [NewestFirst.find?] using h

/-- Under other keys the same entries are found without a key as with it. -/
theorem find?_without (list : NewestFirst) (key other : String) :
    (list.without key).find? (·.key = other) = if other = key then none else list.find? other :=
  find?_filter_key_ne Entry.key key other list.entries

/-- What stays of a list that is too long is its front. -/
theorem dropOldest_eq (list : NewestFirst) :
    list.dropOldest =
      { list with
        entries := list.entries.take list.capacity
        evictions := list.evictions + (list.entries.length - list.capacity) } := by
  fun_induction dropOldest list with
  | case1 list hlong ih =>
    rw [ih]
    simp only [List.dropLast_eq_take, List.length_take, List.take_take, NewestFirst.mk.injEq,
      true_and, and_true]
    constructor
    · congr 1
      omega
    · omega
  | case2 list hshort =>
    have htake : list.entries.take list.capacity = list.entries :=
      List.take_of_length_le (by omega)
    have hzero : list.entries.length - list.capacity = 0 := by omega
    simp [htake, hzero]

end NewestFirst

namespace Store

/-- A store holds the entries of a list in its order, with its counters. -/
structure Represents (store : Store) (list : NewestFirst) : Prop where
  /-- The order of recency is in order. -/
  valid : store.recency.Valid
  /-- The order lists the keys of the entries. -/
  keys : store.recency.recent = list.entries.map (·.key)
  /-- The map finds each entry under its key. -/
  lookup : ∀ key : String, store.entries[key]? = list.find? key
  /-- Each entry knows the size of its value. -/
  sizes : ∀ entry ∈ list.entries, entry.size = entry.value.length
  /-- The running total is that of all values. -/
  octets : store.octets = (list.entries.map (·.value.length)).sum
  /-- The counters are the same. -/
  counters : store.counters =
    { capacity := list.capacity, hits := list.hits, misses := list.misses
      evictions := list.evictions }
  /-- The capacity is the same. -/
  capacity : store.capacity = list.capacity

/-- A new store represents a list without entries. -/
theorem represents_new (capacity : Nat) : (new capacity).Represents (.new capacity) where
  valid := Recency.valid_empty
  keys := Recency.recent_clear .empty
  lookup := by simp [new, NewestFirst.new, NewestFirst.find?]
  sizes := by simp [NewestFirst.new]
  octets := rfl
  counters := rfl
  capacity := rfl

variable {store : Store} {list : NewestFirst}

/-- The entries of a list that is represented have different keys. -/
theorem Represents.nodup (h : store.Represents list) : (list.entries.map (·.key)).Nodup :=
  h.keys ▸ h.valid.nodup_recent

/-- The entry under a key has that key and is in the list. -/
theorem Represents.mem_of_find? {key : String} {entry : Entry}
    (hfind : list.find? key = some entry) : entry.key = key ∧ entry ∈ list.entries :=
  ⟨key_eq_of_find? Entry.key hfind, List.mem_of_find?_eq_some hfind⟩

/-- The list consists of the entry under a key and of those under other keys. -/
theorem Represents.perm (h : store.Represents list) {key : String} {entry : Entry}
    (hfind : list.find? key = some entry) : list.entries.Perm (entry :: list.without key) :=
  perm_cons_filter_key_ne Entry.key h.nodup hfind

/-- The keys of the entries under other keys are the other keys. -/
theorem map_key_without (list : NewestFirst) (key : String) :
    (list.without key).map (·.key) = (list.entries.map (·.key)).filter (· ≠ key) := by
  rw [NewestFirst.without, List.filter_map]
  rfl

/-- The map of a store has as many entries as the list. -/
theorem Represents.size_eq (h : store.Represents list) :
    store.entries.size = list.entries.length := by
  have hperm : store.entries.keys.Perm (list.entries.map (·.key)) := by
    rw [List.perm_ext_iff_of_nodup store.entries.nodup_keys h.nodup]
    intro key
    rw [Std.HashMap.mem_keys, Std.HashMap.mem_iff_isSome_getElem?, h.lookup, NewestFirst.find?,
      List.find?_isSome]
    simp
  rw [← Std.HashMap.length_keys, hperm.length_eq, List.length_map]

/-- What can be read off a store is what can be read off its list. -/
theorem Represents.facts_eq (h : store.Represents list) : store.facts = list.facts := by
  have hsize := h.size_eq
  have hempty : store.entries.isEmpty = list.entries.isEmpty := by
    rw [Std.HashMap.isEmpty_eq_size_eq_zero, hsize]
    cases list.entries <;> rfl
  have hmean : (if store.entries.size = 0 then 0 else store.octets / store.entries.size) =
      list.meanSize := by
    rw [hsize, h.octets, NewestFirst.meanSize]
    simp only [List.length_eq_zero_iff]
  simp only [facts, NewestFirst.facts, size, isEmpty, Store.keys, statistics,
    Statistics.withOccupancy, hsize, hempty, h.keys, h.counters, Facts.mk.injEq,
    Statistics.mk.injEq, true_and]
  rw [← hsize]
  exact hmean

/-- Removing an entry gives the same reply on both sides. -/
theorem Represents.remove (h : store.Represents list) (key : String) :
    (store.remove key).1 = (list.remove key).1 ∧
      (store.remove key).2.Represents (list.remove key).2 := by
  unfold Store.remove NewestFirst.remove
  rw [h.lookup]
  cases hfind : list.find? key with
  | none => exact ⟨rfl, h⟩
  | some entry =>
    refine ⟨rfl, ⟨h.valid.remove key, ?_, ?_, ?_, ?_, ?_, h.capacity⟩⟩
    · rw [h.valid.recent_remove, h.keys, map_key_without]
    · intro other
      rw [NewestFirst.find?, NewestFirst.find?_without, Std.HashMap.getElem?_erase, h.lookup]
      by_cases hother : key = other
      · simp [hother]
      · simp [hother, Ne.symm hother]
    · intro other hmem
      exact h.sizes other (List.mem_of_mem_filter hmem)
    · have hsum := ((h.perm hfind).map (·.value.length)).sum_eq
      have hentry := h.sizes entry (Represents.mem_of_find? hfind).2
      simp only [List.map_cons, List.sum_cons] at hsum
      show store.octets - entry.size = _
      rw [h.octets, hsum, hentry]
      simp
    · simp only [h.counters, Statistics.eviction]

/-- Putting an entry to the front keeps a store and its list related. In the map it takes the place
of the one under its key, and its key is the one that was used last. -/
theorem Represents.front (h : store.Represents list) (entry : Entry)
    (hsize : entry.size = entry.value.length) {entries : Std.HashMap String Entry}
    (hentries : ∀ other : String,
      entries[other]? = if entry.key = other then some entry else store.entries[other]?)
    {octets : Nat}
    (hoctets : octets = ((entry :: list.without entry.key).map (·.value.length)).sum) :
    Represents { store with entries, recency := store.recency.touch entry.key, octets }
      { list with entries := entry :: list.without entry.key } where
  valid := h.valid.touch entry.key
  keys := by
    rw [List.map_cons, map_key_without]
    exact (h.valid.recent_touch entry.key).trans (by rw [h.keys])
  lookup := by
    intro other
    rw [hentries, h.lookup, NewestFirst.find?, NewestFirst.find?, List.find?_cons]
    by_cases hother : entry.key = other
    · simp [hother]
    · have hwithout := list.find?_without entry.key other
      rw [if_neg (Ne.symm hother)] at hwithout
      simp [hother, hwithout, NewestFirst.find?]
  sizes := by
    intro other hmem
    rcases List.mem_cons.mp hmem with rfl | hmem
    · exact hsize
    · exact h.sizes other (List.mem_of_mem_filter hmem)
  octets := hoctets
  counters := h.counters
  capacity := h.capacity

/-- Looking an entry up gives the same reply on both sides. -/
theorem Represents.get (h : store.Represents list) (key : String) (now : Instant) :
    (store.get key now).1 = (list.get key now).1 ∧
      (store.get key now).2.Represents (list.get key now).2 := by
  have hremove := (h.remove key).2
  unfold Store.get NewestFirst.get
  rw [h.lookup]
  cases hfind : list.find? key with
  | none =>
    exact ⟨rfl, { h with counters := by simp only [h.counters, Statistics.miss] }⟩
  | some entry =>
    obtain ⟨rfl, hmem⟩ := Represents.mem_of_find? hfind
    have hexpired := Entry.expired_iff entry now
    by_cases hlate : ∃ last ∈ entry.expiresAt, last < now
    · simp only [if_pos hlate, if_pos (hexpired.mpr hlate), true_and]
      simp only [NewestFirst.remove, hfind] at hremove
      exact { hremove with counters := by simp only [hremove.counters, Statistics.miss] }
    · simp only [if_neg hlate, if_neg (mt hexpired.mp hlate), true_and]
      have hentries (other : String) : store.entries[other]? =
          if entry.key = other then some entry else store.entries[other]? := by
        by_cases hother : entry.key = other
        · rw [if_pos hother, ← hother, h.lookup, hfind]
        · rw [if_neg hother]
      have hfront := h.front entry (h.sizes entry hmem) hentries
        (h.octets.trans ((h.perm hfind).map (·.value.length)).sum_eq)
      exact { hfront with counters := by simp only [h.counters, Statistics.hit] }

/-- The oldest key of a store is that of the last entry. -/
theorem Represents.oldest?_eq (h : store.Represents list) :
    store.recency.oldest? = list.entries.getLast?.map (·.key) := by
  rw [Recency.oldest?_eq_getLast?, h.keys, List.getLast?_map]

/-- The entries under other keys than that of the last one are those in front of it. -/
theorem Represents.without_last (h : store.Represents list) {last : Entry}
    (hlast : list.entries.getLast? = some last) :
    list.find? last.key = some last ∧ list.without last.key = list.entries.dropLast := by
  obtain ⟨front, hfront⟩ := List.getLast?_eq_some_iff.mp hlast
  have hnodup := h.nodup
  simp only [hfront, List.map_append, List.map_cons, List.map_nil, List.nodup_append,
    List.mem_map, forall_exists_index, and_imp] at hnodup
  have hne : ∀ entry ∈ front, entry.key ≠ last.key := fun entry hmem =>
    hnodup.2.2 entry.key entry hmem rfl last.key (by simp)
  constructor
  · rw [NewestFirst.find?, hfront, List.find?_append,
      List.find?_eq_none.mpr (by simpa using hne)]
    simp
  · rw [NewestFirst.without, hfront, List.filter_append,
      List.filter_eq_self.mpr (by simpa using hne), List.dropLast_concat]
    simp

/-- The oldest key of a store has an entry, and dropping it takes the last entry off the list. -/
theorem Represents.remove_oldest (h : store.Represents list) {key : String}
    (holdest : store.recency.oldest? = some key) :
    ∃ last, list.entries.getLast? = some last ∧ store.entries[key]? = some last ∧
      (store.remove key).1 = true ∧ (store.remove key).2.Represents
        { list with entries := list.entries.dropLast, evictions := list.evictions + 1 } := by
  rw [h.oldest?_eq, Option.map_eq_some_iff] at holdest
  obtain ⟨last, hlast, rfl⟩ := holdest
  obtain ⟨hfind, hwithout⟩ := h.without_last hlast
  obtain ⟨hreply, hnext⟩ := h.remove last.key
  simp only [NewestFirst.remove, hfind, hwithout] at hreply hnext
  exact ⟨last, hlast, (h.lookup last.key).trans hfind, hreply, hnext⟩

/-- There is an oldest key in a store that is too long. -/
theorem Represents.oldest?_ne_none (h : store.Represents list)
    (hlong : store.capacity < store.size) : store.recency.oldest? ≠ none := by
  intro hnone
  rw [h.oldest?_eq, Option.map_eq_none_iff, List.getLast?_eq_none_iff] at hnone
  rw [size, h.size_eq, hnone] at hlong
  simp at hlong

/-- Dropping what is too old keeps a store and its list related. -/
theorem Represents.shrink (h : store.Represents list) :
    store.shrink.Represents list.dropOldest := by
  fun_induction Store.shrink store generalizing list with
  | case1 store hlong hnone => exact absurd hnone (h.oldest?_ne_none hlong)
  | case2 store hlong key hkey hremoved ih =>
    obtain ⟨last, -, -, -, hnext⟩ := h.remove_oldest hkey
    rw [size, h.size_eq, h.capacity] at hlong
    rw [NewestFirst.dropOldest, if_pos hlong]
    exact ih hnext
  | case3 store hlong key hkey hremoved =>
    -- The oldest key has an entry, so dropping it cannot fail.
    obtain ⟨last, -, -, hreply, -⟩ := h.remove_oldest hkey
    exact absurd hreply hremoved
  | case4 store hshort =>
    rw [size, h.size_eq, h.capacity] at hshort
    rw [NewestFirst.dropOldest, if_neg hshort]
    exact h

/-- The time up to which an entry is live is said in the same way on both sides. -/
theorem expiryAfter?_eq (now : Instant) (ttl : Option Span) :
    expiryAfter? now ttl = NewestFirst.lastInstant? now ttl := by
  cases ttl with
  | none => rfl
  | some ttl => by_cases hzero : ttl = Span.zero <;> simp [expiryAfter?, hzero,
      NewestFirst.lastInstant?, Option.filter]

/-- A store with an entry under a key that had none, before any other is dropped for it. -/
def grown (store : Store) (key : String) (value : Bytes) (ttl : Option Span) (now : Instant) :
    Store :=
  let entry := Entry.new key value ttl now
  { store with
    entries := store.entries.insert key entry
    recency := store.recency.touch key
    octets := store.octets + entry.size }

/-- Setting an entry under a key that has none adds it, and then drops what is too old. -/
theorem set_of_none {key : String} (h : store.entries[key]? = none) (value : Bytes)
    (ttl : Option Span) (now : Instant) :
    store.set key value ttl now = (true, (store.grown key value ttl now).shrink) := by
  unfold set
  rw [h]
  rfl

/-- An entry that was put into a map is found under its key, and nothing else has changed. -/
theorem getElem?_insert_new (entries : Std.HashMap String Entry) (key : String) (value : Bytes)
    (ttl : Option Span) (now : Instant) (other : String) :
    (entries.insert key (Entry.new key value ttl now))[other]? =
      if key = other then some (Entry.new key value ttl now) else entries[other]? := by
  simp [Std.HashMap.getElem?_insert]

/-- An entry under a key that had none is put to the front. -/
theorem Represents.grown (h : store.Represents list) {key : String} (hnone : list.find? key = none)
    (value : Bytes) (ttl : Option Span) (now : Instant) :
    (store.grown key value ttl now).Represents
      { list with entries := Entry.new key value ttl now :: list.entries } := by
  have hwithout := NewestFirst.without_of_find?_none hnone
  rw [← hwithout]
  apply h.front (Entry.new key value ttl now) rfl (getElem?_insert_new _ key value ttl now)
  simp only [List.map_cons, List.sum_cons, Entry.new, hwithout, h.octets]
  omega

/-- Setting an entry gives the same reply on both sides. -/
theorem Represents.set (h : store.Represents list) (key : String) (value : Bytes)
    (ttl : Option Span) (now : Instant) :
    (store.set key value ttl now).1 = (list.set key value ttl now).1 ∧
      (store.set key value ttl now).2.Represents (list.set key value ttl now).2 := by
  have hentry : Entry.new key value ttl now =
      { key, value, size := value.length, createdAt := now
        expiresAt := NewestFirst.lastInstant? now ttl } := by
    rw [Entry.new, expiryAfter?_eq]
  unfold NewestFirst.set
  cases hfind : list.find? key with
  | some old =>
    unfold Store.set
    rw [h.lookup, hfind]
    simp only [← hentry, true_and]
    apply h.front (Entry.new key value ttl now) rfl (getElem?_insert_new _ key value ttl now)
    have hsum := ((h.perm hfind).map (·.value.length)).sum_eq
    have hold := h.sizes old (Represents.mem_of_find? hfind).2
    simp only [List.map_cons, List.sum_cons] at hsum
    simp only [List.map_cons, List.sum_cons, h.octets, hsum, hold, Entry.new]
    omega
  | none =>
    rw [set_of_none ((h.lookup key).trans hfind)]
    simp only [← hentry, true_and]
    exact (h.grown hfind value ttl now).shrink

/-- Dropping all entries keeps a store and its list related. -/
theorem Represents.clear (h : store.Represents list) : store.clear.Represents list.clear where
  valid := store.recency.valid_clear
  keys := store.recency.recent_clear
  lookup := by simp [Store.clear, NewestFirst.clear, NewestFirst.find?]
  sizes := by simp [NewestFirst.clear]
  octets := rfl
  counters := h.counters
  capacity := h.capacity

/-- Every call gives the same reply on both sides, and keeps them related. -/
theorem Represents.perform (h : store.Represents list) (operation : Operation) :
    (store.perform operation).1 = (list.perform operation).1 ∧
      (store.perform operation).2.Represents (list.perform operation).2 := by
  cases operation with
  | set key value ttl now =>
    obtain ⟨hreply, hnext⟩ := h.set key value ttl now
    exact ⟨congrArg Reply.isNew hreply, hnext⟩
  | get key now =>
    obtain ⟨hreply, hnext⟩ := h.get key now
    exact ⟨congrArg Reply.found hreply, hnext⟩
  | remove key =>
    obtain ⟨hreply, hnext⟩ := h.remove key
    exact ⟨congrArg Reply.removed hreply, hnext⟩
  | clear => exact ⟨rfl, h.clear⟩

/-- A sequence of calls keeps a store and its list related. -/
theorem Represents.after (h : store.Represents list) (operations : List Operation) :
    (store.after operations).Represents (list.after operations) := by
  induction operations generalizing store list with
  | nil => exact h
  | cons operation operations ih => exact ih (h.perform operation).2

/-- A store and its list cannot be told apart by any sequence of calls. -/
theorem Represents.observations_eq (h : store.Represents list) (operations : List Operation) :
    observations Store.perform facts store operations =
      observations NewestFirst.perform NewestFirst.facts list operations := by
  induction operations generalizing store list with
  | nil => rfl
  | cons operation operations ih =>
    obtain ⟨hreply, hnext⟩ := h.perform operation
    simp only [observations, hreply, hnext.facts_eq, ih hnext]

/-- A cache of any capacity behaves as a list of entries from the newest to the oldest: for every
sequence of calls with any keys, values, times to live and readings of the clock, the replies and
all that can be read off the cache at the start and after each call are those of the list. -/
theorem observations_new_eq_newestFirst (capacity : Nat) (operations : List Operation) :
    (new capacity).facts = (NewestFirst.new capacity).facts ∧
      observations perform facts (new capacity) operations =
        observations NewestFirst.perform NewestFirst.facts (.new capacity) operations :=
  ⟨(represents_new capacity).facts_eq, (represents_new capacity).observations_eq operations⟩

end Store

end ForwardProxy.Cache
