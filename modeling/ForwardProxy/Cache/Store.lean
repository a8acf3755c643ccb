import ForwardProxy.Cache.Entry
import ForwardProxy.Cache.Recency
import ForwardProxy.Cache.Statistics

/-!
# The cache

A bounded store of octet strings under keys. Looking an entry up or setting it makes it the newest.
When there are too many entries, the oldest go. Entries past their time are dropped when they are
looked up, and not before.
-/

namespace ForwardProxy.Cache

open Time

/-- A bounded store. -/
structure Store where
  /-- The entries by key. -/
  entries : Std.HashMap String Entry := ∅
  /-- The order in which the keys were last used. -/
  recency : Recency := .empty
  /-- What happened so far. -/
  counters : Statistics
  /-- The sum of the sizes of the entries. -/
  octets : Nat := 0
  /-- The greatest number of entries. -/
  capacity : Nat

namespace Store

/-- An empty store for so many entries. One for none keeps nothing. -/
def new (capacity : Nat) : Store where
  counters := { capacity }
  capacity := capacity

/-- The number of entries. -/
def size (store : Store) : Nat := store.entries.size

/-- Whether there are no entries. -/
def isEmpty (store : Store) : Bool := store.entries.isEmpty

/-- Drops the entry under a key and counts that, if there is one. -/
def remove (store : Store) (key : String) : Bool × Store :=
  match store.entries[key]? with
  | some entry =>
    (true, { store with
      entries := store.entries.erase key
      recency := (store.recency.remove key).2
      octets := store.octets - entry.size
      counters := store.counters.eviction })
  | none => (false, store)

/-- Looks up the live entry under a key, and makes it the newest. -/
def get (store : Store) (key : String) (now : Instant) : Option Entry × Store :=
  match store.entries[key]? with
  | none => (none, { store with counters := store.counters.miss })
  | some entry =>
    if entry.expired now then
      let store := (store.remove key).2
      (none, { store with counters := store.counters.miss })
    else
      (some entry, { store with
        recency := store.recency.touch key
        counters := store.counters.hit })

/-- An entry less is left after one that is there was dropped. -/
theorem size_remove_lt {store : Store} {key : String} (h : (store.remove key).1 = true) :
    (store.remove key).2.size < store.size := by
  unfold remove at h ⊢
  split at h
  · next entry hentry =>
    have hmem : key ∈ store.entries := by
      rw [Std.HashMap.mem_iff_isSome_getElem?, hentry]; rfl
    have hpos : 0 < store.entries.size := by
      rw [Nat.pos_iff_ne_zero]
      intro hzero
      have hempty : store.entries.isEmpty = true := by
        rw [Std.HashMap.isEmpty_eq_size_eq_zero, hzero]; rfl
      exact (Std.HashMap.isEmpty_iff_forall_not_mem.1 hempty) key hmem
    simp only [size, Std.HashMap.size_erase, hmem, if_true]
    omega
  · simp at h

/-- Drops the oldest entries until there are no more than the capacity. -/
def shrink (store : Store) : Store :=
  if store.capacity < store.size then
    match store.recency.oldest? with
    | none => store
    | some key =>
      if _h : (store.remove key).1 = true then shrink (store.remove key).2 else store
  else store
termination_by store.size
decreasing_by exact size_remove_lt _h

/-- Sets the entry under a key, made at `now`, and makes it the newest. Says whether the key is
new. -/
def set (store : Store) (key : String) (value : Bytes) (ttl : Option Span) (now : Instant) :
    Bool × Store :=
  let entry := Entry.new key value ttl now
  let touched := { store with
    entries := store.entries.insert key entry
    recency := store.recency.touch key }
  match store.entries[key]? with
  | some old => (false, { touched with octets := store.octets - old.size + entry.size })
  | none => (true, shrink { touched with octets := store.octets + entry.size })

/-- Drops all entries. The counters go on. -/
def clear (store : Store) : Store :=
  { store with entries := ∅, recency := store.recency.clear, octets := 0 }

/-- The counters, with how full the store is. -/
def statistics (store : Store) : Statistics :=
  store.counters.withOccupancy store.size store.octets

/-- The keys from the newest to the oldest. -/
def keys (store : Store) : List String := store.recency.recent

end Store

end ForwardProxy.Cache
