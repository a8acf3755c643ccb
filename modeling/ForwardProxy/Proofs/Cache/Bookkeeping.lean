import ForwardProxy.Proofs.Cache.Balance

/-!
# The books of the cache

A store keeps its entries in one map, the order of their last use in two others, and the total of
their sizes as a number, and each call has to change all of these. They never come apart. So a size
that is taken off the total is part of it, and the loop that makes room for a new entry finds an
oldest key with an entry, drops it, and is done.
-/

namespace ForwardProxy.Cache

open Time

namespace Store

/-- The maps and the total of a store agree. -/
structure Exact (store : Store) : Prop where
  /-- The two maps of the order are inverse to each other. -/
  valid : store.recency.Valid
  /-- The order lists no key twice. -/
  nodup : store.keys.Nodup
  /-- The order lists the keys with an entry, and no others. -/
  listed : ∀ key, key ∈ store.keys ↔ key ∈ store.entries
  /-- The keys with an entry are those that have a tick. -/
  ticked : ∀ key, key ∈ store.recency.ticks ↔ key ∈ store.entries
  /-- Each entry stands under its own key, with the size of its value. -/
  entries : ∀ (key : String) (entry : Entry), store.entries[key]? = some entry →
    entry.key = key ∧ entry.size = entry.value.length
  /-- The total is the sum of the sizes. -/
  octets : store.octets = (store.entries.toList.map (·.2.size)).sum

/-- The loop that drops the oldest entries, with the keys that it drops, one in each round, and the
store that it leaves. In each round there is an oldest key, it has an entry, and the size of that is
part of the total. -/
inductive Drops : Store → List String → Store → Prop where
  /-- There is no further round when there are no more entries than the capacity. -/
  | done {store : Store} (hfits : store.size ≤ store.capacity) : Drops store [] store
  /-- A round drops the oldest key. -/
  | round {store next : Store} {key : String} {entry : Entry} {keys : List String}
    (hlong : store.capacity < store.size) (holdest : store.recency.oldest? = some key)
    (hentry : store.entries[key]? = some entry) (hcovered : entry.size ≤ store.octets)
    (hrest : Drops (store.remove key).2 keys next) : Drops store (key :: keys) next

variable {store : Store} {list : NewestFirst} {capacity calls : Nat}

/-- A map of entries has the entries of its list, each with its key. -/
theorem Represents.toList_perm (h : store.Represents list) :
    store.entries.toList.Perm (list.entries.map fun entry => (entry.key, entry)) := by
  have hkeys : (store.entries.toList.map Prod.fst).Nodup := by
    rw [Std.HashMap.map_fst_toList_eq_keys]
    exact Std.HashMap.nodup_keys
  have hlist : ((list.entries.map fun entry => (entry.key, entry)).map Prod.fst).Nodup := by
    rw [List.map_map]
    exact h.nodup
  rw [List.perm_ext_iff_of_nodup hkeys.of_map hlist.of_map]
  rintro ⟨key, entry⟩
  rw [Std.HashMap.mem_toList_iff_getElem?_eq_some, h.lookup, List.mem_map]
  constructor
  · intro hfind
    obtain ⟨rfl, hmem⟩ := Represents.mem_of_find? hfind
    exact ⟨entry, hmem, rfl⟩
  · rintro ⟨other, hmem, heq⟩
    cases heq
    exact find?_key_of_mem Entry.key h.nodup hmem

/-- The books of a store that represents a list are exact. -/
theorem Represents.exact (h : store.Represents list) : store.Exact where
  valid := h.valid
  nodup := h.nodup_keys.1
  listed := h.nodup_keys.2
  ticked := by
    intro key
    rw [← h.nodup_keys.2, Store.keys, h.valid.mem_recent_iff, Std.HashMap.mem_iff_isSome_getElem?,
      Option.isSome_iff_exists]
  entries := by
    intro key entry hentry
    rw [h.lookup] at hentry
    obtain ⟨hkey, hmem⟩ := Represents.mem_of_find? hentry
    exact ⟨hkey, h.sizes entry hmem⟩
  octets := by
    have hsizes : list.entries.map (·.value.length) = list.entries.map (·.size) :=
      List.map_congr_left fun entry hmem => (h.sizes entry hmem).symm
    rw [h.octets, hsizes, (h.toList_perm.map (·.2.size)).sum_eq, List.map_map]
    rfl

/-- Where the books are exact, the size of an entry is part of the total. -/
theorem Exact.size_le_octets (h : store.Exact) {key : String} {entry : Entry}
    (hentry : store.entries[key]? = some entry) : entry.size ≤ store.octets := by
  have hmem : entry.size ∈ store.entries.toList.map (·.2.size) :=
    List.mem_map.mpr ⟨(key, entry), Std.HashMap.mem_toList_iff_getElem?_eq_some.mpr hentry, rfl⟩
  have hsum := (List.perm_cons_erase hmem).sum_eq
  rw [List.sum_cons, ← h.octets] at hsum
  omega

/-- As many keys are listed as there are entries. -/
theorem Represents.length_keys (h : store.Represents list) : store.keys.length = store.size := by
  rw [Store.keys, h.keys, List.length_map, size, h.size_eq]

/-- The loop drops the keys that are listed beyond the capacity, the last one first. -/
theorem Represents.drops (h : store.Represents list) :
    Drops store (store.keys.drop store.capacity).reverse store.shrink := by
  have hlength := h.length_keys
  -- A round of the loop is a step of its recursion; the other ways out of it cannot be reached.
  fun_induction Store.shrink store generalizing list with
  | case1 store hlong hnone => exact absurd hnone (h.oldest?_ne_none hlong)
  | case2 store hlong key hkey hremoved ih =>
    obtain ⟨last, hlast, hentry, -, hnext⟩ := h.remove_oldest hkey
    have hcapacity : (store.remove key).2.capacity = store.capacity :=
      hnext.capacity.trans h.capacity.symm
    have hkeys : store.keys = (store.remove key).2.keys ++ [key] := by
      obtain ⟨front, hfront⟩ := List.getLast?_eq_some_iff.mp hlast
      have hlastKey : last.key = key := (h.exact.entries key last hentry).1
      rw [Store.keys, h.keys, Store.keys, hnext.keys, hfront]
      simp [hlastKey]
    have hroom : store.capacity ≤ (store.remove key).2.keys.length := by
      rw [hkeys, List.length_append, List.length_singleton] at hlength
      omega
    have hrest := ih hnext hnext.length_keys
    rw [hcapacity] at hrest
    rw [hkeys, List.drop_append_of_le_length hroom, List.reverse_concat]
    exact .round hlong hkey hentry (h.exact.size_le_octets hentry) hrest
  | case3 store hlong key hkey hremoved =>
    obtain ⟨last, -, -, hreply, -⟩ := h.remove_oldest hkey
    exact absurd hreply hremoved
  | case4 store hshort =>
    rw [List.drop_eq_nil_of_le (by omega), List.reverse_nil]
    exact .done (Nat.le_of_not_lt hshort)

/-- A new key comes first. -/
theorem Represents.keys_grown (h : store.Represents list) {key : String}
    (hnone : store.entries[key]? = none) (value : Bytes) (ttl : Option Span) (now : Instant) :
    (store.grown key value ttl now).keys = key :: store.keys := by
  rw [Store.keys, (h.grown ((h.lookup key).symm.trans hnone) value ttl now).keys, List.map_cons,
    ← h.keys]
  rfl

/-- How a store of a capacity takes a new key in. -/
structure TakesIn (capacity : Nat) (store : Store) (key : String) (value : Bytes)
    (ttl : Option Span) (now : Instant) : Prop where
  /-- The books are exact when the new entry is there and no other was dropped for it. -/
  exact : (store.grown key value ttl now).Exact
  /-- No more than one round makes room for the new entry, and not at its own cost, unless there may
  be no entries. -/
  drops : ∃ dropped, Drops (store.grown key value ttl now) dropped (store.set key value ttl now).2 ∧
    dropped.length ≤ 1 ∧ (0 < capacity → key ∉ dropped)

/-- A store in order lists no more keys than its capacity. -/
theorem InOrder.length_keys_le (h : store.InOrder capacity) : store.keys.length ≤ capacity := by
  obtain ⟨list, hlist, -, hle⟩ := h
  rwa [hlist.length_keys, size, hlist.size_eq]

/-- A store in order takes every new key in. -/
theorem InOrder.takesIn (h : store.InOrder capacity) {key : String}
    (hnone : store.entries[key]? = none) (value : Bytes) (ttl : Option Span) (now : Instant) :
    TakesIn capacity store key value ttl now := by
  have hle : store.keys.length ≤ capacity := h.length_keys_le
  obtain ⟨list, hlist, rfl, -⟩ := h
  have hgrown := hlist.grown ((hlist.lookup key).symm.trans hnone) value ttl now
  have hkeys := hlist.keys_grown hnone value ttl now
  have hdrops := hgrown.drops
  rw [hkeys, hgrown.capacity] at hdrops
  have hnodup := hgrown.nodup_keys.1
  rw [hkeys, List.nodup_cons] at hnodup
  refine ⟨hgrown.exact, _, by rw [set_of_none hnone]; exact hdrops, ?_, ?_⟩
  · simp only [List.length_reverse, List.length_drop, List.length_cons]
    omega
  · intro hpos hmem
    obtain ⟨rest, hrest⟩ := Nat.exists_eq_add_of_lt hpos
    simp only [hrest, Nat.zero_add, List.drop_succ_cons, List.mem_reverse] at hmem
    exact hnodup.1 (List.mem_of_mem_drop hmem)

/-- Dropping an entry keeps the clock. -/
theorem clock_remove (store : Store) (key : String) :
    (store.remove key).2.recency.clock = store.recency.clock := by
  unfold remove
  cases store.entries[key]? with
  | none => rfl
  | some entry => exact store.recency.clock_remove key

/-- Dropping the oldest entries keeps the clock. -/
theorem clock_shrink (store : Store) : store.shrink.recency.clock = store.recency.clock := by
  fun_induction shrink store with
  | case2 store hlong key hkey hremoved ih => exact ih.trans (store.clock_remove key)
  | _ => rfl

/-- Setting an entry moves the clock on by one. -/
theorem clock_set (store : Store) (key : String) (value : Bytes) (ttl : Option Span)
    (now : Instant) :
    (store.set key value ttl now).2.recency.clock = store.recency.clock + 1 := by
  unfold set
  split
  · exact store.recency.clock_touch key
  · exact (clock_shrink _).trans (store.recency.clock_touch key)

/-- Looking an entry up moves the clock on by no more than one. -/
theorem clock_get_le (store : Store) (key : String) (now : Instant) :
    (store.get key now).2.recency.clock ≤ store.recency.clock + 1 := by
  unfold get
  split
  · exact Nat.le_succ _
  · split
    · exact Nat.le_succ_of_le (Nat.le_of_eq (store.clock_remove key))
    · exact Nat.le_of_eq (store.recency.clock_touch key)

/-- No call moves the clock on by more than one. -/
theorem clock_perform_le (store : Store) (operation : Operation) :
    (store.perform operation).2.recency.clock ≤ store.recency.clock + 1 := by
  cases operation with
  | set key value ttl now => exact Nat.le_of_eq (store.clock_set key value ttl now)
  | get key now => exact store.clock_get_le key now
  | remove key => exact Nat.le_succ_of_le (Nat.le_of_eq (store.clock_remove key))
  | clear => exact Nat.le_succ _

/-- Nothing that a store counts is ahead of so many calls. -/
structure Paced (calls : Nat) (store : Store) : Prop where
  /-- The clock is not ahead of the calls. -/
  clock : store.recency.clock ≤ calls
  /-- The lookups are no more than the calls. -/
  lookups : store.counters.hits + store.counters.misses ≤ calls
  /-- The entries that are there and those that were evicted are no more than the calls. -/
  entries : store.size + store.counters.evictions ≤ calls

/-- One more call counts one more at most. -/
theorem Paced.perform (h : store.Paced calls) (horder : store.InOrder capacity)
    (operation : Operation) : (store.perform operation).2.Paced (calls + 1) where
  clock := Nat.le_trans (store.clock_perform_le operation) (Nat.succ_le_succ h.clock)
  lookups := by
    have hlookups := store.lookups_perform operation
    have hbefore := h.lookups
    split at hlookups <;> omega
  entries := by
    have hentries := horder.size_add_evictions_perform operation
    have hbefore := h.entries
    simp only [Call.after] at hentries
    split at hentries <;> omega

/-- Whatever calls were made, nothing that is counted is ahead of them. -/
theorem paced_after (capacity : Nat) (operations : List Operation) :
    ((new capacity).after operations).Paced operations.length := by
  induction operations using List.reverseRecOn with
  | nil => exact ⟨Nat.le_refl 0, Nat.le_refl 0, Nat.le_refl 0⟩
  | append_singleton operations operation ih =>
    rw [after_concat, List.length_append]
    exact ih.perform (inOrder_after capacity operations) operation

/-- The books of a store of a capacity are in order after so many calls. -/
structure Audited (store : Store) (capacity calls : Nat) : Prop where
  /-- The maps and the total agree. -/
  exact : store.Exact
  /-- The size of an entry can be taken off the total, where the entry is replaced or dropped. -/
  covered : ∀ (key : String) (entry : Entry), store.entries[key]? = some entry →
    entry.size ≤ store.octets
  /-- There are no more entries than the capacity. -/
  bounded : store.size ≤ capacity
  /-- A new key can be taken in. -/
  takesIn : ∀ (key : String) (value : Bytes) (ttl : Option Span) (now : Instant),
    store.entries[key]? = none → TakesIn capacity store key value ttl now
  /-- When a key was set there are no more entries than the capacity again. -/
  bounded_set : ∀ (key : String) (value : Bytes) (ttl : Option Span) (now : Instant),
    (store.set key value ttl now).2.size ≤ capacity
  /-- Nothing that is counted is ahead of the calls. -/
  paced : store.Paced calls

/-- Whatever calls were made of a cache, with any keys, values, times to live and readings of the
clock, its books are in order: its maps hold the same keys, its total is the sum of the sizes of its
entries, and so no size is taken off it that it does not cover, and the loop that makes room for a
new key drops the oldest entry, if any, and never fails to find it. No count is greater than the
number of calls, so none outgrows its word before that does, and the total outgrows its word only
with the values themselves. -/
theorem audited_after (capacity : Nat) (operations : List Operation) :
    ((new capacity).after operations).Audited capacity operations.length := by
  have horder := inOrder_after capacity operations
  have hexact : ((new capacity).after operations).Exact := by
    obtain ⟨list, hlist, -, -⟩ := horder
    exact hlist.exact
  exact {
    exact := hexact
    covered := fun _ _ => hexact.size_le_octets
    bounded := horder.size_le
    takesIn := fun _ value ttl now hnone => horder.takesIn hnone value ttl now
    bounded_set := fun key value ttl now => (horder.set key value ttl now).size_le
    paced := paced_after capacity operations }

end Store

end ForwardProxy.Cache
