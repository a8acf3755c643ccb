import ForwardProxy.Proofs.Cache.Frame

/-!
# Where entries go

Every entry that is new to a cache is there still, or it was evicted, or all entries were dropped
while it was there; and it was evicted because it was removed, or was found expired, or had to make
room. No entry is counted in two of these places. What one call adds to either side is the same, and
a run adds these up.
-/

namespace ForwardProxy.Cache

open Time

/-- Of a list without repetitions, as many members are not in its front as come after it. -/
theorem length_filter_not_mem_take {α : Type} [DecidableEq α] {items : List α}
    (hnodup : items.Nodup) (n : Nat) :
    (items.filter (· ∉ items.take n)).length = items.length - n := by
  have hsplit := List.take_append_drop n items
  have hapart : ∀ item ∈ items.drop n, item ∉ items.take n := by
    rw [← hsplit, List.nodup_append] at hnodup
    intro item hback hfront
    exact hnodup.2.2 item hfront item hback rfl
  have hfront : (items.take n).filter (· ∉ items.take n) = [] := by
    rw [List.filter_eq_nil_iff]
    simp
  have hback : (items.drop n).filter (· ∉ items.take n) = items.drop n := by
    rw [List.filter_eq_self]
    simpa using hapart
  calc (items.filter (· ∉ items.take n)).length
      = ((items.take n ++ items.drop n).filter (· ∉ items.take n)).length := by rw [hsplit]
    _ = (items.drop n).length := by rw [List.filter_append, hfront, hback, List.nil_append]
    _ = items.length - n := List.length_drop

/-- The call looks a key up. -/
def Operation.isLookup : Operation → Bool
  | get .. => true
  | _ => false

/-- A call, with the cache that it finds. -/
structure Call where
  /-- The cache before it. -/
  before : Store
  /-- What is called. -/
  operation : Operation

namespace Call

/-- What the call gives back. -/
def reply (call : Call) : Reply := (call.before.perform call.operation).1

/-- The cache after the call. -/
def after (call : Call) : Store := (call.before.perform call.operation).2

/-- The call looks a key up whose entry is past its last live instant. -/
def findsExpired (call : Call) : Bool :=
  match call.operation with
  | .get key now => call.before.entries[key]?.any (·.expired now)
  | _ => false

/-- The keys that have no entry after the call, though it set them or is not about them. -/
def pushedOut (call : Call) : List String :=
  match call.operation with
  | .set key .. => (key :: call.before.keysBut key).filter (· ∉ call.after.keys)
  | _ => []

/-- The number of entries that the call drops at once. -/
def cleared (call : Call) : Nat :=
  match call.operation with
  | .clear => call.before.size
  | _ => 0

end Call

namespace NewestFirst

variable {list : NewestFirst}

/-- A list consists of the entry under a key, if there is one, and of those under other keys. -/
theorem length_without_add (hnodup : (list.entries.map (·.key)).Nodup) (key : String) :
    (list.without key).length + (if (list.find? key).isSome then 1 else 0) =
      list.entries.length := by
  cases hfind : list.find? key with
  | none => rw [without_of_find?_none hfind]; rfl
  | some entry => exact (perm_cons_filter_key_ne Entry.key hnodup hfind).length_eq.symm

/-- A lookup evicts what it finds expired. -/
theorem evictions_get (list : NewestFirst) (key : String) (now : Instant) :
    (list.get key now).2.evictions =
      list.evictions + if (list.find? key).any (·.expired now) then 1 else 0 := by
  unfold get
  cases list.find? key with
  | none => rfl
  | some entry =>
    have hexpired := Entry.expired_iff entry now
    by_cases hlate : ∃ last ∈ entry.expiresAt, last < now
    · simp only [if_pos hlate, Option.any_some, if_pos (hexpired.mpr hlate)]
    · simp only [if_neg hlate, Option.any_some, if_neg (mt hexpired.mp hlate), Nat.add_zero]

/-- What a lookup takes out of the list is evicted. -/
theorem length_add_evictions_get (hnodup : (list.entries.map (·.key)).Nodup) (key : String)
    (now : Instant) :
    (list.get key now).2.entries.length + (list.get key now).2.evictions =
      list.entries.length + list.evictions := by
  have hlength := length_without_add hnodup key
  unfold get
  cases hfind : list.find? key with
  | none => rfl
  | some entry =>
    simp only [hfind, Option.isSome_some, if_true] at hlength
    by_cases hlate : ∃ last ∈ entry.expiresAt, last < now
    · simp only [if_pos hlate]
      omega
    · simp only [if_neg hlate, List.length_cons]
      omega

/-- What is removed is evicted. -/
theorem evictions_remove (list : NewestFirst) (key : String) :
    (list.remove key).2.evictions =
      list.evictions + if (list.remove key).1 then 1 else 0 := by
  unfold remove
  cases list.find? key <;> rfl

/-- An entry that is removed is taken out of the list and counted as evicted. -/
theorem length_add_evictions_remove (hnodup : (list.entries.map (·.key)).Nodup) (key : String) :
    (list.remove key).2.entries.length + (list.remove key).2.evictions =
      list.entries.length + list.evictions := by
  have hlength := length_without_add hnodup key
  unfold remove
  cases hfind : list.find? key with
  | none => rfl
  | some entry =>
    simp only [hfind, Option.isSome_some, if_true] at hlength
    simp only
    omega

/-- A key that is set is new if it has no entry. -/
theorem set_fst (list : NewestFirst) (key : String) (value : Bytes) (ttl : Option Span)
    (now : Instant) : (list.set key value ttl now).1 = (list.find? key).isNone := by
  unfold set
  cases list.find? key <;> rfl

/-- Setting an entry evicts as many others as there is no room for. -/
theorem evictions_set (hnodup : (list.entries.map (·.key)).Nodup)
    (hle : list.entries.length ≤ list.capacity) (key : String) (value : Bytes) (ttl : Option Span)
    (now : Instant) :
    (list.set key value ttl now).2.evictions =
      list.evictions + ((list.without key).length + 1 - list.capacity) := by
  have hlength := length_without_add hnodup key
  unfold set
  cases hfind : list.find? key with
  | none => simp only [dropOldest_eq, List.length_cons, without_of_find?_none hfind]
  | some entry =>
    simp only [hfind, Option.isSome_some, if_true] at hlength
    simp only
    omega

/-- An entry that is new is there, or another was evicted for it. -/
theorem length_add_evictions_set (hnodup : (list.entries.map (·.key)).Nodup)
    (hle : list.entries.length ≤ list.capacity) (key : String) (value : Bytes) (ttl : Option Span)
    (now : Instant) :
    (list.set key value ttl now).2.entries.length + (list.set key value ttl now).2.evictions =
      list.entries.length + list.evictions +
        if (list.set key value ttl now).1 then 1 else 0 := by
  have hlength := length_without_add hnodup key
  rw [evictions_set hnodup hle, entries_set hle, set_fst, List.length_take, List.length_cons]
  cases hfind : list.find? key with
  | none =>
    simp only [hfind, Option.isSome_none, Bool.false_eq_true, if_false] at hlength
    simp only [Option.isNone_none, if_true]
    omega
  | some entry =>
    simp only [hfind, Option.isSome_some, if_true] at hlength
    simp only [Option.isNone_some, Bool.false_eq_true, if_false]
    omega

end NewestFirst

namespace Store

variable {store : Store} {capacity : Nat}

/-- A call counts as one lookup if it is one, and else as none. -/
theorem lookups_perform (store : Store) (operation : Operation) :
    (store.perform operation).2.counters.hits + (store.perform operation).2.counters.misses =
      store.counters.hits + store.counters.misses + if operation.isLookup then 1 else 0 := by
  cases operation with
  | set key value ttl now =>
    obtain ⟨hhits, hmisses⟩ := store.sameLookups_set key value ttl now
    simp [perform, Operation.isLookup, hhits, hmisses]
  | get key now =>
    simp only [perform, Operation.isLookup, if_true]
    cases hfound : (store.get key now).1 with
    | none =>
      obtain ⟨hhits, hmisses⟩ := counters_get_of_none hfound
      omega
    | some entry =>
      obtain ⟨hhits, hmisses⟩ := counters_get_of_some hfound
      omega
  | remove key =>
    obtain ⟨hhits, hmisses⟩ := store.sameLookups_remove key
    simp [perform, Operation.isLookup, hhits, hmisses]
  | clear => rfl

/-- A store in order has no more entries than its capacity. -/
theorem InOrder.size_le (h : store.InOrder capacity) : store.size ≤ capacity := by
  obtain ⟨list, hlist, -, hle⟩ := h
  rwa [size, hlist.size_eq]

/-- A store that represents a list lists every key that it holds, and lists none twice. -/
theorem Represents.nodup_keys {list : NewestFirst} (h : store.Represents list) :
    store.keys.Nodup ∧ ∀ key, key ∈ store.keys ↔ key ∈ store.entries := by
  refine ⟨h.valid.nodup_recent, fun key => ?_⟩
  rw [Store.keys, h.keys, Std.HashMap.mem_iff_isSome_getElem?, h.lookup, NewestFirst.find?,
    List.find?_isSome]
  simp

/-- A store in order lists every key that it holds, and lists none twice. -/
theorem InOrder.nodup_keys (h : store.InOrder capacity) :
    store.keys.Nodup ∧ ∀ key, key ∈ store.keys ↔ key ∈ store.entries := by
  obtain ⟨list, hlist, -, -⟩ := h
  exact hlist.nodup_keys

/-- After a key was set it comes first, and the others follow as far as there is room. -/
theorem InOrder.keys_set (h : store.InOrder capacity) (key : String) (value : Bytes)
    (ttl : Option Span) (now : Instant) :
    (store.set key value ttl now).2.keys = (key :: store.keysBut key).take capacity := by
  obtain ⟨list, hlist, rfl, hle⟩ := h
  have hnext := (hlist.set key value ttl now).2
  rw [keys, hnext.keys, NewestFirst.entries_set hle, List.map_take, List.map_cons,
    map_key_without, ← hlist.keys]
  rfl

/-- Setting a key pushes as many keys out as there is no room for. -/
theorem InOrder.length_pushedOut (h : store.InOrder capacity) (key : String) (value : Bytes)
    (ttl : Option Span) (now : Instant) :
    (Call.mk store (.set key value ttl now)).pushedOut.length =
      (store.keysBut key).length + 1 - capacity := by
  have hnodup : (key :: store.keysBut key).Nodup :=
    List.nodup_cons.mpr ⟨by simp [keysBut], h.nodup_keys.1.filter _⟩
  have hkeys := h.keys_set key value ttl now
  simp only [Call.pushedOut, Call.after, Store.perform, hkeys]
  exact length_filter_not_mem_take hnodup capacity

/-- A call evicts what it removes, what it finds expired, and what it pushes out. -/
theorem InOrder.evictions_perform (h : store.InOrder capacity) (operation : Operation) :
    let call := Call.mk store operation
    call.after.counters.evictions = store.counters.evictions +
      (if call.reply = .removed true then 1 else 0) + (if call.findsExpired then 1 else 0) +
        call.pushedOut.length := by
  intro call
  cases operation with
  | set key value ttl now =>
    have hpushed := h.length_pushedOut key value ttl now
    obtain ⟨list, hlist, rfl, hle⟩ := h
    have hnext := (hlist.set key value ttl now).2
    have hevictions := NewestFirst.evictions_set hlist.nodup hle key value ttl now
    have hothers : (store.keysBut key).length = (list.without key).length := by
      rw [keysBut, keys, hlist.keys, ← map_key_without, List.length_map]
    simp [call, Call.after, Call.reply, Call.findsExpired, Store.perform, hnext.counters,
      hlist.counters, hevictions, hpushed, hothers]
  | get key now =>
    obtain ⟨list, hlist, rfl, hle⟩ := h
    have hnext := (hlist.get key now).2
    have hevictions := list.evictions_get key now
    simp [call, Call.after, Call.reply, Call.findsExpired, Call.pushedOut, Store.perform,
      hnext.counters, hlist.counters, hlist.lookup, hevictions]
  | remove key =>
    obtain ⟨list, hlist, rfl, hle⟩ := h
    obtain ⟨hreply, hnext⟩ := hlist.remove key
    have hevictions := list.evictions_remove key
    simp [call, Call.after, Call.reply, Call.findsExpired, Call.pushedOut, Store.perform,
      hnext.counters, hlist.counters, hreply, hevictions]
  | clear =>
    simp [call, Call.after, Call.reply, Call.findsExpired, Call.pushedOut, Store.perform,
      Store.clear]

/-- A call leaves an entry that is new where it is, or evicts another for it; and what is there no
more was evicted, or was dropped with all others. -/
theorem InOrder.size_add_evictions_perform (h : store.InOrder capacity) (operation : Operation) :
    let call := Call.mk store operation
    call.after.size + call.after.counters.evictions + call.cleared =
      store.size + store.counters.evictions + if call.reply = .isNew true then 1 else 0 := by
  intro call
  obtain ⟨list, hlist, rfl, hle⟩ := h
  cases operation with
  | set key value ttl now =>
    obtain ⟨hreply, hnext⟩ := hlist.set key value ttl now
    have hlength := NewestFirst.length_add_evictions_set hlist.nodup hle key value ttl now
    simpa [call, Call.after, Call.reply, Call.cleared, Store.perform, size, hnext.size_eq,
      hlist.size_eq, hnext.counters, hlist.counters, hreply] using hlength
  | get key now =>
    obtain ⟨hreply, hnext⟩ := hlist.get key now
    have hlength := NewestFirst.length_add_evictions_get hlist.nodup key now
    simpa [call, Call.after, Call.reply, Call.cleared, Store.perform, size, hnext.size_eq,
      hlist.size_eq, hnext.counters, hlist.counters] using hlength
  | remove key =>
    obtain ⟨hreply, hnext⟩ := hlist.remove key
    have hlength := NewestFirst.length_add_evictions_remove hlist.nodup key
    simpa [call, Call.after, Call.reply, Call.cleared, Store.perform, size, hnext.size_eq,
      hlist.size_eq, hnext.counters, hlist.counters] using hlength
  | clear =>
    simp [call, Call.after, Call.reply, Call.cleared, Store.perform, Store.clear, size]
    omega

/-- The calls of a sequence, each with the cache that it finds. -/
def calls (store : Store) : List Operation → List Call
  | [] => []
  | operation :: operations => ⟨store, operation⟩ :: calls (store.perform operation).2 operations

/-- The last call of a sequence finds the cache as the others left it. -/
theorem calls_concat (store : Store) (operations : List Operation) (operation : Operation) :
    store.calls (operations ++ [operation]) =
      store.calls operations ++ [⟨store.after operations, operation⟩] := by
  induction operations generalizing store with
  | nil => rfl
  | cons first operations ih => exact congrArg _ (ih (store.perform first).2)

/-- What went into a cache of a capacity through calls is accounted for. -/
structure Balanced (capacity : Nat) (calls : List Call) (store : Store) : Prop where
  /-- Each lookup was a hit or a miss. -/
  lookups : store.statistics.hits + store.statistics.misses =
    calls.countP (·.operation.isLookup)
  /-- Each key that was new has an entry, or its entry was evicted, or dropped with all others. -/
  entries : calls.countP (·.reply = .isNew true) =
    store.size + store.statistics.evictions + (calls.map Call.cleared).sum
  /-- Each entry that was evicted was removed, or found expired, or pushed out. -/
  evictions : store.statistics.evictions = calls.countP (·.reply = .removed true) +
    calls.countP Call.findsExpired + (calls.map (·.pushedOut.length)).sum
  /-- There are no more entries than the capacity. -/
  bounded : store.size ≤ capacity
  /-- No key is listed twice. -/
  nodup : store.keys.Nodup
  /-- The keys with an entry are listed, and no others. -/
  listed : ∀ key, key ∈ store.keys ↔ key ∈ store.entries

/-- Nothing went into a new cache. -/
theorem balanced_new (capacity : Nat) : Balanced capacity [] (new capacity) := by
  have horder := inOrder_new capacity
  exact ⟨rfl, rfl, rfl, horder.size_le, horder.nodup_keys.1, horder.nodup_keys.2⟩

/-- One more call adds the same to both sides of every balance. -/
theorem Balanced.concat {calls : List Call} (h : Balanced capacity calls store)
    (horder : store.InOrder capacity) (operation : Operation) :
    Balanced capacity (calls ++ [⟨store, operation⟩]) (store.perform operation).2 := by
  have hlookups := store.lookups_perform operation
  have hentries := horder.size_add_evictions_perform operation
  have hevictions := horder.evictions_perform operation
  have hnext := horder.perform operation
  have hbefore : store.counters.hits + store.counters.misses = _ := h.lookups
  have hinserted : _ = store.size + store.counters.evictions + _ := h.entries
  have hevicted : store.counters.evictions = _ := h.evictions
  simp only [Call.after] at hentries hevictions
  refine ⟨?_, ?_, ?_, hnext.size_le, hnext.nodup_keys.1, hnext.nodup_keys.2⟩
  · show (store.perform operation).2.counters.hits + (store.perform operation).2.counters.misses = _
    rw [List.countP_append, List.countP_singleton, ← hbefore, hlookups]
  · show _ = (store.perform operation).2.size + (store.perform operation).2.counters.evictions + _
    simp only [List.countP_append, List.countP_singleton, List.map_append, List.map_cons,
      List.map_nil, List.sum_append, List.sum_cons, List.sum_nil, decide_eq_true_eq]
    omega
  · show (store.perform operation).2.counters.evictions = _
    simp only [List.countP_append, List.countP_singleton, List.map_append, List.map_cons,
      List.map_nil, List.sum_append, List.sum_cons, List.sum_nil, decide_eq_true_eq]
    omega

/-- Whatever calls were made of a cache, with any keys, values, times to live and readings of the
clock: at every point its lookups are its hits and misses, the keys that were new are those with an
entry, those whose entry was evicted, and those whose entry was dropped with all others, an entry
was evicted once and for one of three reasons, and the keys that are listed are those with an entry,
each once and no more than the capacity. -/
theorem balanced_after (capacity : Nat) (operations : List Operation) :
    Balanced capacity ((new capacity).calls operations) ((new capacity).after operations) := by
  induction operations using List.reverseRecOn with
  | nil => exact balanced_new capacity
  | append_singleton operations operation ih =>
    rw [calls_concat, after_concat]
    exact ih.concat (inOrder_after capacity operations) operation

end Store

end ForwardProxy.Cache
