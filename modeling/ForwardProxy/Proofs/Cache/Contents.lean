import ForwardProxy.Proofs.Cache.NewestFirst
import Mathlib.Data.List.Induction

/-!
# What the cache holds

What each call leaves under a key. Nothing gets into a cache but by being set, and no entry changes
while it is there. A new entry stands under its key at once, unless the cache may hold nothing.
-/

namespace ForwardProxy.Cache

open Time

namespace NewestFirst

/-- Under keys other than that of an entry there is an entry less. -/
theorem length_without_lt {list : NewestFirst} {key : String} {entry : Entry}
    (h : list.find? key = some entry) : (list.without key).length < list.entries.length := by
  have hkey : entry.key = key := key_eq_of_find? Entry.key h
  exact List.length_filter_lt_length_iff_exists.mpr
    ⟨entry, List.mem_of_find?_eq_some h, by simp [hkey]⟩

/-- A lookup leaves the capacity alone, and does not make the list longer. -/
theorem get_le (list : NewestFirst) (key : String) (now : Instant) :
    (list.get key now).2.capacity = list.capacity ∧
      (list.get key now).2.entries.length ≤ list.entries.length := by
  unfold get
  cases hfind : list.find? key with
  | none => exact ⟨rfl, Nat.le_refl _⟩
  | some entry =>
    have hlt := length_without_lt hfind
    by_cases hlate : ∃ last ∈ entry.expiresAt, last < now
    · simp only [if_pos hlate, true_and]
      omega
    · simp only [if_neg hlate, List.length_cons, true_and]
      omega

/-- Removing an entry leaves the capacity alone, and does not make the list longer. -/
theorem remove_le (list : NewestFirst) (key : String) :
    (list.remove key).2.capacity = list.capacity ∧
      (list.remove key).2.entries.length ≤ list.entries.length := by
  unfold remove
  cases list.find? key with
  | none => exact ⟨rfl, Nat.le_refl _⟩
  | some entry => exact ⟨rfl, List.length_filter_le _ _⟩

/-- Setting an entry leaves the capacity alone, and does not make the list longer than that. -/
theorem set_le {list : NewestFirst} (h : list.entries.length ≤ list.capacity) (key : String)
    (value : Bytes) (ttl : Option Span) (now : Instant) :
    (list.set key value ttl now).2.capacity = list.capacity ∧
      (list.set key value ttl now).2.entries.length ≤ list.capacity := by
  unfold set
  cases hfind : list.find? key with
  | none =>
    simp only [dropOldest_eq, List.length_take, true_and]
    omega
  | some entry =>
    have hlt := length_without_lt hfind
    simp only [List.length_cons, true_and]
    omega

/-- Setting an entry puts it in front of those under other keys, as far as there is room. -/
theorem entries_set {list : NewestFirst} (h : list.entries.length ≤ list.capacity) (key : String)
    (value : Bytes) (ttl : Option Span) (now : Instant) :
    (list.set key value ttl now).2.entries =
      ({ key, value, size := value.length, createdAt := now
         expiresAt := lastInstant? now ttl } :: list.without key).take list.capacity := by
  unfold set
  cases hfind : list.find? key with
  | some found =>
    have hlt := length_without_lt hfind
    rw [List.take_of_length_le]
    rw [List.length_cons]
    omega
  | none => simp only [dropOldest_eq, without_of_find?_none hfind]

/-- The entry that was set is found, unless the list may have no entries. -/
theorem find?_set {list : NewestFirst} (h : 0 < list.capacity) (key : String) (value : Bytes)
    (ttl : Option Span) (now : Instant) :
    (list.set key value ttl now).2.find? key =
      some { key, value, size := value.length, createdAt := now
             expiresAt := lastInstant? now ttl } := by
  unfold set
  cases list.find? key with
  | some entry => simp [NewestFirst.find?]
  | none =>
    obtain ⟨rest, hrest⟩ := Nat.exists_eq_add_of_lt h
    simp [NewestFirst.find?, dropOldest_eq, hrest]

end NewestFirst

namespace Store

/-- Dropping an entry takes away what is under its key, and nothing else. -/
theorem getElem?_remove (store : Store) (key other : String) :
    (store.remove key).2.entries[other]? =
      if key = other then none else store.entries[other]? := by
  unfold remove
  cases hkey : store.entries[key]? with
  | none =>
    by_cases hother : key = other
    · simp [← hother, hkey]
    · simp [hother]
  | some entry => simp [Std.HashMap.getElem?_erase]

/-- After an entry was dropped there is none under its key. -/
theorem getElem?_remove_self (store : Store) (key : String) :
    (store.remove key).2.entries[key]? = none := by
  rw [getElem?_remove, if_pos rfl]

/-- A lookup gives the entry under its key, if that is not past its last instant. -/
theorem get_fst (store : Store) (key : String) (now : Instant) :
    (store.get key now).1 = store.entries[key]?.filter (!·.expired now) := by
  unfold get
  cases store.entries[key]? with
  | none => rfl
  | some entry => cases hexpired : entry.expired now <;> simp [hexpired, Option.filter_some]

/-- A lookup leaves under its key what it gives, and every other key alone. -/
theorem getElem?_get (store : Store) (key other : String) (now : Instant) :
    (store.get key now).2.entries[other]? =
      if key = other then (store.get key now).1 else store.entries[other]? := by
  unfold get
  cases hkey : store.entries[key]? with
  | none =>
    by_cases hother : key = other
    · simp [← hother, hkey]
    · simp [hother]
  | some entry =>
    by_cases hexpired : entry.expired now = true
    · simp only [if_pos hexpired, getElem?_remove]
    · by_cases hother : key = other
      · subst hother
        simp only [if_neg hexpired, if_true, hkey]
      · simp only [if_neg hexpired, if_neg hother]

/-- Dropping the oldest entries leaves no other entry than before. -/
theorem getElem?_of_shrink {store : Store} {key : String} {entry : Entry}
    (h : store.shrink.entries[key]? = some entry) : store.entries[key]? = some entry := by
  fun_induction shrink store with
  | case2 store hlong oldest holdest hremoved ih =>
    have hleft := ih h
    rw [getElem?_remove] at hleft
    split at hleft
    · cases hleft
    · exact hleft
  | _ => exact h

/-- After an entry was set, each key has that entry, if it is its key, or else what it had. -/
theorem getElem?_of_set {store : Store} {key other : String} {value : Bytes} {ttl : Option Span}
    {now : Instant} {entry : Entry}
    (h : (store.set key value ttl now).2.entries[other]? = some entry) :
    (if key = other then some (Entry.new key value ttl now) else store.entries[other]?) =
      some entry := by
  have hinsert : (store.entries.insert key (Entry.new key value ttl now))[other]? = some entry := by
    unfold set at h
    split at h
    · exact h
    · exact getElem?_of_shrink h
  simpa [Std.HashMap.getElem?_insert] using hinsert

/-- A store is in order if it represents a list that is no longer than its capacity. -/
def InOrder (store : Store) (capacity : Nat) : Prop :=
  ∃ list : NewestFirst, store.Represents list ∧ list.capacity = capacity ∧
    list.entries.length ≤ capacity

/-- A new store is in order. -/
theorem inOrder_new (capacity : Nat) : (new capacity).InOrder capacity :=
  ⟨.new capacity, represents_new capacity, rfl, Nat.zero_le _⟩

variable {store : Store} {capacity : Nat}

/-- A lookup keeps a store in order. -/
theorem InOrder.get (h : store.InOrder capacity) (key : String) (now : Instant) :
    (store.get key now).2.InOrder capacity := by
  obtain ⟨list, hlist, hcapacity, hlength⟩ := h
  have hget := list.get_le key now
  exact ⟨_, (hlist.get key now).2, hget.1.trans hcapacity, Nat.le_trans hget.2 hlength⟩

/-- Setting an entry keeps a store in order. -/
theorem InOrder.set (h : store.InOrder capacity) (key : String) (value : Bytes)
    (ttl : Option Span) (now : Instant) :
    (store.set key value ttl now).2.InOrder capacity := by
  obtain ⟨list, hlist, rfl, hlength⟩ := h
  exact ⟨_, (hlist.set key value ttl now).2, NewestFirst.set_le hlength key value ttl now⟩

/-- Every call keeps a store in order. -/
theorem InOrder.perform (h : store.InOrder capacity) (operation : Operation) :
    (store.perform operation).2.InOrder capacity := by
  cases operation with
  | set key value ttl now => exact h.set key value ttl now
  | get key now => exact h.get key now
  | remove key =>
    obtain ⟨list, hlist, rfl, hlength⟩ := h
    have hremove := list.remove_le key
    exact ⟨_, (hlist.remove key).2, hremove.1, Nat.le_trans hremove.2 hlength⟩
  | clear =>
    obtain ⟨list, hlist, rfl, -⟩ := h
    exact ⟨_, hlist.clear, rfl, Nat.zero_le _⟩

/-- Whatever calls were made, a store is in order. -/
theorem inOrder_after (capacity : Nat) (operations : List Operation) :
    ((new capacity).after operations).InOrder capacity := by
  induction operations using List.reverseRecOn with
  | nil => exact inOrder_new capacity
  | append_singleton operations operation ih =>
    rw [after_concat]
    exact ih.perform operation

/-- The entry that was set stands under its key, unless the store may hold nothing. -/
theorem InOrder.getElem?_set (h : store.InOrder capacity) (hpos : 0 < capacity) (key : String)
    (value : Bytes) (ttl : Option Span) (now : Instant) :
    (store.set key value ttl now).2.entries[key]? = some (Entry.new key value ttl now) := by
  obtain ⟨list, hlist, rfl, -⟩ := h
  rw [(hlist.set key value ttl now).2.lookup, NewestFirst.find?_set hpos, Entry.new,
    expiryAfter?_eq]

/-- A store for no entries has none. -/
theorem InOrder.getElem?_of_zero (h : store.InOrder 0) (key : String) :
    store.entries[key]? = none := by
  obtain ⟨list, hlist, -, hlength⟩ := h
  have hempty : list.entries = [] := List.eq_nil_of_length_eq_zero (Nat.le_zero.mp hlength)
  rw [hlist.lookup, NewestFirst.find?, hempty, List.find?_nil]

end Store

end ForwardProxy.Cache
