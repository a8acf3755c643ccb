import ForwardProxy.Proofs.Cache.Contents

/-!
# A larger cache holds what a smaller one does

Two caches of different capacities get the same calls. Then the entries of the smaller one are among
those of the larger one, in the same order. What carries this through is that the larger one never
holds more entries beside them than it has more room: so when an entry falls off its end, the
smaller one has no room for that entry either.
-/

namespace ForwardProxy.Cache

open Time

/-- If a list holds the members of a shorter one beside some surplus, this stays so when both are
cut, where the longer list has the surplus as additional room. -/
theorem sublist_take_of_surplus {α : Type} {short long : List α} (h : short.Sublist long)
    {room more : Nat} (hsurplus : long.length + room ≤ short.length + more) :
    (short.take room).Sublist (long.take more) := by
  induction h generalizing room more with
  | slnil => simp
  | cons item hrest ih =>
    have hlength := hrest.length_le
    rw [List.length_cons] at hsurplus
    obtain ⟨more, rfl⟩ : ∃ rest, more = rest + 1 := ⟨more - 1, by omega⟩
    exact (ih (by omega)).cons item
  | cons_cons item hrest ih =>
    have hlength := hrest.length_le
    rw [List.length_cons, List.length_cons] at hsurplus
    cases room with
    | zero => simp
    | succ room =>
      obtain ⟨more, rfl⟩ : ∃ rest, more = rest + 1 := ⟨more - 1, by omega⟩
      exact (ih (by omega)).cons_cons item

namespace NewestFirst

/-- The entries of a list are among those of another, in the same order. What the other holds beside
them is no more than it has more room. -/
structure Included (small large : NewestFirst) : Prop where
  /-- The entries of the smaller list are among those of the larger one. -/
  sublist : small.entries.Sublist large.entries
  /-- The larger list has no more entries beside those of the smaller one than it has more room. -/
  surplus : large.entries.length + small.capacity ≤ small.entries.length + large.capacity
  /-- The smaller list has room for its entries. -/
  small_le : small.entries.length ≤ small.capacity
  /-- The larger list has room for its entries. -/
  large_le : large.entries.length ≤ large.capacity
  /-- The larger list has found live entries at least as often. -/
  hits : small.hits ≤ large.hits

/-- The list without entries is included in any other such list with at least as much room. -/
theorem included_new {capacity more : Nat} (hle : capacity ≤ more) :
    (new capacity).Included (new more) where
  sublist := List.Sublist.refl []
  surplus := by simpa [new] using hle
  small_le := Nat.zero_le _
  large_le := Nat.zero_le _
  hits := Nat.le_refl 0

/-- Setting an entry is no lookup. -/
theorem hits_set (list : NewestFirst) (key : String) (value : Bytes) (ttl : Option Span)
    (now : Instant) : (list.set key value ttl now).2.hits = list.hits := by
  unfold set
  cases list.find? key with
  | some found => rfl
  | none => simp only [dropOldest_eq]

variable {small large : NewestFirst}

/-- What is found in the smaller list is found in the larger one. -/
theorem Included.find? (h : small.Included large) (hnodup : (large.entries.map (·.key)).Nodup)
    {key : String} {entry : Entry} (hfind : small.find? key = some entry) :
    large.find? key = some entry := by
  obtain rfl : entry.key = key := key_eq_of_find? Entry.key hfind
  exact find?_key_of_mem Entry.key hnodup (h.sublist.subset (List.mem_of_find?_eq_some hfind))

/-- The entries under other keys are among each other as well. -/
theorem Included.without (h : small.Included large) (key : String) :
    (small.without key).Sublist (large.without key) :=
  h.sublist.filter _

/-- A key takes no more entries out of the smaller list than out of the larger one. -/
theorem Included.surplus_without (h : small.Included large) (key : String) :
    (large.without key).length + small.capacity ≤ (small.without key).length + large.capacity := by
  have hsplit (list : NewestFirst) :=
    List.length_eq_length_filter_add (l := list.entries) fun entry => entry.key ≠ key
  have htaken := (h.sublist.filter fun entry => !decide (entry.key ≠ key)).length_le
  have hsurplus := h.surplus
  rw [hsplit small, hsplit large] at hsurplus
  unfold NewestFirst.without
  omega

/-- Setting an entry keeps one list included in the other, whether the key is known to both, to the
larger one only, or to none. -/
theorem Included.set (h : small.Included large) (key : String) (value : Bytes) (ttl : Option Span)
    (now : Instant) :
    (small.set key value ttl now).2.Included (large.set key value ttl now).2 := by
  obtain ⟨hsmall, hsmall_le⟩ := set_le h.small_le key value ttl now
  obtain ⟨hlarge, hlarge_le⟩ := set_le h.large_le key value ttl now
  have hsurplus := h.surplus_without key
  have hroom := h.surplus
  have hlength := h.sublist.length_le
  constructor
  · rw [entries_set h.small_le, entries_set h.large_le]
    apply sublist_take_of_surplus ((h.without key).cons_cons _)
    rw [List.length_cons, List.length_cons]
    omega
  · rw [entries_set h.small_le, entries_set h.large_le, hsmall, hlarge, List.length_take,
      List.length_take, List.length_cons, List.length_cons]
    omega
  · rwa [hsmall]
  · rwa [hlarge]
  · rw [hits_set, hits_set]
    exact h.hits

/-- Where a call only takes a key out of both lists, it keeps one included in the other. -/
theorem Included.of_without (h : small.Included large) (key : String) {left more : NewestFirst}
    (hleft : left.entries = small.without key) (hmore : more.entries = large.without key)
    (hroom : left.capacity = small.capacity) (hmoreRoom : more.capacity = large.capacity)
    (hhits : left.hits ≤ more.hits) : left.Included more where
  sublist := by
    rw [hleft, hmore]
    exact h.without key
  surplus := by
    rw [hleft, hmore, hroom, hmoreRoom]
    exact h.surplus_without key
  small_le := by
    rw [hleft, hroom]
    exact Nat.le_trans (List.length_filter_le _ _) h.small_le
  large_le := by
    rw [hmore, hmoreRoom]
    exact Nat.le_trans (List.length_filter_le _ _) h.large_le
  hits := hhits

/-- A lookup keeps one list included in the other. What is live in one is live in the other, and
moves to the front of both, or of the larger one if only that has it. -/
theorem Included.get (h : small.Included large) (hnodup : (large.entries.map (·.key)).Nodup)
    (key : String) (now : Instant) :
    (small.get key now).2.Included (large.get key now).2 := by
  have hhits := h.hits
  have hsmall_le := h.small_le
  have hlarge_le := h.large_le
  have hsurplus := h.surplus
  have hsurplus_without := h.surplus_without key
  unfold NewestFirst.get
  cases hsmall : small.find? key with
  | none =>
    have hsame := without_of_find?_none hsmall
    cases hlarge : large.find? key with
    | none => exact ⟨h.sublist, h.surplus, h.small_le, h.large_le, h.hits⟩
    | some entry =>
      have hlt := length_without_lt hlarge
      by_cases hlate : ∃ last ∈ entry.expiresAt, last < now
      · simp only [if_pos hlate]
        exact h.of_without key hsame.symm rfl rfl rfl h.hits
      · simp only [if_neg hlate, ← hsame]
        refine ⟨(h.without key).cons entry, ?_, ?_, ?_, ?_⟩ <;>
          simp only [List.length_cons, hsame] <;> omega
  | some entry =>
    have hlt := length_without_lt hsmall
    have hlarge := h.find? hnodup hsmall
    have hlt' := length_without_lt hlarge
    by_cases hlate : ∃ last ∈ entry.expiresAt, last < now
    · simp only [hlarge, if_pos hlate]
      exact h.of_without key rfl rfl rfl rfl h.hits
    · simp only [hlarge, if_neg hlate]
      refine ⟨(h.without key).cons_cons entry, ?_, ?_, ?_, ?_⟩ <;>
        simp only [List.length_cons] <;> omega

/-- Removing an entry keeps one list included in the other. -/
theorem Included.remove (h : small.Included large) (hnodup : (large.entries.map (·.key)).Nodup)
    (key : String) : (small.remove key).2.Included (large.remove key).2 := by
  unfold NewestFirst.remove
  cases hsmall : small.find? key with
  | none =>
    cases hlarge : large.find? key with
    | none => exact h
    | some entry =>
      exact h.of_without key (without_of_find?_none hsmall).symm rfl rfl rfl h.hits
  | some entry =>
    simp only [h.find? hnodup hsmall]
    exact h.of_without key rfl rfl rfl rfl h.hits

/-- Dropping all entries keeps one list included in the other. -/
theorem Included.clear (h : small.Included large) : small.clear.Included large.clear where
  sublist := List.Sublist.refl []
  surplus := by
    have hsurplus := h.surplus
    have hlength := h.sublist.length_le
    simp only [NewestFirst.clear, List.length_nil]
    omega
  small_le := Nat.zero_le _
  large_le := Nat.zero_le _
  hits := h.hits

/-- Every call keeps one list included in the other. -/
theorem Included.perform (h : small.Included large) (hnodup : (large.entries.map (·.key)).Nodup)
    (operation : Operation) : (small.perform operation).2.Included (large.perform operation).2 := by
  cases operation with
  | set key value ttl now => exact h.set key value ttl now
  | get key now => exact h.get hnodup key now
  | remove key => exact h.remove hnodup key
  | clear => exact h.clear

end NewestFirst

namespace Store

/-- The entries of a store are among those of another, in the same order. -/
def Included (small large : Store) : Prop :=
  ∃ list more : NewestFirst, small.Represents list ∧ large.Represents more ∧ list.Included more

variable {small large : Store}

/-- A sequence of calls keeps one store included in the other. -/
theorem Included.after (h : small.Included large) (operations : List Operation) :
    (small.after operations).Included (large.after operations) := by
  induction operations generalizing small large with
  | nil => exact h
  | cons operation operations ih =>
    obtain ⟨list, more, hlist, hmore, hincluded⟩ := h
    exact ih ⟨_, _, (hlist.perform operation).2, (hmore.perform operation).2,
      hincluded.perform hmore.nodup operation⟩

/-- The keys of the smaller store are among those of the larger one, in the same order. -/
theorem Included.keys (h : small.Included large) : small.keys.Sublist large.keys := by
  obtain ⟨list, more, hlist, hmore, hincluded⟩ := h
  rw [Store.keys, hlist.keys, Store.keys, hmore.keys]
  exact hincluded.sublist.map _

/-- An entry of the smaller store is the entry under that key in the larger one. -/
theorem Included.getElem? (h : small.Included large) {key : String} {entry : Entry}
    (hentry : small.entries[key]? = some entry) : large.entries[key]? = some entry := by
  obtain ⟨list, more, hlist, hmore, hincluded⟩ := h
  rw [hlist.lookup] at hentry
  rw [hmore.lookup]
  exact hincluded.find? hmore.nodup hentry

/-- What a lookup finds in the smaller store it finds in the larger one. -/
theorem Included.get (h : small.Included large) {key : String} {now : Instant} {entry : Entry}
    (hfound : (small.get key now).1 = some entry) : (large.get key now).1 = some entry := by
  rw [get_fst, Option.filter_eq_some_iff] at hfound ⊢
  exact ⟨h.getElem? hfound.1, hfound.2⟩

/-- The larger store has found live entries at least as often. -/
theorem Included.hits_le (h : small.Included large) :
    small.statistics.hits ≤ large.statistics.hits := by
  obtain ⟨list, more, hlist, hmore, hincluded⟩ := h
  simp only [statistics, Statistics.withOccupancy, hlist.counters, hmore.counters]
  exact hincluded.hits

/-- After the same calls a cache with less room and one with more stand in this relation: the keys
of the first are among those of the second, in the same order from the newest to the oldest; what
the first holds under a key, the second holds as well; every lookup that finds an entry in the first
finds that entry in the second; and the second has found entries at least as often. -/
theorem included_of_capacity_le {capacity more : Nat} (hle : capacity ≤ more)
    (operations : List Operation) :
    let small := (new capacity).after operations
    let large := (new more).after operations
    small.keys.Sublist large.keys ∧
      (∀ (key : String) (entry : Entry),
        small.entries[key]? = some entry → large.entries[key]? = some entry) ∧
      (∀ (key : String) (now : Instant) (entry : Entry),
        (small.get key now).1 = some entry → (large.get key now).1 = some entry) ∧
      small.statistics.hits ≤ large.statistics.hits := by
  have h : ((new capacity).after operations).Included ((new more).after operations) :=
    Included.after ⟨_, _, represents_new capacity, represents_new more,
      NewestFirst.included_new hle⟩ operations
  exact ⟨h.keys, fun _ _ => h.getElem?, fun _ _ _ => h.get, h.hits_le⟩

/-- Two keys are set, and the first is looked up. -/
def twoKeys : List Operation :=
  let now : Instant := ⟨1, 0, by decide⟩
  [.set "a" [] none now, .set "b" [] none now, .get "a" now]

/-- With room for one entry the first of two keys is lost, with room for two it is found. -/
theorem included_of_capacity_le_one_two :
    1 ≤ 2 ∧ ((new 1).after twoKeys).keys.Sublist ((new 2).after twoKeys).keys ∧
      ((new 1).after twoKeys).keys = ["b"] ∧ ((new 2).after twoKeys).keys = ["a", "b"] := by
  have hone := ((represents_new 1).after twoKeys).keys
  have htwo := ((represents_new 2).after twoKeys).keys
  refine ⟨by decide, (included_of_capacity_le (by decide) twoKeys).1, hone.trans ?_, htwo.trans ?_⟩
  all_goals
    simp [twoKeys, NewestFirst.after, NewestFirst.new, NewestFirst.perform, NewestFirst.set,
      NewestFirst.get, NewestFirst.find?, NewestFirst.without, NewestFirst.dropOldest_eq,
      NewestFirst.lastInstant?]

end Store

end ForwardProxy.Cache
