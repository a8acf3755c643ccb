import ForwardProxy.Proofs.Cache.Contents
import Mathlib.Data.Finset.Card

/-!
# How long an entry stays

An entry is pushed out at the back of the list, so it stays as long as there are fewer newer entries
than the capacity. Entries become newer than it only by being used. So it stays while fewer other
keys than the capacity were used since its own key was used last, however often they were used.
-/

namespace ForwardProxy.Cache

open Time

/-- An entry that is live was live at any earlier time. -/
theorem Entry.live_earlier {entry : Entry} {earlier later : Instant} (horder : ¬later < earlier)
    (hlive : entry.expired later = false) : entry.expired earlier = false := by
  rw [Bool.eq_false_iff, Ne, expired_iff] at hlive ⊢
  rintro ⟨last, hlast, hpast⟩
  refine hlive ⟨last, hlast, ?_⟩
  -- The order of instants compares seconds first, then fractions.
  change _ ∨ _ at hpast ⊢
  change ¬(_ ∨ _) at horder
  omega

namespace NewestFirst

/-- An entry is in the list, and all that is newer stands under some of the given keys. -/
def Recent (list : NewestFirst) (used : Finset String) (entry : Entry) : Prop :=
  ∃ newer older, list.entries = newer ++ entry :: older ∧ ∀ other ∈ newer, other.key ∈ used

variable {list : NewestFirst} {used : Finset String} {entry : Entry}

/-- A recent entry is found under its key, if keys stand for one entry each. -/
theorem Recent.find? (h : list.Recent used entry) (hnodup : (list.entries.map (·.key)).Nodup) :
    list.find? entry.key = some entry := by
  obtain ⟨newer, older, hsplit, -⟩ := h
  exact find?_key_of_mem Entry.key hnodup (by simp [hsplit])

/-- Taking another key out of the list leaves a recent entry where it is. -/
theorem Recent.without (h : list.Recent used entry) {key : String} (hkey : entry.key ≠ key) :
    ∃ newer older, list.without key = newer ++ entry :: older ∧
      ∀ other ∈ newer, other.key ∈ used := by
  obtain ⟨newer, older, hsplit, hnewer⟩ := h
  refine ⟨newer.filter (·.key ≠ key), older.filter (·.key ≠ key), ?_, fun other hmem => ?_⟩
  · rw [NewestFirst.without, hsplit, List.filter_append,
      List.filter_cons_of_pos (by simpa using hkey)]
  · exact hnewer other (List.mem_of_mem_filter hmem)

/-- Looking up another of the given keys keeps an entry of a list recent. -/
theorem Recent.get_other (h : list.Recent used entry) {key : String} (hkey : entry.key ≠ key)
    (hused : key ∈ used) (now : Instant) : (list.get key now).2.Recent used entry := by
  obtain ⟨newer, older, hwithout, hnewer⟩ := h.without hkey
  unfold NewestFirst.get
  cases hfind : list.find? key with
  | none => exact h
  | some found =>
    by_cases hlate : ∃ last ∈ found.expiresAt, last < now
    · simp only [if_pos hlate]
      exact ⟨newer, older, hwithout, hnewer⟩
    · simp only [if_neg hlate]
      refine ⟨found :: newer, older, by simp [hwithout], List.forall_mem_cons.mpr ⟨?_, hnewer⟩⟩
      rwa [key_eq_of_find? Entry.key hfind]

/-- Looking the entry up while it is live puts it in front of all others. -/
theorem recent_get_of_live {key : String} (hfind : list.find? key = some entry) {now : Instant}
    (hlive : entry.expired now = false) : (list.get key now).2.Recent used entry := by
  have hlate : ¬∃ last ∈ entry.expiresAt, last < now := by
    rw [← Entry.expired_iff, hlive]
    simp
  unfold NewestFirst.get
  simp only [hfind, if_neg hlate]
  exact ⟨[], list.without key, rfl, by simp⟩

/-- Setting an entry leaves the capacity alone. -/
theorem capacity_set (list : NewestFirst) (key : String) (value : Bytes) (ttl : Option Span)
    (now : Instant) : (list.set key value ttl now).2.capacity = list.capacity := by
  unfold NewestFirst.set
  cases list.find? key with
  | some found => rfl
  | none => simp only [dropOldest_eq]

/-- If keys stand for one entry each, there are no more newer entries than keys that stand for
one. -/
theorem length_newer_lt {newer older : List Entry} (hsplit : list.entries = newer ++ older)
    (hnodup : (list.entries.map (·.key)).Nodup) (hnewer : ∀ other ∈ newer, other.key ∈ used)
    {key : String} (hused : key ∈ used) (hnone : list.find? key = none) :
    newer.length < used.card := by
  have hkeys : (newer.map (·.key)).Nodup := by
    rw [hsplit, List.map_append, List.nodup_append] at hnodup
    exact hnodup.1
  have hsubset : (newer.map (·.key)).toFinset ⊆ used.erase key := by
    intro name hname
    obtain ⟨other, hmem, rfl⟩ := List.mem_map.mp (List.mem_toFinset.mp hname)
    refine Finset.mem_erase.mpr ⟨fun heq => ?_, hnewer other hmem⟩
    have hother := List.find?_eq_none.mp hnone other (by simp [hsplit, hmem])
    simp [heq] at hother
  calc newer.length = (newer.map (·.key)).toFinset.card := by
        rw [List.toFinset_card_of_nodup hkeys, List.length_map]
    _ ≤ (used.erase key).card := Finset.card_le_card hsubset
    _ < used.card := Finset.card_erase_lt_of_mem hused

/-- Setting another of the given keys keeps an entry recent, if there are fewer of these keys than
the list may have entries. -/
theorem Recent.set_other (h : list.Recent used entry)
    (hnodup : (list.entries.map (·.key)).Nodup) {key : String} (hkey : entry.key ≠ key)
    (hused : key ∈ used) (hcard : used.card < list.capacity) (value : Bytes) (ttl : Option Span)
    (now : Instant) : (list.set key value ttl now).2.Recent used entry := by
  unfold NewestFirst.set
  generalize hmade : Entry.mk key value value.length now (lastInstant? now ttl) = made
  have hmadeKey : made.key ∈ used := by rwa [← hmade]
  cases hfind : list.find? key with
  | some found =>
    obtain ⟨newer, older, hwithout, hnewer⟩ := h.without hkey
    exact ⟨made :: newer, older, congrArg _ hwithout,
      List.forall_mem_cons.mpr ⟨hmadeKey, hnewer⟩⟩
  | none =>
    obtain ⟨newer, older, hsplit, hnewer⟩ := h
    have hlength := length_newer_lt hsplit hnodup hnewer hused hfind
    have hroom : newer.length + 1 < list.capacity := by omega
    obtain ⟨rest, hrest⟩ := Nat.exists_eq_add_of_lt hroom
    refine ⟨made :: newer, older.take rest, ?_, List.forall_mem_cons.mpr ⟨hmadeKey, hnewer⟩⟩
    simp only [dropOldest_eq, hsplit, hrest]
    rw [show newer.length + 1 + rest + 1 = newer.length + (rest + 1) + 1 by omega,
      List.take_succ_cons, List.take_length_add_append, List.take_succ_cons, List.cons_append]

end NewestFirst

namespace Store

/-- An entry is in a store of a capacity, and all that is newer stands under some of the given
keys. -/
def Recent (store : Store) (capacity : Nat) (used : Finset String) (entry : Entry) : Prop :=
  ∃ list : NewestFirst, store.Represents list ∧ list.capacity = capacity ∧ list.Recent used entry

variable {store : Store} {capacity : Nat} {used : Finset String} {entry : Entry}

/-- A recent entry of a store stands under its key. -/
theorem Recent.getElem? (h : store.Recent capacity used entry) :
    store.entries[entry.key]? = some entry := by
  obtain ⟨list, hlist, -, hrecent⟩ := h
  rw [hlist.lookup, hrecent.find? hlist.nodup]

/-- Looking up another of the given keys keeps an entry of a store recent. -/
theorem Recent.get_other (h : store.Recent capacity used entry) {key : String}
    (hkey : entry.key ≠ key) (hused : key ∈ used) (now : Instant) :
    (store.get key now).2.Recent capacity used entry := by
  obtain ⟨list, hlist, hcapacity, hrecent⟩ := h
  exact ⟨_, (hlist.get key now).2, (list.get_le key now).1.trans hcapacity,
    hrecent.get_other hkey hused now⟩

/-- Looking a recent entry up while it is live keeps it recent. -/
theorem Recent.get_self (h : store.Recent capacity used entry) {now : Instant}
    (hlive : entry.expired now = false) :
    (store.get entry.key now).2.Recent capacity used entry := by
  obtain ⟨list, hlist, hcapacity, hrecent⟩ := h
  exact ⟨_, (hlist.get entry.key now).2, (list.get_le entry.key now).1.trans hcapacity,
    NewestFirst.recent_get_of_live (hrecent.find? hlist.nodup) hlive⟩

/-- Setting another of the given keys keeps an entry recent, if there are fewer of these keys than
the store may have entries. -/
theorem Recent.set_other (h : store.Recent capacity used entry) {key : String}
    (hkey : entry.key ≠ key) (hused : key ∈ used) (hcard : used.card < capacity) (value : Bytes)
    (ttl : Option Span) (now : Instant) :
    (store.set key value ttl now).2.Recent capacity used entry := by
  obtain ⟨list, hlist, rfl, hrecent⟩ := h
  exact ⟨_, (hlist.set key value ttl now).2, list.capacity_set key value ttl now,
    hrecent.set_other hlist.nodup hkey hused hcard value ttl now⟩

/-- The entry that was set is in front of all others, unless the store may hold nothing. -/
theorem InOrder.recent_set (h : store.InOrder capacity) (hpos : 0 < capacity) (key : String)
    (value : Bytes) (ttl : Option Span) (now : Instant) (used : Finset String) :
    (store.set key value ttl now).2.Recent capacity used (Entry.new key value ttl now) := by
  obtain ⟨list, hlist, rfl, -⟩ := h
  refine ⟨_, (hlist.set key value ttl now).2, list.capacity_set key value ttl now, ?_⟩
  rw [Entry.new, expiryAfter?_eq]
  unfold NewestFirst.set
  cases list.find? key with
  | some found => exact ⟨[], list.without key, rfl, by simp⟩
  | none =>
    obtain ⟨rest, hrest⟩ := Nat.exists_eq_add_of_lt hpos
    refine ⟨[], list.entries.take rest, ?_, by simp⟩
    simp [NewestFirst.dropOldest_eq, hrest]

end Store

end ForwardProxy.Cache
