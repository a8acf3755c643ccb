import ForwardProxy.Cache.Recency
import Mathlib.Data.List.Basic

/-!
# The order of recency as a list

The two maps of a `Recency` are inverse to each other, and no tick has passed its clock. Under this
invariant every operation is one on the list of keys from the newest to the oldest: a use moves its
key to the front, forgetting takes it out, and the oldest key is the last one.
-/

namespace ForwardProxy.Cache

/-- Two lists that are in strictly increasing order of ticks are equal if they have the same
members. -/
theorem eq_of_mem_iff {xs ys : List (Nat × String)} (hx : xs.Pairwise fun a b => a.1 < b.1)
    (hy : ys.Pairwise fun a b => a.1 < b.1) (h : ∀ p, p ∈ xs ↔ p ∈ ys) : xs = ys := by
  have hnodup {zs : List (Nat × String)} (hz : zs.Pairwise fun a b => a.1 < b.1) : zs.Nodup :=
    hz.imp fun hlt heq => by simp [heq] at hlt
  have hperm : xs.Perm ys := (List.perm_ext_iff_of_nodup (hnodup hx) (hnodup hy)).mpr h
  refine hperm.eq_of_pairwise ?_ hx hy
  intro a b _ _ hab hba
  omega

/-- The ticks of an order increase. -/
theorem pairwise_toList (order : Std.TreeMap Nat String) :
    order.toList.Pairwise fun a b => a.1 < b.1 := by
  simpa only [Nat.compare_eq_lt] using order.ordered_keys_toList

namespace Recency

/-- The two maps are inverse to each other, and all ticks are before the clock. -/
structure Valid (recency : Recency) : Prop where
  /-- A key has a tick exactly if that tick is of the key. -/
  inverse : ∀ (key : String) (tick : Nat),
    recency.ticks[key]? = some tick ↔ recency.order[tick]? = some key
  /-- The clock has not reached a tick that was given. -/
  lt_clock : ∀ (tick : Nat) (key : String), recency.order[tick]? = some key → tick < recency.clock

/-- The order without the tick of one key. -/
def others (recency : Recency) (key : String) : Std.TreeMap Nat String :=
  match recency.ticks[key]? with
  | some tick => recency.order.erase tick
  | none => recency.order

/-- Nothing was used yet. -/
theorem valid_empty : empty.Valid := by
  constructor <;> intros <;> simp_all [empty]

variable {recency : Recency}

/-- The order without a key has the ticks of all other keys. -/
theorem Valid.getElem?_others (h : recency.Valid) (key name : String) (tick : Nat) :
    (recency.others key)[tick]? = some name ↔ recency.order[tick]? = some name ∧ name ≠ key := by
  unfold others
  cases hkey : recency.ticks[key]? with
  | none =>
    have hne (hname : recency.order[tick]? = some name) : name ≠ key := by
      rintro rfl
      rw [← h.inverse, hkey] at hname
      cases hname
    exact ⟨fun hname => ⟨hname, hne hname⟩, And.left⟩
  | some previous =>
    rw [Std.TreeMap.getElem?_erase]
    by_cases heq : previous = tick
    · subst heq
      simp [(h.inverse key previous).mp hkey, eq_comm]
    · have hne (hname : recency.order[tick]? = some name) : name ≠ key := by
        rintro rfl
        rw [← h.inverse, hkey] at hname
        exact heq (Option.some.inj hname)
      have hcompare : compare previous tick ≠ .eq := by simpa [Nat.compare_eq_eq] using heq
      rw [if_neg hcompare]
      exact ⟨fun hname => ⟨hname, hne hname⟩, And.left⟩

/-- The list without a key is that of the order without it. -/
theorem Valid.map_others (h : recency.Valid) (key : String) :
    ((recency.others key).toList.map (·.2)).reverse = recency.recent.filter (· ≠ key) := by
  have hfilter : (recency.others key).toList = recency.order.toList.filter (·.2 ≠ key) := by
    apply eq_of_mem_iff (pairwise_toList _) ((pairwise_toList _).filter _)
    rintro ⟨tick, name⟩
    rw [List.mem_filter, Std.TreeMap.mem_toList_iff_getElem?_eq_some,
      Std.TreeMap.mem_toList_iff_getElem?_eq_some, h.getElem?_others]
    simp
  rw [hfilter, recent, List.filter_reverse, List.filter_map]
  rfl

/-- A tick after all others comes last. -/
theorem toList_insert_of_lt {order : Std.TreeMap Nat String} {tick : Nat} (key : String)
    (h : ∀ (other : Nat) (name : String), order[other]? = some name → other < tick) :
    (order.insert tick key).toList = order.toList ++ [(tick, key)] := by
  apply eq_of_mem_iff (pairwise_toList _)
  · rw [List.pairwise_append]
    refine ⟨pairwise_toList order, by simp, ?_⟩
    rintro ⟨other, name⟩ hother last hlast
    obtain rfl := List.mem_singleton.mp hlast
    exact h other name (Std.TreeMap.mem_toList_iff_getElem?_eq_some.mp hother)
  · rintro ⟨other, name⟩
    rw [List.mem_append, Std.TreeMap.mem_toList_iff_getElem?_eq_some,
      Std.TreeMap.mem_toList_iff_getElem?_eq_some, Std.TreeMap.getElem?_insert]
    by_cases heq : tick = other
    · subst heq
      have hnone : order[tick]? ≠ some name := fun hname => Nat.lt_irrefl _ (h tick name hname)
      simp [hnone, eq_comm]
    · have hcompare : compare tick other ≠ .eq := by simpa [Nat.compare_eq_eq] using heq
      simp [hcompare, Ne.symm heq]

/-- A key is listed exactly if it has a tick. -/
theorem Valid.mem_recent_iff (h : recency.Valid) {key : String} :
    key ∈ recency.recent ↔ ∃ tick, recency.ticks[key]? = some tick := by
  simp only [recent, List.mem_reverse, List.mem_map, Prod.exists,
    Std.TreeMap.mem_toList_iff_getElem?_eq_some]
  constructor
  · rintro ⟨tick, name, hname, rfl⟩
    exact ⟨tick, (h.inverse name tick).mpr hname⟩
  · rintro ⟨tick, htick⟩
    exact ⟨tick, key, (h.inverse key tick).mp htick, rfl⟩

/-- No key is listed twice. -/
theorem Valid.nodup_recent (h : recency.Valid) : recency.recent.Nodup := by
  rw [recent, List.Nodup, List.pairwise_reverse, List.pairwise_map]
  refine (List.Pairwise.and_mem.mp (pairwise_toList recency.order)).imp ?_
  rintro ⟨t₁, k₁⟩ ⟨t₂, k₂⟩ ⟨h₁, h₂, hlt⟩ heq
  rw [Std.TreeMap.mem_toList_iff_getElem?_eq_some, ← h.inverse] at h₁ h₂
  -- Both ticks are the one of the same key.
  obtain rfl : k₁ = k₂ := heq.symm
  rw [h₁] at h₂
  exact Nat.ne_of_lt hlt (Option.some.inj h₂)

/-- A use gives the key the tick of the clock, in place of the one that it had. -/
theorem Valid.touch_eq (h : recency.Valid) (key : String) :
    recency.touch key =
      { order := (recency.others key).insert recency.clock key
        ticks := recency.ticks.insert key recency.clock
        clock := recency.clock + 1 } := by
  unfold Recency.touch others
  cases hkey : recency.ticks[key]? with
  | none => rfl
  | some previous => simp only [(h.inverse key previous).mp hkey]

/-- Using a key moves it to the front. -/
theorem Valid.recent_touch (h : recency.Valid) (key : String) :
    (recency.touch key).recent = key :: recency.recent.filter (· ≠ key) := by
  have hlt : ∀ (tick : Nat) (name : String), (recency.others key)[tick]? = some name →
      tick < recency.clock := fun tick name hname =>
    h.lt_clock tick name ((h.getElem?_others key name tick).mp hname).1
  rw [h.touch_eq, recent, toList_insert_of_lt key hlt, ← h.map_others]
  simp

/-- Using a key keeps the maps inverse to each other. -/
theorem Valid.touch (h : recency.Valid) (key : String) : (recency.touch key).Valid := by
  rw [h.touch_eq]
  constructor
  · intro name tick
    simp only [Std.HashMap.getElem?_insert, Std.TreeMap.getElem?_insert, Nat.compare_eq_eq,
      beq_iff_eq]
    have hothers := h.getElem?_others key name tick
    have hinverse := h.inverse name tick
    have hfresh : recency.order[recency.clock]? ≠ some name := fun hname =>
      Nat.lt_irrefl _ (h.lt_clock _ _ hname)
    by_cases hname : key = name <;> by_cases htick : recency.clock = tick
    · simp [hname, htick]
    · subst hname
      simp [htick, hothers]
    · subst htick
      simp [hname, hinverse, hfresh]
    · rw [if_neg hname, if_neg htick, hothers, hinverse]
      exact ⟨fun hmem => ⟨hmem, Ne.symm hname⟩, And.left⟩
  · intro tick name hmem
    simp only [Std.TreeMap.getElem?_insert, Nat.compare_eq_eq] at hmem
    show tick < recency.clock + 1
    by_cases htick : recency.clock = tick
    · omega
    · rw [if_neg htick, h.getElem?_others] at hmem
      have hlt := h.lt_clock tick name hmem.1
      omega

/-- Forgetting a key takes it out of the list. -/
theorem Valid.recent_remove (h : recency.Valid) (key : String) :
    (recency.remove key).2.recent = recency.recent.filter (· ≠ key) := by
  rw [← h.map_others]
  unfold remove others recent
  cases recency.ticks[key]? <;> rfl

/-- Forgetting a key keeps the maps inverse to each other. -/
theorem Valid.remove (h : recency.Valid) (key : String) : (recency.remove key).2.Valid := by
  unfold Recency.remove
  cases hkey : recency.ticks[key]? with
  | none => exact h
  | some previous =>
    have horder : recency.order.erase previous = recency.others key := by simp [others, hkey]
    simp only [horder]
    constructor
    · intro name tick
      simp only [Std.HashMap.getElem?_erase, beq_iff_eq]
      rw [h.getElem?_others, ← h.inverse]
      by_cases hname : key = name
      · simp [hname]
      · simp [hname, Ne.symm hname]
    · intro tick name hmem
      exact h.lt_clock tick name ((h.getElem?_others key name tick).mp hmem).1

/-- The oldest key is the last one of the list. -/
theorem oldest?_eq_getLast? (recency : Recency) :
    recency.oldest? = recency.recent.getLast? := by
  rw [recent, List.getLast?_reverse, List.head?_map, oldest?, Std.TreeMap.minKey?_eq_head?_keys,
    ← Std.TreeMap.map_fst_toList_eq_keys, List.head?_map]
  cases hlist : recency.order.toList with
  | nil => rfl
  | cons first rest =>
    have hfirst : recency.order[first.1]? = some first.2 := by
      rw [← Std.TreeMap.mem_toList_iff_getElem?_eq_some, hlist]
      simp
    simp [hfirst]

/-- A key is forgotten exactly if it is listed. -/
theorem Valid.remove_iff (h : recency.Valid) (key : String) :
    (recency.remove key).1 = true ↔ key ∈ recency.recent := by
  rw [h.mem_recent_iff, Recency.remove]
  cases recency.ticks[key]? <;> simp

/-- Using a key moves the clock on by one. -/
theorem clock_touch (recency : Recency) (key : String) :
    (recency.touch key).clock = recency.clock + 1 := by
  unfold Recency.touch
  cases recency.ticks[key]? <;> rfl

/-- Forgetting a key keeps the clock. -/
theorem clock_remove (recency : Recency) (key : String) :
    (recency.remove key).2.clock = recency.clock := by
  unfold Recency.remove
  cases recency.ticks[key]? <;> rfl

/-- There are as many keys as are listed. -/
theorem size_eq_length (recency : Recency) : recency.size = recency.recent.length := by
  rw [size, recent, List.length_reverse, List.length_map, Std.TreeMap.length_toList]

/-- There are no keys exactly if none is listed. -/
theorem isEmpty_iff (recency : Recency) : recency.isEmpty = true ↔ recency.recent = [] := by
  rw [isEmpty, recent, List.reverse_eq_nil_iff, List.map_eq_nil_iff, ← List.isEmpty_iff,
    Std.TreeMap.isEmpty_toList]

/-- Forgetting all keys keeps the clock, and leaves the maps inverse to each other. -/
theorem valid_clear (recency : Recency) : recency.clear.Valid := by
  constructor <;> intros <;> simp_all [clear]

/-- No key is listed before the first one is used. -/
theorem recent_empty : empty.recent = [] :=
  (isEmpty_iff empty).mp Std.TreeMap.isEmpty_emptyc

/-- No key is listed after all are forgotten. -/
theorem recent_clear (recency : Recency) : recency.clear.recent = [] :=
  (isEmpty_iff recency.clear).mp Std.TreeMap.isEmpty_emptyc

end Recency

end ForwardProxy.Cache
