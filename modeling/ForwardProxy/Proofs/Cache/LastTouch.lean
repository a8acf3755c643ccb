import ForwardProxy.Proofs.Cache.Recency
import Mathlib.Data.List.Induction

/-!
# The order of last touches

What an order of recency holds, said in terms of the calls that were made and nothing else. A key is
listed if it was touched and since then neither removed nor lost with all others, and a key comes
before another one if its last touch came later. The two maps stay inverse to each other through every
sequence of calls, so no touch loses the place that its key had.
-/

namespace ForwardProxy.Cache.Recency

/-- A call of the order of recency. -/
inductive Call where
  /-- Uses a key. -/
  | touch (key : String)
  /-- Forgets a key. -/
  | remove (key : String)
  /-- Forgets all keys. -/
  | clear

/-- Carries out a call. -/
def perform (recency : Recency) : Call → Recency
  | .touch key => recency.touch key
  | .remove key => (recency.remove key).2
  | .clear => recency.clear

/-- The order after a sequence of calls, from no keys on. -/
def after (calls : List Call) : Recency := calls.foldl perform empty

/-- Whether a call uses a key. -/
def Call.isTouch : Call → Bool
  | .touch _ => true
  | _ => false

/-- A call leaves a key where it is: it is about another one. -/
def Call.Spares (key : String) : Call → Prop
  | .touch other => other ≠ key
  | .remove other => other ≠ key
  | .clear => False

/-- A key was last touched by the call at a position, and nothing happened to it since. -/
structure LastTouched (calls : List Call) (key : String) (position : Nat) : Prop where
  /-- The call touches it. -/
  touched : calls[position]? = some (.touch key)
  /-- All later calls leave it where it is. -/
  spared : ∀ later call, position < later → calls[later]? = some call → call.Spares key

/-- An order of recency is that of the last touches. -/
structure Follows (recency : Recency) (calls : List Call) : Prop where
  /-- The two maps are inverse to each other, and all ticks are before the clock. -/
  valid : recency.Valid
  /-- The clock counts the touches. -/
  clock : recency.clock = calls.countP Call.isTouch
  /-- The keys are those that were touched and not forgotten since. -/
  mem_recent : ∀ key, key ∈ recency.recent ↔ ∃ position, LastTouched calls key position
  /-- No key is listed twice. -/
  nodup : recency.recent.Nodup
  /-- Of two keys the one that was touched last comes first. -/
  decreasing : recency.recent.Pairwise fun newer older =>
    ∀ position earlier, LastTouched calls newer position → LastTouched calls older earlier →
      earlier < position

variable {recency : Recency} {calls : List Call} {call : Call} {key : String} {position : Nat}

/-- A last touch is one of the calls. -/
theorem LastTouched.lt_length (h : LastTouched calls key position) : position < calls.length :=
  (List.getElem?_eq_some_iff.mp h.touched).1

/-- A call is at a position if it was there before, or it is the new one and this is its place. -/
theorem getElem?_concat_eq_some_iff {other : Call} :
    (calls ++ [call])[position]? = some other ↔
      calls[position]? = some other ∨ (position = calls.length ∧ call = other) := by
  rcases Nat.lt_trichotomy position calls.length with hlt | rfl | hgt
  · rw [List.getElem?_append_left hlt, or_iff_left fun h => Nat.ne_of_lt hlt h.1]
  · simp
  · have hlength : (calls ++ [call]).length ≤ position := by
      rw [List.length_append]
      exact hgt
    simp [List.getElem?_eq_none hlength, List.getElem?_eq_none (Nat.le_of_lt hgt), Nat.ne_of_gt hgt]

/-- One call more is the last touch of its key, and keeps those of the keys that it spares. -/
theorem lastTouched_concat :
    LastTouched (calls ++ [call]) key position ↔
      (call = .touch key ∧ position = calls.length) ∨
        (call.Spares key ∧ LastTouched calls key position) := by
  constructor
  · rintro ⟨htouched, hspared⟩
    rcases getElem?_concat_eq_some_iff.mp htouched with hbefore | ⟨hposition, hcall⟩
    · have hlt : position < calls.length := (List.getElem?_eq_some_iff.mp hbefore).1
      have hlast : (calls ++ [call])[calls.length]? = some call := List.getElem?_concat_length
      exact .inr ⟨hspared _ call hlt hlast, hbefore, fun later other hlater hother =>
        hspared later other hlater (getElem?_concat_eq_some_iff.mpr (.inl hother))⟩
    · exact .inl ⟨hcall, hposition⟩
  · rintro (⟨rfl, rfl⟩ | ⟨hspares, h⟩)
    · refine ⟨List.getElem?_concat_length, fun later other hlater hother => ?_⟩
      have hlength := (List.getElem?_eq_some_iff.mp hother).1
      rw [List.length_append, List.length_singleton] at hlength
      omega
    · refine ⟨getElem?_concat_eq_some_iff.mpr (.inl h.touched), fun later other hlater hother => ?_⟩
      rcases getElem?_concat_eq_some_iff.mp hother with hbefore | ⟨-, rfl⟩
      · exact h.spared later other hlater hbefore
      · exact hspares

/-- A call changes nothing for a key that it spares. -/
theorem lastTouched_concat_of_spares (hspares : call.Spares key) :
    LastTouched (calls ++ [call]) key position ↔ LastTouched calls key position := by
  have hother : call ≠ .touch key := by
    rintro rfl
    exact hspares rfl
  simp [lastTouched_concat, hspares, hother]

/-- After one call more a key was touched last if the call touches it, or spares it and it was so
before. -/
theorem exists_lastTouched_concat :
    (∃ position, LastTouched (calls ++ [call]) key position) ↔
      call = .touch key ∨ (call.Spares key ∧ ∃ position, LastTouched calls key position) := by
  simp only [lastTouched_concat, exists_or, exists_and_left, exists_eq, and_true]

/-- Without the one key that a call does not spare, the order is still that of the last touches. -/
theorem Follows.decreasing_filter (h : recency.Follows calls)
    (hspares : ∀ other, other ≠ key → call.Spares other) :
    (recency.recent.filter (· ≠ key)).Pairwise fun newer older =>
      ∀ position earlier, LastTouched (calls ++ [call]) newer position →
        LastTouched (calls ++ [call]) older earlier → earlier < position := by
  refine (h.decreasing.filter _).imp_of_mem ?_
  intro newer older hnewer holder hlt position earlier
  have hspared : ∀ other ∈ recency.recent.filter (· ≠ key), call.Spares other := fun other hmem =>
    hspares other (by simpa using (List.mem_filter.mp hmem).2)
  rw [lastTouched_concat_of_spares (hspared newer hnewer),
    lastTouched_concat_of_spares (hspared older holder)]
  exact hlt position earlier

/-- Using a key keeps the order that of the last touches. -/
theorem Follows.touch (h : recency.Follows calls) (key : String) :
    (recency.touch key).Follows (calls ++ [.touch key]) where
  valid := h.valid.touch key
  clock := by rw [h.valid.touch_eq, List.countP_append, ← h.clock]; rfl
  mem_recent other := by
    have hspares : Call.Spares other (.touch key) ↔ other ≠ key := ne_comm
    rw [h.valid.recent_touch, List.mem_cons, List.mem_filter, decide_eq_true_eq, h.mem_recent,
      exists_lastTouched_concat, Call.touch.injEq, eq_comm, hspares, and_comm]
  nodup := (h.valid.touch key).nodup_recent
  decreasing := by
    rw [h.valid.recent_touch, List.pairwise_cons]
    refine ⟨fun older hmem position earlier hposition hearlier => ?_,
      h.decreasing_filter fun other hne => Ne.symm hne⟩
    have hne : older ≠ key := by simpa using (List.mem_filter.mp hmem).2
    rw [lastTouched_concat] at hposition
    have hspares : Call.Spares older (.touch key) := Ne.symm hne
    rw [lastTouched_concat_of_spares hspares] at hearlier
    rcases hposition with ⟨-, rfl⟩ | ⟨hself, -⟩
    · exact hearlier.lt_length
    · exact absurd rfl hself

/-- Forgetting a key keeps the order that of the last touches. -/
theorem Follows.remove (h : recency.Follows calls) (key : String) :
    (recency.remove key).2.Follows (calls ++ [.remove key]) where
  valid := h.valid.remove key
  clock := by rw [clock_remove, List.countP_append, ← h.clock]; rfl
  mem_recent other := by
    have hspares : Call.Spares other (.remove key) ↔ other ≠ key := ne_comm
    have htouch : Call.remove key ≠ .touch other := nofun
    rw [h.valid.recent_remove, List.mem_filter, decide_eq_true_eq, h.mem_recent,
      exists_lastTouched_concat, or_iff_right htouch, hspares, and_comm]
  nodup := (h.valid.remove key).nodup_recent
  decreasing := by
    rw [h.valid.recent_remove]
    exact h.decreasing_filter fun other hne => Ne.symm hne

/-- Forgetting all keys keeps the order that of the last touches, of which there are none. -/
theorem Follows.clear (h : recency.Follows calls) :
    recency.clear.Follows (calls ++ [.clear]) where
  valid := valid_clear recency
  clock := by rw [List.countP_append, ← h.clock]; rfl
  mem_recent key := by simp [recent_clear, exists_lastTouched_concat, Call.Spares]
  nodup := by rw [recent_clear]; exact List.nodup_nil
  decreasing := by rw [recent_clear]; exact List.Pairwise.nil

/-- Before all calls there is no key. -/
theorem follows_nil : empty.Follows [] where
  valid := valid_empty
  clock := rfl
  mem_recent key := by
    have hnone : ¬∃ position, LastTouched [] key position := fun ⟨_, h⟩ =>
      Nat.not_lt_zero _ h.lt_length
    simp [recent_empty, hnone]
  nodup := by rw [recent_empty]; exact List.nodup_nil
  decreasing := by rw [recent_empty]; exact List.Pairwise.nil

/-- After any calls the order is that of the last touches. -/
theorem follows_after (calls : List Call) : (after calls).Follows calls := by
  induction calls using List.reverseRecOn with
  | nil => exact follows_nil
  | append_singleton calls call ih =>
    rw [after, List.foldl_append, ← after]
    cases call with
    | touch key => exact ih.touch key
    | remove key => exact ih.remove key
    | clear => exact ih.clear

/-- After any calls, an order of recency lists the keys that were touched and not forgotten since,
each once, by their last touch, and its two maps are inverse to each other, so that a touch finds the
place that its key had. The oldest key is the last of the list, or none if the list is empty. What is
said about the number of keys is true of the list. Forgetting a key says whether it is listed, takes
it out and leaves all others in their order. -/
theorem after_lists_last_touches (calls : List Call) :
    let recency := after calls
    recency.Follows calls ∧ recency.oldest? = recency.recent.getLast? ∧
      recency.size = recency.recent.length ∧
      (recency.isEmpty = true ↔ recency.recent = []) ∧
      ∀ key, ((recency.remove key).1 = true ↔ key ∈ recency.recent) ∧
        (recency.remove key).2.recent = recency.recent.filter (· ≠ key) := by
  intro recency
  have hfollows : recency.Follows calls := follows_after calls
  exact ⟨hfollows, oldest?_eq_getLast? recency, size_eq_length recency, isEmpty_iff recency,
    fun key => ⟨hfollows.valid.remove_iff key, hfollows.valid.recent_remove key⟩⟩

end ForwardProxy.Cache.Recency
