import Mathlib.Data.List.Basic
import Mathlib.Data.List.Nodup

/-!
# Lists whose members have keys

Header fields and cache entries are kept in lists in which no key occurs twice. These lemmas relate
looking a key up, taking it out, and the rest of such a list.
-/

namespace ForwardProxy

variable {α κ : Type} [DecidableEq κ] (f : α → κ)

/-- Taking a key out leaves what is found under every other key. -/
theorem find?_filter_key_ne (key other : κ) (items : List α) :
    (items.filter (f · ≠ key)).find? (f · = other) =
      if other = key then none else items.find? (f · = other) := by
  induction items with
  | nil => simp
  | cons item items ih =>
    by_cases hitem : f item = key
    · by_cases hother : other = key
      · simp [hother]
      · have hne : f item ≠ other := fun heq => hother (heq.symm.trans hitem)
        rw [List.filter_cons_of_neg (by simp [hitem]), ih, if_neg hother, if_neg hother,
          List.find?_cons_of_neg (by simpa using hne)]
    · rw [List.filter_cons_of_pos (by simpa using hitem)]
      by_cases hfound : f item = other
      · have hother : other ≠ key := fun heq => hitem (hfound.trans heq)
        simp [hfound, hother]
      · rw [List.find?_cons_of_neg (by simpa using hfound), ih,
          List.find?_cons_of_neg (by simpa using hfound)]

/-- What is found under a key has that key. -/
theorem key_eq_of_find? {key : κ} {item : α} {items : List α}
    (h : items.find? (f · = key) = some item) : f item = key := by
  simpa using List.find?_some h

/-- In a list without repeated keys each member is found under its key. -/
theorem find?_key_of_mem {item : α} {items : List α} (hnodup : (items.map f).Nodup)
    (hmem : item ∈ items) : items.find? (f · = f item) = some item := by
  obtain ⟨front, back, rfl⟩ := List.append_of_mem hmem
  have hfront : front.find? (f · = f item) = none := by
    rw [List.find?_eq_none]
    intro other hother
    rw [List.map_append, List.nodup_append] at hnodup
    simpa using hnodup.2.2 (f other) (List.mem_map_of_mem hother) (f item) (by simp)
  rw [List.find?_append, hfront]
  simp

/-- A list without repeated keys consists of what is found under a key and of the rest. -/
theorem perm_cons_filter_key_ne {key : κ} {item : α} {items : List α}
    (hnodup : (items.map f).Nodup) (hfind : items.find? (f · = key) = some item) :
    items.Perm (item :: items.filter (f · ≠ key)) := by
  induction items with
  | nil => simp at hfind
  | cons first items ih =>
    rw [List.map_cons, List.nodup_cons] at hnodup
    by_cases hfirst : f first = key
    · have heq : first = item := by simpa [hfirst] using hfind
      have hrest : items.filter (f · ≠ key) = items := by
        rw [List.filter_eq_self]
        intro other hmem
        have hne : f other ≠ key := fun hother =>
          hnodup.1 (hfirst ▸ hother ▸ List.mem_map_of_mem hmem)
        simpa using hne
      rw [List.filter_cons_of_neg (by simpa using hfirst), hrest, heq]
    · rw [List.find?_cons_of_neg (by simpa using hfirst)] at hfind
      rw [List.filter_cons_of_pos (by simpa using hfirst)]
      exact ((ih hnodup.2 hfind).cons first).trans (List.Perm.swap ..)

end ForwardProxy
