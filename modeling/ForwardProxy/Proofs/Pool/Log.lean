import ForwardProxy.Proofs.Pool.Steps

/-!
# The log of a pool

What has happened can be read off the log, and so can what came before what. A log only grows at its
end, so what came before an event never changes once the event is there.
-/

namespace ForwardProxy.Pool

variable {log new : List Event} {kind : EventKind} {number : Nat} {first second event : Event}

@[simp]
theorem numbers_append : numbers kind (log ++ new) = numbers kind log ++ numbers kind new := by
  simp [numbers]

@[simp]
theorem numbers_cons : numbers kind (event :: log) =
    if event.kind = kind then event.number :: numbers kind log else numbers kind log := by
  by_cases h : event.kind = kind <;> simp [numbers, h]

@[simp]
theorem numbers_nil : numbers kind [] = [] := rfl

theorem mem_numbers : number ∈ numbers kind log ↔ ⟨kind, number⟩ ∈ log := by
  simp only [numbers, List.mem_map, List.mem_filter, decide_eq_true_eq]
  constructor
  · rintro ⟨event, ⟨hmem, rfl⟩, rfl⟩
    exact hmem
  · exact fun hmem => ⟨_, ⟨hmem, rfl⟩, rfl⟩

/-- One event is in the log, and before it there is none of another. -/
def Precedes (log : List Event) (first second : Event) : Prop :=
  first ∈ log.takeWhile (· ≠ second)

instance : Decidable (Precedes log first second) := inferInstanceAs (Decidable (_ ∈ _))

@[simp]
theorem not_precedes_nil : ¬Precedes [] first second := List.not_mem_nil

@[simp]
theorem precedes_cons : Precedes (event :: log) first second ↔
    event ≠ second ∧ (first = event ∨ Precedes log first second) := by
  by_cases h : event = second <;> simp [Precedes, h]

/-- An event that comes before another is in the log. -/
theorem Precedes.mem (h : Precedes log first second) : first ∈ log :=
  (List.takeWhile_prefix _).subset h

/-- In a longer log, one event comes before another if it did so in the log, or if the other event
was not in the log and the one comes before it in what is new. -/
theorem precedes_append : Precedes (log ++ new) first second ↔
    Precedes log first second ∨ (second ∉ log ∧ Precedes new first second) := by
  induction log with
  | nil => simp
  | cons event log ih =>
    simp only [List.cons_append, precedes_cons, ih, List.mem_cons, not_or]
    constructor
    · rintro ⟨hne, rfl | hbefore | ⟨hnone, hafter⟩⟩
      · exact .inl ⟨hne, .inl rfl⟩
      · exact .inl ⟨hne, .inr hbefore⟩
      · exact .inr ⟨⟨Ne.symm hne, hnone⟩, hafter⟩
    · rintro (⟨hne, rfl | hbefore⟩ | ⟨⟨hne, hnone⟩, hafter⟩)
      · exact ⟨hne, .inl rfl⟩
      · exact ⟨hne, .inr (.inl hbefore)⟩
      · exact ⟨Ne.symm hne, .inr (.inr ⟨hnone, hafter⟩)⟩

/-- What came before an event is settled once the event is there. -/
theorem precedes_append_of_mem (h : second ∈ log) :
    Precedes (log ++ new) first second ↔ Precedes log first second := by
  rw [precedes_append]
  simp [h]

/-- An event that is not in what is new came before another only if it did so in the log. -/
theorem precedes_append_of_not_mem (h : first ∉ new) :
    Precedes (log ++ new) first second ↔ Precedes log first second := by
  rw [precedes_append, or_iff_left]
  exact fun hnew => h hnew.2.mem

/-- An event that is there came before all that are not. -/
theorem precedes_of_not_mem (h : first ∈ log) (hnone : second ∉ log) :
    Precedes log first second := by
  induction log with
  | nil => cases h
  | cons event log ih =>
    rw [List.mem_cons, not_or] at hnone
    rw [List.mem_cons] at h
    exact precedes_cons.mpr ⟨Ne.symm hnone.1, h.imp_right (ih · hnone.2)⟩

end ForwardProxy.Pool
