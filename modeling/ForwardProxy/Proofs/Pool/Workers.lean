import ForwardProxy.Proofs.Pool.Log
import Mathlib.Data.List.Perm.Basic
import Mathlib.Tactic.ByContra

/-!
# Workers and stops

A worker runs one job, is idle, or has ended. Workers end only when the pool is sealed and nothing
is left. So as long as a job waits or is queued, all workers are there, and nobody who waits for a
place is ever refused. The first stop waits for all workers, and every later one for none.
-/

namespace ForwardProxy.Pool

variable {α ρ : Type} {pool next : Pool α ρ}

/-- What holds of the workers of a pool. -/
structure Staffed (pool : Pool α ρ) : Prop where
  /-- No worker runs two jobs, and none that has ended runs one. -/
  workers : pool.running.length + pool.ended ≤ pool.size
  /-- A worker ends only if nothing is left and nothing can come. -/
  ended : pool.ended ≠ 0 → pool.isSealed = true ∧ pool.waiting = [] ∧ pool.queue = []

/-- What holds of the stops of a pool. -/
structure Stopping (pool : Pool α ρ) : Prop where
  /-- Stops are counted as they begin. -/
  begun : numbers .stopBegun pool.log = List.range pool.stops
  /-- Each stop that has begun has come to its end, or has not. -/
  pending : (numbers .stopReturned pool.log ++ pool.stopping.map (·.number)).Perm
    (List.range pool.stops)
  /-- The pool is sealed from the first stop on. -/
  sealed : pool.isSealed = true ↔ pool.stops ≠ 0
  /-- The first stop has taken charge of all workers. -/
  handles : pool.handles = if pool.stops = 0 then pool.size else 0
  /-- The first stop waits for all workers, and others for none. -/
  awaited : ∀ stop ∈ pool.stopping, stop.workers = if stop.number = 0 then pool.size else 0
  /-- When the first stop has come to its end, all workers have ended. -/
  returned : 0 ∈ numbers .stopReturned pool.log → pool.ended = pool.size

/-- While a job waits, there are workers. -/
theorem Staffed.ended_lt_of_waiting (h : pool.Staffed) (hwaiting : pool.waiting ≠ []) :
    pool.ended < pool.size := by
  have hpos := pool.size_pos
  by_contra hdead
  exact hwaiting (h.ended (by omega)).2.1

/-- Once all workers have ended, no job is left. -/
theorem Staffed.empty_of_ended (h : pool.Staffed) (hended : pool.ended = pool.size) :
    pool.running = [] ∧ pool.queue = [] ∧ pool.waiting = [] := by
  have hpos := pool.size_pos
  have hworkers := h.workers
  obtain ⟨-, hwaiting, hqueue⟩ := h.ended (by omega)
  exact ⟨List.eq_nil_of_length_eq_zero (by omega), hqueue, hwaiting⟩

/-- A step keeps a pool staffed. -/
theorem Staffed.step (h : pool.Staffed) (hstep : pool.Step next) : next.Staffed := by
  have hworkers := h.workers
  cases hstep with
  | move hmove =>
    cases hmove with
    | enqueue hwaiting =>
      refine ⟨hworkers, fun hsome => ?_⟩
      simp [(h.ended hsome).2.1] at hwaiting
    | refuse hwaiting hdead =>
      have hlive := h.ended_lt_of_waiting (by simp [hwaiting])
      omega
    | start hqueue hidle =>
      refine ⟨?_, fun hsome => ?_⟩
      · simp only [List.length_append, List.length_singleton]
        omega
      · simp [(h.ended hsome).2.2] at hqueue
    | answer hrunning | discard hrunning =>
      simp only [hrunning, List.length_append, List.length_cons] at hworkers
      refine ⟨?_, h.ended⟩
      simp only [List.length_append]
      omega
    | retire hidle hsealed hwaiting hqueue =>
      refine ⟨?_, fun _ => ⟨hsealed, hwaiting, hqueue⟩⟩
      simp only
      omega
    | endStop => exact ⟨hworkers, h.ended⟩
  | submit task gated hopen =>
    refine ⟨hworkers, fun hsome => ?_⟩
    simp [(h.ended hsome).1] at hopen
  | reject => exact ⟨hworkers, h.ended⟩
  | release => exact ⟨by simpa using hworkers, by simpa using h.ended⟩
  | cancel =>
    refine ⟨by simpa using hworkers, fun hsome => ?_⟩
    obtain ⟨hsealed, hwaiting, hqueue⟩ := h.ended hsome
    simp [hsealed, hwaiting, hqueue]
  | stop => exact ⟨hworkers, fun hsome => ⟨rfl, (h.ended hsome).2⟩⟩

/-- A stop that has come to its end is counted among those that have. -/
theorem Stopping.endStop {before after : List Stop} {stop : Stop} (h : pool.Stopping)
    (hstopping : pool.stopping = before ++ stop :: after) :
    (numbers .stopReturned (pool.log ++ [⟨.stopReturned, stop.number⟩]) ++
      (before ++ after).map (·.number)).Perm (List.range pool.stops) := by
  have hpending := h.pending
  simp only [hstopping, List.map_append, List.map_cons] at hpending
  refine List.Perm.trans ?_ hpending
  simp only [numbers_append, numbers_cons, numbers_nil, if_true, List.map_append,
    List.append_assoc, List.singleton_append]
  exact List.perm_middle.symm.append_left _

/-- A step keeps what holds of the stops. -/
theorem Stopping.step (h : pool.Stopping) (hstaffed : pool.Staffed) (hstep : pool.Step next) :
    next.Stopping := by
  have hworkers := hstaffed.workers
  cases hstep with
  | move hmove =>
    cases hmove with
    | enqueue | refuse | start | answer | discard =>
      exact { h with
        begun := by simpa using h.begun
        pending := by simpa using h.pending
        returned := by simpa using h.returned }
    | retire hidle =>
      refine { h with returned := fun hreturned => ?_ }
      have hended := h.returned hreturned
      omega
    | @endStop before after stop hstopping hended =>
      have hawaited := h.awaited
      simp only [hstopping, List.mem_append, List.mem_cons] at hawaited
      refine { h with begun := ?_, pending := h.endStop hstopping, awaited := ?_, returned := ?_ }
      · simpa using h.begun
      · intro other hmem
        exact hawaited other ((List.mem_append.mp hmem).imp_right .inr)
      · intro hreturned
        have hstop := hawaited stop (.inr (.inl rfl))
        simp only [numbers_append, numbers_cons, numbers_nil, if_true, List.mem_append,
          List.mem_singleton] at hreturned
        rcases hreturned with hbefore | hnumber
        · exact h.returned hbefore
        · rw [if_pos hnumber.symm] at hstop
          simp only
          omega
  | submit | reject | cancel =>
    exact { h with
      begun := by simpa using h.begun
      pending := by simpa using h.pending
      returned := by simpa using h.returned }
  | release => exact { h with }
  | stop =>
    refine { h with begun := ?_, pending := ?_, sealed := ?_, handles := ?_, awaited := ?_,
                    returned := ?_ }
    · simp [h.begun, List.range_succ]
    · simpa [List.range_succ] using h.pending.append_right [pool.stops]
    · simp
    · simp
    · intro stop hmem
      rcases List.mem_append.mp hmem with hbefore | hlast
      · exact h.awaited stop hbefore
      · obtain rfl := List.mem_singleton.mp hlast
        exact h.handles
    · simpa using h.returned

/-- Once all workers of a pool have ended, it stays so, and nothing is started any more. -/
theorem Staffed.idle_of_ended (h : pool.Staffed) (hended : pool.ended = pool.size)
    (hlater : Reachable pool next) :
    next.Staffed ∧ next.ended = next.size ∧ next.started = pool.started := by
  induction hlater with
  | refl => exact ⟨h, hended, rfl⟩
  | @tail middle next _ hstep ih =>
    obtain ⟨hstaffed, hall, hstarted⟩ := ih
    have hworkers := hstaffed.workers
    have hempty := hstaffed.empty_of_ended hall
    refine ⟨hstaffed.step hstep, ?_, Eq.trans ?_ hstarted⟩
    · cases hstep with
      | move hmove =>
        cases hmove with
        | retire hidle => omega
        | _ => exact hall
      | _ => exact hall
    · cases hstep with
      | move hmove =>
        cases hmove with
        | start hqueue => simp [hempty.2.1] at hqueue
        | _ => simp [started]
      | _ => simp [started]

end ForwardProxy.Pool
