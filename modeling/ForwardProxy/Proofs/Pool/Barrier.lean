import ForwardProxy.Proofs.Pool.Quiescence

/-!
# What a stopped pool has come to

Only the first stop waits for the workers. Once it has come to its end, no job is left and every
worker has ended, for good. A pool counts as stopped before that: from the moment the first stop has
begun, also while jobs run. A later stop finds no worker to wait for, so it may come to its end while
jobs run as well.
-/

namespace ForwardProxy.Pool

variable {α ρ : Type} {pool : Pool α ρ}

/-- No job runs or is queued, and every worker has ended. -/
structure Idle (pool : Pool α ρ) : Prop where
  /-- No job runs. -/
  running : pool.running = []
  /-- No job is queued. -/
  queue : pool.queue = []
  /-- Every worker has ended. -/
  ended : pool.ended = pool.size

/-- In a pool that has settled, every stop that has not come to its end waits for some worker. -/
theorem waits_of_settled (hsettled : pool.move? = none) {stop : Stop}
    (hmem : stop ∈ pool.stopping) : pool.ended < stop.workers := by
  obtain ⟨before, after, hstopping⟩ := List.append_of_mem hmem
  by_contra hworkers
  exact move?_eq_none_iff.mp hsettled _ (.endStop hstopping (by omega))

namespace Sound

/-- A pool is idle as soon as every worker has ended. -/
theorem idle_iff (h : pool.Sound) : pool.Idle ↔ pool.ended = pool.size := by
  constructor
  · exact fun hidle => hidle.ended
  · intro hended
    obtain ⟨hrunning, hqueue, -⟩ := h.staffed.empty_of_ended hended
    exact ⟨hrunning, hqueue, hended⟩

/-- A pool counts as stopped from the beginning of the first stop on. -/
theorem isStopped_iff (h : pool.Sound) : pool.isStopped = true ↔ ⟨.stopBegun, 0⟩ ∈ pool.log := by
  rw [← h.stopping.sealed_iff]
  unfold isStopped
  constructor
  · intro hstopped
    exact (Bool.and_eq_true_iff.mp hstopped).1
  · intro hsealed
    have hhandles : pool.handles = 0 := by
      rw [h.stopping.handles, if_neg (h.stopping.sealed.mp hsealed)]
    rw [hsealed, hhandles]
    simp

/-- A stop that has come to its end had begun. -/
theorem begun_of_returned (h : pool.Sound) {number : Nat}
    (hreturned : ⟨.stopReturned, number⟩ ∈ pool.log) : ⟨.stopBegun, number⟩ ∈ pool.log := by
  rw [← mem_numbers] at hreturned ⊢
  rw [h.stopping.begun, ← h.stopping.pending.mem_iff]
  exact List.mem_append_left _ hreturned

/-- A stop that has begun has come to its end, or it waits. -/
theorem returned_or_stopping (h : pool.Sound) {number : Nat}
    (hbegun : ⟨.stopBegun, number⟩ ∈ pool.log) :
    ⟨.stopReturned, number⟩ ∈ pool.log ∨ ∃ stop ∈ pool.stopping, stop.number = number := by
  rw [← mem_numbers, h.stopping.begun, ← h.stopping.pending.mem_iff, List.mem_append, mem_numbers,
    List.mem_map] at hbegun
  exact hbegun

/-- In a pool that has settled every stop that has begun, but for the first, has come to its end. -/
theorem returned_of_settled (h : pool.Sound) (hsettled : pool.move? = none) {number : Nat}
    (hlater : number ≠ 0) (hbegun : ⟨.stopBegun, number⟩ ∈ pool.log) :
    ⟨.stopReturned, number⟩ ∈ pool.log := by
  refine (h.returned_or_stopping hbegun).resolve_right ?_
  rintro ⟨stop, hmem, rfl⟩
  have hwaits := waits_of_settled hsettled hmem
  rw [h.stopping.awaited stop hmem, if_neg hlater] at hwaits
  exact Nat.not_lt_zero _ hwaits

/-- After the first stop has begun, a pool is idle exactly if that stop has come to its end, or waits
for no worker. -/
theorem idle_iff_of_begun (h : pool.Sound) (hbegun : ⟨.stopBegun, 0⟩ ∈ pool.log) :
    pool.Idle ↔ ⟨.stopReturned, 0⟩ ∈ pool.log ∨
      ∃ stop ∈ pool.stopping, stop.number = 0 ∧ stop.workers ≤ pool.ended := by
  have hworkers := h.staffed.workers
  rw [h.idle_iff]
  constructor
  · intro hended
    refine (h.returned_or_stopping hbegun).imp_right ?_
    rintro ⟨stop, hmem, hnumber⟩
    have hawaited := h.stopping.awaited stop hmem
    rw [if_pos hnumber] at hawaited
    exact ⟨stop, hmem, hnumber, by omega⟩
  · rintro (hreturned | ⟨stop, hmem, hnumber, hended⟩)
    · exact h.stopping.returned (mem_numbers.mpr hreturned)
    · have hawaited := h.stopping.awaited stop hmem
      rw [if_pos hnumber] at hawaited
      omega

/-- A pool that counts as stopped, or in which any stop has come to its end, has begun to stop. -/
theorem begun_of_stopped (h : pool.Sound)
    (hstopped : pool.isStopped = true ∨ ∃ number, ⟨.stopReturned, number⟩ ∈ pool.log) :
    ⟨.stopBegun, 0⟩ ∈ pool.log := by
  rcases hstopped with hcounts | ⟨number, hreturned⟩
  · exact h.isStopped_iff.mp hcounts
  · have hnumber := h.begun_of_returned hreturned
    rw [← mem_numbers, h.stopping.begun, List.mem_range] at hnumber ⊢
    omega

end Sound

/-- What it means that a pool counts as stopped, or that a stop has come to its end. -/
structure Barrier (pool : Pool α ρ) : Prop where
  /-- The pool counts as stopped as soon as a stop has begun. -/
  stopped : pool.isStopped = true ↔ ⟨.stopBegun, 0⟩ ∈ pool.log
  /-- If the first stop has come to its end, the pool is idle and stays so. -/
  first : ⟨.stopReturned, 0⟩ ∈ pool.log → ∀ later, Reachable pool later → later.Idle
  /-- When nothing can move, every later stop has come to its end, whatever jobs are left. -/
  others : pool.move? = none → ∀ number, number ≠ 0 →
    (⟨.stopReturned, number⟩ ∈ pool.log ↔ ⟨.stopBegun, number⟩ ∈ pool.log)
  /-- A pool that counts as stopped, or in which any stop has come to its end, is idle exactly if
  the first stop has come to its end, or waits for no worker and may do so at once. -/
  exact : (pool.isStopped = true ∨ ∃ number, ⟨.stopReturned, number⟩ ∈ pool.log) →
    (pool.Idle ↔ ⟨.stopReturned, 0⟩ ∈ pool.log ∨
      ∃ stop ∈ pool.stopping, stop.number = 0 ∧ stop.workers ≤ pool.ended)
  /-- When nothing can move, a pool that counts as stopped, or in which any stop has come to its
  end, is idle exactly if the first stop has come to its end. -/
  settled : pool.move? = none →
    (pool.isStopped = true ∨ ∃ number, ⟨.stopReturned, number⟩ ∈ pool.log) →
      (pool.Idle ↔ ⟨.stopReturned, 0⟩ ∈ pool.log)

/-- Whatever is done to a new pool, and in whatever order it moves, only the end of the first stop
tells that the pool is idle. -/
theorem barrier_of_reachable {size queueCapacity : Nat}
    (h : Reachable (withQueue size queueCapacity) pool) : pool.Barrier := by
  have hsound := (sound_withQueue size queueCapacity).reachable h
  refine ⟨hsound.isStopped_iff, ?_, ?_, ?_, ?_⟩
  · intro hreturned later hlater
    have hended := hsound.stopping.returned (mem_numbers.mpr hreturned)
    obtain ⟨-, hstill, -⟩ := hsound.staffed.idle_of_ended hended hlater
    exact (hsound.reachable hlater).idle_iff.mpr hstill
  · intro hsettled number hlater
    exact ⟨hsound.begun_of_returned, hsound.returned_of_settled hsettled hlater⟩
  · intro hstopped
    exact hsound.idle_iff_of_begun (hsound.begun_of_stopped hstopped)
  · intro hsettled hstopped
    rw [hsound.idle_iff_of_begun (hsound.begun_of_stopped hstopped), or_iff_left]
    rintro ⟨stop, hmem, -, hended⟩
    have hwaits := waits_of_settled hsettled hmem
    omega

/-- A job is held at its gate while two stops begin; then the gate is opened. -/
def twoStops : List (Action Nat Nat) := [.submit ⟨1, some⟩ true, .stop, .stop]

/-- The pool while the job is held. -/
def duringStops : Pool Nat Nat := (withQueue 1 1).run twoStops

/-- The pool after its job has ended and both stops were made. -/
def afterStops : Pool Nat Nat := duringStops.step (.release 0)

/-- Once the job has ended, both stops have come to their end, and the pool is idle. -/
theorem barrier_afterStops :
    Reachable (withQueue 1 1) afterStops ∧ afterStops.Barrier ∧ afterStops.stopsReturned = [1, 0] ∧
      afterStops.Idle := by
  have hreachable : Reachable (withQueue 1 1) afterStops :=
    reachable_run _ (twoStops ++ [.release 0])
  have hreturned : afterStops.stopsReturned = [1, 0] := by cbv
  have hbarrier := barrier_of_reachable hreachable
  refine ⟨hreachable, hbarrier, hreturned, hbarrier.first ?_ _ .refl⟩
  rw [← mem_numbers, ← stopsReturned, hreturned]
  decide

/-- While the job is held, the pool counts as stopped and the second stop has come to its end, but
the job runs and no worker has ended. -/
theorem stopped_while_running :
    Reachable (withQueue 1 1) duringStops ∧ duringStops.isStopped = true ∧
      duringStops.stopsReturned = [1] ∧ duringStops.running.map (·.id) = [0] ∧
      duringStops.ended = 0 ∧ ¬duringStops.Idle := by
  have hrunning : duringStops.running.map (·.id) = [0] := by cbv
  refine ⟨reachable_run _ _, by cbv, by cbv, hrunning, by cbv, fun hidle => ?_⟩
  simp [hidle.running] at hrunning

end ForwardProxy.Pool
