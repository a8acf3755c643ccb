import ForwardProxy.Proofs.Pool.Accounts

/-!
# Pools that have settled

When nothing can move, every running job stands at a gate, a worker is idle only if the queue is
empty, and a job waits only if the queue is full. So if nothing runs, nothing is left at all.
-/

namespace ForwardProxy.Pool

variable {α ρ : Type} {pool : Pool α ρ}

/-- A pool that has carried out a row of actions has settled. -/
theorem move?_run (size queueCapacity : Nat) (actions : List (Action α ρ)) :
    ((withQueue size queueCapacity).run actions).move? = none := by
  rcases List.eq_nil_or_concat actions with rfl | ⟨before, last, rfl⟩
  · simp [run, withQueue, move?, enqueue?, refuse?, start?, finish?, retire?, endStop?]
  · simp [run, step, move?_settle]

/-- Every running job stands at a gate. -/
theorem gated_of_settled (hsettled : pool.move? = none) {job : Job α ρ}
    (hmem : job ∈ pool.running) : job.gated = true := by
  obtain ⟨before, after, hrunning⟩ := List.append_of_mem hmem
  by_contra hopen
  rw [Bool.not_eq_true] at hopen
  cases hwanted : job.wanted with
  | true => exact move?_eq_none_iff.mp hsettled _ (.answer hrunning hopen hwanted)
  | false => exact move?_eq_none_iff.mp hsettled _ (.discard hrunning hopen hwanted)

/-- While a worker is idle, the queue is empty. -/
theorem queue_of_settled (hsettled : pool.move? = none) (hidle : pool.HasIdleWorker) :
    pool.queue = [] := by
  cases hqueue : pool.queue with
  | nil => rfl
  | cons job jobs => exact absurd (.start hqueue hidle) (move?_eq_none_iff.mp hsettled _)

namespace Sound

/-- While the queue is empty, no job waits for a place there. -/
theorem waiting_of_settled (h : pool.Sound) (hsettled : pool.move? = none)
    (hqueue : pool.queue = []) : pool.waiting = [] := by
  cases hwaiting : pool.waiting with
  | nil => rfl
  | cons job jobs =>
    have hroom : pool.queue.length < pool.queueCapacity := by
      simp [hqueue, pool.queueCapacity_pos]
    have hlive := h.staffed.ended_lt_of_waiting (by simp [hwaiting])
    exact absurd (.enqueue hwaiting hroom hlive) (move?_eq_none_iff.mp hsettled _)

/-- If nothing runs, nothing is left. -/
theorem jobs_of_settled (h : pool.Sound) (hsettled : pool.move? = none)
    (hrunning : pool.running = []) : pool.jobs = [] := by
  have hqueue : pool.queue = [] := by
    by_cases hidle : pool.HasIdleWorker
    · exact queue_of_settled hsettled hidle
    · have hworkers := h.staffed.workers
      simp only [HasIdleWorker, hrunning, List.length_nil] at hidle hworkers
      exact (h.staffed.empty_of_ended (by omega)).2.1
  rw [jobs, hrunning, hqueue, h.waiting_of_settled hsettled hqueue]
  rfl

/-- If nothing is left and a stop has begun, all workers have ended. -/
theorem ended_of_settled (h : pool.Sound) (hsettled : pool.move? = none)
    (hsealed : pool.isSealed = true) (hjobs : pool.jobs = []) : pool.ended = pool.size := by
  simp only [jobs, List.append_eq_nil_iff] at hjobs
  have hworkers := h.staffed.workers
  by_contra hlive
  have hidle : pool.HasIdleWorker := by
    simp only [hjobs.1.1, HasIdleWorker, List.length_nil] at hworkers ⊢
    omega
  exact move?_eq_none_iff.mp hsettled _ (.retire hidle hsealed hjobs.2 hjobs.1.2)

/-- Once all workers have ended, so has every stop. -/
theorem stopping_of_settled (h : pool.Sound) (hsettled : pool.move? = none)
    (hended : pool.ended = pool.size) : pool.stopping = [] := by
  cases hstopping : pool.stopping with
  | nil => rfl
  | cons stop stops =>
    have hawaited := h.stopping.awaited stop (by simp [hstopping])
    have hworkers : stop.workers ≤ pool.ended := by
      rw [hawaited, hended]
      split <;> omega
    exact absurd (.endStop (hstopping.trans (List.nil_append _).symm) hworkers)
      (move?_eq_none_iff.mp hsettled _)

/-- A job that was taken has ended, runs, is queued, or waits. -/
theorem finished_or_mem_jobs (h : pool.Sound) {id : Nat} (htaken : id ∈ pool.taken) :
    ⟨.finished, id⟩ ∈ pool.log ∨ ∃ job ∈ pool.jobs, job.id = id := by
  rw [h.ordered.taken, h.ordered.queued, List.mem_append, List.mem_append,
    h.ordered.started.mem_iff, List.mem_append, mem_numbers] at htaken
  simp only [jobs, List.mem_append]
  rcases htaken with ((hfinished | hrunning) | hqueue) | hwaiting
  · exact .inl hfinished
  · obtain ⟨job, hmem, hid⟩ := List.mem_map.mp hrunning
    exact .inr ⟨job, .inl (.inl hmem), hid⟩
  · obtain ⟨job, hmem, hid⟩ := List.mem_map.mp hqueue
    exact .inr ⟨job, .inl (.inr hmem), hid⟩
  · obtain ⟨job, hmem, hid⟩ := List.mem_map.mp hwaiting
    exact .inr ⟨job, .inr hmem, hid⟩

/-- If no running job stands at a gate, every job that was taken has ended. -/
theorem finished_of_settled (h : pool.Sound) (hsettled : pool.move? = none)
    (hopen : ∀ job ∈ pool.running, job.gated = false) {id : Nat} (htaken : id ∈ pool.taken) :
    ⟨.finished, id⟩ ∈ pool.log := by
  have hrunning : pool.running = [] := by
    rw [List.eq_nil_iff_forall_not_mem]
    intro job hmem
    have hgated := gated_of_settled hsettled hmem
    simp [hopen job hmem] at hgated
  refine (h.finished_or_mem_jobs htaken).resolve_right ?_
  simp [h.jobs_of_settled hsettled hrunning]

end Sound

/-! A pool with one worker and one place in its queue. -/

/-- Six submitters. The job of the first is held at a gate, and the next two jobs break down. One
submitter goes away while its job is queued, one while its job waits for a place, and one asks after
the stop. -/
def busyDay : List (Action Nat Nat) :=
  [.submit ⟨1, fun n => some (2 * n)⟩ true, .submit ⟨2, fun _ => none⟩, .submit ⟨3, fun _ => none⟩,
    .cancel 1, .submit ⟨4, fun n => some (2 * n)⟩, .cancel 3, .submit ⟨5, fun n => some (2 * n)⟩,
    .stop, .submit ⟨6, fun n => some (2 * n)⟩, .release 0]

/-- A pool with one worker after a busy day. -/
def afterBusyDay : Pool Nat Nat := (withQueue 1 1).run busyDay

/-- The pool after a busy day is reached from a new one. -/
theorem reachable_afterBusyDay : Reachable (withQueue 1 1) afterBusyDay := reachable_run _ _

end ForwardProxy.Pool
