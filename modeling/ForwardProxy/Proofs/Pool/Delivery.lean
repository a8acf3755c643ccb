import ForwardProxy.Proofs.Pool.Quiescence

/-!
# Who gets what

Every submitter gets at most one result, and it is its own: the value that its own handler makes of
its own request, or word that the handler broke down, if the submitter still waits when its job
ends; or word that the pool is stopped, if it asked after a stop had begun, and only then. Jobs start
at most once and in the order of submission, and a job in the queue runs whether or not its submitter
still waits.
-/

namespace ForwardProxy.Pool

variable {α ρ : Type} {pool : Pool α ρ} {task : Task α ρ} {value : ρ}

theorem Task.result_eq_ok_iff : task.result = .ok value ↔ task.handler task.request = some value := by
  unfold result
  cases task.handler task.request <;> simp

theorem Task.result_eq_dropped_iff :
    task.result = .error .dropped ↔ task.handler task.request = none := by
  unfold result
  cases task.handler task.request <;> simp

theorem Task.result_ne_stopped : task.result ≠ .error .stopped := by
  unfold result
  cases task.handler task.request <;> simp

/-- The job of a submitter has ended, and the submitter did not go away before it was answered. -/
def Served (pool : Pool α ρ) (id : Nat) : Prop :=
  ⟨.finished, id⟩ ∈ pool.log ∧ ¬Precedes pool.log ⟨.cancelled, id⟩ ⟨.answered, id⟩

/-- A submitter asked after a stop had begun. -/
def Late (pool : Pool α ρ) (id : Nat) : Prop :=
  ⟨.submitted, id⟩ ∈ pool.log ∧ Precedes pool.log ⟨.stopBegun, 0⟩ ⟨.submitted, id⟩

/-- What submitters can rely on. -/
structure Delivers (pool : Pool α ρ) : Prop where
  /-- Every job starts at most once. -/
  once : pool.started.Nodup
  /-- Jobs start in the order of submission, and none before another that was taken earlier. -/
  inOrder : pool.started <+: pool.taken
  /-- Every submitter gets at most one result. -/
  single : (pool.results.map Prod.fst).Nodup
  /-- A submitter gets a value exactly if it is served and its own handler made that value of its own
  request. -/
  ok : ∀ id value, (id, .ok value) ∈ pool.results ↔
    pool.Served id ∧ ∃ task, pool.tasks[id]? = some task ∧ task.handler task.request = some value
  /-- A submitter hears that its job was dropped exactly if it is served and its own handler broke
  down. -/
  dropped : ∀ id, (id, .error .dropped) ∈ pool.results ↔
    pool.Served id ∧ ∃ task, pool.tasks[id]? = some task ∧ task.handler task.request = none
  /-- A submitter hears that the pool is stopped exactly if it asked too late. -/
  stopped : ∀ id, (id, .error .stopped) ∈ pool.results ↔ pool.Late id
  /-- A submitter whose task was taken does not hear that the pool is stopped, even if its job still
  waited when the stop began. -/
  admitted : ∀ id, ⟨.admitted, id⟩ ∈ pool.log → (id, .error .stopped) ∉ pool.results
  /-- A submitter that goes away before it is answered gets nothing. -/
  cancelled : ∀ id, Precedes pool.log ⟨.cancelled, id⟩ ⟨.answered, id⟩ →
    ∀ result, (id, result) ∉ pool.results
  /-- A job leaves the queue only to be started. -/
  kept : ∀ id, ⟨.queued, id⟩ ∈ pool.log →
    ⟨.started, id⟩ ∈ pool.log ∨ ∃ job ∈ pool.queue, job.id = id
  /-- When the pool has settled and no gate holds a job, every job that was queued has run. -/
  runs : pool.move? = none → (∀ job ∈ pool.running, job.gated = false) →
    ∀ id, ⟨.queued, id⟩ ∈ pool.log → ⟨.finished, id⟩ ∈ pool.log

namespace Sound

/-- A job that has ended was taken. -/
theorem taken_of_finished (h : pool.Sound) {id : Nat} (hfinished : ⟨.finished, id⟩ ∈ pool.log) :
    id ∈ pool.taken := by
  have hstarted : id ∈ pool.started := by
    rw [h.ordered.started.mem_iff]
    exact List.mem_append_left _ (mem_numbers.mpr hfinished)
  rw [h.ordered.taken, h.ordered.queued]
  exact List.mem_append_left _ (List.mem_append_left _ hstarted)

/-- Who was answered has a result. -/
theorem exists_result (h : pool.Sound) {id : Nat} (hanswered : ⟨.answered, id⟩ ∈ pool.log) :
    ∃ result, (id, result) ∈ pool.results := by
  rw [← mem_numbers, h.accounted.answered] at hanswered
  obtain ⟨⟨_, result⟩, hmem, rfl⟩ := List.mem_map.mp hanswered
  exact ⟨result, hmem⟩

/-- A result is that of the task of a submitter that is served, or it was given to one that asked too
late. -/
theorem cases_of_result (h : pool.Sound) {id : Nat} {result : Except Refusal ρ}
    (hresult : (id, result) ∈ pool.results) :
    (pool.Served id ∧ ∃ task, pool.tasks[id]? = some task ∧ result = task.result) ∨
      (pool.Late id ∧ result = .error .stopped) := by
  obtain ⟨hanswered, hlt⟩ := h.accounted.id_lt h.ordered hresult
  rcases h.accounted.results id result hresult with ⟨hfinished, -, htask⟩ | ⟨hadmitted, hstopped⟩
  · exact .inl ⟨⟨hfinished, h.accounted.present id hanswered⟩, htask⟩
  · have hsubmitted : ⟨.submitted, id⟩ ∈ pool.log := by
      rw [← mem_numbers, h.accounted.submitted]
      exact List.mem_range.mpr hlt
    rw [h.accounted.admitted, not_and, not_not] at hadmitted
    exact .inr ⟨⟨hsubmitted, hadmitted hsubmitted⟩, hstopped⟩

/-- Who is served gets the result of its task. -/
theorem result_of_served (h : pool.Sound) {id : Nat} (hserved : pool.Served id)
    (htask : pool.tasks[id]? = some task) : (id, task.result) ∈ pool.results := by
  obtain ⟨hfinished, hpresent⟩ := hserved
  have hanswered : ⟨.answered, id⟩ ∈ pool.log := by
    by_contra hnone
    have hleft := (h.accounted.finished id hfinished).resolve_left hnone
    exact hpresent (precedes_of_not_mem hleft hnone)
  obtain ⟨result, hresult⟩ := h.exists_result hanswered
  rcases h.accounted.results id result hresult with ⟨-, -, other, hother, rfl⟩ | ⟨hadmitted, -⟩
  · rwa [← Option.some.inj (hother.symm.trans htask)]
  · exact absurd (mem_taken_iff.mp (h.taken_of_finished hfinished)).2.1 hadmitted

/-- A submitter gets any other result than that the pool is stopped exactly if it is served and its
task has that result. -/
theorem mem_results_iff (h : pool.Sound) {id : Nat} {result : Except Refusal ρ}
    (hother : result ≠ .error .stopped) : (id, result) ∈ pool.results ↔
      pool.Served id ∧ ∃ task, pool.tasks[id]? = some task ∧ task.result = result := by
  constructor
  · intro hresult
    rcases h.cases_of_result hresult with ⟨hserved, task, htask, rfl⟩ | ⟨-, hstopped⟩
    · exact ⟨hserved, task, htask, rfl⟩
    · exact absurd hstopped hother
  · rintro ⟨hserved, task, htask, rfl⟩
    exact h.result_of_served hserved htask

/-- The task of who asks too late is not taken. -/
theorem not_admitted_of_late (h : pool.Sound) {id : Nat} (hlate : pool.Late id) :
    ⟨.admitted, id⟩ ∉ pool.log := by
  rw [h.accounted.admitted, not_and, not_not]
  exact fun _ => hlate.2

/-- Who asks too late is refused. -/
theorem result_of_late (h : pool.Sound) {id : Nat} (hlate : pool.Late id) :
    (id, .error .stopped) ∈ pool.results := by
  have hadmitted := h.not_admitted_of_late hlate
  obtain ⟨result, hresult⟩ := h.exists_result (h.accounted.rejected id hlate.1 hadmitted)
  rcases h.accounted.results id result hresult with ⟨-, htaken, -⟩ | ⟨-, rfl⟩
  · exact absurd htaken hadmitted
  · exact hresult

/-- A job that got a place in the queue was taken. -/
theorem taken_of_queued (h : pool.Sound) {id : Nat} (hqueued : ⟨.queued, id⟩ ∈ pool.log) :
    id ∈ pool.taken := by
  rw [h.ordered.taken]
  exact List.mem_append_left _ (mem_numbers.mpr hqueued)

end Sound

/-- Whatever is done to a new pool, and in whatever order it moves, its submitters get what they can
rely on. -/
theorem delivers_of_reachable {size queueCapacity : Nat}
    (h : Reachable (withQueue size queueCapacity) pool) : pool.Delivers := by
  have hsound := (sound_withQueue size queueCapacity).reachable h
  have hprefix : pool.started <+: pool.taken := by
    rw [hsound.ordered.taken, hsound.ordered.queued, List.append_assoc]
    exact List.prefix_append _ _
  have hstopped {id : Nat} (hresult : (id, .error .stopped) ∈ pool.results) : pool.Late id := by
    rcases hsound.cases_of_result hresult with ⟨-, task, -, hstopped⟩ | ⟨hlate, -⟩
    · exact absurd hstopped.symm Task.result_ne_stopped
    · exact hlate
  refine ⟨nodup_takenIn.sublist hprefix.sublist, hprefix, ?_, ?_, ?_,
    fun id => ⟨hstopped, hsound.result_of_late⟩, ?_, ?_, ?_, ?_⟩
  · rw [← hsound.accounted.answered]
    exact hsound.accounted.single
  · intro id value
    simp only [← Task.result_eq_ok_iff]
    exact hsound.mem_results_iff (by simp)
  · intro id
    simp only [← Task.result_eq_dropped_iff]
    exact hsound.mem_results_iff (by simp)
  · intro id hadmitted hresult
    exact hsound.not_admitted_of_late (hstopped hresult) hadmitted
  · intro id hleft result hresult
    exact hsound.accounted.present id (hsound.accounted.id_lt hsound.ordered hresult).1 hleft
  · intro id hqueued
    rw [← mem_numbers, hsound.ordered.queued, List.mem_append, List.mem_map] at hqueued
    exact hqueued.imp_left mem_numbers.mp
  · intro hsettled hopen id hqueued
    exact hsound.finished_of_settled hsettled hopen (hsound.taken_of_queued hqueued)

/-- After a busy day, four jobs were started. Two submitters got a value, one heard that its job was
dropped, one that the pool is stopped, and the two that went away got nothing. -/
theorem delivers_afterBusyDay :
    Reachable (withQueue 1 1) afterBusyDay ∧ afterBusyDay.Delivers ∧
      afterBusyDay.started = [0, 1, 2, 4] ∧
      afterBusyDay.results =
        [(5, .error .stopped), (0, .ok 2), (2, .error .dropped), (4, .ok 10)] :=
  ⟨reachable_afterBusyDay, delivers_of_reachable reachable_afterBusyDay, by cbv, by cbv⟩

end ForwardProxy.Pool
