import ForwardProxy.Proofs.Pool.Delivery

/-!
# Backpressure

The jobs that have not ended fill a pool in the order of submission: as many run as there are
workers, of the others as many are queued as there are places, and the rest waits for a place. When
nothing can move, no worker is idle while a job is queued, and no place is free while a job waits.
Nobody is refused before a stop has begun.
-/

namespace ForwardProxy.Pool

variable {α ρ : Type} {pool next : Pool α ρ}

/-- The submitters whose jobs were taken and have not ended, without those that went away before
their job got a place in the queue, in the order of submission. -/
def unfinished (pool : Pool α ρ) : List Nat :=
  pool.taken.filter fun id => ⟨.finished, id⟩ ∉ pool.log

/-- Where jobs have their places. -/
structure Seated (pool : Pool α ρ) : Prop where
  /-- The jobs that run are those that were started and have not ended, in that order. -/
  running : pool.running.map (·.id) = pool.started.filter fun id => ⟨.finished, id⟩ ∉ pool.log
  /-- The queue has no more jobs than places. -/
  queue : pool.queue.length ≤ pool.queueCapacity

namespace Ordered

/-- A job that has ended was started. -/
theorem mem_started_of_finished (h : pool.Ordered) {id : Nat}
    (hfinished : ⟨.finished, id⟩ ∈ pool.log) : id ∈ pool.started := by
  rw [h.started.mem_iff]
  exact List.mem_append_left _ (mem_numbers.mpr hfinished)

/-- A job that is queued or waits has not ended. -/
theorem not_finished (h : pool.Ordered) {job : Job α ρ} (hmem : job ∈ pool.queue ++ pool.waiting) :
    ⟨.finished, job.id⟩ ∉ pool.log := by
  have htaken : pool.taken.Nodup := nodup_takenIn
  rw [h.taken, h.queued, List.append_assoc, ← List.map_append, List.nodup_append] at htaken
  intro hfinished
  exact htaken.2.2 _ (h.mem_started_of_finished hfinished) _ (List.mem_map_of_mem hmem) rfl

end Ordered

/-- The end of a job takes it out of those that run, and no other. -/
theorem Seated.running_finished (h : pool.Seated) (hordered : pool.Ordered)
    {before after : List (Job α ρ)} {job : Job α ρ}
    (hrunning : pool.running = before ++ job :: after) (new : List Event)
    (hnew : ∀ id, ⟨.finished, id⟩ ∈ new ↔ id = job.id) :
    (before ++ after).map (·.id) =
      pool.started.filter fun id => ⟨.finished, id⟩ ∉ pool.log ++ new := by
  have hothers : ∀ id ∈ (before ++ after).map (·.id), decide (id ≠ job.id) = true := by
    intro id hid
    obtain ⟨other, hother, rfl⟩ := List.mem_map.mp hid
    have hne := hordered.id_ne hrunning (List.mem_append_left _ (List.mem_append_left _ hother))
    exact decide_eq_true hne
  have hleft : ((before ++ job :: after).map (·.id)).filter (· ≠ job.id) =
      (before ++ after).map (·.id) := by
    rw [List.map_append, List.map_cons, List.filter_append, List.filter_cons_of_neg (by simp),
      ← List.filter_append, ← List.map_append]
    exact List.filter_eq_self.mpr hothers
  rw [← hleft, ← hrunning, h.running, List.filter_filter]
  refine List.filter_congr fun id _ => ?_
  simp [hnew, and_comm]

/-- A step keeps jobs in their places. -/
theorem Seated.step (h : pool.Seated) (hstaffed : pool.Staffed) (hordered : pool.Ordered)
    (hstep : pool.Step next) : next.Seated := by
  have hqueue := h.queue
  cases hstep with
  | move hmove =>
    cases hmove with
    | enqueue hwaiting hroom =>
      refine ⟨by simpa [started] using h.running, ?_⟩
      simp only [List.length_append, List.length_singleton]
      omega
    | refuse hwaiting hdead =>
      have hlive := hstaffed.ended_lt_of_waiting (by simp [hwaiting])
      omega
    | @start job jobs hstarted hidle =>
      have hqueued : job ∈ pool.queue ++ pool.waiting := by simp [hstarted]
      have hfinished := hordered.not_finished hqueued
      refine ⟨?_, ?_⟩
      · simpa [started, hfinished] using h.running
      · simp only [hstarted, List.length_cons] at hqueue
        exact Nat.le_of_succ_le hqueue
    | @answer before after job hrunning =>
      have hleft := h.running_finished hordered hrunning
        [⟨.finished, job.id⟩, ⟨.answered, job.id⟩] (by simp)
      exact ⟨by simpa [started] using hleft, hqueue⟩
    | @discard before after job hrunning =>
      have hleft := h.running_finished hordered hrunning [⟨.finished, job.id⟩] (by simp)
      exact ⟨by simpa [started] using hleft, hqueue⟩
    | retire => exact ⟨h.running, hqueue⟩
    | endStop => exact ⟨by simpa [started] using h.running, hqueue⟩
  | submit | reject | stop => exact ⟨by simpa [started] using h.running, hqueue⟩
  | release => exact ⟨by simpa [started, Function.comp_def] using h.running, by simpa using hqueue⟩
  | cancel => exact ⟨by simpa [started, Function.comp_def] using h.running, by simpa using hqueue⟩

/-- The jobs of a pool are those that have not ended, in the order of submission. -/
theorem Seated.map_jobs (h : pool.Seated) (hordered : pool.Ordered) :
    pool.jobs.map (·.id) = pool.unfinished := by
  have hleft {jobs : List (Job α ρ)} (hjobs : jobs ⊆ pool.queue ++ pool.waiting) :
      (jobs.map (·.id)).filter (fun id => ⟨.finished, id⟩ ∉ pool.log) = jobs.map (·.id) := by
    refine List.filter_eq_self.mpr fun id hid => ?_
    obtain ⟨job, hmem, rfl⟩ := List.mem_map.mp hid
    exact decide_eq_true (hordered.not_finished (hjobs hmem))
  have hqueue := hleft (List.subset_append_left pool.queue pool.waiting)
  have hwaiting := hleft (List.subset_append_right pool.queue pool.waiting)
  rw [unfinished, hordered.taken, hordered.queued, List.filter_append, List.filter_append, hqueue,
    hwaiting, ← h.running, jobs, List.map_append, List.map_append]

/-- A step changes neither the number of workers nor that of places. -/
theorem size_eq_of_step (hstep : pool.Step next) :
    next.size = pool.size ∧ next.queueCapacity = pool.queueCapacity := by
  cases hstep with
  | move hmove => cases hmove <;> exact ⟨rfl, rfl⟩
  | _ => exact ⟨rfl, rfl⟩

/-- While a job waits, every place in the queue of a pool that has settled is taken. -/
theorem Sound.queue_full_of_settled (h : pool.Sound) (hsettled : pool.move? = none)
    (hwaiting : pool.waiting ≠ []) : pool.queueCapacity ≤ pool.queue.length := by
  have hlive := h.staffed.ended_lt_of_waiting hwaiting
  obtain ⟨job, jobs, hcons⟩ := List.exists_cons_of_ne_nil hwaiting
  by_contra hroom
  exact move?_eq_none_iff.mp hsettled _ (.enqueue hcons (by omega) hlive)

/-- While a job is queued, every worker of a pool that has settled runs one. -/
theorem Sound.busy_of_settled (h : pool.Sound) (hsettled : pool.move? = none)
    (hqueue : pool.queue ≠ []) : pool.running.length = pool.size := by
  have hworkers := h.staffed.workers
  have hnone : pool.ended = 0 := by
    by_contra hsome
    exact hqueue (h.staffed.ended hsome).2.2
  have hbusy : ¬pool.HasIdleWorker := fun hidle => hqueue (queue_of_settled hsettled hidle)
  simp only [HasIdleWorker] at hbusy
  omega

/-- The ways to make a pool, with the workers and the places in its queue that it then has. -/
inductive Made : Pool α ρ → Nat → Nat → Prop where
  /-- A pool with numbers of its own, each at least one. -/
  | withQueue (size queueCapacity : Nat) :
    Made (withQueue size queueCapacity) (max size 1) (max queueCapacity 1)
  /-- A pool with so many workers, and twice as many places. -/
  | new {size : Nat} (hpos : 0 < size) : Made (new size) size (2 * size)
  /-- A pool with ten workers, if none are asked for. -/
  | new_zero : Made (new 0) 10 20

/-- A pool is sound however it was made, and has the workers and places that go with that. -/
theorem Made.sound {start : Pool α ρ} {workers places : Nat} (h : Made start workers places) :
    start.Sound ∧ start.Seated ∧ start.size = workers ∧ start.queueCapacity = places := by
  have hseated (size queueCapacity : Nat) : (Pool.withQueue size queueCapacity : Pool α ρ).Seated :=
    ⟨rfl, Nat.zero_le _⟩
  cases h with
  | withQueue size queueCapacity =>
    exact ⟨sound_withQueue size queueCapacity, hseated size queueCapacity, rfl, rfl⟩
  | new hpos =>
    have hnew : (Pool.new workers : Pool α ρ) = Pool.withQueue workers (2 * workers) := by
      simp [Pool.new, Nat.ne_of_gt hpos]
    have hsize : max workers 1 = workers := by omega
    have hplaces : max (2 * workers) 1 = 2 * workers := by omega
    rw [hnew]
    exact ⟨sound_withQueue _ _, hseated _ _, hsize, hplaces⟩
  | new_zero => exact ⟨sound_withQueue _ _, hseated _ _, rfl, rfl⟩

/-- Any number of steps keep a sound pool seated, with the same workers and places. -/
theorem Seated.reachable (h : pool.Seated) (hsound : pool.Sound) (hlater : Reachable pool next) :
    next.Seated ∧ next.size = pool.size ∧ next.queueCapacity = pool.queueCapacity := by
  induction hlater with
  | refl => exact ⟨h, rfl, rfl⟩
  | tail hbefore hstep ih =>
    have hmiddle := hsound.reachable hbefore
    have hsame := size_eq_of_step hstep
    exact ⟨ih.1.step hmiddle.staffed hmiddle.ordered hstep, hsame.1.trans ih.2.1,
      hsame.2.trans ih.2.2⟩

/-- How the jobs of a pool with some workers and places press back on submitters. -/
structure Packed (pool : Pool α ρ) (workers places : Nat) : Prop where
  /-- The jobs that run, then those that are queued, then those that wait are all that have not
  ended, in the order of submission. -/
  inOrder : (pool.running ++ pool.queue ++ pool.waiting).map (·.id) = pool.unfinished
  /-- When nothing can move, as many of the jobs that have not ended run as there are workers. -/
  running : pool.move? = none → pool.running.length = min workers pool.unfinished.length
  /-- When nothing can move, as many of the jobs that do not run are queued as there are places. -/
  queued : pool.move? = none →
    pool.queue.length = min places (pool.unfinished.length - pool.running.length)
  /-- When nothing can move, the jobs that neither run nor are queued wait. -/
  waiting : pool.move? = none →
    pool.waiting.length = pool.unfinished.length - pool.running.length - pool.queue.length
  /-- At no time do more jobs run or are queued than there are workers and places. -/
  bounded : pool.running.length ≤ workers ∧ pool.queue.length ≤ places
  /-- No worker is idle while a job is queued. -/
  busy : pool.move? = none → pool.queue ≠ [] → pool.running.length = workers
  /-- No place is free while a job waits for one. -/
  full : pool.move? = none → pool.waiting ≠ [] → pool.queue.length = places
  /-- Before a stop begins, every task is taken, and no submitter hears that the pool is stopped. -/
  welcome : (∀ number, ⟨.stopBegun, number⟩ ∉ pool.log) →
    (∀ id < pool.tasks.length, ⟨.admitted, id⟩ ∈ pool.log) ∧
      ∀ id, (id, .error .stopped) ∉ pool.results

/-- Before a stop begins, nobody is refused. -/
theorem Sound.welcome (h : pool.Sound) (hopen : ∀ number, ⟨.stopBegun, number⟩ ∉ pool.log) :
    (∀ id < pool.tasks.length, ⟨.admitted, id⟩ ∈ pool.log) ∧
      ∀ id, (id, .error .stopped) ∉ pool.results := by
  constructor
  · intro id hid
    have hsubmitted : ⟨.submitted, id⟩ ∈ pool.log := by
      rw [← mem_numbers, h.accounted.submitted]
      exact List.mem_range.mpr hid
    rw [h.accounted.admitted]
    exact ⟨hsubmitted, fun hbefore => hopen 0 hbefore.mem⟩
  · intro id hresult
    rcases h.cases_of_result hresult with ⟨-, task, -, hstopped⟩ | ⟨hlate, -⟩
    · exact Task.result_ne_stopped hstopped.symm
    · exact hopen 0 hlate.2.mem

/-- Whatever is done to a pool however it was made, and in whatever order it moves, its jobs press
back on submitters: they fill the workers, then the places in the queue, and the rest waits. -/
theorem packed_of_reachable {start : Pool α ρ} {workers places : Nat}
    (hmade : Made start workers places) (h : Reachable start pool) :
    pool.Packed workers places := by
  obtain ⟨hstart, hseatedStart, rfl, rfl⟩ := hmade.sound
  obtain ⟨hseated, hsize, hplaces⟩ := hseatedStart.reachable hstart h
  have hsound := hstart.reachable h
  have hworkers := hsound.staffed.workers
  have hqueue := hseated.queue
  have hmap := hseated.map_jobs hsound.ordered
  have hlength : pool.running.length + pool.queue.length + pool.waiting.length =
      pool.unfinished.length := by
    rw [← hmap, jobs, List.length_map, List.length_append, List.length_append]
  rw [← hsize, ← hplaces]
  -- What is not empty tells that what comes before it is full.
  have hbusy (hsettled : pool.move? = none) :
      pool.queue.length = 0 ∨ pool.running.length = pool.size := by
    by_cases hempty : pool.queue = []
    · exact .inl (List.length_eq_zero_iff.mpr hempty)
    · exact .inr (hsound.busy_of_settled hsettled hempty)
  have hfull (hsettled : pool.move? = none) :
      pool.waiting.length = 0 ∨ pool.queue.length = pool.queueCapacity := by
    by_cases hempty : pool.waiting = []
    · exact .inl (List.length_eq_zero_iff.mpr hempty)
    · exact .inr (Nat.le_antisymm hqueue (hsound.queue_full_of_settled hsettled hempty))
  have hpos := pool.queueCapacity_pos
  refine ⟨hmap, fun hsettled => ?_, fun hsettled => ?_, fun hsettled => ?_, ⟨?_, hqueue⟩,
    fun hsettled => hsound.busy_of_settled hsettled, fun hsettled hwaiting => ?_, hsound.welcome⟩
  · have hrow := hbusy hsettled
    have hrest := hfull hsettled
    omega
  · have hrow := hbusy hsettled
    have hrest := hfull hsettled
    omega
  · omega
  · omega
  · exact Nat.le_antisymm hqueue (hsound.queue_full_of_settled hsettled hwaiting)

/-- A crowd of submitters whose jobs are all held at gates. One goes away while its job waits for a
place, then the gate of another is opened. -/
def crowd : List (Action Nat Nat) :=
  (List.range 6).map (fun n => .submit ⟨n, some⟩ true) ++
    [.cancel 4, .release 1, .submit ⟨6, some⟩ true]

/-- A pool with two workers and two places after a crowd came to it. -/
def afterCrowd : Pool Nat Nat := (withQueue 2 2).run crowd

/-- After a crowd came five jobs are left: two run, two are queued, and one waits. -/
theorem packed_afterCrowd :
    Made (withQueue 2 2 : Pool Nat Nat) 2 2 ∧ Reachable (withQueue 2 2) afterCrowd ∧
      afterCrowd.Packed 2 2 ∧ afterCrowd.move? = none ∧ afterCrowd.unfinished = [0, 2, 3, 5, 6] ∧
      afterCrowd.running.map (·.id) = [0, 2] ∧ afterCrowd.queue.map (·.id) = [3, 5] ∧
      afterCrowd.waiting.map (·.id) = [6] := by
  have hmade : Made (withQueue 2 2 : Pool Nat Nat) 2 2 := .withQueue 2 2
  have hreachable : Reachable (withQueue 2 2) afterCrowd := reachable_run _ _
  refine ⟨hmade, hreachable, packed_of_reachable hmade hreachable, move?_run 2 2 crowd, ?_, ?_, ?_,
    ?_⟩
  all_goals cbv

end ForwardProxy.Pool
