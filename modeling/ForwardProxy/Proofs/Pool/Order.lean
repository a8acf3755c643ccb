import ForwardProxy.Proofs.Pool.Workers
import Mathlib.Data.List.Nodup
import Mathlib.Data.List.Range

/-!
# First come, first served

A task that the pool has taken goes on to the queue and to a worker in the order of submission, and
none is lost on the way. Only a submitter that goes away before its job gets a place takes the job
with it.
-/

namespace ForwardProxy.Pool

variable {α ρ : Type} {pool next : Pool α ρ}

@[simp]
theorem Job.id_release (id : Nat) (job : Job α ρ) : (job.release id).id = job.id := by
  unfold release
  split <;> rfl

@[simp]
theorem Job.toTask_release (id : Nat) (job : Job α ρ) : (job.release id).toTask = job.toTask := by
  unfold release
  split <;> rfl

@[simp]
theorem Job.id_disown (id : Nat) (job : Job α ρ) : (job.disown id).id = job.id := by
  unfold disown
  split <;> rfl

@[simp]
theorem Job.toTask_disown (id : Nat) (job : Job α ρ) : (job.disown id).toTask = job.toTask := by
  unfold disown
  split <;> rfl

/-- Of the first submitters, those whose tasks were taken and who did not go away before their job
got a place in the queue, in the order of submission. -/
def takenIn (log : List Event) (submitters : Nat) : List Nat :=
  (List.range submitters).filter fun id =>
    ⟨.admitted, id⟩ ∈ log ∧ ¬Precedes log ⟨.cancelled, id⟩ ⟨.queued, id⟩

/-- The submitters of a pool whose tasks were taken and who did not go away before their job got a
place in the queue, in the order of submission. -/
def taken (pool : Pool α ρ) : List Nat := takenIn pool.log pool.tasks.length

/-- The jobs that have not ended. -/
def jobs (pool : Pool α ρ) : List (Job α ρ) := pool.running ++ pool.queue ++ pool.waiting

/-- The kinds of what happens to submitters and their jobs. -/
abbrev EventKind.OfSubmitter (kind : EventKind) : Prop :=
  kind ≠ .stopBegun ∧ kind ≠ .stopReturned

/-- The order in which the jobs of a pool are served. -/
structure Ordered (pool : Pool α ρ) : Prop where
  /-- Nothing happens to a submitter before it asks. -/
  known : ∀ event ∈ pool.log, event.kind.OfSubmitter → event.number < pool.tasks.length
  /-- A job runs the task of its submitter. -/
  own : ∀ job ∈ pool.jobs, pool.tasks[job.id]? = some job.toTask
  /-- Jobs leave the queue in the order in which they came. -/
  queued : numbers .queued pool.log = pool.started ++ pool.queue.map (·.id)
  /-- A job that was started has ended, or runs. -/
  started : pool.started.Perm (numbers .finished pool.log ++ pool.running.map (·.id))
  /-- Jobs get their places in the order of submission. -/
  taken : pool.taken = numbers .queued pool.log ++ pool.waiting.map (·.id)

theorem mem_taken_iff {id : Nat} : id ∈ pool.taken ↔ id < pool.tasks.length ∧
    ⟨.admitted, id⟩ ∈ pool.log ∧ ¬Precedes pool.log ⟨.cancelled, id⟩ ⟨.queued, id⟩ := by
  simp [taken, takenIn]

/-- A move makes no jobs. -/
theorem mem_jobs_of_move (hmove : pool.Move next) {job : Job α ρ} (hmem : job ∈ next.jobs) :
    job ∈ pool.jobs := by
  simp only [jobs, List.mem_append] at hmem ⊢
  cases hmove with
  | enqueue hwaiting | refuse hwaiting => grind
  | start hqueue => grind
  | answer hrunning | discard hrunning => grind
  | retire | endStop => exact hmem

section

variable {log new : List Event} {submitters : Nat}

theorem nodup_takenIn : (takenIn log submitters).Nodup := List.nodup_range.filter _

/-- What was taken is not changed by what is new, if that takes nothing and nobody goes away. -/
theorem takenIn_append (hadmitted : ∀ id < submitters, ⟨.admitted, id⟩ ∉ new)
    (hcancelled : ∀ id, ⟨.cancelled, id⟩ ∉ new) :
    takenIn (log ++ new) submitters = takenIn log submitters := by
  refine List.filter_congr fun id hid => ?_
  rw [decide_eq_decide, precedes_append_of_not_mem (hcancelled id), List.mem_append,
    or_iff_left (hadmitted id (List.mem_range.mp hid))]

/-- Of one more submitter the task was taken, or was not. -/
theorem takenIn_succ : takenIn log (submitters + 1) = takenIn log submitters ++
    if ⟨.admitted, submitters⟩ ∈ log ∧ ¬Precedes log ⟨.cancelled, submitters⟩ ⟨.queued, submitters⟩
    then [submitters] else [] := by
  unfold takenIn
  rw [List.range_succ, List.filter_append]
  congr 1
  split
  · next htaken => simp [htaken]
  · next htaken => simpa using htaken

/-- Going away takes a submitter out of what was taken, unless its job was queued before. -/
theorem takenIn_cancelled {id : Nat} : takenIn (log ++ [⟨.cancelled, id⟩]) submitters =
    (takenIn log submitters).filter fun other => other ≠ id ∨ ⟨.queued, id⟩ ∈ log := by
  unfold takenIn
  rw [List.filter_filter]
  refine List.filter_congr fun other _ => ?_
  have hbefore : Precedes (log ++ [⟨.cancelled, id⟩]) ⟨.cancelled, other⟩ ⟨.queued, other⟩ ↔
      Precedes log ⟨.cancelled, other⟩ ⟨.queued, other⟩ ∨
        (⟨.queued, other⟩ ∉ log ∧ other = id) := by
    simp [precedes_append]
  have hadmitted : (⟨.admitted, other⟩ : Event) ∈ log ++ [⟨.cancelled, id⟩] ↔
      ⟨.admitted, other⟩ ∈ log := by
    simp
  rw [← Bool.decide_and, decide_eq_decide, hbefore, hadmitted]
  by_cases hother : other = id
  · subst hother
    tauto
  · tauto

end

/-- A move takes nothing and lets nobody go. -/
theorem taken_of_move (hmove : pool.Move next) : next.taken = pool.taken := by
  cases hmove with
  | enqueue | refuse | start | answer | discard | endStop =>
    exact takenIn_append (by simp) (by simp)
  | retire => rfl

namespace Ordered

/-- The jobs of a pool have different submitters. -/
theorem nodup_jobs (h : pool.Ordered) : (pool.jobs.map (·.id)).Nodup := by
  have htaken : pool.taken.Nodup := nodup_takenIn
  rw [h.taken, h.queued] at htaken
  have hall := ((h.started.append_right _).append_right _).nodup_iff.mp htaken
  rw [jobs, List.map_append, List.map_append]
  simp only [List.append_assoc] at hall ⊢
  exact (List.nodup_append.mp hall).2.1

/-- Other jobs than one that runs have other submitters. -/
theorem id_ne (h : pool.Ordered) {before after : List (Job α ρ)} {job other : Job α ρ}
    (hrunning : pool.running = before ++ job :: after)
    (hmem : other ∈ before ++ after ++ pool.queue ++ pool.waiting) : other.id ≠ job.id := by
  have hnodup := h.nodup_jobs
  simp only [jobs, hrunning, List.append_assoc, List.cons_append] at hnodup hmem
  rw [List.map_append, List.map_cons, List.nodup_middle, List.nodup_cons, ← List.map_append]
    at hnodup
  intro hsame
  exact hnodup.1 (hsame ▸ List.mem_map_of_mem hmem)

/-- The task of a job was taken. -/
theorem mem_taken (h : pool.Ordered) {job : Job α ρ} (hmem : job ∈ pool.jobs) :
    job.id ∈ pool.taken := by
  rw [h.taken, h.queued]
  simp only [jobs, List.append_assoc, List.mem_append] at hmem ⊢
  rcases hmem with hrunning | hqueue | hwaiting
  · refine .inl (h.started.mem_iff.mpr ?_)
    exact List.mem_append_right _ (List.mem_map_of_mem hrunning)
  · exact .inr (.inl (List.mem_map_of_mem hqueue))
  · exact .inr (.inr (List.mem_map_of_mem hwaiting))

/-- A job that waits was never queued. -/
theorem not_queued_of_waiting (h : pool.Ordered) {job : Job α ρ} (hmem : job ∈ pool.waiting) :
    ⟨.queued, job.id⟩ ∉ pool.log := by
  have htaken : pool.taken.Nodup := nodup_takenIn
  rw [h.taken, List.nodup_append] at htaken
  intro hqueued
  exact htaken.2.2 _ (mem_numbers.mpr hqueued) _ (List.mem_map_of_mem hmem) rfl

/-- A job has a submitter. -/
theorem id_lt (h : pool.Ordered) {job : Job α ρ} (hmem : job ∈ pool.jobs) :
    job.id < pool.tasks.length :=
  (List.getElem?_eq_some_iff.mp (h.own job hmem)).1

/-- What is new tells of submitters that have asked. -/
theorem known_of_log (h : pool.Ordered) {new : List Event}
    (hlength : pool.tasks.length ≤ next.tasks.length) (hlog : next.log = pool.log ++ new)
    (hnew : ∀ event ∈ new, event.kind.OfSubmitter → event.number < next.tasks.length) :
    ∀ event ∈ next.log, event.kind.OfSubmitter → event.number < next.tasks.length := by
  intro event hevent hkind
  rw [hlog] at hevent
  rcases List.mem_append.mp hevent with hbefore | hlast
  · exact Nat.lt_of_lt_of_le (h.known event hbefore hkind) hlength
  · exact hnew event hlast hkind

/-- A move tells of jobs that the pool has. -/
theorem known_of_move (h : pool.Ordered) (hmove : pool.Move next) :
    ∀ event ∈ next.log, event.kind.OfSubmitter → event.number < next.tasks.length := by
  have hlt (job : Job α ρ) (hmem : job ∈ pool.jobs) {new : List Event}
      (hnew : ∀ event ∈ new, event.number = job.id) :
      ∀ event ∈ new, event.kind.OfSubmitter → event.number < pool.tasks.length :=
    fun event hevent _ => hnew event hevent ▸ h.id_lt hmem
  cases hmove with
  | @enqueue job _ hwaiting =>
    exact h.known_of_log (Nat.le_refl _) rfl (hlt job (by simp [jobs, hwaiting]) (by simp))
  | @refuse job _ hwaiting =>
    exact h.known_of_log (Nat.le_refl _) rfl (hlt job (by simp [jobs, hwaiting]) (by simp))
  | @start job _ hqueue =>
    exact h.known_of_log (Nat.le_refl _) rfl (hlt job (by simp [jobs, hqueue]) (by simp))
  | @answer _ _ job hrunning =>
    exact h.known_of_log (Nat.le_refl _) rfl (hlt job (by simp [jobs, hrunning]) (by simp))
  | @discard _ _ job hrunning =>
    exact h.known_of_log (Nat.le_refl _) rfl (hlt job (by simp [jobs, hrunning]) (by simp))
  | retire => exact h.known
  | endStop => exact h.known_of_log (Nat.le_refl _) rfl (by simp [EventKind.OfSubmitter])

/-- A move keeps the order. -/
theorem move (h : pool.Ordered) (hstaffed : pool.Staffed) (hmove : pool.Move next) :
    next.Ordered := by
  have hknown := h.known_of_move hmove
  have hown := fun job hmem => h.own job (mem_jobs_of_move hmove hmem)
  have htaken := (taken_of_move hmove).trans h.taken
  cases hmove with
  | @enqueue job jobs hwaiting hroom hlive =>
    refine ⟨hknown, hown, ?_, ?_, ?_⟩
    · simp [Pool.started, h.queued]
    · simpa [Pool.started] using h.started
    · simpa [hwaiting] using htaken
  | refuse hwaiting hdead =>
    have hlive := hstaffed.ended_lt_of_waiting (by simp [hwaiting])
    omega
  | @start job jobs hqueue hidle =>
    have hqueued := h.queued
    have hstarted := h.started.append_right [job.id]
    refine ⟨hknown, hown, ?_, ?_, ?_⟩
    · simpa [Pool.started, hqueue] using hqueued
    · simpa [Pool.started] using hstarted
    · simpa using htaken
  | @answer before after job hrunning | @discard before after job hrunning =>
    have hstarted := h.started
    refine ⟨hknown, hown, ?_, ?_, ?_⟩
    · simpa [Pool.started] using h.queued
    · simp only [hrunning, List.map_append, List.map_cons] at hstarted
      have hmoved := hstarted.trans (List.perm_middle.append_left (numbers .finished pool.log))
      simpa [Pool.started] using hmoved
    · simpa using htaken
  | retire => exact ⟨hknown, hown, h.queued, h.started, htaken⟩
  | @endStop _ _ stop =>
    refine ⟨hknown, hown, ?_, ?_, ?_⟩
    · simpa [Pool.started] using h.queued
    · simpa [Pool.started] using h.started
    · simpa using htaken

/-- Who something has happened to has asked. -/
theorem lt_of_mem (h : pool.Ordered) {kind : EventKind} {id : Nat}
    (hmem : ⟨kind, id⟩ ∈ pool.log) (hkind : kind.OfSubmitter) : id < pool.tasks.length :=
  h.known _ hmem hkind

/-- Nothing has happened to the next submitter. -/
theorem fresh (h : pool.Ordered) (kind : EventKind) (hkind : kind.OfSubmitter) :
    ⟨kind, pool.tasks.length⟩ ∉ pool.log :=
  fun hmem => Nat.lt_irrefl _ (h.lt_of_mem hmem hkind)

/-- When a submitter goes away, its own job stops to wait, and no other. -/
theorem taken_cancel (h : pool.Ordered) (id : Nat) :
    takenIn (pool.log ++ [⟨.cancelled, id⟩]) pool.tasks.length =
      numbers .queued pool.log ++ (pool.waiting.filter (·.id ≠ id)).map (·.id) := by
  rw [takenIn_cancelled, ← Pool.taken, h.taken, List.filter_append]
  congr 1
  · rw [List.filter_eq_self]
    intro other hqueued
    by_cases hother : other = id
    · simp [← hother, mem_numbers.mp hqueued]
    · simp [hother]
  · rw [List.filter_map]
    congr 1
    refine List.filter_congr fun job hmem => ?_
    have hqueued := h.not_queued_of_waiting hmem
    rw [Function.comp_apply, decide_eq_decide, or_iff_left_of_imp]
    rintro hid rfl
    exact hqueued hid

/-- Jobs that were there before still run the tasks of their submitters. -/
theorem own_of_mem (h : pool.Ordered) (htasks : pool.tasks <+: next.tasks)
    {job old : Job α ρ} (hmem : old ∈ pool.jobs) (hid : old.id = job.id)
    (htask : old.toTask = job.toTask) : next.tasks[job.id]? = some job.toTask := by
  obtain ⟨new, hnew⟩ := htasks
  rw [← hnew, ← hid, List.getElem?_append_left (h.id_lt hmem), h.own old hmem, htask]

/-- A step keeps the order. -/
theorem step (h : pool.Ordered) (hstaffed : pool.Staffed) (hstep : pool.Step next) :
    next.Ordered := by
  cases hstep with
  | move hmove => exact h.move hstaffed hmove
  | submit task gated hopen =>
    refine ⟨h.known_of_log (by simp) rfl (by simp), fun job hmem => ?_, ?_, ?_, ?_⟩
    · rw [jobs, ← List.append_assoc] at hmem
      rcases List.mem_append.mp hmem with hold | hlast
      · exact h.own_of_mem (List.prefix_append _ _) hold rfl rfl
      · obtain rfl := List.mem_singleton.mp hlast
        simp
    · simpa [Pool.started] using h.queued
    · simpa [Pool.started] using h.started
    · have hcancelled : ¬Precedes (pool.log ++ [⟨.submitted, pool.tasks.length⟩,
          ⟨.admitted, pool.tasks.length⟩]) ⟨.cancelled, pool.tasks.length⟩
          ⟨.queued, pool.tasks.length⟩ := by
        rw [precedes_append_of_not_mem (by simp)]
        exact fun hbefore => h.fresh _ (by decide) hbefore.mem
      simp only [Pool.taken, List.length_append, List.length_singleton, takenIn_succ, hcancelled]
      rw [takenIn_append (by simp; omega) (by simp), ← Pool.taken, h.taken]
      simp
  | reject task hsealed =>
    refine ⟨h.known_of_log (by simp) rfl (by simp), fun job hmem => ?_, ?_, ?_, ?_⟩
    · exact h.own_of_mem (List.prefix_append _ _) hmem rfl rfl
    · simpa [Pool.started] using h.queued
    · simpa [Pool.started] using h.started
    · simp only [Pool.taken, List.length_append, List.length_singleton, takenIn_succ]
      rw [takenIn_append (by simp) (by simp), ← Pool.taken, h.taken]
      simp [h.fresh .admitted (by decide)]
  | release id =>
    refine ⟨h.known, fun job hmem => ?_, ?_, ?_, ?_⟩
    · simp only [jobs, ← List.map_append] at hmem
      obtain ⟨old, hold, rfl⟩ := List.mem_map.mp hmem
      exact h.own_of_mem (List.prefix_refl _) hold (by simp) (by simp)
    · simpa [Pool.started, Function.comp_def] using h.queued
    · simpa [Pool.started, Function.comp_def] using h.started
    · exact h.taken.trans (by simp [Function.comp_def])
  | @cancel id hknown =>
    refine ⟨h.known_of_log (Nat.le_refl _) rfl (by simpa), fun job hmem => ?_, ?_, ?_, ?_⟩
    · simp only [jobs, ← List.map_append] at hmem
      rcases List.mem_append.mp hmem with hstarted | hwaiting
      · obtain ⟨old, hold, rfl⟩ := List.mem_map.mp hstarted
        exact h.own_of_mem (List.prefix_refl _) (List.mem_append_left _ hold) (by simp) (by simp)
      · exact h.own job (List.mem_append_right _ (List.mem_of_mem_filter hwaiting))
    · simpa [Pool.started, Function.comp_def] using h.queued
    · simpa [Pool.started, Function.comp_def] using h.started
    · exact (h.taken_cancel id).trans (by simp)
  | stop =>
    refine ⟨h.known_of_log (Nat.le_refl _) rfl ?_, h.own, ?_, ?_, ?_⟩
    · simp [EventKind.OfSubmitter]
    · simpa [Pool.started] using h.queued
    · simpa [Pool.started] using h.started
    · exact ((takenIn_append (by simp) (by simp)).trans h.taken).trans (by simp)

end Ordered

end ForwardProxy.Pool
