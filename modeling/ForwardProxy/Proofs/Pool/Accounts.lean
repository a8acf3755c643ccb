import ForwardProxy.Proofs.Pool.Order

/-!
# Keeping account of submitters

A submitter waits until its job ends, unless it goes away or its task is not taken. What it is told
then is the result of its task, or that the pool is stopped. `Sound` gathers all that holds of a pool
whatever happens to it.
-/

namespace ForwardProxy.Pool

variable {α ρ : Type} {pool next : Pool α ρ}

@[simp]
theorem Job.wanted_release (id : Nat) (job : Job α ρ) : (job.release id).wanted = job.wanted := by
  unfold release
  split <;> rfl

@[simp]
theorem Job.wanted_disown (id : Nat) (job : Job α ρ) :
    (job.disown id).wanted = true ↔ job.id ≠ id ∧ job.wanted = true := by
  unfold disown
  split <;> simp_all

/-- A pool is sealed from the first stop on. -/
theorem Stopping.sealed_iff (h : pool.Stopping) :
    pool.isSealed = true ↔ ⟨.stopBegun, 0⟩ ∈ pool.log := by
  rw [h.sealed, ← mem_numbers, h.begun, List.mem_range, Nat.pos_iff_ne_zero]

/-- The submitters of jobs that have not ended wait, unless they went away. -/
structure Pending (pool : Pool α ρ) : Prop where
  /-- A result is wanted until its submitter goes away. -/
  wanted : ∀ job ∈ pool.jobs, (job.wanted = true ↔ ⟨.cancelled, job.id⟩ ∉ pool.log)
  /-- No submitter is answered before its job ends. -/
  unanswered : ∀ job ∈ pool.jobs, ⟨.answered, job.id⟩ ∉ pool.log

/-- All submitters are accounted for. -/
structure Accounted (pool : Pool α ρ) : Prop where
  /-- The submitters have asked in the order of their numbers. -/
  submitted : numbers .submitted pool.log = List.range pool.tasks.length
  /-- The task of a submitter is taken unless a stop has begun before. -/
  admitted : ∀ id, ⟨.admitted, id⟩ ∈ pool.log ↔
    ⟨.submitted, id⟩ ∈ pool.log ∧ ¬Precedes pool.log ⟨.stopBegun, 0⟩ ⟨.submitted, id⟩
  /-- Each answer comes with a result. -/
  answered : numbers .answered pool.log = pool.results.map Prod.fst
  /-- Nobody is answered twice. -/
  single : (numbers .answered pool.log).Nodup
  /-- Nobody is answered who went away before. -/
  present : ∀ id, ⟨.answered, id⟩ ∈ pool.log →
    ¬Precedes pool.log ⟨.cancelled, id⟩ ⟨.answered, id⟩
  /-- When a job ends, its submitter is answered or went away before. -/
  finished : ∀ id, ⟨.finished, id⟩ ∈ pool.log →
    ⟨.answered, id⟩ ∈ pool.log ∨ ⟨.cancelled, id⟩ ∈ pool.log
  /-- A submitter whose task is not taken is answered at once. -/
  rejected : ∀ id, ⟨.submitted, id⟩ ∈ pool.log → ⟨.admitted, id⟩ ∉ pool.log →
    ⟨.answered, id⟩ ∈ pool.log
  /-- A submitter whose task was taken is told its result, and any other that the pool is
  stopped. -/
  results : ∀ id result, (id, result) ∈ pool.results →
    (⟨.finished, id⟩ ∈ pool.log ∧ ⟨.admitted, id⟩ ∈ pool.log ∧
      ∃ task, pool.tasks[id]? = some task ∧ result = task.result) ∨
    (⟨.admitted, id⟩ ∉ pool.log ∧ result = .error .stopped)

/-- A move lets nobody go. -/
theorem cancelled_of_move (hmove : pool.Move next) (id : Nat) :
    ⟨.cancelled, id⟩ ∈ next.log ↔ ⟨.cancelled, id⟩ ∈ pool.log := by
  cases hmove <;> simp

/-- A step answers only submitters whose jobs have ended. -/
theorem Pending.step (h : pool.Pending) (hstaffed : pool.Staffed) (hordered : pool.Ordered)
    (hstep : pool.Step next) : next.Pending := by
  cases hstep with
  | move hmove =>
    refine ⟨fun job hmem => ?_, fun job hmem => ?_⟩
    · rw [cancelled_of_move hmove]
      exact h.wanted job (mem_jobs_of_move hmove hmem)
    · have hbefore := h.unanswered job (mem_jobs_of_move hmove hmem)
      cases hmove with
      | enqueue | start | discard | endStop => simpa using hbefore
      | retire => exact hbefore
      | refuse hwaiting hdead =>
        have hlive := hstaffed.ended_lt_of_waiting (by simp [hwaiting])
        omega
      | answer hrunning =>
        have hother := hordered.id_ne hrunning hmem
        simpa [hother] using hbefore
  | submit task gated hopen =>
    have hfresh (kind : EventKind) := hordered.fresh kind
    refine ⟨fun job hmem => ?_, fun job hmem => ?_⟩
    all_goals
      rw [jobs, ← List.append_assoc] at hmem
      rcases List.mem_append.mp hmem with hold | hlast
    · simpa using h.wanted job hold
    · obtain rfl := List.mem_singleton.mp hlast
      simp [hfresh .cancelled (by decide)]
    · simpa using h.unanswered job hold
    · obtain rfl := List.mem_singleton.mp hlast
      simp [hfresh .answered (by decide)]
  | reject task hsealed =>
    refine ⟨fun job hmem => by simpa using h.wanted job hmem, fun job hmem => ?_⟩
    have hlt := hordered.id_lt hmem
    simpa [Nat.ne_of_lt hlt] using h.unanswered job hmem
  | release id =>
    refine ⟨fun job hmem => ?_, fun job hmem => ?_⟩
    all_goals
      simp only [jobs, ← List.map_append] at hmem
      obtain ⟨old, hold, rfl⟩ := List.mem_map.mp hmem
    · simpa using h.wanted old hold
    · simpa using h.unanswered old hold
  | @cancel id hknown =>
    have hjob : ∀ job ∈ pool.running.map (·.disown id) ++ pool.queue.map (·.disown id) ++
        pool.waiting.filter (·.id ≠ id), ∃ old ∈ pool.jobs, old.id = job.id ∧
          (job.wanted = true ↔ old.id ≠ id ∧ old.wanted = true) := by
      intro job hmem
      rw [← List.map_append] at hmem
      rcases List.mem_append.mp hmem with hstarted | hwaiting
      · obtain ⟨old, hold, rfl⟩ := List.mem_map.mp hstarted
        exact ⟨old, List.mem_append_left _ hold, by simp, by simp⟩
      · obtain ⟨hold, hother⟩ := List.mem_filter.mp hwaiting
        exact ⟨job, List.mem_append_right _ hold, rfl, by simpa using fun _ => hother⟩
    refine ⟨fun job hmem => ?_, fun job hmem => ?_⟩
    all_goals obtain ⟨old, hold, hid, hwanted⟩ := hjob job hmem
    · rw [hwanted, h.wanted old hold, hid]
      simp [and_comm]
    · rw [← hid]
      simpa using h.unanswered old hold
  | stop => exact ⟨fun job hmem => by simpa using h.wanted job hmem,
      fun job hmem => by simpa using h.unanswered job hmem⟩

/-- What is new changes nothing for those who were answered or asked before, if it tells of no
submitter, no answer and no stop, and of the end of a job only if nobody waits for it. -/
theorem Accounted.append (h : pool.Accounted) {new : List Event}
    (htasks : next.tasks = pool.tasks) (hresults : next.results = pool.results)
    (hlog : next.log = pool.log ++ new)
    (hquiet : ∀ event ∈ new,
      event.kind ∈ [.cancelled, .queued, .started, .finished, .stopReturned])
    (hfinished : ∀ id, ⟨.finished, id⟩ ∈ new → ⟨.cancelled, id⟩ ∈ pool.log) :
    next.Accounted := by
  have hnone (kind : EventKind) (id : Nat)
      (hkind : kind ∉ [.cancelled, .queued, .started, .finished, .stopReturned]) :
      (⟨kind, id⟩ : Event) ∉ new := fun hmem => hkind (hquiet _ hmem)
  have hsame (kind : EventKind) (id : Nat)
      (hkind : kind ∉ [.cancelled, .queued, .started, .finished, .stopReturned]) :
      (⟨kind, id⟩ : Event) ∈ pool.log ++ new ↔ ⟨kind, id⟩ ∈ pool.log := by
    rw [List.mem_append, or_iff_left (hnone kind id hkind)]
  have hnumbers (kind : EventKind)
      (hkind : kind ∉ [.cancelled, .queued, .started, .finished, .stopReturned]) :
      numbers kind (pool.log ++ new) = numbers kind pool.log := by
    have hnew : numbers kind new = [] :=
      List.eq_nil_iff_forall_not_mem.mpr fun id hid => hnone kind id hkind (mem_numbers.mp hid)
    rw [numbers_append, hnew, List.append_nil]
  constructor
  all_goals rw [hlog]
  · rw [hnumbers .submitted (by decide), htasks, h.submitted]
  · intro id
    rw [hsame .admitted id (by decide), hsame .submitted id (by decide),
      precedes_append_of_not_mem (hnone .stopBegun 0 (by decide)), h.admitted]
  · rw [hnumbers .answered (by decide), hresults, h.answered]
  · rw [hnumbers .answered (by decide)]
    exact h.single
  · intro id hanswered
    rw [hsame .answered id (by decide)] at hanswered
    rw [precedes_append_of_mem hanswered]
    exact h.present id hanswered
  · intro id hended
    rw [hsame .answered id (by decide)]
    rcases List.mem_append.mp hended with hbefore | hnew
    · exact (h.finished id hbefore).imp_right (List.mem_append_left _)
    · exact .inr (List.mem_append_left _ (hfinished id hnew))
  · intro id
    rw [hsame .submitted id (by decide), hsame .admitted id (by decide),
      hsame .answered id (by decide)]
    exact h.rejected id
  · intro id result hresult
    rw [hresults] at hresult
    rw [hsame .admitted id (by decide), htasks]
    exact (h.results id result hresult).imp_left (.imp_left (List.mem_append_left _))

/-- The end of a job answers its submitter. -/
theorem Accounted.answer (h : pool.Accounted) (hpending : pool.Pending) (hordered : pool.Ordered)
    {job : Job α ρ} (hmem : job ∈ pool.jobs) (hwanted : job.wanted = true)
    (htasks : next.tasks = pool.tasks)
    (hresults : next.results = pool.results ++ [(job.id, job.result)])
    (hlog : next.log = pool.log ++ [⟨.finished, job.id⟩, ⟨.answered, job.id⟩]) :
    next.Accounted := by
  have hunanswered := hpending.unanswered job hmem
  have hcancelled := (hpending.wanted job hmem).mp hwanted
  constructor
  all_goals rw [hlog]
  · simpa [htasks] using h.submitted
  · intro id
    rw [precedes_append_of_not_mem (by simp)]
    simpa using h.admitted id
  · simp [hresults, h.answered]
  · have hnew : job.id ∉ numbers .answered pool.log := mt mem_numbers.mp hunanswered
    simpa using h.single.append (List.nodup_singleton job.id) (List.disjoint_singleton.mpr hnew)
  · intro id hanswered
    rw [precedes_append_of_not_mem (by simp)]
    simp only [List.mem_append, List.mem_cons, Event.mk.injEq, reduceCtorEq, false_and, false_or,
      true_and, List.not_mem_nil, or_false] at hanswered
    rcases hanswered with hbefore | rfl
    · exact h.present id hbefore
    · exact fun hleft => hcancelled hleft.mem
  · intro id hended
    simp only [List.mem_append, List.mem_cons, Event.mk.injEq, reduceCtorEq, false_and, false_or,
      true_and, List.not_mem_nil, or_false] at hended ⊢
    rcases hended with hbefore | rfl
    · exact (h.finished id hbefore).imp_left .inl
    · exact .inl (.inr rfl)
  · intro id hsubmitted hadmitted
    simp only [List.mem_append, List.mem_cons, Event.mk.injEq, reduceCtorEq, false_and, false_or,
      or_false, List.not_mem_nil] at hsubmitted hadmitted ⊢
    exact .inl (h.rejected id hsubmitted hadmitted)
  · intro id result hresult
    rw [hresults] at hresult
    rw [htasks]
    rcases List.mem_append.mp hresult with hbefore | hlast
    · refine (h.results id result hbefore).imp (fun hdone => ?_) (fun hrejected => ?_)
      · exact ⟨List.mem_append_left _ hdone.1, List.mem_append_left _ hdone.2.1, hdone.2.2⟩
      · exact ⟨by simpa using hrejected.1, hrejected.2⟩
    · obtain ⟨rfl, rfl⟩ := Prod.mk.inj (List.mem_singleton.mp hlast)
      have htaken := (mem_taken_iff.mp (hordered.mem_taken hmem)).2.1
      exact .inl ⟨by simp, List.mem_append_left _ htaken, _, hordered.own job hmem, rfl⟩

/-- A result was given to a submitter that had asked. -/
theorem Accounted.id_lt (h : pool.Accounted) (hordered : pool.Ordered) {id : Nat}
    {result : Except Refusal ρ} (hresult : (id, result) ∈ pool.results) :
    ⟨.answered, id⟩ ∈ pool.log ∧ id < pool.tasks.length := by
  have hanswered : ⟨.answered, id⟩ ∈ pool.log := by
    rw [← mem_numbers, h.answered]
    exact List.mem_map_of_mem hresult
  exact ⟨hanswered, hordered.lt_of_mem hanswered (by decide)⟩

/-- The task of a submitter that asks before any stop is taken. -/
theorem Accounted.submit (h : pool.Accounted) (hstopping : pool.Stopping) (hordered : pool.Ordered)
    {task : Task α ρ} (hopen : pool.isSealed = false) (htasks : next.tasks = pool.tasks ++ [task])
    (hresults : next.results = pool.results)
    (hlog : next.log =
      pool.log ++ [⟨.submitted, pool.tasks.length⟩, ⟨.admitted, pool.tasks.length⟩]) :
    next.Accounted := by
  have hbegun : ⟨.stopBegun, 0⟩ ∉ pool.log := by
    rw [← hstopping.sealed_iff, hopen]
    simp
  constructor
  all_goals rw [hlog]
  · simp [htasks, h.submitted, List.range_succ]
  · intro id
    have hnever : ¬Precedes pool.log ⟨.stopBegun, 0⟩ ⟨.submitted, id⟩ :=
      fun hbefore => hbegun hbefore.mem
    have hid := h.admitted id
    rw [precedes_append_of_not_mem (by simp)]
    simp only [hnever, not_false_eq_true, and_true] at hid ⊢
    simp [hid]
  · simpa [hresults] using h.answered
  · simpa using h.single
  · intro id
    rw [precedes_append_of_not_mem (by simp)]
    simpa using h.present id
  · simpa using h.finished
  · intro id hsubmitted hadmitted
    simp only [List.mem_append, List.mem_cons, Event.mk.injEq, reduceCtorEq, false_and, true_and,
      or_false, false_or, List.not_mem_nil, not_or] at hsubmitted hadmitted ⊢
    exact h.rejected id (hsubmitted.resolve_right hadmitted.2) hadmitted.1
  · intro id result hresult
    rw [hresults] at hresult
    have hlt := (h.id_lt hordered hresult).2
    rw [htasks, List.getElem?_append_left hlt]
    simpa [Nat.ne_of_lt hlt] using h.results id result hresult

/-- A submitter that asks after a stop is answered at once. -/
theorem Accounted.reject (h : pool.Accounted) (hstopping : pool.Stopping) (hordered : pool.Ordered)
    {task : Task α ρ} (hsealed : pool.isSealed = true) (htasks : next.tasks = pool.tasks ++ [task])
    (hresults : next.results = pool.results ++ [(pool.tasks.length, .error .stopped)])
    (hlog : next.log =
      pool.log ++ [⟨.submitted, pool.tasks.length⟩, ⟨.answered, pool.tasks.length⟩]) :
    next.Accounted := by
  have hfresh (kind : EventKind) := hordered.fresh kind
  constructor
  all_goals rw [hlog]
  · simp [htasks, h.submitted, List.range_succ]
  · intro id
    rw [precedes_append_of_not_mem (by simp)]
    by_cases hid : id = pool.tasks.length
    · have hlate : Precedes pool.log ⟨.stopBegun, 0⟩ ⟨.submitted, id⟩ :=
        precedes_of_not_mem (hstopping.sealed_iff.mp hsealed) (hid ▸ hfresh _ (by decide))
      have hadmitted : ⟨.admitted, id⟩ ∉ pool.log := hid ▸ hfresh _ (by decide)
      simp [hlate, hadmitted]
    · simpa [hid] using h.admitted id
  · simp [hresults, h.answered]
  · have hnew : pool.tasks.length ∉ numbers .answered pool.log :=
      mt mem_numbers.mp (hfresh _ (by decide))
    simpa using h.single.append (List.nodup_singleton _) (List.disjoint_singleton.mpr hnew)
  · intro id hanswered
    rw [precedes_append_of_not_mem (by simp)]
    simp only [List.mem_append, List.mem_cons, Event.mk.injEq, reduceCtorEq, false_and, false_or,
      true_and, List.not_mem_nil, or_false] at hanswered
    rcases hanswered with hbefore | rfl
    · exact h.present id hbefore
    · exact fun hleft => hfresh _ (by decide) hleft.mem
  · intro id hended
    simp only [List.mem_append, List.mem_cons, Event.mk.injEq, reduceCtorEq, false_and, false_or,
      true_and, List.not_mem_nil, or_false] at hended ⊢
    exact (h.finished id hended).imp_left .inl
  · intro id hsubmitted hadmitted
    simp only [List.mem_append, List.mem_cons, Event.mk.injEq, reduceCtorEq, false_and, true_and,
      or_false, false_or, List.not_mem_nil] at hsubmitted hadmitted ⊢
    exact hsubmitted.imp_left fun hbefore => h.rejected id hbefore hadmitted
  · intro id result hresult
    rw [hresults] at hresult
    rcases List.mem_append.mp hresult with hbefore | hlast
    · have hlt := (h.id_lt hordered hbefore).2
      rw [htasks, List.getElem?_append_left hlt]
      simpa using h.results id result hbefore
    · obtain ⟨rfl, rfl⟩ := Prod.mk.inj (List.mem_singleton.mp hlast)
      exact .inr ⟨by simp [hfresh .admitted (by decide)], rfl⟩

/-- A step keeps the accounts. -/
theorem Accounted.step (h : pool.Accounted) (hstaffed : pool.Staffed) (hstopping : pool.Stopping)
    (hordered : pool.Ordered) (hpending : pool.Pending) (hstep : pool.Step next) :
    next.Accounted := by
  cases hstep with
  | move hmove =>
    cases hmove with
    | enqueue | start | endStop => exact h.append rfl rfl rfl (by simp) (by simp)
    | refuse hwaiting hdead =>
      have hlive := hstaffed.ended_lt_of_waiting (by simp [hwaiting])
      omega
    | @answer before after job hrunning hopen hwanted =>
      exact h.answer hpending hordered (by simp [jobs, hrunning]) hwanted rfl rfl rfl
    | @discard before after job hrunning hopen hwanted =>
      have hleft : ⟨.cancelled, job.id⟩ ∈ pool.log := by
        have hiff := hpending.wanted job (by simp [jobs, hrunning])
        rw [hwanted] at hiff
        simpa using hiff
      exact h.append rfl rfl rfl (by simp) (by simpa using hleft)
    | retire => exact { h with }
  | submit task gated hopen => exact h.submit hstopping hordered hopen rfl rfl rfl
  | reject task hsealed => exact h.reject hstopping hordered hsealed rfl rfl rfl
  | release => exact { h with }
  | cancel => exact h.append rfl rfl rfl (by simp) (by simp)
  | stop =>
    refine { h with submitted := ?_, admitted := ?_, answered := ?_, single := ?_, present := ?_,
                    finished := ?_, rejected := ?_, results := ?_ }
    · simpa using h.submitted
    · intro id
      by_cases hsubmitted : ⟨.submitted, id⟩ ∈ pool.log
      · rw [precedes_append_of_mem hsubmitted]
        simpa using h.admitted id
      · have hadmitted := mt (h.admitted id).mp (not_and_of_not_left _ hsubmitted)
        simp [hsubmitted, hadmitted]
    · simpa using h.answered
    · simpa using h.single
    · intro id
      rw [precedes_append_of_not_mem (by simp)]
      simpa using h.present id
    · simpa using h.finished
    · simpa using h.rejected
    · simpa using h.results

/-- All that holds of a pool whatever happens to it. -/
structure Sound (pool : Pool α ρ) : Prop where
  /-- The workers are where they should be. -/
  staffed : pool.Staffed
  /-- The stops are where they should be. -/
  stopping : pool.Stopping
  /-- The jobs are served in order. -/
  ordered : pool.Ordered
  /-- The submitters of jobs that have not ended wait. -/
  pending : pool.Pending
  /-- All submitters are accounted for. -/
  accounted : pool.Accounted

/-- A new pool is sound. -/
theorem sound_withQueue (size queueCapacity : Nat) :
    (withQueue size queueCapacity : Pool α ρ).Sound := by
  constructor
  all_goals constructor
  all_goals simp [withQueue, jobs, taken, takenIn, Pool.started]

/-- A step keeps a pool sound. -/
theorem Sound.step (h : pool.Sound) (hstep : pool.Step next) : next.Sound where
  staffed := h.staffed.step hstep
  stopping := h.stopping.step h.staffed hstep
  ordered := h.ordered.step h.staffed hstep
  pending := h.pending.step h.staffed h.ordered hstep
  accounted := h.accounted.step h.staffed h.stopping h.ordered h.pending hstep

/-- Any number of steps keep a pool sound. -/
theorem Sound.reachable (h : pool.Sound) (hlater : Reachable pool next) : next.Sound := by
  induction hlater with
  | refl => exact h
  | tail _ hstep ih => exact ih.step hstep

end ForwardProxy.Pool
