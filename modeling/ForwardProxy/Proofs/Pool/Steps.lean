import ForwardProxy.Pool
import Mathlib.Logic.Relation

/-!
# Whatever can happen to a pool

Between any two moves of a pool something may be done from outside, and of several moves that are
possible any may come next. `Step` lists all that can happen at once, and `Reachable` allows any
number of steps in any order. A row of actions after each of which the pool settles is one of these
orders, so what holds of every reachable pool holds after every such row, and in between.
-/

namespace ForwardProxy.Pool

variable {α ρ : Type}

/-- A move that is possible, and the pool after it. -/
inductive Move (pool : Pool α ρ) : Pool α ρ → Prop where
  /-- The job that waits longest gets a place in the queue. -/
  | enqueue {job : Job α ρ} {jobs : List (Job α ρ)} (hwaiting : pool.waiting = job :: jobs)
    (hroom : pool.queue.length < pool.queueCapacity) (hlive : pool.ended < pool.size) :
    Move pool { pool with
      waiting := jobs
      queue := pool.queue ++ [job]
      log := pool.log ++ [⟨.queued, job.id⟩] }
  /-- The job that waits longest is refused, because no worker is left. -/
  | refuse {job : Job α ρ} {jobs : List (Job α ρ)} (hwaiting : pool.waiting = job :: jobs)
    (hdead : pool.size ≤ pool.ended) :
    Move pool { pool with
      waiting := jobs
      results := pool.results ++ [(job.id, .error .stopped)]
      log := pool.log ++ [⟨.answered, job.id⟩] }
  /-- An idle worker takes the oldest job in the queue. -/
  | start {job : Job α ρ} {jobs : List (Job α ρ)} (hqueue : pool.queue = job :: jobs)
    (hidle : pool.HasIdleWorker) :
    Move pool { pool with
      queue := jobs
      running := pool.running ++ [job]
      log := pool.log ++ [⟨.started, job.id⟩] }
  /-- A running job ends, and its submitter is answered. -/
  | answer {before after : List (Job α ρ)} {job : Job α ρ}
    (hrunning : pool.running = before ++ job :: after) (hopen : job.gated = false)
    (hwanted : job.wanted = true) :
    Move pool { pool with
      running := before ++ after
      results := pool.results ++ [(job.id, job.result)]
      log := pool.log ++ [⟨.finished, job.id⟩, ⟨.answered, job.id⟩] }
  /-- A running job ends, and nobody waits for its result. -/
  | discard {before after : List (Job α ρ)} {job : Job α ρ}
    (hrunning : pool.running = before ++ job :: after) (hopen : job.gated = false)
    (hwanted : job.wanted = false) :
    Move pool { pool with
      running := before ++ after
      log := pool.log ++ [⟨.finished, job.id⟩] }
  /-- An idle worker ends, because nothing is left and nothing can come. -/
  | retire (hidle : pool.HasIdleWorker) (hsealed : pool.isSealed = true)
    (hwaiting : pool.waiting = []) (hqueue : pool.queue = []) :
    Move pool { pool with ended := pool.ended + 1 }
  /-- A stop whose workers have ended comes to its end. -/
  | endStop {before after : List Stop} {stop : Stop}
    (hstopping : pool.stopping = before ++ stop :: after) (hended : stop.workers ≤ pool.ended) :
    Move pool { pool with
      stopping := before ++ after
      log := pool.log ++ [⟨.stopReturned, stop.number⟩] }

/-- One step: a move, or an action. -/
inductive Step (pool : Pool α ρ) : Pool α ρ → Prop where
  /-- The pool moves. -/
  | move {next : Pool α ρ} (hmove : pool.Move next) : Step pool next
  /-- A submitter asks, and the pool takes its task. -/
  | submit (task : Task α ρ) (gated : Bool) (hopen : pool.isSealed = false) :
    Step pool { pool with
      tasks := pool.tasks ++ [task]
      waiting := pool.waiting ++ [{ task with id := pool.tasks.length, gated }]
      log := pool.log ++ [⟨.submitted, pool.tasks.length⟩, ⟨.admitted, pool.tasks.length⟩] }
  /-- A submitter asks after the pool was sealed. -/
  | reject (task : Task α ρ) (hsealed : pool.isSealed = true) :
    Step pool { pool with
      tasks := pool.tasks ++ [task]
      results := pool.results ++ [(pool.tasks.length, .error .stopped)]
      log := pool.log ++ [⟨.submitted, pool.tasks.length⟩, ⟨.answered, pool.tasks.length⟩] }
  /-- A gate is opened. -/
  | release (id : Nat) :
    Step pool { pool with
      waiting := pool.waiting.map (·.release id)
      queue := pool.queue.map (·.release id)
      running := pool.running.map (·.release id) }
  /-- A submitter goes away. -/
  | cancel {id : Nat} (hknown : id < pool.tasks.length) :
    Step pool { pool with
      waiting := pool.waiting.filter (·.id ≠ id)
      queue := pool.queue.map (·.disown id)
      running := pool.running.map (·.disown id)
      log := pool.log ++ [⟨.cancelled, id⟩] }
  /-- A stop begins. -/
  | stop :
    Step pool { pool with
      isSealed := true
      handles := 0
      stops := pool.stops + 1
      stopping := pool.stopping ++ [⟨pool.stops, pool.handles⟩]
      log := pool.log ++ [⟨.stopBegun, pool.stops⟩] }

/-- Any number of steps lead from one pool to another. -/
abbrev Reachable : Pool α ρ → Pool α ρ → Prop := Relation.ReflTransGen Step

variable {pool next : Pool α ρ}

/-- The first element that passes a test divides its list. -/
theorem exists_split_of_find? {τ : Type} {test : τ → Bool} {list : List τ} {x : τ}
    (h : list.find? test = some x) :
    ∃ before after, list = before ++ x :: after ∧ list.eraseP test = before ++ after ∧
      test x = true := by
  obtain ⟨htest, before, after, hsplit, hbefore⟩ := List.find?_eq_some_iff_append.mp h
  refine ⟨before, after, hsplit, ?_, htest⟩
  rw [hsplit, List.eraseP_append_right _ (by simpa using hbefore), List.eraseP_cons_of_pos htest]

/-- The move that a pool makes is possible. -/
theorem move_of_move? (h : pool.move? = some next) : pool.Move next := by
  simp only [move?, Option.or_eq_some_iff] at h
  rcases h with h | ⟨-, h | ⟨-, h | ⟨-, h | ⟨-, h | ⟨-, h⟩⟩⟩⟩⟩
  · unfold enqueue? at h
    split at h
    · next hwaiting =>
      split at h
      · next hfree =>
        obtain rfl := Option.some.inj h
        exact .enqueue hwaiting hfree.1 hfree.2
      · cases h
    · cases h
  · unfold refuse? at h
    split at h
    · next hwaiting =>
      split at h
      · next hdead =>
        obtain rfl := Option.some.inj h
        exact .refuse hwaiting hdead
      · cases h
    · cases h
  · unfold start? at h
    split at h
    · next hqueue =>
      split at h
      · next hidle =>
        obtain rfl := Option.some.inj h
        exact .start hqueue hidle
      · cases h
    · cases h
  · obtain ⟨job, hjob, rfl⟩ := Option.map_eq_some_iff.1 h
    obtain ⟨before, after, hrunning, herase, hopen⟩ := exists_split_of_find? hjob
    rw [Bool.not_eq_true'] at hopen
    dsimp only
    rw [herase]
    split
    · next hwanted => exact .answer hrunning hopen hwanted
    · next hwanted => exact .discard hrunning hopen (Bool.not_eq_true _ ▸ hwanted)
  · unfold retire? at h
    split at h
    · next hretire =>
      obtain ⟨hidle, hsealed, hwaiting, hqueue⟩ := hretire
      obtain rfl := Option.some.inj h
      exact .retire hidle hsealed (List.isEmpty_iff.mp hwaiting) (List.isEmpty_iff.mp hqueue)
    · cases h
  · obtain ⟨stop, hstop, rfl⟩ := Option.map_eq_some_iff.1 h
    obtain ⟨before, after, hstopping, herase, hended⟩ := exists_split_of_find? hstop
    rw [herase]
    exact .endStop hstopping (by simpa using hended)

/-- A pool that makes no move has none. -/
theorem move?_eq_none_iff : pool.move? = none ↔ ∀ next, ¬pool.Move next := by
  constructor
  · intro hnone next hmove
    simp only [move?, Option.or_eq_none_iff] at hnone
    obtain ⟨henqueue, hrefuse, hstart, hfinish, hretire, hend⟩ := hnone
    cases hmove with
    | enqueue hwaiting hroom hlive => simp [enqueue?, hwaiting, hroom, hlive] at henqueue
    | refuse hwaiting hdead => simp [refuse?, hwaiting, hdead] at hrefuse
    | start hqueue hidle => simp [start?, hqueue, hidle] at hstart
    | answer hrunning hopen => simp [finish?, hrunning, hopen] at hfinish
    | discard hrunning hopen => simp [finish?, hrunning, hopen] at hfinish
    | retire hidle hsealed hwaiting hqueue =>
      simp [retire?, hidle, hsealed, hwaiting, hqueue] at hretire
    | endStop hstopping hended =>
      simp [endStop?, hstopping] at hend
      omega
  · intro hnone
    rw [Option.eq_none_iff_forall_ne_some]
    exact fun next hmove => hnone next (move_of_move? hmove)

/-- An action is a step, or has no effect. -/
theorem reachable_act (pool : Pool α ρ) (action : Action α ρ) :
    Reachable pool (pool.act action) := by
  cases action with
  | submit task gated =>
    by_cases hsealed : pool.isSealed = true
    · simp only [act, if_pos hsealed]
      exact .single (.reject task hsealed)
    · simp only [act, if_neg hsealed]
      exact .single (.submit task gated (Bool.not_eq_true _ ▸ hsealed))
  | release id => exact .single (.release id)
  | cancel id =>
    by_cases hknown : id < pool.tasks.length
    · simp only [act, if_pos hknown]
      exact .single (.cancel hknown)
    · simp only [act, if_neg hknown]
      exact .refl
  | stop => exact .single .stop

/-- A pool settles by moves. -/
theorem reachable_settle (pool : Pool α ρ) : Reachable pool pool.settle := by
  fun_induction settle pool with
  | case1 pool next hmove ih => exact .head (.move (move_of_move? hmove)) ih
  | case2 pool hnone => exact .refl

/-- Whatever a row of actions leads to is reachable. -/
theorem reachable_run (pool : Pool α ρ) (actions : List (Action α ρ)) :
    Reachable pool (pool.run actions) := by
  induction actions generalizing pool with
  | nil => exact .refl
  | cons action actions ih =>
    exact ((pool.reachable_act action).trans (reachable_settle _)).trans (ih (pool.step action))

end ForwardProxy.Pool
