/-!
# The worker pool

A submitter asks the pool to run a task and waits for the result. If the pool takes the task, it
becomes a job: it waits for a place in the queue, then in the queue for a worker, and then runs. All
three are served in the order of arrival. A running job may stand at a gate until it is released. A
handler that breaks down costs its submitter the result, and its worker goes on.

A stop seals the pool: from then on submitters are refused, but every job that was taken before is
still done. A worker ends when the queue is empty and nothing can come any more, and the stop waits
for all workers. Later stops find no worker to wait for.

What is done from outside are the actions of a pool, and what follows from them are its moves. After
each action the pool settles: it moves on until it cannot. All that happens is written to a log.
-/

namespace ForwardProxy

/-- Something to be done. -/
structure Pool.Task (α ρ : Type) where
  /-- What is asked. -/
  request : α
  /-- What is run for a request, `none` if it breaks down. -/
  handler : α → Option ρ

/-- A task that the pool has taken. -/
structure Pool.Job (α ρ : Type) extends Pool.Task α ρ where
  /-- The number of its submitter. -/
  id : Nat
  /-- Once started, the job waits to be released. -/
  gated : Bool
  /-- The submitter still waits for the result. -/
  wanted : Bool := true

/-- Why a submitter gets no result. -/
inductive Pool.Refusal where
  /-- The pool was sealed before. -/
  | stopped
  /-- The job broke down. -/
  | dropped
  deriving DecidableEq

/-- The wording of a refusal. -/
def Pool.Refusal.message : Pool.Refusal → String
  | stopped => "worker pool is stopped"
  | dropped => "job was dropped before completion"

/-- The kinds of what happens in a pool. -/
inductive Pool.EventKind where
  /-- A submitter asks. -/
  | submitted
  /-- The pool takes its task. -/
  | admitted
  /-- The submitter goes away. -/
  | cancelled
  /-- The job gets a place in the queue. -/
  | queued
  /-- A worker starts the job. -/
  | started
  /-- The job is done, or has broken down. -/
  | finished
  /-- The submitter gets an answer. -/
  | answered
  /-- A stop begins. -/
  | stopBegun
  /-- A stop comes to its end. -/
  | stopReturned
  deriving DecidableEq

/-- Something that happens in a pool. -/
structure Pool.Event where
  /-- What it is. -/
  kind : Pool.EventKind
  /-- The number of the submitter or of the stop. Each are counted from zero as they come. -/
  number : Nat
  deriving DecidableEq

/-- The numbers of the events of a kind, in order. -/
def Pool.numbers (kind : Pool.EventKind) (log : List Pool.Event) : List Nat :=
  (log.filter (·.kind = kind)).map (·.number)

/-- A stop that has not come to its end. -/
structure Pool.Stop where
  /-- Its number. -/
  number : Nat
  /-- How many workers it waits for. -/
  workers : Nat

/-- A pool of workers. -/
structure Pool (α ρ : Type) where
  /-- The number of workers. -/
  size : Nat
  /-- The number of places in the queue. -/
  queueCapacity : Nat
  /-- There is a worker. -/
  size_pos : 0 < size := by omega
  /-- There is a place in the queue. -/
  queueCapacity_pos : 0 < queueCapacity := by omega
  /-- The tasks of all submitters, in the order of their numbers. -/
  tasks : List (Pool.Task α ρ) := []
  /-- The jobs that wait for a place in the queue, the oldest first. -/
  waiting : List (Pool.Job α ρ) := []
  /-- The jobs in the queue, the oldest first. -/
  queue : List (Pool.Job α ρ) := []
  /-- The jobs that run, in the order in which they started. -/
  running : List (Pool.Job α ρ) := []
  /-- No more tasks are taken. -/
  isSealed : Bool := false
  /-- How many workers have ended. -/
  ended : Nat := 0
  /-- How many workers no stop waits for yet. -/
  handles : Nat := size
  /-- How many stops have begun. -/
  stops : Nat := 0
  /-- The stops that have not come to their end, the oldest first. -/
  stopping : List Pool.Stop := []
  /-- What the submitters got, in the order in which they got it. -/
  results : List (Nat × Except Pool.Refusal ρ) := []
  /-- What has happened, the oldest first. -/
  log : List Pool.Event := []

namespace Pool

variable {α ρ : Type}

/-- The number of workers if none are asked for. -/
def defaultSize : Nat := 10

/-- A pool with places in the queue as given, and at least one worker and one place. -/
def withQueue (size queueCapacity : Nat) : Pool α ρ where
  size := max size 1
  queueCapacity := max queueCapacity 1

/-- A pool with twice as many places in the queue as workers. -/
def new (size : Nat) : Pool α ρ :=
  let size := if size = 0 then defaultSize else size
  withQueue size (2 * size)

/-- The result of a task. -/
def Task.result (task : Task α ρ) : Except Refusal ρ :=
  match task.handler task.request with
  | some value => .ok value
  | none => .error .dropped

/-- The job after the gate of a submitter was opened. -/
def Job.release (id : Nat) (job : Job α ρ) : Job α ρ :=
  if job.id = id then { job with gated := false } else job

/-- The job after a submitter went away. -/
def Job.disown (id : Nat) (job : Job α ρ) : Job α ρ :=
  if job.id = id then { job with wanted := false } else job

/-- The submitters whose jobs were started, in that order. -/
def started (pool : Pool α ρ) : List Nat := numbers .started pool.log

/-- The stops that have come to their end, in that order. -/
def stopsReturned (pool : Pool α ρ) : List Nat := numbers .stopReturned pool.log

/-- Whether the pool counts as stopped: it is sealed, and all workers that no stop waits for have
ended. So it counts as stopped while a stop still waits. -/
def isStopped (pool : Pool α ρ) : Bool := pool.isSealed && decide (pool.handles ≤ pool.ended)

/-! ### Moves -/

/-- A worker has not ended and runs nothing. -/
abbrev HasIdleWorker (pool : Pool α ρ) : Prop := pool.running.length + pool.ended < pool.size

/-- Moves the job that waits longest into a free place of the queue, while some worker takes jobs
from there. -/
def enqueue? (pool : Pool α ρ) : Option (Pool α ρ) :=
  match pool.waiting with
  | job :: jobs =>
    if pool.queue.length < pool.queueCapacity ∧ pool.ended < pool.size then
      some { pool with
        waiting := jobs
        queue := pool.queue ++ [job]
        log := pool.log ++ [⟨.queued, job.id⟩] }
    else none
  | [] => none

/-- Refuses the job that waits longest, if no worker takes jobs any more. -/
def refuse? (pool : Pool α ρ) : Option (Pool α ρ) :=
  match pool.waiting with
  | job :: jobs =>
    if pool.size ≤ pool.ended then
      some { pool with
        waiting := jobs
        results := pool.results ++ [(job.id, .error .stopped)]
        log := pool.log ++ [⟨.answered, job.id⟩] }
    else none
  | [] => none

/-- Gives the oldest job in the queue to an idle worker. -/
def start? (pool : Pool α ρ) : Option (Pool α ρ) :=
  match pool.queue with
  | job :: jobs =>
    if pool.HasIdleWorker then
      some { pool with
        queue := jobs
        running := pool.running ++ [job]
        log := pool.log ++ [⟨.started, job.id⟩] }
    else none
  | [] => none

/-- Ends the first running job that stands at no gate, and answers its submitter if that still
waits. -/
def finish? (pool : Pool α ρ) : Option (Pool α ρ) :=
  (pool.running.find? (!·.gated)).map fun job =>
    let running := pool.running.eraseP (!·.gated)
    if job.wanted then
      { pool with
        running
        results := pool.results ++ [(job.id, job.result)]
        log := pool.log ++ [⟨.finished, job.id⟩, ⟨.answered, job.id⟩] }
    else { pool with running, log := pool.log ++ [⟨.finished, job.id⟩] }

/-- Ends an idle worker, if the queue is empty and nothing can come any more. -/
def retire? (pool : Pool α ρ) : Option (Pool α ρ) :=
  if pool.HasIdleWorker ∧ pool.isSealed ∧ pool.waiting.isEmpty ∧ pool.queue.isEmpty then
    some { pool with ended := pool.ended + 1 }
  else none

/-- Ends the first stop whose workers have ended. -/
def endStop? (pool : Pool α ρ) : Option (Pool α ρ) :=
  (pool.stopping.find? (·.workers ≤ pool.ended)).map fun stop =>
    { pool with
      stopping := pool.stopping.eraseP (·.workers ≤ pool.ended)
      log := pool.log ++ [⟨.stopReturned, stop.number⟩] }

/-- One move, if any is possible. -/
def move? (pool : Pool α ρ) : Option (Pool α ρ) :=
  pool.enqueue?.or (pool.refuse?.or (pool.start?.or (pool.finish?.or (pool.retire?.or pool.endStop?))))

/-- A bound on the moves that are left. -/
def work (pool : Pool α ρ) : Nat :=
  3 * pool.waiting.length + 2 * pool.queue.length + pool.running.length +
    (pool.size - pool.ended) + pool.stopping.length

/-- Taking out the first element that passes a test leaves one element less. -/
theorem length_eraseP_lt {τ : Type} {test : τ → Bool} {list : List τ} {x : τ}
    (h : list.find? test = some x) : (list.eraseP test).length < list.length := by
  have hmem := List.mem_of_find?_eq_some h
  have hlength := List.length_pos_of_mem hmem
  rw [List.length_eraseP_of_mem hmem (List.find?_some h)]
  omega

/-- Every move leaves less to do. -/
theorem work_lt_of_move? {pool next : Pool α ρ} (h : pool.move? = some next) :
    next.work < pool.work := by
  simp only [move?, Option.or_eq_some_iff] at h
  rcases h with h | ⟨_, h | ⟨_, h | ⟨_, h | ⟨_, h | ⟨_, h⟩⟩⟩⟩⟩
  · unfold enqueue? at h
    split at h
    · next hwaiting =>
      split at h
      · obtain rfl := Option.some.inj h
        simp only [work, hwaiting, List.length_cons, List.length_append, List.length_nil]
        omega
      · cases h
    · cases h
  · unfold refuse? at h
    split at h
    · next hwaiting =>
      split at h
      · obtain rfl := Option.some.inj h
        simp only [work, hwaiting, List.length_cons]
        omega
      · cases h
    · cases h
  · unfold start? at h
    split at h
    · next hqueue =>
      split at h
      · obtain rfl := Option.some.inj h
        simp only [work, hqueue, List.length_cons, List.length_append, List.length_nil]
        omega
      · cases h
    · cases h
  · obtain ⟨job, hjob, rfl⟩ := Option.map_eq_some_iff.1 h
    have := length_eraseP_lt hjob
    dsimp only
    split <;> simp only [work] <;> omega
  · unfold retire? at h
    split at h
    · next hidle =>
      obtain rfl := Option.some.inj h
      simp only [work]
      omega
    · cases h
  · obtain ⟨stop, hstop, rfl⟩ := Option.map_eq_some_iff.1 h
    have := length_eraseP_lt hstop
    simp only [work]
    omega

/-- Moves on until nothing can move. -/
def settle (pool : Pool α ρ) : Pool α ρ :=
  match _h : pool.move? with
  | some next => settle next
  | none => pool
termination_by pool.work
decreasing_by exact work_lt_of_move? _h

/-- A settled pool has no move left. -/
theorem move?_settle (pool : Pool α ρ) : pool.settle.move? = none := by
  induction hn : pool.work using Nat.strongRecOn generalizing pool with
  | _ n ih =>
    rw [settle]
    split
    · next next h => exact ih _ (hn ▸ work_lt_of_move? h) _ rfl
    · next h => exact h

/-! ### Actions -/

/-- What can be done to a pool from outside. -/
inductive Action (α ρ : Type) where
  /-- A submitter asks to have a task run. -/
  | submit (task : Task α ρ) (gated : Bool := false)
  /-- Opens the gate of the job of a submitter for good. -/
  | release (id : Nat)
  /-- Makes a submitter go away. It takes its job with it if that still waits for a place. -/
  | cancel (id : Nat)
  /-- Seals the pool and waits for the workers to end. -/
  | stop

/-- An action before anything has moved. -/
def act (pool : Pool α ρ) : Action α ρ → Pool α ρ
  | .submit task gated =>
    let id := pool.tasks.length
    if pool.isSealed then
      { pool with
        tasks := pool.tasks ++ [task]
        results := pool.results ++ [(id, .error .stopped)]
        log := pool.log ++ [⟨.submitted, id⟩, ⟨.answered, id⟩] }
    else
      { pool with
        tasks := pool.tasks ++ [task]
        waiting := pool.waiting ++ [{ task with id, gated }]
        log := pool.log ++ [⟨.submitted, id⟩, ⟨.admitted, id⟩] }
  | .release id =>
    { pool with
      waiting := pool.waiting.map (·.release id)
      queue := pool.queue.map (·.release id)
      running := pool.running.map (·.release id) }
  | .cancel id =>
    if id < pool.tasks.length then
      { pool with
        waiting := pool.waiting.filter (·.id ≠ id)
        queue := pool.queue.map (·.disown id)
        running := pool.running.map (·.disown id)
        log := pool.log ++ [⟨.cancelled, id⟩] }
    else pool
  | .stop =>
    { pool with
      isSealed := true
      handles := 0
      stops := pool.stops + 1
      stopping := pool.stopping ++ [⟨pool.stops, pool.handles⟩]
      log := pool.log ++ [⟨.stopBegun, pool.stops⟩] }

/-- An action, and all that follows from it. -/
def step (pool : Pool α ρ) (action : Action α ρ) : Pool α ρ := (pool.act action).settle

/-- A row of actions. -/
def run (pool : Pool α ρ) (actions : List (Action α ρ)) : Pool α ρ := actions.foldl step pool

end Pool

end ForwardProxy
