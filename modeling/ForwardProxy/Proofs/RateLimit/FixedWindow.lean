import ForwardProxy.RateLimit
import Mathlib.Data.List.Basic

/-!
# Fixed windows

The limiter answers each client as if there were no other. A client's first request starts a window,
and so does its first request after that window is over; in each window as many requests pass as the
limit says, and they are the first ones. Dropping the windows that are over shows in no answer,
because a window that is over stays so as long as the clock is not set back.
-/

namespace ForwardProxy.RateLimiter

open Time

/-- A request that is counted. -/
structure Check where
  /-- Who sends it. -/
  client : Net.IpAddress
  /-- When it comes. -/
  now : Instant

/-- The clock is not set back from one request to the next. -/
abbrev Chronological (checks : List Check) : Prop :=
  checks.Pairwise fun earlier later => earlier.now.reading ≤ later.now.reading

/-- The requests of one client. -/
def checksOf (client : Net.IpAddress) (checks : List Check) : List Check :=
  checks.filter (·.client = client)

/-- Whether each of several requests passes, with who sent it. -/
def answers (limiter : RateLimiter) : List Check → List (Net.IpAddress × Bool)
  | [] => []
  | check :: checks =>
    let (passes, limiter) := limiter.check check.client check.now
    (check.client, passes) :: limiter.answers checks

/-- Whether each request of one client passes. -/
def answersTo (limiter : RateLimiter) (client : Net.IpAddress) (checks : List Check) : List Bool :=
  ((limiter.answers checks).filter (·.1 = client)).map (·.2)

/-- Whether each of several requests passes in a window in which some were counted before: the first
ones do, until the limit is reached. -/
def inWindow (limit counted requests : Nat) : List Bool :=
  (List.range requests).map fun earlier => decide (counted + earlier + 1 ≤ limit)

/-- Whether a reading of the clock comes before the end of a window. -/
def isWithin (start length reading : Int) : Bool := reading - start < length

/-- Whether each request of a client passes, by the readings of the clock when they come: the first
one starts a window, to which all those belong that come before its end, and the next one starts
anew. -/
def fixedWindows (limit : Nat) (length : Int) : List Int → List Bool
  | [] => []
  | start :: later =>
    inWindow limit 0 ((later.takeWhile (isWithin start length)).length + 1) ++
      fixedWindows limit length (later.dropWhile (isWithin start length))
termination_by readings => readings.length
decreasing_by
  exact Nat.lt_succ_of_le (List.dropWhile_suffix _).length_le

variable {limiter : RateLimiter} {client other : Net.IpAddress} {now later : Instant}

/-- A window that is over stays over. -/
theorem Window.isOver_later {window : Window} {length : Span}
    (hover : window.isOver length now = true) (hlater : now.reading ≤ later.reading) :
    window.isOver length later = true := by
  simp only [isOver, decide_eq_true_eq] at hover ⊢
  omega

/-- Dropping the windows that are over changes no window in which a later request counts. -/
theorem windowAt_prune (hlater : now.reading ≤ later.reading) :
    (limiter.prune now).windowAt client later = limiter.windowAt client later := by
  unfold windowAt prune
  dsimp only
  rw [Std.HashMap.getElem?_filter']
  cases limiter.windows[client]? with
  | none => rfl
  | some window =>
    by_cases hover : window.isOver limiter.length now = true
    · have hstill := Window.isOver_later hover hlater
      simp [Option.filter_some, hover, hstill]
    · simp [Option.filter_some, hover]

/-- The limiter that looks at a request: with many windows, those that are over are dropped. -/
def tidied (limiter : RateLimiter) (now : Instant) : RateLimiter :=
  if pruneThreshold < limiter.windows.size then limiter.prune now else limiter

theorem limit_tidied (now : Instant) : (limiter.tidied now).limit = limiter.limit := by
  unfold tidied
  split <;> rfl

theorem length_tidied (now : Instant) : (limiter.tidied now).length = limiter.length := by
  unfold tidied
  split <;> rfl

/-- Tidying a limiter changes no window in which a later request counts. -/
theorem windowAt_tidied (hlater : now.reading ≤ later.reading) :
    (limiter.tidied now).windowAt client later = limiter.windowAt client later := by
  unfold tidied
  split
  · exact windowAt_prune hlater
  · rfl

/-- A window with one request more. -/
def Window.counted (window : Window) : Window := { window with count := window.count + 1 }

/-- The window in which a request at `now` counts, for a client whose last window is given. -/
def Window.asOf (window : Window) (length : Span) (now : Instant) : Window :=
  if window.isOver length now then ⟨now, 0⟩ else window

theorem limit_check : (limiter.check client now).2.limit = limiter.limit := limit_tidied now

theorem length_check : (limiter.check client now).2.length = limiter.length := length_tidied now

/-- A request passes if its window has room for it. -/
theorem passes_iff : (limiter.check client now).1 =
    decide ((limiter.windowAt client now).count + 1 ≤ limiter.limit) := by
  have hwindow : (limiter.tidied now).windowAt client now = limiter.windowAt client now :=
    windowAt_tidied (Int.le_refl _)
  rw [← hwindow, ← limit_tidied now]
  rfl

/-- After a request the last window of its client is the one in which it counts. -/
theorem windowAt_check_self : (limiter.check client now).2.windowAt client later =
    (limiter.windowAt client now).counted.asOf limiter.length later := by
  have hwindow : (limiter.tidied now).windowAt client now = limiter.windowAt client now :=
    windowAt_tidied (Int.le_refl _)
  rw [← hwindow, ← length_tidied now]
  unfold check windowAt
  dsimp only
  rw [Std.HashMap.getElem?_insert_self]
  rfl

/-- A request changes no window of another client. -/
theorem windowAt_check_other (hother : other ≠ client) (hlater : now.reading ≤ later.reading) :
    (limiter.check other now).2.windowAt client later = limiter.windowAt client later := by
  have hwindow : (limiter.tidied now).windowAt client later = limiter.windowAt client later :=
    windowAt_tidied hlater
  rw [← hwindow]
  unfold check windowAt
  dsimp only
  rw [Std.HashMap.getElem?_insert, if_neg (by simpa using hother)]
  rfl

/-- Whether each request of a client passes in the middle of a window: first come the requests that
still belong to it. -/
def onwards (limit : Nat) (length : Int) (window : Window) (readings : List Int) : List Bool :=
  inWindow limit window.count
      (readings.takeWhile (isWithin window.started.reading length)).length ++
    fixedWindows limit length (readings.dropWhile (isWithin window.started.reading length))

section

variable {limit : Nat} {length : Span} {window : Window} {readings : List Int}

theorem inWindow_succ {counted requests : Nat} : inWindow limit counted (requests + 1) =
    decide (counted + 1 ≤ limit) :: inWindow limit (counted + 1) requests := by
  unfold inWindow
  rw [List.range_succ_eq_map, List.map_cons, List.map_map]
  congr 1
  refine List.map_congr_left fun earlier _ => ?_
  simp only [Function.comp_apply, decide_eq_decide]
  omega

/-- A first request starts a window. -/
theorem fixedWindows_cons : fixedWindows limit length.nanoseconds (now.reading :: readings) =
    decide (1 ≤ limit) :: onwards limit length.nanoseconds ⟨now, 1⟩ readings := by
  rw [fixedWindows, inWindow_succ]
  rfl

/-- A window is over exactly if a reading does not come before its end, while the clock is not set
back. -/
theorem isWithin_eq (hstarted : window.started.reading ≤ now.reading) :
    isWithin window.started.reading length.nanoseconds now.reading = !window.isOver length now := by
  unfold isWithin Window.isOver
  rw [← decide_not, decide_eq_decide]
  omega

/-- A request that comes before the window is over belongs to it. -/
theorem onwards_cons_of_inside (hstarted : window.started.reading ≤ now.reading)
    (hinside : window.isOver length now = false) :
    onwards limit length.nanoseconds window (now.reading :: readings) =
      decide (window.count + 1 ≤ limit) ::
        onwards limit length.nanoseconds window.counted readings := by
  have hwithin : isWithin window.started.reading length.nanoseconds now.reading = true := by
    rw [isWithin_eq hstarted, hinside]
    rfl
  unfold onwards
  rw [List.takeWhile_cons_of_pos hwithin, List.dropWhile_cons_of_pos hwithin, List.length_cons,
    inWindow_succ]
  rfl

/-- A request that comes after the window is over starts anew. -/
theorem onwards_cons_of_over (hstarted : window.started.reading ≤ now.reading)
    (hover : window.isOver length now = true) :
    onwards limit length.nanoseconds window (now.reading :: readings) =
      fixedWindows limit length.nanoseconds (now.reading :: readings) := by
  have hwithin : ¬isWithin window.started.reading length.nanoseconds now.reading = true := by
    rw [isWithin_eq hstarted, hover]
    decide
  unfold onwards
  rw [List.takeWhile_cons_of_neg hwithin, List.dropWhile_cons_of_neg hwithin]
  rfl

theorem onwards_nil : onwards limit length.nanoseconds window [] = [] := by
  simp [onwards, inWindow, fixedWindows]

end

/-- The readings of the clock when a client sends its requests. -/
def readingsOf (client : Net.IpAddress) (checks : List Check) : List Int :=
  (checksOf client checks).map (·.now.reading)

variable {check : Check} {checks : List Check}

theorem answersTo_cons_self (hself : check.client = client) :
    limiter.answersTo client (check :: checks) = (limiter.check client check.now).1 ::
      (limiter.check client check.now).2.answersTo client checks := by
  subst hself
  simp [answersTo, answers]

theorem answersTo_cons_other (hother : check.client ≠ client) :
    limiter.answersTo client (check :: checks) =
      (limiter.check check.client check.now).2.answersTo client checks := by
  simp [answersTo, answers, hother]

theorem readingsOf_cons_self (hself : check.client = client) :
    readingsOf client (check :: checks) = check.now.reading :: readingsOf client checks := by
  simp [readingsOf, checksOf, hself]

theorem readingsOf_cons_other (hother : check.client ≠ client) :
    readingsOf client (check :: checks) = readingsOf client checks := by
  simp [readingsOf, checksOf, hother]

/-- For requests from some reading of the clock on, a client has this last window. -/
def HasWindow (limiter : RateLimiter) (client : Net.IpAddress) (time : Int) (window : Window) : Prop :=
  ∀ now : Instant, time ≤ now.reading →
    limiter.windowAt client now = window.asOf limiter.length now

/-- After its own request a client has the window in which that counts. -/
theorem hasWindow_check_self {window : Window} (h : limiter.windowAt client now = window) :
    (limiter.check client now).2.HasWindow client now.reading window.counted := by
  intro later _
  rw [windowAt_check_self, length_check, h]

/-- After the request of another client a client has the same window as before. -/
theorem HasWindow.check_other {time : Int} {window : Window}
    (h : limiter.HasWindow client time window) (hother : other ≠ client)
    (htime : time ≤ now.reading) :
    (limiter.check other now).2.HasWindow client now.reading window := by
  intro later hlater
  rw [windowAt_check_other hother hlater, length_check]
  exact h later (Int.le_trans htime hlater)

/-- What a client is told in the middle of a window. -/
theorem HasWindow.answersTo_eq {time : Int} {window : Window}
    (h : limiter.HasWindow client time window) (hstarted : window.started.reading ≤ time)
    (htimes : ∀ check ∈ checks, time ≤ check.now.reading)
    (hclock : Chronological checks) :
    limiter.answersTo client checks =
      onwards limiter.limit limiter.length.nanoseconds window (readingsOf client checks) := by
  induction checks generalizing limiter time window with
  | nil =>
    rw [readingsOf, checksOf, List.filter_nil, List.map_nil, onwards_nil]
    rfl
  | cons check checks ih =>
    obtain ⟨hlater, hclock⟩ := List.pairwise_cons.mp hclock
    have htime := htimes check List.mem_cons_self
    have hbegun : window.started.reading ≤ check.now.reading := Int.le_trans hstarted htime
    by_cases hself : check.client = client
    · have hwindow := h check.now htime
      rw [answersTo_cons_self hself, readingsOf_cons_self hself, passes_iff, hwindow]
      cases hover : window.isOver limiter.length check.now with
      | true =>
        have hanew : window.asOf limiter.length check.now = ⟨check.now, 0⟩ := if_pos hover
        have hnext := ih (hasWindow_check_self (hwindow.trans hanew)) (Int.le_refl _) hlater hclock
        rw [limit_check, length_check] at hnext
        rw [onwards_cons_of_over hbegun hover, fixedWindows_cons, hanew, hnext]
        rfl
      | false =>
        have hsame : window.asOf limiter.length check.now = window := if_neg (by simp [hover])
        have hnext := ih (hasWindow_check_self (hwindow.trans hsame)) hbegun hlater hclock
        rw [limit_check, length_check] at hnext
        rw [onwards_cons_of_inside hbegun hover, hsame, hnext]
    · have hnext := ih (h.check_other hself htime) hbegun hlater hclock
      rw [limit_check, length_check] at hnext
      rw [answersTo_cons_other hself, readingsOf_cons_other hself, hnext]

/-- What a client is told whose next request starts a window. -/
theorem answersTo_eq_of_anew (hself : check.client = client)
    (hanew : limiter.windowAt client check.now = ⟨check.now, 0⟩)
    (hclock : Chronological (check :: checks)) :
    limiter.answersTo client (check :: checks) =
      fixedWindows limiter.limit limiter.length.nanoseconds (readingsOf client (check :: checks)) := by
  obtain ⟨hlater, hclock⟩ := List.pairwise_cons.mp hclock
  have hnext := (hasWindow_check_self hanew).answersTo_eq (Int.le_refl _) hlater hclock
  rw [limit_check, length_check] at hnext
  rw [answersTo_cons_self hself, readingsOf_cons_self hself, passes_iff, hanew, fixedWindows_cons,
    hnext]
  rfl

/-- Nothing is known of a client. -/
def Unseen (limiter : RateLimiter) (client : Net.IpAddress) : Prop :=
  limiter.windows[client]? = none

/-- The next request of a client of whom nothing is known starts a window. -/
theorem Unseen.windowAt (h : limiter.Unseen client) : limiter.windowAt client now = ⟨now, 0⟩ := by
  unfold RateLimiter.windowAt
  rw [h]

/-- Nothing becomes known of a client by the request of another. -/
theorem Unseen.check_other (h : limiter.Unseen client) (hother : other ≠ client) (now : Instant) :
    (limiter.check other now).2.Unseen client := by
  have htidied : (limiter.tidied now).Unseen client := by
    unfold tidied prune Unseen
    split
    · rw [Std.HashMap.getElem?_filter', h]
      rfl
    · exact h
  unfold check Unseen
  dsimp only
  rw [Std.HashMap.getElem?_insert, if_neg (by simpa using hother)]
  exact htidied

/-- What a client is told of which nothing is known. -/
theorem Unseen.answersTo_eq (h : limiter.Unseen client)
    (hclock : Chronological checks) :
    limiter.answersTo client checks =
      fixedWindows limiter.limit limiter.length.nanoseconds (readingsOf client checks) := by
  induction checks generalizing limiter with
  | nil =>
    rw [readingsOf, checksOf, List.filter_nil, List.map_nil, fixedWindows]
    rfl
  | cons check checks ih =>
    by_cases hself : check.client = client
    · exact answersTo_eq_of_anew hself h.windowAt hclock
    · have hnext := ih (h.check_other hself check.now) (List.pairwise_cons.mp hclock).2
      rw [limit_check, length_check] at hnext
      rw [answersTo_cons_other hself, readingsOf_cons_other hself, hnext]

/-- A new limiter with any limit and any length of windows tells a client, as long as the clock is
not set back, what a limiter of its own would tell it, and that is what fixed windows say: each
window starts with a request, and in it as many requests pass as the limit says. So neither the
requests of other clients nor the dropping of windows that are over show in any answer. -/
theorem answersTo_eq_alone_and_fixedWindows (limit : Nat) (length : Span) (client : Net.IpAddress)
    {checks : List Check} (hclock : Chronological checks) :
    let limiter : RateLimiter := { limit, length }
    limiter.answersTo client checks = limiter.answersTo client (checksOf client checks) ∧
      limiter.answersTo client checks =
        fixedWindows limit length.nanoseconds (readingsOf client checks) := by
  intro limiter
  have hunseen : limiter.Unseen client := Std.HashMap.getElem?_empty
  have hown : Chronological (checksOf client checks) := hclock.sublist List.filter_sublist
  have hreadings : readingsOf client (checksOf client checks) = readingsOf client checks := by
    simp [readingsOf, checksOf]
  have hall := hunseen.answersTo_eq hclock
  have halone := hunseen.answersTo_eq hown
  rw [hreadings] at halone
  exact ⟨hall.trans halone.symm, hall⟩

/-- Two clients send requests, of which one passes in ten nanoseconds. The last one of the first
client comes just when its window is over. -/
def twoClients : List Check :=
  [⟨.v4 1, ⟨0, 1, by decide⟩⟩, ⟨.v4 2, ⟨0, 6, by decide⟩⟩, ⟨.v4 1, ⟨0, 10, by decide⟩⟩,
    ⟨.v4 2, ⟨0, 10, by decide⟩⟩, ⟨.v4 1, ⟨0, 11, by decide⟩⟩]

/-- The first client gets through with its first request and with its last. -/
theorem answersTo_eq_alone_and_fixedWindows_twoClients :
    let limiter : RateLimiter := { limit := 1, length := ⟨10⟩ }
    Chronological twoClients ∧
      limiter.answersTo (.v4 1) twoClients =
        limiter.answersTo (.v4 1) (checksOf (.v4 1) twoClients) ∧
      limiter.answersTo (.v4 1) twoClients = [true, false, true] := by
  have hclock : Chronological twoClients := by decide
  obtain ⟨halone, hwindows⟩ := answersTo_eq_alone_and_fixedWindows 1 ⟨10⟩ (.v4 1) hclock
  have hreadings : readingsOf (.v4 1) twoClients = [1, 10, 11] := by decide
  refine ⟨hclock, halone, hwindows.trans ?_⟩
  rw [hreadings]
  simp [fixedWindows, isWithin, inWindow, List.range_succ]

end ForwardProxy.RateLimiter
