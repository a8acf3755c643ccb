import ForwardProxy.Proofs.RateLimit.FixedWindow
import Mathlib.Data.List.Induction

/-!
# The last window of a client

After any requests, what a limiter knows of a client is the window in which its last request came:
when that window started and how many requests of the client came in it. So the next request passes
if its own window does not hold more requests than the limit says, itself included.
-/

namespace ForwardProxy.RateLimiter

open Time

/-- A request joins the window before it, if that is not over, and else starts anew. -/
def joined (length : Int) (window : List Int) (reading : Int) : List Int :=
  match window with
  | [] => [reading]
  | start :: later =>
    if isWithin start length reading then start :: (later ++ [reading]) else [reading]

/-- The readings of the clock in the window of the last one. -/
def lastWindow (length : Int) (readings : List Int) : List Int :=
  readings.foldl (joined length) []

/-- The last reading joins the window of those before it, or starts anew. -/
theorem lastWindow_concat (length : Int) (readings : List Int) (reading : Int) :
    lastWindow length (readings ++ [reading]) =
      joined length (lastWindow length readings) reading := by
  simp [lastWindow]

/-- The limiter after requests. -/
def counting (limiter : RateLimiter) (checks : List Check) : RateLimiter :=
  checks.foldl (fun limiter check => (limiter.check check.client check.now).2) limiter

variable {limiter : RateLimiter} {client other : Net.IpAddress} {now : Instant} {time : Int}
  {readings : List Int} {check : Check} {checks : List Check}

theorem counting_append (limiter : RateLimiter) (checks others : List Check) :
    limiter.counting (checks ++ others) = (limiter.counting checks).counting others :=
  List.foldl_append

theorem counting_concat (limiter : RateLimiter) (checks : List Check) (check : Check) :
    limiter.counting (checks ++ [check]) =
      ((limiter.counting checks).check check.client check.now).2 :=
  counting_append limiter checks [check]

/-- Counting changes neither the limit nor the length of the windows. -/
theorem limit_length_counting (limiter : RateLimiter) (checks : List Check) :
    (limiter.counting checks).limit = limiter.limit ∧
      (limiter.counting checks).length = limiter.length := by
  induction checks using List.reverseRecOn with
  | nil => exact ⟨rfl, rfl⟩
  | append_singleton checks check ih =>
    rw [counting_concat, limit_check, length_check]
    exact ih

theorem readingsOf_concat_self (hself : check.client = client) (checks : List Check) :
    readingsOf client (checks ++ [check]) = readingsOf client checks ++ [check.now.reading] := by
  simp [readingsOf, checksOf, List.filter_append, hself]

theorem readingsOf_concat_other (hother : check.client ≠ client) (checks : List Check) :
    readingsOf client (checks ++ [check]) = readingsOf client checks := by
  simp [readingsOf, checksOf, List.filter_append, hother]

/-- For requests from some reading of the clock on, a limiter knows of a client when its window
started and how many requests came in it. -/
inductive Remembers (limiter : RateLimiter) (client : Net.IpAddress) (time : Int) :
    List Int → Prop where
  /-- Nothing came from it. -/
  | nothing (hunseen : limiter.Unseen client) : Remembers limiter client time []
  /-- Its window started with the first of these readings. -/
  | window {window : Window} {later : List Int} (hwindow : limiter.HasWindow client time window)
    (hstarted : window.started.reading ≤ time) (hcount : window.count = later.length + 1) :
    Remembers limiter client time (window.started.reading :: later)

/-- What is known stays known. -/
theorem Remembers.later (h : limiter.Remembers client time readings) {after : Int}
    (hafter : time ≤ after) : limiter.Remembers client after readings := by
  cases h with
  | nothing hunseen => exact .nothing hunseen
  | window hwindow hstarted hcount =>
    exact .window (fun now hnow => hwindow now (Int.le_trans hafter hnow))
      (Int.le_trans hstarted hafter) hcount

/-- The request of another client changes nothing. -/
theorem Remembers.check_other (h : limiter.Remembers client time readings)
    (hother : other ≠ client) (htime : time ≤ now.reading) :
    (limiter.check other now).2.Remembers client now.reading readings := by
  cases h with
  | nothing hunseen => exact .nothing (hunseen.check_other hother now)
  | window hwindow hstarted hcount =>
    exact .window (hwindow.check_other hother htime) (Int.le_trans hstarted htime) hcount

/-- The window in which a client's own request counts is the one that the request joins. -/
theorem Remembers.windowAt (h : limiter.Remembers client time readings)
    (htime : time ≤ now.reading) :
    ∃ start later, joined limiter.length.nanoseconds readings now.reading = start :: later ∧
      (limiter.windowAt client now).started.reading = start ∧
      (limiter.windowAt client now).count = later.length ∧ start ≤ now.reading := by
  cases h with
  | nothing hunseen =>
    rw [hunseen.windowAt]
    exact ⟨now.reading, [], rfl, rfl, rfl, Int.le_refl _⟩
  | @window window later hwindow hstarted hcount =>
    have hbegun := Int.le_trans hstarted htime
    have hwithin : isWithin window.started.reading limiter.length.nanoseconds now.reading =
        !window.isOver limiter.length now := isWithin_eq hbegun
    rw [hwindow now htime, Window.asOf, joined, hwithin]
    cases window.isOver limiter.length now with
    | true => exact ⟨now.reading, [], rfl, rfl, rfl, Int.le_refl _⟩
    | false =>
      have hlength : window.count = (later ++ [now.reading]).length := by simpa using hcount
      exact ⟨window.started.reading, _, rfl, rfl, hlength, hbegun⟩

/-- A client's own request joins its window or starts anew. -/
theorem Remembers.check_self (h : limiter.Remembers client time readings)
    (htime : time ≤ now.reading) :
    (limiter.check client now).2.Remembers client now.reading
      (joined limiter.length.nanoseconds readings now.reading) := by
  obtain ⟨start, later, hjoined, rfl, hcount, hstarted⟩ := h.windowAt htime
  have hremembers := Remembers.window (hasWindow_check_self rfl) hstarted
    (congrArg (· + 1) hcount)
  rwa [hjoined]

/-- A client's own request passes if the window that it joins does not hold too many. -/
theorem Remembers.passes_eq (h : limiter.Remembers client time readings)
    (htime : time ≤ now.reading) :
    (limiter.check client now).1 =
      decide ((joined limiter.length.nanoseconds readings now.reading).length ≤ limiter.limit) := by
  obtain ⟨start, later, hjoined, -, hcount, -⟩ := h.windowAt htime
  rw [passes_iff, hjoined, hcount, List.length_cons]

/-- After requests, a new limiter knows of each client the window of its last request. -/
theorem remembers_counting (hunseen : limiter.Unseen client) (hclock : Chronological checks)
    (htime : ∀ check ∈ checks, check.now.reading ≤ time) :
    (limiter.counting checks).Remembers client time
      (lastWindow limiter.length.nanoseconds (readingsOf client checks)) := by
  induction checks using List.reverseRecOn generalizing time with
  | nil => exact .nothing hunseen
  | append_singleton checks check ih =>
    obtain ⟨hbefore, -, hlast⟩ := List.pairwise_append.mp hclock
    have hearlier : ∀ earlier ∈ checks, earlier.now.reading ≤ check.now.reading :=
      fun earlier hmem => hlast earlier hmem check List.mem_cons_self
    have hknown := ih hbefore hearlier
    have hcheck := htime check (by simp)
    rw [counting_concat]
    refine Remembers.later ?_ hcheck
    by_cases hself : check.client = client
    · have hjoins := hknown.check_self (Int.le_refl _)
      rw [(limit_length_counting limiter checks).2, ← lastWindow_concat] at hjoins
      rw [readingsOf_concat_self hself, hself]
      exact hjoins
    · rw [readingsOf_concat_other hself]
      exact hknown.check_other hself (Int.le_refl _)

/-- A request passes if, and only if, it is one of the first in its window, as many as the limit
says. -/
theorem passes_counting_iff (hunseen : limiter.Unseen check.client)
    (hclock : Chronological (checks ++ [check])) :
    ((limiter.counting checks).check check.client check.now).1 = true ↔
      (lastWindow limiter.length.nanoseconds
        (readingsOf check.client (checks ++ [check]))).length ≤ limiter.limit := by
  obtain ⟨hbefore, -, hlast⟩ := List.pairwise_append.mp hclock
  have hknown := remembers_counting hunseen hbefore
    fun earlier hmem => hlast earlier hmem check List.mem_cons_self
  rw [hknown.passes_eq (Int.le_refl _), (limit_length_counting limiter checks).1,
    (limit_length_counting limiter checks).2, readingsOf_concat_self rfl, lastWindow_concat,
    decide_eq_true_eq]

end ForwardProxy.RateLimiter
