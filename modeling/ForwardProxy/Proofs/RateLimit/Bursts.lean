import ForwardProxy.Proofs.RateLimit.LastWindow

/-!
# Bursts

How many requests of a client pass in a span of time, wherever the span begins. The windows of a
client start at least one length of a window apart, because the next one starts with the first
request that comes after the end of the one before. So a span of the length of a window meets two of
them at most, and only one if it begins with a window. In each as many requests pass as the limit
says.
-/

namespace ForwardProxy.RateLimiter

open Time

/-- The requests that pass, in their order. -/
def passing (limiter : RateLimiter) : List Check → List Check
  | [] => []
  | check :: checks =>
    let (passes, limiter) := limiter.check check.client check.now
    if passes then check :: limiter.passing checks else limiter.passing checks

/-- A request starts a window: after it, its client has a window with its instant and with no other
request. -/
def StartsWindow (limiter : RateLimiter) (check : Check) : Prop :=
  (limiter.check check.client check.now).2.windows[check.client]? = some ⟨check.now, 1⟩

/-- Whether a reading of the clock falls into the span that begins at `time`. Its end is no part of
it. -/
def isDuring (time length reading : Int) : Bool :=
  decide (time ≤ reading ∧ reading < time + length)

/-- The readings of the clock for which the answer is that the request passes. -/
def granted (readings : List Int) (answers : List Bool) : List Int :=
  ((readings.zip answers).filter (·.2)).map (·.1)

/-- The readings of the clock at which a request passes that fixed windows let through. -/
def grantedInWindows (limit : Nat) (length : Int) (readings : List Int) : List Int :=
  granted readings (fixedWindows limit length readings)

section

variable {limit : Nat} {length start time : Int} {readings later : List Int}

/-- Nothing is granted but what was asked for. -/
theorem granted_subset (readings : List Int) (answers : List Bool) :
    granted readings answers ⊆ readings := by
  intro reading hmem
  obtain ⟨⟨_, passes⟩, hpair, rfl⟩ := List.mem_map.mp hmem
  exact (List.of_mem_zip (List.mem_filter.mp hpair).1).1

/-- A reading is granted if the answer to it is that the request passes. -/
theorem granted_cons (reading : Int) (readings : List Int) (passes : Bool) (answers : List Bool) :
    granted (reading :: readings) (passes :: answers) =
      if passes then reading :: granted readings answers else granted readings answers := by
  cases passes <;> rfl

/-- What comes first is granted by the first answers. -/
theorem granted_append {front : List Int} {answers : List Bool}
    (hlength : front.length = answers.length) (readings : List Int) (others : List Bool) :
    granted (front ++ readings) (answers ++ others) =
      granted front answers ++ granted readings others := by
  simp [granted, List.zip_append hlength]

/-- The first requests in a window pass, as many as there is room for. -/
theorem granted_inWindow (limit counted : Nat) (readings : List Int) :
    granted readings (inWindow limit counted readings.length) = readings.take (limit - counted) := by
  induction readings generalizing counted with
  | nil => simp [granted]
  | cons reading readings ih =>
    rw [List.length_cons, inWindow_succ, granted_cons, ih]
    by_cases hroom : counted + 1 ≤ limit
    · have hlimit : limit - counted = limit - (counted + 1) + 1 := by omega
      simp [hroom, hlimit]
    · have hlimit : limit - counted = 0 := by omega
      simp [hroom, hlimit, Nat.sub_succ]

/-- In the first window the first requests pass, and after it windows start anew. -/
theorem grantedInWindows_cons (limit : Nat) (length start : Int) (later : List Int) :
    grantedInWindows limit length (start :: later) =
      (start :: later.takeWhile (isWithin start length)).take limit ++
        grantedInWindows limit length (later.dropWhile (isWithin start length)) := by
  have hsplit : start :: later = (start :: later.takeWhile (isWithin start length)) ++
      later.dropWhile (isWithin start length) := by
    rw [List.cons_append, List.takeWhile_append_dropWhile]
  unfold grantedInWindows
  rw [fixedWindows]
  conv_lhs => rw [hsplit]
  rw [granted_append (by simp [inWindow]), ← List.length_cons, granted_inWindow, Nat.sub_zero]

/-- The window after the first one starts a length of a window later, or more. -/
theorem le_of_mem_dropWhile (hsorted : later.Pairwise (· ≤ ·)) :
    ∀ reading ∈ later.dropWhile (isWithin start length), start + length ≤ reading := by
  have hrest := hsorted.sublist (List.dropWhile_sublist (isWithin start length))
  cases hdrop : later.dropWhile (isWithin start length) with
  | nil => simp
  | cons next rest =>
    have hnext : ¬isWithin start length next = true := by
      have hhead := List.head_dropWhile_not (isWithin start length) (l := later) (by simp [hdrop])
      simpa [hdrop] using hhead
    rw [isWithin, decide_eq_true_eq] at hnext
    rw [hdrop, List.pairwise_cons] at hrest
    rw [List.forall_mem_cons]
    exact ⟨by omega, fun reading hmem => by have := hrest.1 reading hmem; omega⟩

/-- If no request comes before a span of the length of a window, all that pass in it belong to the
first window. -/
theorem countP_grantedInWindows_of_le (limit : Nat) (length : Int)
    (hsorted : readings.Pairwise (· ≤ ·)) (hfrom : ∀ reading ∈ readings, time ≤ reading) :
    (grantedInWindows limit length readings).countP (isDuring time length) ≤ limit := by
  cases readings with
  | nil => simp [grantedInWindows, granted]
  | cons start later =>
    have hafter : (grantedInWindows limit length (later.dropWhile (isWithin start length))).countP
        (isDuring time length) = 0 := by
      rw [List.countP_eq_zero]
      intro reading hmem hduring
      have hend := le_of_mem_dropWhile (List.pairwise_cons.mp hsorted).2 reading
        (granted_subset _ _ hmem)
      have hstart := hfrom start List.mem_cons_self
      have hbefore := (of_decide_eq_true hduring).2
      omega
    rw [grantedInWindows_cons, List.countP_append, hafter, Nat.add_zero]
    exact Nat.le_trans List.countP_le_length (List.length_take_le _ _)

/-- A window that starts before a span loses a place to the request that starts it. -/
theorem countP_take_cons_of_lt (hbefore : start < time) (limit : Nat) (length : Int)
    (inside : List Int) :
    ((start :: inside).take limit).countP (isDuring time length) ≤ limit - 1 := by
  cases limit with
  | zero => simp
  | succ limit =>
    have hstart : ¬isDuring time length start = true := by simp [isDuring, Int.not_le.mpr hbefore]
    rw [List.take_succ_cons, List.countP_cons_of_neg hstart]
    exact Nat.le_trans List.countP_le_length (List.length_take_le _ _)

/-- A window whose requests all come before a span takes no part in it. -/
theorem countP_take_of_lt {inside : List Int} (hbefore : ∀ reading ∈ inside, reading < time)
    (limit : Nat) (length : Int) : (inside.take limit).countP (isDuring time length) = 0 := by
  rw [List.countP_eq_zero]
  intro reading hmem hduring
  exact Int.not_le.mpr (hbefore reading (List.mem_of_mem_take hmem)) (of_decide_eq_true hduring).1

/-- The requests that pass in a span of the length of a window belong to two windows at most. Of
these the first one starts before the span, with a request that passes. -/
theorem countP_grantedInWindows_le (hsorted : readings.Pairwise (· ≤ ·)) :
    (grantedInWindows limit length readings).countP (isDuring time length) ≤ 2 * limit - 1 := by
  induction readings using fixedWindows.induct length with
  | case1 => simp [grantedInWindows, granted]
  | case2 start later ih =>
    obtain ⟨hstart, hlater⟩ := List.pairwise_cons.mp hsorted
    have houtside := hlater.sublist (List.dropWhile_sublist (isWithin start length))
    by_cases htime : time ≤ start
    · have hfrom : ∀ reading ∈ start :: later, time ≤ reading :=
        List.forall_mem_cons.mpr
          ⟨htime, fun reading hmem => Int.le_trans htime (hstart reading hmem)⟩
      have hcount := countP_grantedInWindows_of_le limit length hsorted hfrom
      omega
    rw [grantedInWindows_cons, List.countP_append]
    by_cases hnext : ∀ reading ∈ later.dropWhile (isWithin start length), time ≤ reading
    · have hfirst := countP_take_cons_of_lt (Int.not_le.mp htime) limit length
        (later.takeWhile (isWithin start length))
      have hrest := countP_grantedInWindows_of_le limit length houtside hnext
      omega
    · -- The span begins after the start of the next window, so it does not meet this one.
      obtain ⟨next, hmem, hbefore⟩ :
          ∃ next ∈ later.dropWhile (isWithin start length), next < time := by
        simpa only [not_forall, exists_prop, Int.not_le] using hnext
      have hinside : ∀ reading ∈ later.takeWhile (isWithin start length), reading < time := by
        rw [← List.takeWhile_append_dropWhile (p := isWithin start length) (l := later),
          List.pairwise_append] at hlater
        exact fun reading hreading =>
          Int.lt_of_le_of_lt (hlater.2.2 reading hreading next hmem) hbefore
      have hfirst := countP_take_of_lt
        (List.forall_mem_cons.mpr ⟨Int.not_le.mp htime, hinside⟩) limit length
      have hrest := ih houtside
      omega

end

variable {limiter : RateLimiter} {client : Net.IpAddress} {first : Check}
  {checks after : List Check}

/-- The readings of a client's requests do not decrease. -/
theorem pairwise_readingsOf (hclock : Chronological checks) :
    (readingsOf client checks).Pairwise (· ≤ ·) :=
  List.pairwise_map.mpr (hclock.sublist List.filter_sublist)

/-- A request that passes is the first of those that do. -/
theorem passing_cons (limiter : RateLimiter) (check : Check) (checks : List Check) :
    limiter.passing (check :: checks) =
      if (limiter.check check.client check.now).1 then
        check :: (limiter.check check.client check.now).2.passing checks
      else (limiter.check check.client check.now).2.passing checks := rfl

/-- The requests of a client that pass are those to which the answer is that they do. -/
theorem readingsOf_passing (limiter : RateLimiter) (client : Net.IpAddress) (checks : List Check) :
    readingsOf client (limiter.passing checks) =
      granted (readingsOf client checks) (limiter.answersTo client checks) := by
  induction checks generalizing limiter with
  | nil => rfl
  | cons check checks ih =>
    rw [passing_cons]
    by_cases hself : check.client = client
    · rw [answersTo_cons_self hself, readingsOf_cons_self hself, granted_cons, ← ih, hself]
      split
      · rw [readingsOf_cons_self hself]
      · rfl
    · rw [answersTo_cons_other hself, readingsOf_cons_other hself, ← ih]
      split
      · rw [readingsOf_cons_other hself]
      · rfl

/-- A request starts a window exactly if it finds none in which it would count. -/
theorem startsWindow_iff :
    limiter.StartsWindow first ↔ limiter.windowAt first.client first.now = ⟨first.now, 0⟩ := by
  have hafter : (limiter.check first.client first.now).2.windows[first.client]? =
      some ((limiter.tidied first.now).windowAt first.client first.now).counted :=
    Std.HashMap.getElem?_insert_self
  rw [StartsWindow, hafter, windowAt_tidied (Int.le_refl _), Option.some.injEq]
  constructor
  · intro h
    obtain ⟨hstarted, hcount⟩ := Window.mk.inj h
    exact congrArg₂ Window.mk hstarted (Nat.succ.inj hcount)
  · intro h
    rw [h]
    rfl

/-- A request starts a window exactly if it is alone in the window that it joins. -/
theorem Remembers.startsWindow_iff {time : Int} {readings : List Int}
    (h : limiter.Remembers first.client time readings) (htime : time ≤ first.now.reading) :
    limiter.StartsWindow first ↔
      joined limiter.length.nanoseconds readings first.now.reading = [first.now.reading] := by
  rw [RateLimiter.startsWindow_iff]
  cases h with
  | nothing hunseen => simp [hunseen.windowAt, joined]
  | @window window later hwindow hstarted hcount =>
    have hwithin : isWithin window.started.reading limiter.length.nanoseconds first.now.reading =
        !window.isOver limiter.length first.now := isWithin_eq (Int.le_trans hstarted htime)
    rw [hwindow first.now htime, Window.asOf, joined, hwithin]
    cases window.isOver limiter.length first.now with
    | true => simp
    | false =>
      -- The request joins a window that counts requests already.
      have hused : window ≠ ⟨first.now, 0⟩ := by
        rintro rfl
        cases hcount
      simp [hused]

/-- After requests to a new limiter, the next one starts a window exactly if it is alone in the last
window. -/
theorem startsWindow_counting_iff (hunseen : limiter.Unseen first.client)
    (hclock : Chronological (checks ++ [first])) :
    (limiter.counting checks).StartsWindow first ↔
      lastWindow limiter.length.nanoseconds (readingsOf first.client (checks ++ [first])) =
        [first.now.reading] := by
  obtain ⟨hbefore, -, hlast⟩ := List.pairwise_append.mp hclock
  have hknown := remembers_counting hunseen hbefore
    fun earlier hmem => hlast earlier hmem first List.mem_cons_self
  rw [hknown.startsWindow_iff (Int.le_refl _), (limit_length_counting limiter checks).2,
    readingsOf_concat_self rfl, lastWindow_concat]

/-- From a request on that starts a window, what passes is what fixed windows grant. -/
theorem StartsWindow.readingsOf_passing (h : limiter.StartsWindow first)
    (hclock : Chronological (first :: after)) :
    readingsOf first.client (limiter.passing (first :: after)) =
      grantedInWindows limiter.limit limiter.length.nanoseconds
        (readingsOf first.client (first :: after)) := by
  rw [RateLimiter.readingsOf_passing, answersTo_eq_of_anew rfl (startsWindow_iff.mp h) hclock,
    grantedInWindows]

/-- A new limiter lets each client have bursts of requests that are bounded wherever they are looked
at, as long as the clock is not set back. In any span of the length of a window at most twice as many
requests pass as the limit says. In a span that begins with the first request of a window at most as
many pass as the limit says. -/
theorem passing_in_span_bounded (limit : Nat) (length : Span) (client : Net.IpAddress)
    (hclock : Chronological checks) :
    let limiter : RateLimiter := { limit, length }
    (∀ time, (readingsOf client (limiter.passing checks)).countP
        (isDuring time length.nanoseconds) ≤ 2 * limit) ∧
      ∀ before first after, checks = before ++ first :: after → first.client = client →
        (limiter.counting before).StartsWindow first →
        (readingsOf client ((limiter.counting before).passing (first :: after))).countP
          (isDuring first.now.reading length.nanoseconds) ≤ limit := by
  intro limiter
  constructor
  · intro time
    have hunseen : limiter.Unseen client := Std.HashMap.getElem?_empty
    have hcount : (grantedInWindows limit length.nanoseconds (readingsOf client checks)).countP
        (isDuring time length.nanoseconds) ≤ 2 * limit - 1 :=
      countP_grantedInWindows_le (pairwise_readingsOf hclock)
    rw [readingsOf_passing, hunseen.answersTo_eq hclock, ← grantedInWindows]
    exact Nat.le_trans hcount (Nat.sub_le _ _)
  · rintro before first after rfl rfl hstarts
    obtain ⟨hlimit, hlength⟩ := limit_length_counting limiter before
    have honwards : Chronological (first :: after) := (List.pairwise_append.mp hclock).2.1
    have hsorted : (readingsOf first.client (first :: after)).Pairwise (· ≤ ·) :=
      pairwise_readingsOf honwards
    rw [hstarts.readingsOf_passing honwards, hlimit, hlength]
    refine countP_grantedInWindows_of_le limit length.nanoseconds hsorted ?_
    rw [readingsOf_cons_self rfl] at hsorted ⊢
    rw [List.forall_mem_cons]
    exact ⟨Int.le_refl _, (List.pairwise_cons.mp hsorted).1⟩

/-- A client sends six requests, of which two pass in ten nanoseconds. The fourth one starts its
second window. -/
def burst : List Check :=
  [⟨.v4 1, ⟨0, 21, by decide⟩⟩, ⟨.v4 1, ⟨0, 30, by decide⟩⟩, ⟨.v4 1, ⟨0, 30, by decide⟩⟩,
    ⟨.v4 1, ⟨0, 31, by decide⟩⟩, ⟨.v4 1, ⟨0, 32, by decide⟩⟩, ⟨.v4 1, ⟨0, 33, by decide⟩⟩]

/-- Of the four requests that pass, three come within ten nanoseconds, of which two come in the second
window. -/
theorem passing_in_span_bounded_burst :
    let limiter : RateLimiter := { limit := 2, length := ⟨10⟩ }
    let first : Check := ⟨.v4 1, ⟨0, 31, by decide⟩⟩
    Chronological burst ∧ readingsOf (.v4 1) (limiter.passing burst) = [21, 30, 31, 32] ∧
      (readingsOf (.v4 1) (limiter.passing burst)).countP (isDuring 30 10) ≤ 4 ∧
      (limiter.counting (burst.take 3)).StartsWindow first ∧
      (readingsOf (.v4 1) ((limiter.counting (burst.take 3)).passing (first :: burst.drop 4))).countP
        (isDuring 31 10) ≤ 2 := by
  intro limiter first
  have hclock : Chronological burst := by decide
  have hunseen : limiter.Unseen (.v4 1) := Std.HashMap.getElem?_empty
  have hreadings : readingsOf (.v4 1) burst = [21, 30, 30, 31, 32, 33] := by decide
  have hstarts : (limiter.counting (burst.take 3)).StartsWindow first :=
    (startsWindow_counting_iff hunseen (by decide)).mpr (by decide)
  obtain ⟨hspan, hwindow⟩ := passing_in_span_bounded 2 ⟨10⟩ (.v4 1) hclock
  refine ⟨hclock, ?_, hspan 30, hstarts,
    hwindow (burst.take 3) first (burst.drop 4) rfl rfl hstarts⟩
  rw [readingsOf_passing, hunseen.answersTo_eq hclock, hreadings]
  simp [limiter, granted, fixedWindows, isWithin, inWindow, List.range_succ]

end ForwardProxy.RateLimiter
