import ForwardProxy.Proofs.Time.Civil
import ForwardProxy.Proofs.Time.Stamp

/-!
# The instants of stamps

A stamp tells a date and a time in a year if all its numbers are in range and the date exists in
that year on the weekday of the stamp. Then the layouts that fit it, with these digits for this
year, read it as the instant at which a clock shows that date and time. Otherwise they read
nothing.
-/

namespace ForwardProxy.Time

open Text

/-- A guard lets through what comes after it, or nothing. -/
theorem guard_bind_eq {α : Type} (p : Prop) [Decidable p] (next : Option α) :
    ((guard p : Option Unit).bind fun _ => next) = if p then next else none := by
  unfold guard
  split <;> rfl

namespace Stamp

variable (stamp : Stamp)

/-- The date in a year. -/
def date (year : Int) : Date := ⟨year, stamp.month, stamp.day⟩

/-- What a clock shows at the instant of a stamp. In a leap second it still shows the second
before. -/
def civil (year : Int) : Civil where
  date := stamp.date year
  hour := stamp.hour
  minute := stamp.minute
  second := min stamp.second 59

/-- The stamp tells a date and a time in a year. -/
structure Tells (year : Int) : Prop where
  /-- The numbers of the stamp are in range. -/
  inRange : stamp.InRange
  /-- The date exists. -/
  date : (stamp.date year).IsValid
  /-- The date falls on the weekday of the stamp. -/
  weekday : Weekday.ofDayNumber (stamp.date year).dayNumber = stamp.weekday

/-- At the instant a clock that is ahead of universal time shows what the stamp tells. -/
structure IsShown (year ahead : Int) (instant : Instant) : Prop where
  /-- The second is that of the stamp. -/
  seconds : instant.seconds + ahead = (stamp.civil year).seconds
  /-- The second has just begun, or the leap second in it. -/
  nanos : instant.nanos = if stamp.second = 60 then perSecond else 0

variable {stamp} {year ahead : Int}

/-- The clock then shows an existing date and time. -/
theorem Tells.civil_isValid (h : stamp.Tells year) : (stamp.civil year).IsValid :=
  ⟨h.date, h.inRange.hour, h.inRange.minute, Nat.min_le_right _ _⟩

/-- What the clock shows at the instant of a stamp is what the stamp tells. -/
theorem Tells.civil_eq (h : stamp.Tells year) {instant : Instant}
    (hshown : stamp.IsShown year ahead instant) : instant.civil ahead = stamp.civil year :=
  h.civil_isValid.civil_eq hshown.seconds

/-- The fields of a stamp make up an instant if the date exists and has the weekday. -/
theorem instant?_fill (hsecond : stamp.second ≤ 60) (fields : DateFields) :
    (stamp.fill year fields).instant? =
      if ((stamp.date year).IsValid ∧ firstYear ≤ year ∧ year ≤ lastYear) ∧
          Weekday.ofDayNumber (stamp.date year).dayNumber = stamp.weekday ∧
          (-86400 < fields.offset ∧ fields.offset < 86400) then
        Instant.ofParts? ((stamp.civil year).seconds - fields.offset)
          (if stamp.second = 60 then perSecond else 0)
      else none := by
  have hparts : (if stamp.second = 60 then (59, perSecond) else (stamp.second, 0)) =
      (min stamp.second 59, if stamp.second = 60 then perSecond else 0) := by
    split
    · next heq => rw [heq]; rfl
    · rw [Nat.min_eq_left (by omega)]
  have hguards : (stamp.fill year fields).instant? =
      (guard ((stamp.date year).IsValid ∧ firstYear ≤ year ∧ year ≤ lastYear) : Option Unit).bind
        fun _ => (guard (Weekday.ofDayNumber (stamp.date year).dayNumber = stamp.weekday) :
          Option Unit).bind fun _ =>
            (guard (-86400 < fields.offset ∧ fields.offset < 86400) : Option Unit).bind fun _ =>
              let parts := if stamp.second = 60 then (59, perSecond) else (stamp.second, 0)
              Instant.ofParts? ((stamp.date year).dayNumber * 86400 +
                (stamp.hour * 3600 + stamp.minute * 60 + parts.1 : Nat) - fields.offset) parts.2 :=
    rfl
  rw [hguards, hparts]
  rw [guard_bind_eq, guard_bind_eq, guard_bind_eq]
  simp only [ite_and]
  rfl

/-- What a stamp tells in a year of four digits makes up an instant, on every clock that is less
than a day ahead or behind by whole minutes. -/
theorem exists_instant?_fill (h : stamp.Tells year) (hyear : 0 ≤ year ∧ year ≤ 9999)
    {fields : DateFields} (hoffset : -86400 < fields.offset ∧ fields.offset < 86400)
    (hminutes : fields.offset % 60 = 0) :
    ∃ instant, (stamp.fill year fields).instant? = some instant ∧
      stamp.IsShown year fields.offset instant := by
  have hbounds := h.civil_isValid.dayNumber_bounds hyear
  have hcalendar : firstYear ≤ year ∧ year ≤ lastYear := by
    simp only [firstYear, lastYear]
    omega
  obtain ⟨-, hhour, hminute, hsecond⟩ := h.inRange
  have hparts : IsInstant ((stamp.civil year).seconds - fields.offset)
      (if stamp.second = 60 then perSecond else 0) := by
    simp only [IsInstant, firstSecond, lastSecond, perSecond, Civil.seconds, civil] at hbounds ⊢
    split <;> omega
  refine ⟨⟨_, _, hparts⟩, ?_, ⟨Int.sub_add_cancel _ _, rfl⟩⟩
  rw [instant?_fill hsecond, if_pos ⟨⟨h.date, hcalendar⟩, h.weekday, hoffset⟩]
  exact dif_pos hparts

/-- A stamp that is in range but tells no date makes up no instant. -/
theorem instant?_fill_eq_none (hrange : stamp.InRange) (h : ¬stamp.Tells year)
    (fields : DateFields) : (stamp.fill year fields).instant? = none := by
  rw [instant?_fill hrange.second, if_neg]
  rintro ⟨⟨hdate, -⟩, hweekday, -⟩
  exact h ⟨hrange, hdate, hweekday⟩

/-! ### Layouts -/

variable {name separator number : Piece} {sign : Char}

/-- A layout that fits a stamp reads it as the instant that it tells in the year. -/
theorem exists_instant?_of_tells (h : stamp.Tells year) (hyear : 0 ≤ year ∧ year ≤ 9999)
    (hfits : stamp.Fits name separator number sign year) :
    ∃ instant, (layoutOf name separator number).instant? (stamp.text sign) = some instant ∧
      stamp.IsShown year 0 instant := by
  have hclock : ∃ instant, (stamp.fill year {}).instant? = some instant ∧
      stamp.IsShown year 0 instant :=
    exists_instant?_fill h hyear ⟨by decide, by decide⟩ (by decide)
  obtain ⟨instant, hinstant, hshown⟩ := hclock
  refine ⟨instant, ?_, hshown⟩
  rw [Layout.instant?, (takes h.inRange hfits []).read_eq, Option.bind_some, hinstant]

/-- All layouts that fit a stamp with the same year read it in the same way. -/
theorem instant?_eq_of_fits {otherName otherSeparator otherNumber : Piece} {otherSign : Char}
    (hfits : stamp.Fits name separator number sign year)
    (hother : stamp.Fits otherName otherSeparator otherNumber otherSign year) :
    (layoutOf name separator number).instant? (stamp.text sign) =
      (layoutOf otherName otherSeparator otherNumber).instant? (stamp.text otherSign) := by
  rw [Layout.instant?, Layout.instant?]
  by_cases hrange : stamp.InRange
  · rw [(takes hrange hfits []).read_eq, (takes hrange hother []).read_eq]
  · rw [Layout.read_of_refuses (refuses hrange hfits),
      Layout.read_of_refuses (refuses hrange hother)]

/-- A layout that fits a stamp reads nothing if the stamp tells nothing in the year. -/
theorem instant?_of_not_tells (h : ¬stamp.Tells year)
    (hfits : stamp.Fits name separator number sign year) :
    (layoutOf name separator number).instant? (stamp.text sign) = none := by
  rw [Layout.instant?]
  by_cases hrange : stamp.InRange
  · rw [(takes hrange hfits []).read_eq, Option.bind_some, instant?_fill_eq_none hrange h]
  · rw [Layout.read_of_refuses (refuses hrange hfits), Option.bind_none]

end Stamp

/-! ### Texts with a zone -/

namespace HttpDate

variable {text zone : List Char}

/-- The last space of a date with a zone after it is that before the zone. -/
theorem cutAtLastSpace?_append (text : List Char) (h : ' ' ∉ zone) :
    cutAtLastSpace? (text ++ ' ' :: zone) = some (text, zone) := by
  have hzone : ((text ++ ' ' :: zone).reverse.takeWhile (· ≠ ' ')).reverse = zone := by
    have hletters : ∀ c ∈ zone.reverse, decide (c ≠ ' ') = true := by
      intro c hc
      rw [List.mem_reverse] at hc
      simpa using fun heq : c = ' ' => h (heq ▸ hc)
    rw [List.reverse_append, List.reverse_cons, List.append_assoc,
      List.takeWhile_append_of_pos hletters]
    simp
  have hlength : (text ++ ' ' :: zone).length - zone.length - 1 = text.length := by
    simp only [List.length_append, List.length_cons]
    omega
  have hne : zone.length ≠ (text ++ ' ' :: zone).length := by
    simp only [List.length_append, List.length_cons]
    omega
  simp only [cutAtLastSpace?]
  rw [hzone, hlength, if_neg hne, List.take_left]

/-- With the name of a zone a date is read in the first layout without it that reads it, or else in
the one with an offset. -/
theorem parse?_of_name (text : List Char) (h : ∀ c ∈ zone, c.isAlpha = true) :
    parse? (text ++ ' ' :: zone) =
      (namedZone.findSome? (Layout.instant? · text)).or
        (numericZone.instant? (text ++ ' ' :: zone)) := by
  have hspace : ' ' ∉ zone := fun hmem => absurd (h ' ' hmem) (by decide)
  have hname : isZoneName zone = true := List.all_eq_true.mpr h
  simp only [parse?, cutAtLastSpace?_append text hspace, hname, if_true]

/-- With anything but the name of a zone a date is read in the layout with an offset only. -/
theorem parse?_of_not_name (text : List Char) (hspace : ' ' ∉ zone)
    (h : ∃ c ∈ zone, c.isAlpha = false) :
    parse? (text ++ ' ' :: zone) = numericZone.instant? (text ++ ' ' :: zone) := by
  obtain ⟨c, hmem, hc⟩ := h
  have hname : isZoneName zone = false := List.all_eq_false.mpr ⟨c, hmem, by simp [hc]⟩
  simp only [parse?, cutAtLastSpace?_append text hspace, hname, Bool.false_eq_true, if_false,
    Option.none_or]

end HttpDate

end ForwardProxy.Time
