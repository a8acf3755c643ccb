import ForwardProxy.Proofs.Time.Style

/-!
# Dates that are written and read back

Whatever is written in a style is read as the instant at which a clock begins to show it. No layout
that is tried before the one of the style takes it for something else. The clock shows universal
time if a zone is named, and it may be ahead of that or behind if there is an offset.
-/

namespace ForwardProxy.Time

open Text

/-- At the instant a clock that is ahead of universal time begins to show a date and a time. -/
structure Civil.BeginsAt (civil : Civil) (ahead : Int) (instant : Instant) : Prop where
  /-- The clock shows the date and the time. -/
  shown : instant.civil ahead = civil
  /-- The second is that of the date and the time, less what the clock is ahead. -/
  seconds : instant.seconds = civil.seconds - ahead
  /-- The second has just begun. -/
  nanos : instant.nanos = 0

/-- A date and a time on a clock begin at one instant only. -/
theorem Civil.BeginsAt.unique {civil : Civil} {ahead : Int} {instant other : Instant}
    (h : civil.BeginsAt ahead instant) (hother : civil.BeginsAt ahead other) : instant = other :=
  Instant.ext (h.seconds.trans hother.seconds.symm) (h.nanos.trans hother.nanos.symm)

/-- What is written of a date and a time is read as these. -/
structure Civil.IsReadBack (civil : Civil) : Prop where
  /-- What is written in a style that covers the year, with the name of a zone, is read as universal
  time. -/
  named : ∀ style : Style, style.Covers civil.date.year → ∀ zone : List Char,
    (∀ c ∈ zone, c.isAlpha = true) →
      ∃ instant, HttpDate.parse? (style.write civil ++ ' ' :: zone) = some instant ∧
        civil.BeginsAt 0 instant
  /-- No layout that is tried before the one of the style reads what is written with the name of a
  zone. -/
  before : ∀ style : Style, style.Covers civil.date.year →
    ∀ layout ∈ HttpDate.namedZone.takeWhile (· ≠ style.layout),
      Layout.read {} layout (style.write civil) = none
  /-- What is written with an offset is read as the time of a clock that is ahead by this. -/
  offset : ∀ offset : Offset,
    ∃ instant, HttpDate.parse? (Style.spaced.write civil ++ ' ' :: offset.text) = some instant ∧
      civil.BeginsAt offset.ahead instant
  /-- No layout is tried for what is written with an offset but the one for offsets. -/
  only : ∀ offset : Offset, HttpDate.parse? (Style.spaced.write civil ++ ' ' :: offset.text) =
    HttpDate.numericZone.instant? (Style.spaced.write civil ++ ' ' :: offset.text)
  /-- The offset of no time means the same as every name. -/
  zero : ∀ style : Style, style.Covers civil.date.year → ∀ zone : List Char,
    (∀ c ∈ zone, c.isAlpha = true) →
      HttpDate.parse? (style.write civil ++ ' ' :: zone) =
        HttpDate.parse? (Style.spaced.write civil ++ " +0000".toList)

namespace Style

variable {civil : Civil}

/-- What shows the stamp of a date and a time begins these. -/
theorem beginsAt_of_isShown (style : Style) (h : civil.IsValid) {ahead : Int} {instant : Instant}
    (hshown : (style.stamp h).IsShown civil.date.year ahead instant) :
    civil.BeginsAt ahead instant := by
  have hcivil : (style.stamp h).civil civil.date.year = civil :=
    Civil.ext rfl rfl rfl (Nat.min_eq_left h.second)
  have hsecond : (style.stamp h).second ≠ 60 := by
    have hsecond : (style.stamp h).second ≤ 59 := h.second
    omega
  obtain ⟨hseconds, hnanos⟩ := hshown
  rw [hcivil] at hseconds
  rw [if_neg hsecond] at hnanos
  exact ⟨h.civil_eq hseconds, by omega, hnanos⟩

/-- The layout of a style reads what is written in it. -/
theorem exists_instant?_layout (style : Style) (h : civil.IsValid)
    (hyear : style.Covers civil.date.year) :
    ∃ instant, style.layout.instant? (style.write civil) = some instant ∧
      civil.BeginsAt 0 instant := by
  have hread : ∃ instant, style.layout.instant? (style.write civil) = some instant ∧
      (style.stamp h).IsShown civil.date.year 0 instant := by
    rw [style.write_eq h]
    rcases style with _ | ⟨full, short⟩
    · exact Stamp.exists_instant?_of_tells (spaced.tells h) hyear (fits_spaced h hyear)
    · exact Stamp.exists_instant?_of_tells ((hyphenated full short).tells h) hyear.bounds
        (fits_hyphenated full short h hyear)
  obtain ⟨instant, hinstant, hshown⟩ := hread
  exact ⟨instant, hinstant, style.beginsAt_of_isShown h hshown⟩

/-- What is written in a style with the name of a zone is read by the layout of the style and no
other. -/
theorem parse?_write (style : Style) (h : civil.IsValid) (hyear : style.Covers civil.date.year)
    {zone : List Char} (hzone : ∀ c ∈ zone, c.isAlpha = true) :
    HttpDate.parse? (style.write civil ++ ' ' :: zone) =
      style.layout.instant? (style.write civil) := by
  obtain ⟨instant, hinstant, -⟩ := style.exists_instant?_layout h hyear
  have hmem : style.layout ∈ HttpDate.namedZone := by
    rcases style with _ | ⟨full, short⟩
    · decide
    · cases full <;> cases short <;> decide
  have hfound : HttpDate.namedZone.findSome? (Layout.instant? · (style.write civil)) =
      some instant := by
    refine findSome?_of_first hmem hinstant fun layout hbefore => ?_
    rw [style.write_eq h, Layout.instant?,
      Layout.read_of_refuses (style.refuses_of_mem_before h hyear hbefore), Option.bind_none]
  rw [HttpDate.parse?_of_name _ hzone, hfound, Option.some_or, hinstant]

/-- The layout for an offset fills in what is written with one. -/
theorem instant?_numericZone (h : civil.IsValid) (hyear : spaced.Covers civil.date.year)
    (offset : Offset) :
    HttpDate.numericZone.instant? (spaced.write civil ++ ' ' :: offset.text) =
      ((spaced.stamp h).fill civil.date.year { offset := offset.ahead }).instant? := by
  have hstamp := Stamp.takes (spaced.tells h).inRange (fits_spaced h hyear)
    ([' '] ++ offset.text ++ [])
  have hoffset := Layout.takes_cons (takes_space (offset.startsPlain_text []))
    (Layout.takes_one (offset.takes []))
  have hread :
      Layout.read {} HttpDate.numericZone ((spaced.stamp h).text ' ' ++ ' ' :: offset.text) =
        some ((spaced.stamp h).fill civil.date.year { offset := offset.ahead }) :=
    (hstamp.append hoffset).read_eq {}
  rw [spaced.write_eq h, Layout.instant?]
  exact congrArg (Option.bind · _) hread

/-- For what is written with an offset no layout is tried but the one for offsets. -/
theorem parse?_offset (civil : Civil) (offset : Offset) :
    HttpDate.parse? (spaced.write civil ++ ' ' :: offset.text) =
      HttpDate.numericZone.instant? (spaced.write civil ++ ' ' :: offset.text) :=
  HttpDate.parse?_of_not_name _ offset.text_not_name.1 offset.text_not_name.2

/-- What is written with an offset is read as the instant at which a clock that is ahead by it shows
the date and the time. -/
theorem exists_parse?_offset (h : civil.IsValid) (hyear : spaced.Covers civil.date.year)
    (offset : Offset) :
    ∃ instant, HttpDate.parse? (spaced.write civil ++ ' ' :: offset.text) = some instant ∧
      civil.BeginsAt offset.ahead instant := by
  obtain ⟨hday, hminutes⟩ := offset.ahead_bounds
  have hfilled : ∃ instant,
      ((spaced.stamp h).fill civil.date.year { offset := offset.ahead }).instant? = some instant ∧
        (spaced.stamp h).IsShown civil.date.year offset.ahead instant :=
    Stamp.exists_instant?_fill (spaced.tells h) hyear hday hminutes
  obtain ⟨instant, hinstant, hshown⟩ := hfilled
  refine ⟨instant, ?_, spaced.beginsAt_of_isShown h hshown⟩
  rw [parse?_offset, instant?_numericZone h hyear, hinstant]

end Style

/-- Whatever is written of a date that exists in a year of four digits, and of a time of day, is
read back as this date and time. -/
theorem written_date_is_read_back {civil : Civil} (h : civil.IsValid)
    (hyear : 0 ≤ civil.date.year ∧ civil.date.year ≤ 9999) : civil.IsReadBack where
  named style hcovers zone hzone := by
    rw [style.parse?_write h hcovers hzone]
    exact style.exists_instant?_layout h hcovers
  before style hcovers layout hmem := by
    rw [style.write_eq h]
    exact Layout.read_of_refuses (style.refuses_of_mem_before h hcovers hmem) {}
  offset := Style.exists_parse?_offset h hyear
  only := Style.parse?_offset civil
  zero style hcovers zone hzone := by
    have htext : (" +0000".toList) = ' ' :: (Offset.mk false 0 0 (by decide) (by decide)).text := by
      decide
    have hoffset := Style.exists_parse?_offset h hyear (Offset.mk false 0 0 (by decide) (by decide))
    obtain ⟨other, hother, hbeginsOther⟩ := hoffset
    obtain ⟨instant, hinstant, hbegins⟩ := style.exists_instant?_layout h hcovers
    rw [style.parse?_write h hcovers hzone, hinstant, htext, hother, hbegins.unique hbeginsOther]

/-- Half a minute before the end of a leap day. -/
def leapDayEnd : Civil := ⟨⟨2000, 2, 29⟩, 23, 59, 30⟩

/-- The leap day is read with a full weekday and two digits for the year, and on a clock that is
behind. -/
theorem written_date_is_read_back_leapDayEnd :
    (∃ instant, HttpDate.parse? "Tuesday, 29-Feb-00 23:59:30 GMT".toList = some instant ∧
      leapDayEnd.BeginsAt 0 instant) ∧
    ∃ instant, HttpDate.parse? "Tue, 29 Feb 2000 23:59:30 -0130".toList = some instant ∧
      leapDayEnd.BeginsAt (-5400) instant := by
  have hvalid : leapDayEnd.IsValid := ⟨by decide, by decide, by decide, by decide⟩
  have hread : leapDayEnd.IsReadBack := written_date_is_read_back hvalid (by decide)
  have hcovers : (Style.hyphenated true true).Covers leapDayEnd.date.year := ⟨by decide, by decide⟩
  have hnamed : (Style.hyphenated true true).write leapDayEnd ++ ' ' :: "GMT".toList =
      "Tuesday, 29-Feb-00 23:59:30 GMT".toList := by decide
  have hbehind : Style.spaced.write leapDayEnd ++ ' ' :: (Offset.mk true 1 30 (by decide)
      (by decide)).text = "Tue, 29 Feb 2000 23:59:30 -0130".toList := by decide
  rw [← hnamed, ← hbehind]
  exact ⟨hread.named _ hcovers _ (List.all_eq_true.mp (by decide)), hread.offset _⟩

end ForwardProxy.Time
