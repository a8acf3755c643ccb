import ForwardProxy.Proofs.Time.StampInstant

/-!
# Styles of dates

A date and a time of day are written in five styles in front of the name of a zone, and in one of
these also in front of an offset. The styles with hyphens have the weekday in full or not, and four
digits for the year or two. What is written fits the layout of its style. The layouts that are tried
before this one refuse it.
-/

namespace ForwardProxy.Time

open Text

/-! ### Writing -/

/-- The first three letters of a month. -/
def monthName (month : Nat) : String := monthNames.getD (month - 1) ""

/-- The styles in which a date is written, up to the zone. -/
inductive Style where
  /-- A short weekday, spaces and four digits for the year. -/
  | spaced
  /-- Hyphens, a weekday in full or not, and two digits for the year or four. -/
  | hyphenated (full short : Bool)

namespace Style

/-- What stands between the parts of a date. -/
def sign : Style → Char
  | spaced => ' '
  | hyphenated _ _ => '-'

/-- The weekday as it is written. -/
def weekdayText : Style → Weekday → List Char
  | hyphenated true _, weekday => weekday.letters
  | _, weekday => weekday.shortLetters

/-- The year as it is written. -/
def yearText : Style → Int → List Char
  | hyphenated _ true, year => padded 2 (year.toNat % 100)
  | _, year => padded 4 year.toNat

/-- The years that can be told from how they are written. -/
def Covers : Style → Int → Prop
  | hyphenated _ true, year => 1970 ≤ year ∧ year ≤ 2069
  | _, year => 0 ≤ year ∧ year ≤ 9999

/-- A date and a time of day as they are written. -/
def write (style : Style) (civil : Civil) : List Char :=
  style.weekdayText civil.weekday ++ ", ".toList ++ padded 2 civil.date.day ++ [style.sign] ++
    (monthName civil.date.month).toList ++ [style.sign] ++ style.yearText civil.date.year ++
    " ".toList ++ padded 2 civil.hour ++ ":".toList ++ padded 2 civil.minute ++ ":".toList ++
    padded 2 civil.second

/-- The layout that is meant for a style. -/
def layout : Style → Layout
  | spaced => HttpDate.spaced
  | hyphenated full short =>
    HttpDate.hyphenated (if full then .weekday else .shortWeekday)
      (if short then .shortYear else .year)

end Style

/-- How far a clock is ahead of universal time, or behind it. -/
structure Offset where
  /-- The clock is behind. -/
  behind : Bool
  /-- The hours. -/
  hours : Nat
  /-- The minutes. -/
  minutes : Nat
  /-- The hours are fewer than those of a day. -/
  hours_le : hours ≤ 23
  /-- The minutes are fewer than those of an hour. -/
  minutes_le : minutes ≤ 59

namespace Offset

/-- The offset as it is written. -/
def text (offset : Offset) : List Char :=
  (if offset.behind then '-' else '+') :: (padded 2 offset.hours ++ padded 2 offset.minutes)

/-- The seconds by which the clock is ahead. -/
def ahead (offset : Offset) : Int :=
  (if offset.behind then -1 else 1) * (offset.hours * 3600 + offset.minutes * 60 : Nat)

/-- A clock is ahead or behind by less than a day, and by whole minutes. -/
theorem ahead_bounds (offset : Offset) :
    (-86400 < offset.ahead ∧ offset.ahead < 86400) ∧ offset.ahead % 60 = 0 := by
  have hhours := offset.hours_le
  have hminutes := offset.minutes_le
  unfold ahead
  split <;> omega

/-- Hours and minutes are read one after the other. -/
theorem readHoursMinutes_eq_bind (text : List Char) :
    readHoursMinutes text = (readDigits 2 2 text).bind fun hours =>
      (readDigits 2 2 (hours.2.dropWhile fun c => c == ':' || isBlank c)).bind fun minutes =>
        (guard (minutes.1 ≤ 59) : Option Unit).bind fun _ =>
          some (((hours.1 * 3600 + minutes.1 * 60 : Nat) : Int), minutes.2) := rfl

/-- The hours and the minutes of an offset are read from their digits. -/
theorem readHoursMinutes_eq (offset : Offset) (rest : List Char) :
    readHoursMinutes (padded 2 offset.hours ++ (padded 2 offset.minutes ++ rest)) =
      some (((offset.hours * 3600 + offset.minutes * 60 : Nat) : Int), rest) := by
  have hhours : TwoDigits (padded 2 offset.hours) offset.hours :=
    twoDigits_padded (by have := offset.hours_le; omega)
  have hminutes : TwoDigits (padded 2 offset.minutes) offset.minutes :=
    twoDigits_padded (by have := offset.minutes_le; omega)
  have hdrop : (padded 2 offset.minutes ++ rest).dropWhile (fun c => c == ':' || isBlank c) =
      padded 2 offset.minutes ++ rest := by
    obtain ⟨c, tail, hcons, hdigit⟩ := hminutes.isNumeral.exists_cons
    have hcolon : c ≠ ':' := by
      rintro rfl
      cases hdigit
    rw [hcons, List.cons_append, List.dropWhile_cons_of_neg]
    simp [isBlank_of_isDigit hdigit, hcolon]
  have hread : readDigits 2 2 ((padded 2 offset.minutes ++ rest).dropWhile
      fun c => c == ':' || isBlank c) = some (offset.minutes, rest) := by
    rw [hdrop, hminutes.readDigits_eq (Nat.le_refl 2)]
  rw [readHoursMinutes_eq_bind, hhours.readDigits_eq (Nat.le_refl 2), Option.bind_some, hread,
    Option.bind_some, guard_bind_eq, if_pos offset.minutes_le]

/-- An offset starts with its sign. -/
theorem startsPlain_text (offset : Offset) (rest : List Char) :
    StartsPlain (offset.text ++ rest) := by
  refine startsPlain_cons ?_ _
  cases offset.behind <;> decide

/-- The piece for offsets takes an offset as it is written. -/
theorem takes (offset : Offset) (rest : List Char) :
    Piece.offset.Takes offset.text rest fun fields => { fields with offset := offset.ahead } := by
  have hdigits := offset.readHoursMinutes_eq rest
  have hread : readOffset (offset.text ++ rest) = some (offset.ahead, rest) := by
    rw [readOffset, (offset.startsPlain_text rest).trimStart_eq]
    cases hbehind : offset.behind <;> simp [text, ahead, hbehind, hdigits]
  intro fields
  rw [Piece.read, hread, Option.map_some]

/-- The text of an offset is no name of a zone, and one word. -/
theorem text_not_name (offset : Offset) :
    ' ' ∉ offset.text ∧ ∃ c ∈ offset.text, c.isAlpha = false := by
  constructor
  · have hdigits (n : Nat) : ' ' ∉ padded 2 n := fun hmem =>
      absurd ((isNumeral_padded 2 n).isDigit ' ' hmem) (by decide)
    have hsign : ' ' ≠ if offset.behind then '-' else '+' := by
      cases offset.behind <;> decide
    simp only [text, List.mem_cons, List.mem_append, not_or]
    exact ⟨hsign, hdigits _, hdigits _⟩
  · refine ⟨_, List.mem_cons_self, ?_⟩
    cases offset.behind <;> decide

end Offset

/-! ### Stamps of written dates -/

/-- The months from 1 to 12 are in the table under their names. -/
theorem isMonth_monthName {month : Nat} (hfirst : 1 ≤ month) (hlast : month ≤ 12) :
    IsMonth (monthName month).toList month := by
  have htable : ∀ month < 13, 1 ≤ month → (monthName month, month) ∈ monthTable := by decide
  exact ⟨_, htable month (by omega) hfirst, rfl⟩

namespace Style

variable {civil : Civil}

/-- What is written in a style, as a stamp. -/
def stamp (style : Style) (h : civil.IsValid) : Stamp where
  weekday := civil.weekday
  weekdayText := style.weekdayText civil.weekday
  isWeekday := by
    rcases style with _ | ⟨full, _⟩
    · exact .inl rfl
    · cases full
      · exact .inl rfl
      · exact .inr rfl
  day := civil.date.day
  day_lt := by
    have hlength := daysInMonth_le civil.date.year civil.date.month
    have hday := h.date.2.2.2
    omega
  month := civil.date.month
  monthText := (monthName civil.date.month).toList
  isMonth := isMonth_monthName h.date.1 h.date.2.1
  yearText := style.yearText civil.date.year
  hour := civil.hour
  hour_lt := by have := h.hour; omega
  minute := civil.minute
  minute_lt := by have := h.minute; omega
  second := civil.second
  second_lt := by have := h.second; omega

/-- The stamp of a style is written as the date and the time are. -/
theorem write_eq (style : Style) (h : civil.IsValid) :
    style.write civil = (style.stamp h).text style.sign := by
  simp only [write, Stamp.text, Stamp.dateText, Stamp.clockText, List.append_assoc]
  rfl

/-- The stamp of a style tells the date and the time in the year of the date. -/
theorem tells (style : Style) (h : civil.IsValid) :
    (style.stamp h).Tells civil.date.year where
  inRange := by
    have hlength := daysInMonth_le civil.date.year civil.date.month
    obtain ⟨-, -, hday, hlast⟩ := h.date
    have hsecond := h.second
    exact ⟨⟨hday, hlast.trans hlength⟩, h.hour, h.minute, hsecond.trans (by decide)⟩
  date := h.date
  weekday := rfl

/-- A year of four digits is written as a numeral. -/
theorem isNumeral_yearText {year : Int} (h : 0 ≤ year ∧ year ≤ 9999) :
    IsNumeral (padded 4 year.toNat) year.toNat ∧ (padded 4 year.toNat).length = 4 :=
  ⟨isNumeral_padded 4 _, length_padded (by decide) (by omega)⟩

/-- A style covers only years from 0 to 9999. -/
theorem Covers.bounds {style : Style} {year : Int} (h : style.Covers year) :
    0 ≤ year ∧ year ≤ 9999 := by
  rcases style with _ | ⟨full, _ | _⟩
  · exact h
  · exact h
  · obtain ⟨hfirst, hlast⟩ : 1970 ≤ year ∧ year ≤ 2069 := h
    omega

/-- The last two digits stand for a year from 1970 to 2069. -/
theorem pivoted_mod {year : Int} (h : 1970 ≤ year ∧ year ≤ 2069) :
    pivoted (year.toNat % 100) = year := by
  unfold pivoted
  split <;> omega

/-- The piece for up to four digits gives a year that is written with four. -/
theorem givesYear (style : Style) (h : civil.IsValid)
    (hdigits : style.yearText civil.date.year = padded 4 civil.date.year.toNat)
    (hyear : 0 ≤ civil.date.year ∧ civil.date.year ≤ 9999) :
    (style.stamp h).GivesYear .year civil.date.year := by
  have hnumeral : IsNumeral (style.stamp h).yearText civil.date.year.toNat ∧
      (style.stamp h).yearText.length = 4 := by
    have hyearText : (style.stamp h).yearText = padded 4 civil.date.year.toNat := hdigits
    rw [hyearText]
    exact isNumeral_yearText hyear
  have hgives := Stamp.givesYear_year hnumeral.1 (Nat.le_of_eq hnumeral.2)
  rwa [Int.toNat_of_nonneg hyear.1] at hgives

/-- The layout for spaces fits what is written with them. -/
theorem fits_spaced (h : civil.IsValid) (hyear : spaced.Covers civil.date.year) :
    (spaced.stamp h).Fits .shortWeekday .blanks .year ' ' civil.date.year where
  name := Stamp.namesWeekday_short rfl
  sign _ hrest := takes_space hrest
  digits := ⟨_, (isNumeral_yearText hyear).1⟩
  year := givesYear spaced h rfl hyear

/-- The layouts for hyphens fit what is written with these. -/
theorem fits_hyphenated (full short : Bool) (h : civil.IsValid)
    (hyear : (hyphenated full short).Covers civil.date.year) :
    ((hyphenated full short).stamp h).Fits (if full then .weekday else .shortWeekday)
      (.literal '-') (if short then .shortYear else .year) '-' civil.date.year := by
  have hname : ((hyphenated full short).stamp h).NamesWeekday
      (if full then .weekday else .shortWeekday) := by
    cases full
    · exact Stamp.namesWeekday_short rfl
    · exact Stamp.namesWeekday_weekday _
  cases short
  · exact Stamp.fits_hyphens hname (isNumeral_yearText hyear).1 (givesYear _ h rfl hyear)
  · have hdigits : TwoDigits ((hyphenated full true).stamp h).yearText
        (civil.date.year.toNat % 100) := twoDigits_padded (Nat.mod_lt _ (by decide))
    have hgives := Stamp.givesYear_shortYear hdigits
    rw [pivoted_mod hyear] at hgives
    exact Stamp.fits_hyphens hname hdigits.isNumeral hgives

/-! ### Layouts that are tried before -/

/-- The layouts that are tried before the one for hyphens are made for spaces, for short weekdays
where the weekday is in full, or for two digits where the year has four. -/
theorem mem_before (full short : Bool) :
    ∀ layout ∈ HttpDate.namedZone.takeWhile (· ≠ (hyphenated full short).layout),
      layout = HttpDate.spaced ∨
        (full = true ∧ layout ∈ [HttpDate.hyphenated .shortWeekday .shortYear,
          HttpDate.hyphenated .shortWeekday .year]) ∨
        (short = false ∧ (layout = HttpDate.hyphenated .weekday .shortYear ∨
          (full = false ∧ layout = HttpDate.hyphenated .shortWeekday .shortYear))) := by
  cases full <;> cases short <;> decide

/-- The layouts that are tried before that of a style refuse what is written in the style. -/
theorem refuses_of_mem_before (style : Style) (h : civil.IsValid)
    (hyear : style.Covers civil.date.year) {layout : Layout}
    (hmem : layout ∈ HttpDate.namedZone.takeWhile (· ≠ style.layout)) (rest : List Char) :
    layout.Refuses ((style.stamp h).text style.sign ++ rest) := by
  rcases style with _ | ⟨full, short⟩
  · have hnone : HttpDate.namedZone.takeWhile (· ≠ spaced.layout) = [] := by decide
    rw [hnone] at hmem
    cases hmem
  have hday := ((hyphenated full short).tells h).inRange.day
  rcases mem_before full short layout hmem with rfl | ⟨rfl, hshort⟩ | ⟨rfl, hname⟩
  · exact Stamp.refuses_spaced _ rest
  · have hfull : Spells ((hyphenated true short).stamp h).weekdayText civil.weekday.letters := rfl
    simp only [List.mem_cons, List.not_mem_nil, or_false] at hshort
    rcases hshort with rfl | rfl
    · exact Stamp.refuses_short hfull rest
    · exact Stamp.refuses_short hfull rest
  · obtain ⟨hnumeral, hlength⟩ := isNumeral_yearText hyear
    obtain ⟨front, back, first, second, hsplit, hfront, hback⟩ :=
      exists_twoDigits_append hnumeral hlength
    rcases hname with rfl | ⟨rfl, rfl⟩
    · exact Stamp.refuses_shortYear hday (Stamp.namesWeekday_weekday _) hsplit hfront hback rest
    · exact Stamp.refuses_shortYear hday (Stamp.namesWeekday_short rfl) hsplit hfront hback rest

end Style

end ForwardProxy.Time
