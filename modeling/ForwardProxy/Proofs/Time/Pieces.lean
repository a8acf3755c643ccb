import ForwardProxy.Proofs.Text.Numerals
import ForwardProxy.Time.HttpDate

/-!
# What the pieces of a layout take

A piece takes a text if it reads it from the front of what goes on in some way, whatever was read
before, and it refuses a text if it reads nothing from the front of it. Layouts take and refuse
texts piece by piece. Each piece takes what is written for its part of a date. Two-digit years and
full weekdays are also taken, up to some sign, by pieces that are meant for other texts.
-/

namespace ForwardProxy

namespace Text

/-- A text is a word in some letter case. -/
def Spells (text word : List Char) : Prop := text.map Char.toLower = word.map Char.toLower

/-- A text does not start with a blank. -/
def StartsPlain (text : List Char) : Prop := ∀ c ∈ text.head?, isBlank c = false

variable {text rest : List Char}

/-- A text that does not start with a blank has none to trim away in front. -/
theorem StartsPlain.trimStart_eq (h : StartsPlain text) : trimStart text = text := by
  cases text with
  | nil => rfl
  | cons c text => rw [trimStart, List.dropWhile_cons_of_neg (by simp [h c rfl])]

/-- A text starts with its first sign. -/
theorem startsPlain_cons {c : Char} (h : isBlank c = false) (rest : List Char) :
    StartsPlain (c :: rest) := by
  intro first hfirst
  obtain rfl : c = first := Option.some.inj hfirst
  exact h

instance (text : List Char) : Decidable (StartsPlain text) :=
  match text with
  | [] => isTrue fun _ hc => nomatch hc
  | c :: rest =>
    decidable_of_iff (isBlank c = false) ⟨fun h => startsPlain_cons h rest, fun h => h c rfl⟩

/-- Which parts of a text are put together first does not decide how it starts. -/
theorem StartsPlain.assoc {more : List Char} (h : StartsPlain (text ++ (more ++ rest))) :
    StartsPlain (text ++ more ++ rest) := by
  rwa [List.append_assoc]

/-- A numeral starts with a digit. -/
theorem IsNumeral.exists_cons {n : Nat} (h : IsNumeral text n) :
    ∃ c tail, text = c :: tail ∧ c.isDigit = true := by
  obtain ⟨c, tail, rfl⟩ := List.exists_cons_of_ne_nil h.ne_nil
  exact ⟨c, tail, rfl, h.isDigit c List.mem_cons_self⟩

/-- A numeral does not start with a blank. -/
theorem IsNumeral.startsPlain {n : Nat} (h : IsNumeral text n) (rest : List Char) :
    StartsPlain (text ++ rest) := by
  obtain ⟨c, tail, rfl, hdigit⟩ := h.exists_cons
  exact startsPlain_cons (isBlank_of_isDigit hdigit) _

/-- Blanks have no letter case. -/
theorem toLower_of_isBlank {c : Char} (h : isBlank c = true) : c.toLower = c := by
  unfold Char.toLower
  rw [dif_neg]
  rintro ⟨hleast, hgreatest⟩
  have hleast : 65 ≤ c.toNat := hleast
  have hgreatest : c.toNat ≤ 90 := hgreatest
  simp only [isBlank, Bool.or_eq_true, Bool.and_eq_true, decide_eq_true_eq, beq_iff_eq] at h
  omega

/-- In whatever letter case a word is written, it does not start with a blank. -/
theorem Spells.startsPlain {word : List Char} (h : Spells text word) (hne : word ≠ [])
    (hplain : StartsPlain (word.map Char.toLower)) (rest : List Char) :
    StartsPlain (text ++ rest) := by
  intro c hc
  have hfirst : text.head? = some c := by
    cases text with
    | nil => exact absurd (List.map_eq_nil_iff.mp h.symm) hne
    | cons first tail => exact hc
  have hlower := hplain c.toLower (by rw [← h, List.head?_map, hfirst]; rfl)
  cases hblank : isBlank c with
  | false => rfl
  | true =>
    rw [toLower_of_isBlank hblank, hblank] at hlower
    cases hlower

end Text

namespace Time

open Text

/-! ### Pieces and layouts -/

/-- A piece takes a text in front of the rest, and changes the fields in some way. -/
def Piece.Takes (piece : Piece) (text rest : List Char) (update : DateFields → DateFields) : Prop :=
  ∀ fields, piece.read fields (text ++ rest) = some (update fields, rest)

/-- A piece reads nothing from a text. -/
def Piece.Refuses (piece : Piece) (text : List Char) : Prop :=
  ∀ fields, piece.read fields text = none

/-- The pieces of a layout together take a text in front of the rest, whatever pieces follow. -/
def Layout.Takes (layout : Layout) (text rest : List Char) (update : DateFields → DateFields) :
    Prop :=
  ∀ fields tail, Layout.read fields (layout ++ tail) (text ++ rest) =
    Layout.read (update fields) tail rest

/-- The pieces of a layout do not read a text, whatever pieces follow. -/
def Layout.Refuses (layout : Layout) (text : List Char) : Prop :=
  ∀ fields tail, Layout.read fields (layout ++ tail) text = none

namespace Layout

variable {piece : Piece} {layout : Layout} {text more rest : List Char}
  {update updateMore : DateFields → DateFields}

/-- What a piece takes goes in front of what the other pieces take. -/
theorem takes_cons (hpiece : piece.Takes text (more ++ rest) update)
    (hlayout : Layout.Takes layout more rest updateMore) :
    Layout.Takes (piece :: layout) (text ++ more) rest (updateMore ∘ update) := by
  intro fields tail
  rw [List.append_assoc, List.cons_append, read, hpiece fields]
  exact hlayout (update fields) tail

/-- A piece alone takes what it takes. -/
theorem takes_one (hpiece : piece.Takes text rest update) :
    Layout.Takes [piece] text rest update := by
  intro fields tail
  rw [List.singleton_append, read, hpiece fields]

/-- What one layout takes goes in front of what the next takes. -/
theorem Takes.append {next : Layout} (h : Layout.Takes layout text (more ++ rest) update)
    (hnext : Layout.Takes next more rest updateMore) :
    Layout.Takes (layout ++ next) (text ++ more) rest (updateMore ∘ update) := by
  intro fields tail
  rw [List.append_assoc, List.append_assoc, h fields]
  exact hnext (update fields) tail

/-- A text that is taken as a whole is read. -/
theorem Takes.read_eq (h : Layout.Takes layout text [] update) (fields : DateFields) :
    Layout.read fields layout text = some (update fields) := by
  have hread := h fields []
  rwa [List.append_nil, List.append_nil] at hread

/-- If the first piece refuses a text, the layout does. -/
theorem refuses_cons (h : piece.Refuses text) : Layout.Refuses (piece :: layout) text := by
  intro fields tail
  rw [List.cons_append, read, h fields]

/-- If the pieces after the first one refuse what that leaves, the layout refuses the text. -/
theorem refuses_of_takes (hpiece : piece.Takes text rest update) (h : Layout.Refuses layout rest) :
    Layout.Refuses (piece :: layout) (text ++ rest) := by
  intro fields tail
  rw [List.cons_append, read, hpiece fields]
  exact h (update fields) tail

/-- A layout refuses what its first pieces refuse. -/
theorem Refuses.append {next : Layout} (h : Layout.Refuses layout text) :
    Layout.Refuses (layout ++ next) text := by
  intro fields tail
  rw [List.append_assoc]
  exact h fields _

/-- If the first pieces take a text and the others refuse the rest, the layout refuses both. -/
theorem Takes.refuses {next : Layout} (h : Layout.Takes layout text rest update)
    (hnext : Layout.Refuses next rest) : Layout.Refuses (layout ++ next) (text ++ rest) := by
  intro fields tail
  rw [List.append_assoc, h fields]
  exact hnext (update fields) tail

/-- A text that is refused is not read. -/
theorem Refuses.read_eq (h : Layout.Refuses layout text) (fields : DateFields) :
    Layout.read fields layout text = none := by
  have hread := h fields []
  rwa [List.append_nil] at hread

/-- A text that is refused whatever follows it is not read. -/
theorem read_of_refuses (h : ∀ rest, Layout.Refuses layout (text ++ rest)) (fields : DateFields) :
    Layout.read fields layout text = none := by
  have hread := (h []).read_eq fields
  rwa [List.append_nil] at hread

end Layout

variable {text rest : List Char}

/-! ### Signs and blanks -/

/-- A sign takes itself. -/
theorem takes_literal (sign : Char) (rest : List Char) :
    (Piece.literal sign).Takes [sign] rest id := by
  intro fields
  rw [List.singleton_append, Piece.read, if_pos rfl, id_eq]

/-- A sign refuses what starts with anything else. -/
theorem refuses_literal {sign : Char} (h : text.head? ≠ some sign) :
    (Piece.literal sign).Refuses text := by
  intro fields
  cases text with
  | nil => rfl
  | cons c text => rw [Piece.read, if_neg (fun heq => h (congrArg some heq))]

/-- Blanks take a space. -/
theorem takes_space (h : StartsPlain rest) : Piece.blanks.Takes [' '] rest id := by
  intro fields
  have htrim : trimStart ([' '] ++ rest) = trimStart rest := rfl
  rw [Piece.read, htrim, h.trimStart_eq, id_eq]

/-- Blanks take nothing in front of a text that does not start with a blank. -/
theorem takes_nothing (h : StartsPlain rest) : Piece.blanks.Takes [] rest id := by
  intro fields
  rw [List.nil_append, Piece.read, h.trimStart_eq, id_eq]

/-- What refuses a text after blanks refuses it where there are none. -/
theorem Layout.refuses_of_no_blanks {layout : Layout} (h : StartsPlain text)
    (hlayout : layout.Refuses text) : Layout.Refuses (.blanks :: layout) text :=
  Layout.refuses_of_takes (takes_nothing h) hlayout

/-! ### Numbers -/

/-- Digits are read if there are neither too few nor too many of them, and all of them, unless the
greatest number of them is there and more follow. -/
theorem readDigits_numeral {digits : List Char} {n least most : Nat} (h : IsNumeral digits n)
    (hleast : least ≤ digits.length) (hmost : digits.length ≤ most)
    (hend : digits.length = most ∨ ∀ c ∈ rest.head?, c.isDigit = false) :
    readDigits least most (digits ++ rest) = some (n, rest) := by
  have htake : (digits ++ rest).take most = digits ++ rest.take (most - digits.length) := by
    rw [List.take_append, List.take_of_length_le hmost]
  have hstop : (rest.take (most - digits.length)).takeWhile Char.isDigit = [] := by
    rcases hend with hfull | hother
    · rw [hfull, Nat.sub_self, List.take_zero, List.takeWhile_nil]
    · cases hrest : rest.take (most - digits.length) with
      | nil => rfl
      | cons c tail =>
        have hfirst : c ∈ rest.head? := by
          cases rest with
          | nil => simp at hrest
          | cons first others =>
            cases hroom : most - digits.length with
            | zero => simp [hroom] at hrest
            | succ room =>
              rw [hroom, List.take_succ_cons, List.cons.injEq] at hrest
              exact congrArg some hrest.1
        rw [List.takeWhile_cons_of_neg (by simp [hother c hfirst])]
  have hdigits : ((digits ++ rest).take most).takeWhile Char.isDigit = digits := by
    rw [htake, List.takeWhile_append_of_pos h.isDigit, hstop, List.append_nil]
  rw [readDigits, hdigits, if_pos hleast, h.value, List.drop_left]

/-- A text is two digits that denote a number. -/
structure TwoDigits (text : List Char) (n : Nat) : Prop where
  /-- The digits denote the number. -/
  isNumeral : IsNumeral text n
  /-- There are two digits. -/
  length : text.length = 2

/-- A number below a hundred is written with two digits. -/
theorem twoDigits_padded {n : Nat} (h : n < 100) : TwoDigits (padded 2 n) n :=
  ⟨isNumeral_padded 2 n, length_padded (by decide) h⟩

/-- Four digits are two and two. -/
theorem exists_twoDigits_append {digits : List Char} {n : Nat} (h : IsNumeral digits n)
    (hlength : digits.length = 4) :
    ∃ front back first second, digits = front ++ back ∧ TwoDigits front first ∧
      TwoDigits back second := by
  have hfront : (digits.take 2).length = 2 := by simp [hlength]
  have hback : (digits.drop 2).length = 2 := by simp [hlength]
  have hpart {part : List Char} (hpart : part.length = 2) (hsub : part ⊆ digits) :
      TwoDigits part (digitsValue part) :=
    ⟨⟨List.ne_nil_of_length_pos (by omega), fun c hc => h.isDigit c (hsub hc), rfl⟩, hpart⟩
  exact ⟨_, _, _, _, (List.take_append_drop 2 digits).symm,
    hpart hfront (List.take_subset 2 digits), hpart hback (List.drop_subset 2 digits)⟩

/-- Two digits are read whatever follows. -/
theorem TwoDigits.readDigits_eq {digits : List Char} {n least : Nat} (h : TwoDigits digits n)
    (hleast : least ≤ 2) (rest : List Char) :
    readDigits least 2 (digits ++ rest) = some (n, rest) :=
  readDigits_numeral h.isNumeral (h.length.symm ▸ hleast) (Nat.le_of_eq h.length) (.inl h.length)

/-- The piece is a number of one or two digits between two limits, and sets a field. -/
inductive Piece.IsNumber : Piece → (low high : Nat) → (Nat → DateFields → DateFields) → Prop
  /-- The day of the month. -/
  | day : IsNumber .day 1 31 fun n fields => { fields with day := some n }
  /-- The hour. -/
  | hour : IsNumber .hour 0 23 fun n fields => { fields with hour := some n }
  /-- The minute. -/
  | minute : IsNumber .minute 0 59 fun n fields => { fields with minute := some n }
  /-- The second. -/
  | second : IsNumber .second 0 60 fun n fields => { fields with second := some n }

namespace Piece.IsNumber

variable {piece : Piece} {low high n : Nat} {set : Nat → DateFields → DateFields}
  {digits : List Char}

/-- A piece for a number reads up to two digits after any blanks, and fails beyond its limits. -/
theorem read_eq (h : piece.IsNumber low high set) (fields : DateFields) (text : List Char) :
    piece.read fields text =
      (readField low high text).map fun (n, rest) => (set n fields, rest) := by
  cases h <;> rfl

/-- Two digits are read as a number, which then must lie between the limits. -/
theorem read_twoDigits (h : piece.IsNumber low high set) (hdigits : TwoDigits digits n)
    (fields : DateFields) (rest : List Char) :
    piece.read fields (digits ++ rest) =
      if low ≤ n ∧ n ≤ high then some (set n fields, rest) else none := by
  rw [h.read_eq, readField, (hdigits.isNumeral.startsPlain rest).trimStart_eq,
    hdigits.readDigits_eq (by decide), Option.filter_some]
  by_cases hlimits : low ≤ n ∧ n ≤ high <;> simp [hlimits]

/-- A piece for numbers takes two digits that denote a number between its limits. -/
theorem takes (h : piece.IsNumber low high set) (hdigits : TwoDigits digits n)
    (hlimits : low ≤ n ∧ n ≤ high) (rest : List Char) : piece.Takes digits rest (set n) := by
  intro fields
  rw [h.read_twoDigits hdigits, if_pos hlimits]

/-- A piece for numbers refuses two digits that denote a number beyond its limits. -/
theorem refuses (h : piece.IsNumber low high set) (hdigits : TwoDigits digits n)
    (hlimits : ¬(low ≤ n ∧ n ≤ high)) (rest : List Char) : piece.Refuses (digits ++ rest) := by
  intro fields
  rw [h.read_twoDigits hdigits, if_neg hlimits]

/-- A piece for numbers takes a number between its limits as it is written. -/
theorem takes_padded (h : piece.IsNumber low high set) (hlimits : low ≤ n ∧ n ≤ high)
    (rest : List Char) : piece.Takes (padded 2 n) rest (set n) := by
  have hhigh : high < 100 := by cases h <;> decide
  exact h.takes (twoDigits_padded (by omega)) hlimits rest

/-- A piece for numbers refuses any other number below a hundred as it is written. -/
theorem refuses_padded (h : piece.IsNumber low high set) (hlt : n < 100)
    (hlimits : ¬(low ≤ n ∧ n ≤ high)) (rest : List Char) : piece.Refuses (padded 2 n ++ rest) :=
  h.refuses (twoDigits_padded hlt) hlimits rest

end Piece.IsNumber

/-- A year takes up to four digits, if no digit follows or there are four. -/
theorem takes_year {digits : List Char} {n : Nat} (h : IsNumeral digits n)
    (hmost : digits.length ≤ 4)
    (hend : digits.length = 4 ∨ ∀ c ∈ rest.head?, c.isDigit = false) :
    Piece.year.Takes digits rest fun fields => { fields with year := some n } := by
  obtain ⟨c, tail, rfl, hdigit⟩ := h.exists_cons
  have hdigits : readDigits 1 4 (c :: tail ++ rest) = some (n, rest) :=
    readDigits_numeral h (by simp) hmost hend
  have hyear : readYear (c :: tail ++ rest) = some ((n : Int), rest) := by
    rw [readYear, (h.startsPlain rest).trimStart_eq]
    -- The first digit is no sign, so the digits are read as they stand.
    split
    · next heq =>
      obtain rfl : c = '-' := (List.cons.inj heq).1
      cases hdigit
    · next heq =>
      obtain rfl : c = '+' := (List.cons.inj heq).1
      cases hdigit
    · rw [hdigits, Option.map_some]
  intro fields
  rw [Piece.read, hyear, Option.map_some]

/-- The year of this century or the last one that two digits stand for. -/
def pivoted (n : Nat) : Int := (if n < 70 then 2000 + n else 1900 + n : Nat)

/-- A short year takes two digits, whatever follows. -/
theorem takes_shortYear {digits : List Char} {n : Nat} (h : TwoDigits digits n)
    (rest : List Char) :
    Piece.shortYear.Takes digits rest fun fields => { fields with year := some (pivoted n) } := by
  intro fields
  rw [Piece.read, readShortYear, (h.isNumeral.startsPlain rest).trimStart_eq,
    h.readDigits_eq (by decide)]
  rfl

/-! ### Words -/

/-- A word is read in any letter case. -/
theorem readWord_of_spells {word : List Char} (h : Spells text word) (rest : List Char) :
    readWord word (text ++ rest) = some rest := by
  have hlength : text.length = word.length := by simpa using congrArg List.length h
  rw [readWord, ← hlength, List.take_left, List.drop_left]
  exact if_pos h

/-- Nothing of the same length but the word is read. -/
theorem readWord_of_not_spells {word : List Char} (hlength : text.length = word.length)
    (h : ¬Spells text word) (rest : List Char) : readWord word (text ++ rest) = none := by
  rw [readWord, ← hlength, List.take_left]
  exact if_neg h

/-- No word is read from a text that starts with another letter. -/
theorem readWord_of_head {word : List Char} (hne : word ≠ [])
    (h : text.head?.map Char.toLower ≠ word.head?.map Char.toLower) :
    readWord word text = none := by
  rw [readWord, if_neg]
  intro heq
  have hhead := congrArg List.head? heq
  rw [List.head?_map, List.head?_map, List.head?_take,
    if_neg (mt List.length_eq_zero_iff.mp hne)] at hhead
  exact h hhead

/-- What is found in a list is what a member of it gives, if those before it give nothing. -/
theorem findSome?_of_first {α β : Type} [DecidableEq α] {list : List α} {f : α → Option β} {a : α}
    {b : β} (hmem : a ∈ list) (hfits : f a = some b)
    (hbefore : ∀ other ∈ list.takeWhile (· ≠ a), f other = none) : list.findSome? f = some b := by
  induction list with
  | nil => cases hmem
  | cons first list ih =>
    by_cases hfirst : first = a
    · rw [hfirst, List.findSome?_cons, hfits]
    · have hrest : a ∈ list := (List.mem_cons.mp hmem).resolve_left (Ne.symm hfirst)
      rw [List.takeWhile_cons_of_pos (by simp [hfirst]), List.forall_mem_cons] at hbefore
      rw [List.findSome?_cons, hbefore.1]
      exact ih hrest hbefore.2

/-- What is found in a list is what a member of it gives, if no other member gives anything. -/
theorem findSome?_of_unique {α β : Type} [DecidableEq α] {list : List α} {f : α → Option β} {a : α}
    {b : β} (hmem : a ∈ list) (hfits : f a = some b)
    (hother : ∀ other ∈ list, other ≠ a → f other = none) : list.findSome? f = some b := by
  refine findSome?_of_first hmem hfits fun other hbefore => ?_
  have hne : other ≠ a := by
    simpa using List.all_eq_true.mp List.all_takeWhile other hbefore
  exact hother other ((List.takeWhile_prefix _).subset hbefore) hne

namespace Weekday

/-- The letters of the name of a weekday. -/
def letters (day : Weekday) : List Char := day.name.toList

/-- The first three letters of the name of a weekday. -/
def shortLetters (day : Weekday) : List Char := day.letters.take 3

theorem length_shortLetters (day : Weekday) : day.shortLetters.length = 3 := by
  cases day <;> decide

/-- No two days have the same first three letters. -/
theorem eq_of_shortLetters {day other : Weekday} (h : Spells day.shortLetters other.shortLetters) :
    other = day := by
  revert h
  unfold Spells
  cases day <;> cases other <;> decide

/-- After the first three letters more letters follow, and no comma. -/
theorem head?_letters_drop (day : Weekday) :
    day.letters.drop 3 ≠ [] ∧
      (day.letters.drop 3).head?.map Char.toLower ≠ some ',' := by
  cases day <;> decide

end Weekday

/-- The first three letters of a weekday are read. -/
theorem readShortWeekday_of_spells {day : Weekday} (h : Spells text day.shortLetters)
    (rest : List Char) : readShortWeekday (text ++ rest) = some (day, rest) := by
  unfold readShortWeekday
  refine findSome?_of_unique (a := day) (by cases day <;> decide) ?_ ?_
  · have hread : readWord (day.name.toList.take 3) (text ++ rest) = some rest :=
      readWord_of_spells h rest
    rw [hread, Option.map_some]
  · intro other _ hother
    have hlength : text.length = other.shortLetters.length := by
      have hword : text.length = day.shortLetters.length := by simpa using congrArg List.length h
      rw [hword, day.length_shortLetters, other.length_shortLetters]
    have hnot : ¬Spells text other.shortLetters := fun heq =>
      hother (Weekday.eq_of_shortLetters (h.symm.trans heq))
    have hread : readWord (other.name.toList.take 3) (text ++ rest) = none :=
      readWord_of_not_spells hlength hnot rest
    rw [hread, Option.map_none]

/-- The piece for short weekdays takes the first three letters of a weekday. -/
theorem takes_shortWeekday {day : Weekday} (h : Spells text day.shortLetters) (rest : List Char) :
    Piece.shortWeekday.Takes text rest fun fields => { fields with weekday := some day } := by
  intro fields
  rw [Piece.read, readShortWeekday_of_spells h, Option.map_some]

/-- The letters of a weekday are the first three and more. -/
theorem exists_split_of_spells {day : Weekday} (h : Spells text day.letters) :
    ∃ front back, text = front ++ back ∧ Spells front day.shortLetters ∧
      Spells back (day.letters.drop 3) := by
  refine ⟨text.take 3, text.drop 3, (List.take_append_drop 3 text).symm, ?_, ?_⟩
  · rw [Spells, List.map_take, h, ← List.map_take]
    rfl
  · rw [Spells, List.map_drop, h, ← List.map_drop]

/-- A full weekday is no short one with a comma after it. -/
theorem refuses_full_weekday {day : Weekday} (h : Spells text day.letters) (layout : Layout)
    (rest : List Char) :
    Layout.Refuses (.shortWeekday :: .literal ',' :: layout) (text ++ rest) := by
  obtain ⟨front, back, rfl, hfront, hback⟩ := exists_split_of_spells h
  obtain ⟨hne, hcomma⟩ := day.head?_letters_drop
  rw [List.append_assoc]
  apply Layout.refuses_of_takes (takes_shortWeekday hfront _)
  apply Layout.refuses_cons
  apply refuses_literal
  intro hhead
  cases back with
  | nil => exact hne (List.map_eq_nil_iff.mp hback.symm)
  | cons c back =>
    obtain rfl : c = ',' := Option.some.inj hhead
    rw [← List.head?_map, ← hback] at hcomma
    exact hcomma rfl

/-- After the first three letters of a weekday the rest of its name is read, if it is there. -/
theorem readWeekday_of_spells {day : Weekday} (h : Spells text day.shortLetters)
    (rest : List Char) :
    readWeekday (text ++ rest) = some (day, (readWord (day.letters.drop 3) rest).getD rest) := by
  rw [readWeekday, readShortWeekday_of_spells h]
  rfl

/-- The piece for weekdays takes a full weekday. -/
theorem takes_full_weekday {day : Weekday} (h : Spells text day.letters) (rest : List Char) :
    Piece.weekday.Takes text rest fun fields => { fields with weekday := some day } := by
  obtain ⟨front, back, rfl, hfront, hback⟩ := exists_split_of_spells h
  intro fields
  rw [List.append_assoc, Piece.read, readWeekday_of_spells hfront, readWord_of_spells hback,
    Option.getD_some, Option.map_some]

/-- The piece for weekdays takes the first three letters of a weekday in front of a comma. -/
theorem takes_weekday {day : Weekday} (h : Spells text day.shortLetters)
    (hrest : rest.head? = some ',') :
    Piece.weekday.Takes text rest fun fields => { fields with weekday := some day } := by
  obtain ⟨hne, hcomma⟩ := day.head?_letters_drop
  have hnone : readWord (day.letters.drop 3) rest = none := by
    apply readWord_of_head hne
    rw [hrest]
    exact hcomma.symm
  intro fields
  rw [Piece.read, readWeekday_of_spells h, hnone, Option.getD_none, Option.map_some]

/-- The months with their numbers. -/
def monthTable : List (String × Nat) := monthNames.zip ((List.range 13).drop 1)

/-- A text is the first three letters of the month with a number. -/
def IsMonth (text : List Char) (month : Nat) : Prop :=
  ∃ name, (name, month) ∈ monthTable ∧ Spells text name.toList

/-- The months have names of three letters, no two the same, and none starts with a hyphen or a
blank. -/
theorem monthTable_names :
    (∀ entry ∈ monthTable, entry.1.toList.length = 3 ∧
      (∀ other ∈ monthTable, Spells entry.1.toList other.1.toList → other = entry) ∧
      (entry.1.toList.map Char.toLower).head? ≠ some '-' ∧
      StartsPlain (entry.1.toList.map Char.toLower)) := by
  unfold Spells
  decide +kernel

/-- The piece for months takes a month. -/
theorem takes_month {month : Nat} (h : IsMonth text month) (rest : List Char) :
    Piece.month.Takes text rest fun fields => { fields with month := some month } := by
  obtain ⟨name, hmem, hspells⟩ := h
  obtain ⟨hlength, hunique, -⟩ := monthTable_names _ hmem
  have hread : readMonth (text ++ rest) = some (month, rest) := by
    refine findSome?_of_unique hmem ?_ ?_
    · simp only [readWord_of_spells hspells, Option.map_some]
    · intro other hother hne
      have htext : text.length = other.1.toList.length := by
        have hword : text.length = name.toList.length := by
          simpa using congrArg List.length hspells
        rw [hword, hlength, (monthTable_names _ hother).1]
      have hnot : ¬Spells text other.1.toList := fun heq =>
        hne (hunique other hother (hspells.symm.trans heq))
      simp only [readWord_of_not_spells htext hnot, Option.map_none]
  intro fields
  rw [Piece.read, hread, Option.map_some]

/-- A month does not start with a blank. -/
theorem IsMonth.startsPlain {month : Nat} (h : IsMonth text month) (rest : List Char) :
    StartsPlain (text ++ rest) := by
  obtain ⟨name, hmem, hspells⟩ := h
  obtain ⟨hlength, -, -, hplain⟩ := monthTable_names _ hmem
  exact hspells.startsPlain (List.ne_nil_of_length_pos (by rw [hlength]; decide)) hplain rest

/-- The piece for months refuses a hyphen. -/
theorem refuses_month (rest : List Char) : Piece.month.Refuses ('-' :: rest) := by
  intro fields
  have hnone : readMonth ('-' :: rest) = none := by
    refine List.findSome?_eq_none_iff.mpr fun entry hmem => ?_
    obtain ⟨hlength, -, hhyphen, -⟩ := monthTable_names entry hmem
    have hne : entry.1.toList ≠ [] := List.ne_nil_of_length_pos (by rw [hlength]; decide)
    have hread : readWord entry.1.toList ('-' :: rest) = none := by
      apply readWord_of_head hne
      rw [← List.head?_map (l := entry.1.toList)]
      exact hhyphen.symm
    simp only [hread, Option.map_none]
  rw [Piece.read, hnone, Option.map_none]

end Time

end ForwardProxy
