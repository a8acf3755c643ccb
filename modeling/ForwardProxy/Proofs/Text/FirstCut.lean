import ForwardProxy.Text.Bytes
import Mathlib.Data.List.Basic

/-!
# First cuts and lines

What the two ways of cutting octets give, said without a search. Data is cut at a separator if no
other place where the separator stands comes before the cut. The lines of a block are the pieces
that make it up again with line ends between them and do not hold a line end themselves.
-/

namespace ForwardProxy.Bytes

variable {data needle front rest block line : Bytes} {b : UInt8}

/-- Data is cut at a separator, and the separator does not stand any earlier. -/
structure IsFirstCut (data needle front rest : Bytes) : Prop where
  /-- The parts and the separator make up the data. -/
  eq : data = front ++ needle ++ rest
  /-- Wherever the separator stands, at least the part in front of the cut comes before it. -/
  first : ∀ before after, data = before ++ needle ++ after → front.length ≤ before.length

/-- The part in front of the cut does not hold the separator. -/
theorem IsFirstCut.not_infix_front (h : IsFirstCut data needle front rest) (hne : needle ≠ []) :
    ¬needle <:+: front := by
  rintro ⟨before, after, hfront⟩
  have hle := h.first before (after ++ needle ++ rest) (by rw [h.eq, ← hfront]; simp)
  have hpos := List.length_pos_of_ne_nil hne
  rw [← hfront, List.length_append, List.length_append] at hle
  omega

/-- Data that starts with the separator is cut at its start. -/
theorem isFirstCut_needle_append :
    IsFirstCut (needle ++ rest) needle front data ↔ front = [] ∧ data = rest := by
  constructor
  · intro h
    have hfront : front = [] :=
      List.eq_nil_of_length_eq_zero (Nat.le_zero.mp (h.first [] rest (by simp)))
    have heq := h.eq
    rw [hfront, List.nil_append, List.append_cancel_left_eq] at heq
    exact ⟨hfront, heq.symm⟩
  · rintro ⟨rfl, rfl⟩
    exact ⟨by simp, fun _ _ _ => Nat.zero_le _⟩

/-- An octet at which no separator starts belongs to the part in front of the cut. -/
theorem isFirstCut_cons (h : ¬needle <+: b :: data) :
    IsFirstCut (b :: data) needle front rest ↔
      ∃ tail, front = b :: tail ∧ IsFirstCut data needle tail rest := by
  constructor
  · intro hcut
    cases front with
    | nil => exact absurd ⟨rest, by simpa using hcut.eq.symm⟩ h
    | cons c tail =>
      obtain ⟨rfl, hdata⟩ := List.cons.inj (by simpa using hcut.eq)
      refine ⟨tail, rfl, by simpa using hdata, fun before after heq => ?_⟩
      have hlength := hcut.first (b :: before) after (by simp [heq])
      simpa using hlength
  · rintro ⟨tail, rfl, hcut⟩
    refine ⟨by simp [hcut.eq], fun before after heq => ?_⟩
    cases before with
    | nil => exact absurd ⟨after, by simpa using heq.symm⟩ h
    | cons c before =>
      have hdata : data = before ++ needle ++ after := by simpa using (List.cons.inj heq).2
      simpa using hcut.first before after hdata

/-- Where no separator starts, the search for one finds none at once. -/
theorem isPrefixOf?_eq_none (h : ¬needle <+: data) : needle.isPrefixOf? data = none := by
  rw [Option.eq_none_iff_forall_ne_some]
  exact fun after hafter => h ⟨after, List.isPrefixOf?_eq_some_iff_append_eq.mp hafter⟩

/-- A separator at the very start is found at once. -/
theorem cut?_cons_of_starts {after : Bytes} (h : needle ++ after = b :: data) :
    cut? (b :: data) needle = some ([], after) := by
  simp [cut?, cutFrom, List.isPrefixOf?_eq_some_iff_append_eq.mpr h]

/-- The search for a separator cuts at the first place where it stands. -/
theorem cut?_eq_some_iff :
    cut? data needle = some (front, rest) ↔ IsFirstCut data needle front rest := by
  induction data generalizing front with
  | nil =>
    cases needle with
    | nil =>
      change _ ↔ IsFirstCut ([] ++ []) [] front rest
      rw [isFirstCut_needle_append]
      simp [cut?, cutFrom, eq_comm]
    | cons a needle =>
      simp only [cut?, cutFrom, List.isEmpty_cons, Bool.false_eq_true, if_false, reduceCtorEq,
        false_iff]
      exact fun h => by simpa using h.eq
  | cons b data ih =>
    by_cases hstart : needle <+: b :: data
    · obtain ⟨after, hafter⟩ := hstart
      rw [cut?_cons_of_starts hafter, ← hafter, isFirstCut_needle_append, Option.some.injEq,
        Prod.mk.injEq]
      exact and_congr eq_comm eq_comm
    · rw [cut?_cons_of_none (isPrefixOf?_eq_none hstart), isFirstCut_cons hstart,
        Option.map_eq_some_iff]
      constructor
      · rintro ⟨⟨tail, after⟩, hcut, heq⟩
        obtain ⟨rfl, rfl⟩ := Prod.mk.inj heq
        exact ⟨tail, rfl, ih.mp hcut⟩
      · rintro ⟨tail, rfl, hcut⟩
        exact ⟨(tail, rest), ih.mpr hcut, rfl⟩

/-- The search finds nothing if, and only if, the separator stands nowhere. -/
theorem cut?_eq_none_iff : cut? data needle = none ↔ ¬needle <:+: data := by
  induction data with
  | nil => cases needle <;> simp [cut?, cutFrom]
  | cons b data ih =>
    rw [List.infix_cons_iff]
    by_cases hstart : needle <+: b :: data
    · obtain ⟨after, hafter⟩ := hstart
      rw [cut?_cons_of_starts hafter]
      simp only [reduceCtorEq, false_iff, not_not]
      exact .inl ⟨after, hafter⟩
    · rw [cut?_cons_of_none (isPrefixOf?_eq_none hstart), Option.map_eq_none_iff, ih]
      simp only [hstart, false_or]

/-- Data is cut at a separator in one way only. -/
theorem IsFirstCut.unique {other another : Bytes} (h : IsFirstCut data needle front rest)
    (hother : IsFirstCut data needle other another) : other = front ∧ another = rest := by
  have heq := (cut?_eq_some_iff.mpr hother).symm.trans (cut?_eq_some_iff.mpr h)
  rwa [Option.some.injEq, Prod.mk.injEq] at heq

/-! ### Lines -/

/-- The pieces of a block between its line ends. -/
structure AreLines (block : Bytes) (pieces : List Bytes) : Prop where
  /-- With line ends between them, the pieces make up the block. -/
  eq : block = lineEnd.intercalate pieces
  /-- No piece holds a line end. -/
  unbroken : ∀ piece ∈ pieces, ¬lineEnd <:+: piece

/-- An octet at which no line end starts belongs to the line that is being read. -/
theorem linesFrom_cons (h : ¬lineEnd <+: b :: rest) (seen : Bytes) :
    linesFrom seen (b :: rest) = linesFrom (b :: seen) rest := by
  rw [linesFrom]
  rintro tail rfl rfl
  exact h ⟨tail, rfl⟩

/-- A line that ends the block is read up to its end. -/
theorem linesFrom_last (h : ¬lineEnd <:+: line) (seen : Bytes) :
    linesFrom seen line = if seen = [] ∧ line = [] then [] else [seen.reverse ++ line] := by
  induction line generalizing seen with
  | nil => by_cases hseen : seen = [] <;> simp [linesFrom, hseen]
  | cons b line ih =>
    rw [List.infix_cons_iff, not_or] at h
    rw [linesFrom_cons h.1, ih h.2]
    simp

/-- A line with a line end after it is read up to this line end. -/
theorem linesFrom_lineEnd (h : ¬lineEnd <:+: line) (seen : Bytes) :
    linesFrom seen (line ++ (lineEnd ++ rest)) = (seen.reverse ++ line) :: linesFrom [] rest := by
  induction line generalizing seen with
  | nil => simp [linesFrom, lineEnd]
  | cons b line ih =>
    rw [List.infix_cons_iff, not_or] at h
    have hstart : ¬lineEnd <+: b :: (line ++ (lineEnd ++ rest)) := by
      rintro ⟨tail, heq⟩
      obtain ⟨rfl, htail⟩ := List.cons.inj heq
      cases line with
      | nil => exact absurd (List.cons.inj htail).1 (by decide)
      | cons c line =>
        obtain ⟨rfl, -⟩ := List.cons.inj htail
        exact h.1 ⟨line, rfl⟩
    rw [List.cons_append, linesFrom_cons hstart, ih h.2]
    simp

/-- A block without octets has one piece, which is empty. -/
theorem AreLines.of_nil {first : Bytes} {rest : List Bytes} (h : AreLines [] (first :: rest)) :
    first = [] ∧ rest = [] := by
  have heq := h.eq
  cases rest with
  | nil => simpa [List.intercalate_singleton] using heq
  | cons next rest => simp [List.intercalate_cons_cons, lineEnd] at heq

/-- The pieces of a block that has octets and does not end with a line end are its lines. -/
theorem lines_eq_of_areLines {first : Bytes} {rest : List Bytes}
    (h : AreLines block (first :: rest)) (hne : block ≠ []) (hend : ¬lineEnd <:+ block) :
    lines block = first :: rest := by
  induction rest generalizing block first with
  | nil =>
    obtain rfl : block = first := by simpa [List.intercalate_singleton] using h.eq
    rw [lines, linesFrom_last (h.unbroken block List.mem_cons_self), if_neg fun hnil => hne hnil.2]
    rfl
  | cons next rest ih =>
    have heq := h.eq
    rw [List.intercalate_cons_cons, List.append_assoc] at heq
    have hnext : AreLines (lineEnd.intercalate (next :: rest)) (next :: rest) :=
      ⟨rfl, fun piece hmem => h.unbroken piece (List.mem_cons_of_mem _ hmem)⟩
    subst heq
    have hrest : lineEnd.intercalate (next :: rest) ≠ [] := by
      intro hnil
      rw [hnil, List.append_nil] at hend
      exact hend (List.suffix_append first lineEnd)
    have hsuffix : ¬lineEnd <:+ lineEnd.intercalate (next :: rest) := fun hsuffix =>
      hend ((hsuffix.trans (List.suffix_append _ _)).trans (List.suffix_append _ _))
    rw [lines, linesFrom_lineEnd (h.unbroken first List.mem_cons_self)]
    exact congrArg (first :: ·) (ih hnext hrest hsuffix)

/-- Every block has pieces. -/
theorem exists_areLines (block : Bytes) : ∃ first rest, AreLines block (first :: rest) := by
  induction hn : block.length using Nat.strongRecOn generalizing block with
  | _ n ih =>
    cases hcut : cut? block lineEnd with
    | none =>
      refine ⟨block, [], by simp [List.intercalate_singleton], ?_⟩
      rw [List.forall_mem_singleton]
      exact cut?_eq_none_iff.mp hcut
    | some parts =>
      obtain ⟨front, tail⟩ := parts
      have hfirst := cut?_eq_some_iff.mp hcut
      have hlength := congrArg List.length hfirst.eq
      simp only [List.length_append, lineEnd, List.length_cons, List.length_nil] at hlength
      obtain ⟨next, rest, hrest⟩ := ih tail.length (by omega) tail rfl
      refine ⟨front, next :: rest, ?_, ?_⟩
      · rw [List.intercalate_cons_cons, ← hrest.eq]
        exact hfirst.eq
      · rw [List.forall_mem_cons]
        exact ⟨hfirst.not_infix_front (by decide), hrest.unbroken⟩

end ForwardProxy.Bytes
