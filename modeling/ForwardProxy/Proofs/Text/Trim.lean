import ForwardProxy.Text.Blank
import Mathlib.Data.List.TakeWhile

/-!
# Blanks around a text

Trimming takes away the blanks around a text and nothing of the text itself. What is left neither
starts nor ends with a blank, and it is the only such text that the blanks can have stood around.
-/

namespace ForwardProxy.Text

/-- A text is another one with blanks in front of it and behind it. -/
def IsPadded (text middle : List Char) : Prop :=
  ∃ front back, text = front ++ middle ++ back ∧
    (∀ c ∈ front, isBlank c = true) ∧ ∀ c ∈ back, isBlank c = true

/-- A text neither starts nor ends with a blank. -/
structure IsTrimmed (text : List Char) : Prop where
  /-- It does not start with one. -/
  head : ∀ c ∈ text.head?, isBlank c = false
  /-- It does not end with one. -/
  last : ∀ c ∈ text.getLast?, isBlank c = false

variable {text middle : List Char}

/-- A text without any blanks is trimmed. -/
theorem isTrimmed_of_not_blank (h : ∀ c ∈ text, isBlank c = false) : IsTrimmed text :=
  ⟨fun c hc => h c (List.mem_of_mem_head? hc), fun c hc => h c (List.mem_of_mem_getLast? hc)⟩

/-- What is taken away at the end are blanks. -/
theorem exists_eq_trimEnd_append (text : List Char) :
    ∃ back, text = trimEnd text ++ back ∧ ∀ c ∈ back, isBlank c = true := by
  refine ⟨(text.reverse.takeWhile isBlank).reverse, ?_, fun c hc => ?_⟩
  · rw [trimEnd, ← List.reverse_append, List.takeWhile_append_dropWhile, List.reverse_reverse]
  · exact List.all_eq_true.mp List.all_takeWhile c (List.mem_reverse.mp hc)

/-- What is trimmed away are blanks. -/
theorem isPadded_trim (text : List Char) : IsPadded text (trim text) := by
  obtain ⟨back, hsplit, hback⟩ := exists_eq_trimEnd_append (trimStart text)
  refine ⟨text.takeWhile isBlank, back, ?_, List.all_eq_true.mp List.all_takeWhile, hback⟩
  rw [List.append_assoc, trim, ← hsplit]
  exact List.takeWhile_append_dropWhile.symm

/-- Blanks in front of a text that does not start with one are passed over. -/
theorem dropWhile_isBlank_append {front : List Char} (hfront : ∀ c ∈ front, isBlank c = true)
    (hhead : ∀ c ∈ text.head?, isBlank c = false) :
    (front ++ text).dropWhile isBlank = text := by
  rw [List.dropWhile_append_of_pos hfront]
  cases text with
  | nil => rfl
  | cons c tail => rw [List.dropWhile_cons_of_neg (by simp [hhead c rfl])]

/-- A trimmed text is left when the blanks around it are trimmed away. -/
theorem trim_eq_of_isPadded (h : IsPadded text middle) (hmiddle : IsTrimmed middle) :
    trim text = middle := by
  obtain ⟨front, back, rfl, hfront, hback⟩ := h
  have hreverse : ∀ c ∈ back.reverse, isBlank c = true := fun c hc =>
    hback c (List.mem_reverse.mp hc)
  have hlast : ∀ c ∈ middle.reverse.head?, isBlank c = false := by
    rw [List.head?_reverse]
    exact hmiddle.last
  rw [List.append_assoc, trim, trimStart, List.dropWhile_append_of_pos hfront]
  cases middle with
  | nil =>
    -- Nothing but blanks is left, and the blanks in front are all of them.
    rw [List.nil_append, List.dropWhile_eq_nil_iff.mpr hback]
    rfl
  | cons c tail =>
    rw [List.cons_append, List.dropWhile_cons_of_neg (by simp [hmiddle.head c rfl]),
      ← List.cons_append, trimEnd, List.reverse_append, dropWhile_isBlank_append hreverse hlast,
      List.reverse_reverse]

/-- A text is padded with what trimming takes away from it. -/
theorem isPadded_of_trim_eq (h : trim text = middle) : IsPadded text middle :=
  h ▸ isPadded_trim text

/-- Trimming leaves a trimmed text as it is. -/
theorem trim_eq_self (h : IsTrimmed text) : trim text = text :=
  trim_eq_of_isPadded ⟨[], [], by simp, by simp, by simp⟩ h

/-- A text that is left by trimming is trimmed. -/
theorem isTrimmed_trim (text : List Char) : IsTrimmed (trim text) := by
  have hdrop (items : List Char) : ∀ c ∈ (items.dropWhile isBlank).head?, isBlank c = false := by
    intro c hc
    have hfirst := List.head?_dropWhile_not isBlank items
    rwa [Option.mem_def.mp hc] at hfirst
  constructor
  · intro c hc
    -- The front of a text that does not start with a blank starts as it does.
    obtain ⟨back, hsplit, -⟩ := exists_eq_trimEnd_append (trimStart text)
    obtain ⟨tail, htail⟩ := List.head?_eq_some_iff.mp (Option.mem_def.mp hc)
    apply hdrop text c
    change (trimStart text).head? = some c
    rw [hsplit, ← trim, htail]
    rfl
  · rw [trim, trimEnd, List.getLast?_reverse]
    exact hdrop _

/-- A text that trimming leaves as it is is trimmed. -/
theorem isTrimmed_of_trim_eq (h : trim text = text) : IsTrimmed text := h ▸ isTrimmed_trim text

end ForwardProxy.Text
