import ForwardProxy.Proofs.Text.FirstCut

/-!
# Cutting at separators

Where a separator can first occur, and what the lines of a block are. An octet that does not occur
in the data in front of a separator cannot start the separator there, so a block that was written
line by line is cut where its lines end.
-/

namespace ForwardProxy.Bytes

/-- A separator does not start at an octet other than its first. -/
theorem isPrefixOf?_cons_of_ne {a b : UInt8} {needle rest : Bytes} (h : b ≠ a) :
    (a :: needle).isPrefixOf? (b :: rest) = none := by
  simp [List.isPrefixOf?, h.symm]

/-- Data without the first octet of a separator is passed over by a search for it. -/
theorem cut?_append_of_not_mem {a : UInt8} {needle front rest : Bytes} (h : a ∉ front) :
    cut? (front ++ rest) (a :: needle) =
      (cut? rest (a :: needle)).map fun p => (front ++ p.1, p.2) := by
  induction front with
  | nil => simp
  | cons b front ih =>
    have hb : b ≠ a := fun heq => h (by simp [heq])
    have hfront : a ∉ front := fun hmem => h (List.mem_cons_of_mem b hmem)
    rw [List.cons_append, cut?_cons_of_none (isPrefixOf?_cons_of_ne hb), ih hfront,
      Option.map_map]
    rfl

/-- The part before a separator reaches up to it if it does not hold the first octet of it. -/
theorem cut?_of_not_mem {a : UInt8} {front : Bytes} (needle rest : Bytes) (h : a ∉ front) :
    cut? (front ++ (a :: needle ++ rest)) (a :: needle) = some (front, rest) := by
  have hstart : cut? (a :: needle ++ rest) (a :: needle) = some ([], rest) :=
    cut?_cons_of_starts rfl
  rw [cut?_append_of_not_mem h, hstart]
  simp

/-- An octet string that is a line of a block: it has octets, and no carriage return. -/
def IsLine (line : Bytes) : Prop := line ≠ [] ∧ (13 : UInt8) ∉ line

/-- Lines that are written one after the other, each with a line end, and an empty line after them
are cut from what follows at that empty line. -/
theorem cut?_written_lines {line : Bytes} (lines : List Bytes) (rest : Bytes)
    (hline : IsLine line) (hlines : ∀ other ∈ lines, IsLine other) :
    cut? (line ++ lineEnd ++ lines.flatMap (· ++ lineEnd) ++ lineEnd ++ rest)
        (lineEnd ++ lineEnd) =
      some (lineEnd.intercalate (line :: lines), rest) := by
  induction lines generalizing line with
  | nil =>
    have h := cut?_of_not_mem [10, 13, 10] rest hline.2
    simpa [lineEnd] using h
  | cons next lines ih =>
    have hnext := hlines next (by simp)
    obtain ⟨b, tail, rfl⟩ := List.exists_cons_of_ne_nil hnext.1
    have hb : b ≠ 13 := fun heq => hnext.2 (by simp [heq])
    have hrec := ih hnext fun other hmem => hlines other (List.mem_cons_of_mem _ hmem)
    -- The line end after `line` is followed by `b`, so no empty line starts at it.
    have hreturn (after : Bytes) : cut? (13 :: 10 :: b :: after) (lineEnd ++ lineEnd) =
        (cut? (b :: after) (lineEnd ++ lineEnd)).map fun p => (13 :: 10 :: p.1, p.2) := by
      rw [cut?_cons_of_none (by simp [lineEnd, List.isPrefixOf?, hb.symm]),
        cut?_cons_of_none (by simp [lineEnd, List.isPrefixOf?]), Option.map_map]
      rfl
    simp only [List.flatMap_cons, List.append_assoc, lineEnd, List.cons_append, List.nil_append]
      at hrec hreturn ⊢
    rw [cut?_append_of_not_mem hline.2, hreturn, hrec]
    simp [List.intercalate_cons_cons]

/-- A line does not hold a line end. -/
theorem IsLine.unbroken {line : Bytes} (h : IsLine line) : ¬lineEnd <:+: line := fun hend =>
  h.2 (hend.mem List.mem_cons_self)

/-- Lines with line ends between them are read back. -/
theorem lines_intercalate {blocks : List Bytes} (h : ∀ line ∈ blocks, IsLine line) :
    lines (lineEnd.intercalate blocks) = blocks := by
  induction blocks with
  | nil => rfl
  | cons line blocks ih =>
    have hline := h line (by simp)
    have hrec := ih fun other hmem => h other (List.mem_cons_of_mem _ hmem)
    cases blocks with
    | nil =>
      rw [List.intercalate_singleton, lines, linesFrom_last hline.unbroken,
        if_neg fun hnil => hline.1 hnil.2]
      rfl
    | cons next blocks =>
      rw [List.intercalate_cons_cons, lines, List.append_assoc, linesFrom_lineEnd hline.unbroken]
      exact congrArg (line :: ·) hrec

end ForwardProxy.Bytes

namespace ForwardProxy

/-- What is put together holds the sign and what the parts hold. -/
theorem forall_mem_intercalate {α : Type} {p : α → Prop} {sign : α} {parts : List (List α)}
    (hsign : p sign) (hparts : ∀ part ∈ parts, ∀ item ∈ part, p item) :
    ∀ item ∈ [sign].intercalate parts, p item := by
  induction parts with
  | nil => simp
  | cons part parts ih =>
    rw [List.forall_mem_cons] at hparts
    by_cases hlast : parts = []
    · simpa [hlast] using hparts.1
    · rw [List.intercalate_cons_of_ne_nil hlast]
      intro item hitem
      rcases List.mem_append.mp hitem with hfront | hrest
      · rcases List.mem_append.mp hfront with hpart | hone
        · exact hparts.1 item hpart
        · exact List.mem_singleton.mp hone ▸ hsign
      · exact ih hparts.2 item hrest

end ForwardProxy
