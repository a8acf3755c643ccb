import ForwardProxy.Config
import ForwardProxy.Proofs.Text.Trim

/-!
# Lists of domains

A list of domains is written with commas between them, and any blanks around each. The entries that
are read are the pieces between the commas, trimmed, without the empty ones. So they are written in
one way, and whatever was read is read again from the entries alone.
-/

namespace ForwardProxy

open Text

/-- A text that a list of domains may have as an entry. -/
structure IsEntry (text : List Char) : Prop where
  /-- It is not empty. -/
  ne_nil : text ≠ []
  /-- There are no blanks around it. -/
  isTrimmed : IsTrimmed text
  /-- It is in one piece. -/
  noComma : ',' ∉ text

/-- Domains with commas between them. -/
def joined (domains : List String) : List Char :=
  [','].intercalate (domains.map String.toList)

variable {text : List Char} {domains : List String}

/-- No piece of a text has the sign at which the text is cut. -/
theorem not_mem_of_mem_splitOn {sign : Char} {piece : List Char} (h : piece ∈ text.splitOn sign) :
    sign ∉ piece := by
  rw [List.splitOn_eq_splitOnP] at h
  induction text generalizing piece with
  | nil => simp_all
  | cons c text ih =>
    rw [List.splitOnP_cons_eq_if_modifyHead] at h
    by_cases hc : c = sign
    · rw [if_pos (by simpa using hc), List.mem_cons] at h
      rcases h with rfl | hrest
      · simp
      · exact ih hrest
    · obtain ⟨first, rest, hcons⟩ :=
        List.exists_cons_of_ne_nil (List.splitOnP_ne_nil (· == sign) text)
      rw [if_neg (by simpa using hc), hcons, List.modifyHead_cons, List.mem_cons] at h
      rcases h with rfl | hrest
      · have hfirst : sign ∉ first := ih (by simp [hcons])
        simpa [Ne.symm hc] using hfirst
      · exact ih (by simp [hcons, hrest])

/-- What is read from a list are entries. -/
theorem isEntry_of_mem_parseDomainList {domain : String} (h : domain ∈ parseDomainList text) :
    IsEntry domain.toList := by
  simp only [parseDomainList, List.mem_map, List.mem_filter] at h
  obtain ⟨_, ⟨⟨piece, hpiece, rfl⟩, hne⟩, rfl⟩ := h
  rw [String.toList_ofList]
  refine ⟨by simpa using hne, isTrimmed_trim piece, fun hcomma => ?_⟩
  obtain ⟨front, back, hsplit, -, -⟩ := isPadded_trim piece
  refine not_mem_of_mem_splitOn hpiece ?_
  rw [hsplit]
  simp [hcomma]

/-- A comma is no blank. -/
theorem comma_not_mem_of_isPadded {piece entry : List Char} (h : IsPadded piece entry)
    (hentry : ',' ∉ entry) : ',' ∉ piece := by
  have hcomma : ¬isBlank ',' = true := by decide
  obtain ⟨front, back, rfl, hfront, hback⟩ := h
  simp only [List.mem_append, not_or]
  exact ⟨⟨fun hmem => hcomma (hfront _ hmem), hentry⟩, fun hmem => hcomma (hback _ hmem)⟩

/-- Entries with commas between them, and with blanks around them all, are pieces with commas between
them, each of which is an entry with blanks around it. -/
theorem exists_pieces_of_isPadded (hdomains : ∀ domain ∈ domains, IsEntry domain.toList)
    (hne : domains ≠ []) (h : IsPadded text (joined domains)) :
    ∃ pieces, pieces ≠ [] ∧ text = [','].intercalate pieces ∧ (∀ piece ∈ pieces, ',' ∉ piece) ∧
      pieces.map trim = domains.map String.toList := by
  induction domains generalizing text with
  | nil => exact absurd rfl hne
  | cons domain domains ih =>
    rw [List.forall_mem_cons] at hdomains
    obtain ⟨hdomain, hrest⟩ := hdomains
    by_cases hlast : domains = []
    · subst hlast
      have halone : IsPadded text domain.toList := by simpa [joined] using h
      refine ⟨[text], List.cons_ne_nil _ _, (List.intercalate_singleton ..).symm, ?_, ?_⟩
      · simpa using comma_not_mem_of_isPadded halone hdomain.noComma
      · simp [trim_eq_of_isPadded halone hdomain.isTrimmed]
    · obtain ⟨front, back, rfl, hfront, hback⟩ := h
      have hmap : domains.map String.toList ≠ [] := by simpa using hlast
      -- The blanks in front belong to the first piece, and those behind to the pieces after it.
      have hfirst : IsPadded (front ++ domain.toList) domain.toList :=
        ⟨front, [], by simp, hfront, by simp⟩
      have hbehind : IsPadded (joined domains ++ back) (joined domains) :=
        ⟨[], back, by simp, by simp, hback⟩
      obtain ⟨pieces, hpieces, hjoined, hnone, htrim⟩ := ih hrest hlast hbehind
      refine ⟨(front ++ domain.toList) :: pieces, List.cons_ne_nil _ _, ?_, ?_, ?_⟩
      · rw [List.intercalate_cons_of_ne_nil hpieces, ← hjoined, joined, List.map_cons,
          List.intercalate_cons_of_ne_nil hmap]
        simp [joined]
      · exact List.forall_mem_cons.mpr
          ⟨comma_not_mem_of_isPadded hfirst hdomain.noComma, hnone⟩
      · rw [List.map_cons, trim_eq_of_isPadded hfirst hdomain.isTrimmed, htrim, List.map_cons]

/-- Entries are read back from a list of them, with blanks around it. -/
theorem parseDomainList_of_isPadded (hdomains : ∀ domain ∈ domains, IsEntry domain.toList)
    (h : IsPadded text (joined domains)) : parseDomainList text = domains := by
  by_cases hne : domains = []
  · subst hne
    have hblank : trim text = [] := trim_eq_of_isPadded h ⟨by simp, by simp⟩
    have hcomma : ',' ∉ text := comma_not_mem_of_isPadded h (by simp [joined])
    have halone : ∀ piece ∈ [text], ',' ∉ piece := by simpa using hcomma
    have hpiece : text.splitOn ',' = [text] := by
      simpa using List.splitOn_intercalate ',' halone (List.cons_ne_nil _ _)
    simp [parseDomainList, hpiece, hblank]
  · obtain ⟨pieces, hpieces, rfl, hnone, htrim⟩ := exists_pieces_of_isPadded hdomains hne h
    have hentries : (domains.map String.toList).filter (!·.isEmpty) =
        domains.map String.toList := by
      rw [List.filter_eq_self, List.forall_mem_map]
      intro domain hmem
      simpa using (hdomains domain hmem).ne_nil
    rw [parseDomainList, List.splitOn_intercalate ',' hnone hpieces, htrim, hentries,
      List.map_map]
    exact (List.map_congr_left fun domain _ => String.ofList_toList).trans (List.map_id domains)

/-- What was read from a list is read again from the entries with commas between them. -/
theorem parseDomainList_joined (text : List Char) :
    parseDomainList (joined (parseDomainList text)) = parseDomainList text :=
  parseDomainList_of_isPadded (fun _ => isEntry_of_mem_parseDomainList)
    ⟨[], [], by simp, by simp, by simp⟩

end ForwardProxy
