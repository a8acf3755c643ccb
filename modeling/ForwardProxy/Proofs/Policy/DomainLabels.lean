import ForwardProxy.Policy.Domains
import Mathlib.Data.List.Basic

/-!
# Domains by their labels

The dots of a name divide it into labels. The strict match, which looks at characters, compares
labels: a host matches a domain if the labels of the domain are its last ones. That holds of any two
texts, with dots in front, at the end or next to each other too, where labels are empty. So a domain
never matches by a part of a label, and the strict match allows no host that the other one does not.
-/

namespace ForwardProxy.Policy

/-- The labels of a name, between its dots. -/
def labels (name : List Char) : List (List Char) := name.splitOn '.'

variable {domain host : List Char}

/-- A name is made up again from its labels. -/
theorem intercalate_labels (name : List Char) : ['.'].intercalate (labels name) = name :=
  List.intercalate_splitOn '.'

/-- Names with the same labels are the same. -/
theorem labels_inj {name other : List Char} : labels name = labels other ↔ name = other := by
  constructor
  · intro h
    rw [← intercalate_labels name, h, intercalate_labels]
  · exact congrArg labels

/-- The labels on both sides of a dot are those of the name. -/
theorem labels_append_dot (front back : List Char) :
    labels (front ++ '.' :: back) = labels front ++ labels back := by
  simp only [labels, List.splitOn_eq_splitOnP]
  exact List.splitOnP_append_cons front back rfl

/-- The last labels of a name, if they are not all of them, have a dot before them. -/
theorem dot_suffix_intercalate {front rest : List (List Char)} (hfront : front ≠ [])
    (hrest : rest ≠ []) : '.' :: ['.'].intercalate rest <:+ ['.'].intercalate (front ++ rest) := by
  induction front with
  | nil => exact absurd rfl hfront
  | cons label front ih =>
    have hmore : front ++ rest ≠ [] := List.append_ne_nil_of_right_ne_nil front hrest
    rw [List.cons_append, List.intercalate_cons_of_ne_nil hmore, List.append_assoc]
    refine List.IsSuffix.trans ?_ (List.suffix_append label _)
    by_cases hlast : front = []
    · rw [hlast]
      exact List.suffix_rfl
    · exact (ih hlast).trans (List.suffix_append ['.'] _)

/-- What the strict match looks for. -/
theorem endsWithLabels_iff :
    endsWithLabels domain host = true ↔ host = domain ∨ '.' :: domain <:+ host := by
  rw [endsWithLabels, Bool.or_eq_true, beq_iff_eq, List.isSuffixOf_iff_suffix]

/-- A host matches strictly if, and only if, its last labels are those of the domain. -/
theorem endsWithLabels_iff_labels :
    endsWithLabels domain host = true ↔ labels domain <:+ labels host := by
  rw [endsWithLabels_iff]
  constructor
  · rintro (rfl | ⟨front, rfl⟩)
    · exact List.suffix_rfl
    · rw [labels_append_dot]
      exact List.suffix_append _ _
  · rintro ⟨front, hlabels⟩
    by_cases hall : front = []
    · rw [hall, List.nil_append, labels_inj] at hlabels
      exact .inl hlabels.symm
    · have hdot := dot_suffix_intercalate hall (List.splitOn_ne_nil '.' domain)
      rw [← labels, hlabels, intercalate_labels, intercalate_labels] at hdot
      exact .inr hdot

/-- A host that matches strictly ends in the text of the domain. -/
theorem endsWith_of_endsWithLabels (h : endsWithLabels domain host = true) :
    endsWith domain host = true := by
  rw [endsWith, List.isSuffixOf_iff_suffix]
  rcases endsWithLabels_iff.mp h with rfl | hdot
  · exact List.suffix_rfl
  · exact (List.suffix_cons '.' domain).trans hdot

/-- A list of domains that is matched strictly allows the hosts of which the last labels are those of
one of its domains, and no others unless it is empty. The same list without strictness allows all of
them. -/
theorem DomainFilter.strict_allows_iff_labels (domains : List String) (host : List Char) :
    (({ domains, strict := true } : DomainFilter).allows host = true ↔
        domains = [] ∨ ∃ domain ∈ domains, labels domain.toList <:+ labels host) ∧
      (({ domains, strict := true } : DomainFilter).allows host = true →
        ({ domains, strict := false } : DomainFilter).allows host = true) := by
  have hallows (strict : Bool) : ({ domains, strict } : DomainFilter).allows host = true ↔
      domains = [] ∨ ∃ domain ∈ domains,
        (if strict then endsWithLabels domain.toList host else endsWith domain.toList host) = true := by
    rw [allows, Bool.or_eq_true, List.isEmpty_iff, List.any_eq_true]
  constructor
  · simp only [hallows, if_true, endsWithLabels_iff_labels]
  · rw [hallows, hallows]
    rintro (hempty | ⟨domain, hmem, hmatch⟩)
    · exact .inl hempty
    · exact .inr ⟨domain, hmem, endsWith_of_endsWithLabels hmatch⟩

/-- The strict match allows less: a domain may be the end of a label. -/
example : ({ domains := ["example.com"], strict := false } : DomainFilter).allows
      "evil-example.com".toList = true ∧
    ({ domains := ["example.com"], strict := true } : DomainFilter).allows
      "evil-example.com".toList = false := by decide

end ForwardProxy.Policy
