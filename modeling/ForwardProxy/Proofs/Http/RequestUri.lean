import ForwardProxy.Http.RequestUri
import ForwardProxy.Proofs.Text.Ascii
import ForwardProxy.Proofs.Text.Utf8
import Mathlib.Data.List.TakeWhile

/-!
# Request targets and their parts

A path that is read as a target on its own can be given any query that is one, as long as the target
does not become too long. A target in absolute form is text throughout: its scheme and its authority
are ASCII, and its path and its query are well formed.
-/

namespace ForwardProxy

namespace Utf8

/-- Octets that are written for a text. -/
def IsText (octets : Bytes) : Prop := ∃ text, encode text = octets

/-- Two texts make up one. -/
theorem IsText.append {front back : Bytes} (hfront : IsText front) (hback : IsText back) :
    IsText (front ++ back) := by
  obtain ⟨first, rfl⟩ := hfront
  obtain ⟨second, rfl⟩ := hback
  exact ⟨first ++ second, List.flatMap_append⟩

/-- Octets that are read as text are written for one. -/
theorem isText_of_isSome {octets : Bytes} (h : (decode? octets).isSome) : IsText octets := by
  obtain ⟨text, htext⟩ := Option.isSome_iff_exists.mp h
  exact ⟨text, (decode?_eq_some_iff.mp htext).symm⟩

/-- ASCII is written for a text. -/
theorem isText_of_ascii {octets : Bytes} (h : ∀ b ∈ octets, b < 0x80) : IsText octets :=
  isText_of_isSome (by rw [decode?_of_ascii h]; rfl)

end Utf8

namespace Http.RequestUri

open Utf8

/-- Octets that make up a part of a target: text of the octets that it may hold, without the signs
that end it. -/
structure IsPart (signs : List UInt8) (allowed : UInt8 → Bool) (part : Bytes) : Prop where
  /-- It has no sign that ends it. -/
  unended : ∀ b ∈ part, b ∉ signs
  /-- It holds octets that it may, or any beyond ASCII. -/
  octets : ∀ b ∈ part, allowed b = true ∨ 0x7F ≤ b
  /-- It is text. -/
  isText : IsText part

/-- A path ends at a question mark or a number sign. -/
abbrev IsPath (path : Bytes) : Prop := IsPart [63, 35] isPathOctet path

/-- A query ends at a number sign. -/
abbrev IsQuery (query : Bytes) : Prop := IsPart [35] isQueryOctet query

variable {data path octets rest : Bytes} {query : Option Bytes} {b : UInt8}

/-- What is read as a path is one, and what is read as a query is one. -/
theorem isPart_of_parsePathAndQuery (h : parsePathAndQuery data = .ok (path, query)) :
    IsPath path ∧ ∀ octets ∈ query, IsQuery octets := by
  have hpart {signs : List UInt8} {allowed ends : UInt8 → Bool} {rest : Bytes}
      (hends : ∀ b, ends b = true → b ∉ signs)
      (hall : ((rest.takeWhile ends).all fun b => allowed b || decide (0x7F ≤ b)) = true)
      (htext : ¬(decode? (rest.takeWhile ends)).isNone = true) :
      IsPart signs allowed (rest.takeWhile ends) :=
    ⟨fun b hmem => hends b (List.all_eq_true.mp List.all_takeWhile b hmem), by simpa using hall,
      isText_of_isSome (by simpa [Option.isSome_iff_ne_none] using htext)⟩
  unfold parsePathAndQuery at h
  dsimp only at h
  split at h
  · next hpath =>
    split at h
    · split at h
      · next hquery =>
        simp only [pure_bind] at h
        split at h
        · cases h
        · next htext =>
          rw [Bool.or_eq_true, not_or] at htext
          cases h
          refine ⟨hpart (by simp) hpath htext.1, ?_⟩
          rintro _ ⟨⟩
          exact hpart (by simp) hquery htext.2
      · cases h
    · simp only [pure_bind] at h
      split at h
      · cases h
      · next htext =>
        rw [Bool.or_eq_true, not_or] at htext
        cases h
        exact ⟨hpart (by simp) hpath htext.1, nofun⟩
  · cases h

/-- A path with a query after it is read as both. -/
theorem parsePathAndQuery_append {query : Bytes} (hpath : IsPath path) (hquery : IsQuery query) :
    parsePathAndQuery (path ++ 63 :: query) = .ok (path, some query) := by
  have hfront : (path ++ 63 :: query).takeWhile (fun b => b != 63 && b != 35) = path := by
    rw [List.takeWhile_append_of_pos fun b hmem => by simpa using hpath.unended b hmem]
    simp
  have hrest : (path ++ 63 :: query).drop path.length = 63 :: query := List.drop_left
  have hall : query.takeWhile (· != 35) = query := by
    rw [List.takeWhile_eq_self_iff]
    exact fun b hmem => by simpa using hquery.unended b hmem
  have hpathOctets : (path.all fun b => isPathOctet b || decide (0x7F ≤ b)) = true := by
    simpa using hpath.octets
  have hqueryOctets : (query.all fun b => isQueryOctet b || decide (0x7F ≤ b)) = true := by
    simpa using hquery.octets
  have htext : ((Utf8.decode? path).isNone || (Utf8.decode? query).isNone) = false := by
    obtain ⟨text, htext⟩ := hpath.isText
    obtain ⟨other, hother⟩ := hquery.isText
    rw [decode?_eq_some_iff.mpr htext.symm, decode?_eq_some_iff.mpr hother.symm]
    rfl
  unfold parsePathAndQuery
  simp only [hfront, hrest, hall, hpathOctets, hqueryOctets, if_true, pure_bind, Option.getD_some,
    htext]
  rfl

/-- The forms in which a target is read. -/
inductive Reads (data : Bytes) : RequestUri → Prop
  /-- It is an asterisk. -/
  | asterisk : Reads data asterisk
  /-- It starts with a slash. -/
  | origin {path : Bytes} {query : Option Bytes} (hslash : data.head? = some 47)
      (hparts : parsePathAndQuery data = .ok (path, query)) : Reads data (origin path query)
  /-- It is an authority. -/
  | authority {front rest : Bytes} (hfront : splitAuthority data = .ok (front, rest)) :
      Reads data (authority front)
  /-- It starts with a scheme and an authority. The path after them may be left out. -/
  | absolute {scheme front rest tail path : Bytes} {query : Option Bytes}
      (hscheme : splitScheme? data = .ok (some (scheme, rest)))
      (hfront : splitAuthority rest = .ok (front, tail))
      (hparts : parsePathAndQuery tail = .ok (path, query)) :
      Reads data (absolute scheme front (if path.isEmpty then [47] else path) query)

/-- Every target that is read is read in one of the four forms, and is not too long. -/
theorem reads_of_parse {uri : RequestUri} (h : parse data = .ok uri) :
    data.length ≤ maxLength ∧ Reads data uri := by
  unfold parse at h
  simp only [bind, Except.bind, pure, Except.pure] at h
  split at h
  · cases h
  next hlength =>
  refine ⟨Nat.not_lt.mp hlength, ?_⟩
  split at h
  · cases h
  · cases h
    exact .asterisk
  · split at h
    · cases h
    next hparts =>
    cases h
    exact .origin rfl hparts
  · split at h
    · cases h
    next hfront =>
    split at h <;> cases h
    exact .authority hfront
  · split at h
    · cases h
    next hscheme =>
    split at h
    · split at h
      · cases h
      next hfront =>
      split at h <;> cases h
      exact .authority hfront
    · split at h
      · cases h
      next hfront =>
      split at h
      · cases h
      split at h <;> cases h
      next hparts => exact .absolute hscheme hfront hparts

/-- A target in origin form starts with a slash, and is read as a path and a query. -/
theorem parse_eq_origin_iff :
    parse data = .ok (.origin path query) ↔
      data.length ≤ maxLength ∧ data.head? = some 47 ∧ parsePathAndQuery data = .ok (path, query) := by
  constructor
  · intro h
    obtain ⟨hlength, hreads⟩ := reads_of_parse h
    cases hreads with
    | origin hslash hparts => exact ⟨hlength, hslash, hparts⟩
  · rintro ⟨hlength, hslash, hparts⟩
    obtain ⟨rest, rfl⟩ : ∃ rest, data = 47 :: rest := by
      cases data with
      | nil => cases hslash
      | cons b rest => exact ⟨rest, by rw [Option.some.inj hslash]⟩
    unfold parse
    rw [if_neg (Nat.not_lt.mpr hlength)]
    simp only [hparts]
    rfl

/-- A path that is a target takes a query, if the target stays short enough. -/
theorem parse_append_query {query : Bytes} (hpath : parse path = .ok (.origin path none))
    (hquery : IsQuery query) (hlength : (path ++ 63 :: query).length ≤ maxLength) :
    parse (path ++ 63 :: query) = .ok (.origin path (some query)) := by
  obtain ⟨-, hslash, hparts⟩ := parse_eq_origin_iff.mp hpath
  have hfirst : (path ++ 63 :: query).head? = some 47 := by
    rw [List.head?_append, hslash]
    rfl
  exact parse_eq_origin_iff.mpr
    ⟨hlength, hfirst, parsePathAndQuery_append (isPart_of_parsePathAndQuery hparts).1 hquery⟩

/-! ### Absolute form -/

/-- An octet of ASCII that is seen: no control and no blank. -/
def IsVisible (b : UInt8) : Prop := 0x20 < b ∧ b < 0x7F

instance : DecidablePred IsVisible := fun _ => inferInstanceAs (Decidable (_ ∧ _))

theorem IsVisible.ascii (h : IsVisible b) : b < 0x80 := UInt8.lt_trans h.2 (by decide)

/-- An authority holds visible ASCII only. -/
theorem isVisible_of_step {scan next : AuthorityScan} (h : scan.step b = .ok next) :
    IsVisible b := by
  by_contra hhidden
  have hsigns : b ≠ 58 ∧ b ≠ 91 ∧ b ≠ 93 ∧ b ≠ 64 ∧ b ≠ 37 := by
    refine ⟨?_, ?_, ?_, ?_, ?_⟩ <;> rintro rfl <;> exact hhidden (by decide)
  have hallowed : ∀ b, isAuthorityOctet b = true → IsVisible b := forall_octet (by decide +kernel)
  have hother : ¬isAuthorityOctet b = true := fun hb => hhidden (hallowed b hb)
  simp [AuthorityScan.step, hsigns, hother] at h

theorem forall_isVisible_of_foldlM {front : Bytes} {scan last : AuthorityScan}
    (h : front.foldlM AuthorityScan.step scan = .ok last) : ∀ b ∈ front, IsVisible b := by
  induction front generalizing scan with
  | nil => simp
  | cons b front ih =>
    rw [List.foldlM_cons] at h
    cases hstep : scan.step b with
    | error cause => rw [hstep] at h; cases h
    | ok next =>
      rw [hstep] at h
      exact List.forall_mem_cons.mpr ⟨isVisible_of_step hstep, ih h⟩

theorem forall_isVisible_of_splitAuthority {front : Bytes}
    (h : splitAuthority data = .ok (front, rest)) : ∀ b ∈ front, IsVisible b := by
  unfold splitAuthority at h
  simp only [bind, Except.bind, pure, Except.pure] at h
  split at h
  · cases h
  split at h
  · cases h
  next hscan =>
  split at h <;> cases h
  exact forall_isVisible_of_foldlM hscan

/-- The authority of a target that is read holds visible ASCII only. -/
theorem forall_isVisible_of_authority? {uri : RequestUri} (h : parse data = .ok uri) {front : Bytes}
    (hfront : uri.authority? = some front) : ∀ b ∈ front, IsVisible b := by
  cases (reads_of_parse h).2 with
  | asterisk | origin => cases hfront
  | authority hsplit | absolute _ hsplit _ =>
    obtain rfl := Option.some.inj hfront
    exact forall_isVisible_of_splitAuthority hsplit

theorem forall_lt_of_splitScheme? {scheme : Bytes}
    (h : splitScheme? data = .ok (some (scheme, rest))) : ∀ b ∈ scheme, b < 0x80 := by
  have hallowed : ∀ b, isSchemeOctet b = true → b < 0x80 := forall_octet (by decide +kernel)
  have hweb : ∀ scheme ∈ [Bytes.ofAscii "http", Bytes.ofAscii "https"], ∀ b ∈ scheme, b < 0x80 := by
    simp [Bytes.ofAscii]
  unfold splitScheme? at h
  dsimp only at h
  split at h
  · cases h
    exact hweb _ (by simp)
  split at h
  · cases h
    exact hweb _ (by simp)
  split at h
  · cases h
  split at h
  · cases h
  split at h <;> cases h
  intro b hmem
  have hb := List.mem_takeWhile_imp hmem
  rw [Bool.and_eq_true] at hb
  exact hallowed b hb.2

/-- A target in absolute form that is read is displayed as a text. -/
theorem isText_of_absoluteText? {uri : RequestUri} (h : parse data = .ok uri)
    (hoctets : uri.absoluteText? = some octets) : IsText octets := by
  cases (reads_of_parse h).2 with
  | asterisk | origin | authority => cases hoctets
  | @absolute scheme front rest tail path query hscheme hfront hparts =>
    obtain ⟨hpath, hquery⟩ := isPart_of_parsePathAndQuery hparts
    have hshown : IsText (if path.isEmpty then [47] else path) := by
      split
      · exact ⟨['/'], rfl⟩
      · exact hpath.isText
    have hsigns : IsText (Bytes.ofAscii "://") := ⟨"://".toList, by decide⟩
    have hfirst := ((isText_of_ascii (forall_lt_of_splitScheme? hscheme)).append hsigns).append
      (isText_of_ascii fun b hmem => (forall_isVisible_of_splitAuthority hfront b hmem).ascii)
    obtain rfl := Option.some.inj hoctets
    refine (hfirst.append hshown).append ?_
    cases query with
    | none => exact ⟨[], rfl⟩
    | some query => exact IsText.append ⟨['?'], rfl⟩ (hquery query rfl).isText

end Http.RequestUri

end ForwardProxy
