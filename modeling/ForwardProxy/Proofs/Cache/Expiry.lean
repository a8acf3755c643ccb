import ForwardProxy.Policy.Lifetime
import ForwardProxy.Proofs.Cache.Contents

/-!
# When entries end

The way back from an instant ends at an earlier one, also if it begins in a leap second. So an entry
with a negative time to live is past its time when it is made, and the first lookup drops it. But
the calendar has a first second. A way back beyond that ends nowhere, and an entry that should have
ended there has no end at all.
-/

namespace ForwardProxy

open Time

namespace Time.Instant

/-- An instant is earlier than another by its second, or by its fraction of the same second. -/
theorem lt_iff {a b : Instant} :
    a < b ↔ a.seconds < b.seconds ∨ (a.seconds = b.seconds ∧ a.nanos < b.nanos) := Iff.rfl

/-- The calendar reaches back to a reading of the clock. -/
def Reaches (reading : Int) : Prop := firstSecond * perSecond ≤ reading

instance (reading : Int) : Decidable (Reaches reading) := inferInstanceAs (Decidable (_ ≤ _))

/-- Readings of the clock between the first and the last second are instants. -/
theorem ofNanoseconds?_of_reaches {total : Int} (hfirst : Reaches total)
    (hlast : total < (lastSecond + 1) * perSecond) :
    ∃ instant, ofNanoseconds? total = some instant ∧ instant.seconds = total / perSecond ∧
      (instant.nanos : Int) = total % perSecond := by
  have hvalid : IsInstant (total / perSecond) (total % perSecond).toNat := by
    simp only [Reaches, IsInstant, perSecond] at hfirst hlast ⊢
    omega
  refine ⟨⟨_, _, hvalid⟩, dif_pos hvalid, rfl, Int.toNat_of_nonneg (Int.emod_nonneg _ (by decide))⟩

/-- Readings of the clock before the first second are no instants. -/
theorem ofNanoseconds?_of_not_reaches {total : Int} (h : ¬Reaches total) :
    ofNanoseconds? total = none := by
  refine dif_neg fun hvalid => h ?_
  have hfirst := hvalid.1
  simp only [Reaches, perSecond] at hfirst ⊢
  omega

/-- The parts of a negative span are those of its length, with the sign. -/
theorem parts_of_neg {n : Int} (hneg : n < 0) :
    n.tdiv perSecond = -(-n / perSecond) ∧ n.tmod perSecond = -(-n % perSecond) := by
  obtain ⟨m, rfl⟩ : ∃ m, n = -m := ⟨-n, (Int.neg_neg n).symm⟩
  have hm : 0 ≤ m := by omega
  rw [Int.neg_tdiv, Int.neg_tmod, Int.neg_neg, Int.tdiv_eq_ediv_of_nonneg hm,
    Int.tmod_eq_emod_of_nonneg hm]
  exact ⟨rfl, rfl⟩

variable {start : Instant} {span : Span}

/-- A way back of less than a second that begins in a leap second stays in its minute; any other
way back arrives where a clock without leap seconds would. -/
theorem add?_of_neg (hneg : span.nanoseconds < 0) :
    start.add? span =
      if start.IsLeap ∧ -(perSecond : Int) < span.nanoseconds then
        ofParts? start.seconds (start.nanos + span.nanoseconds).toNat
      else ofNanoseconds? (start.reading + span.nanoseconds) := by
  obtain ⟨hseconds, hfraction⟩ := parts_of_neg hneg
  unfold add?
  simp only [hseconds, hfraction]
  by_cases hleap : start.IsLeap
  · have hforward : ¬(0 < -(-span.nanoseconds / (perSecond : Int)) ∨
        (0 < -(-span.nanoseconds % (perSecond : Int)) ∧
          2 * (perSecond : Int) ≤ start.nanos + -(-span.nanoseconds % (perSecond : Int)))) := by
      simp only [perSecond]
      omega
    rw [if_pos hleap, if_neg hforward]
    by_cases hshort : -(perSecond : Int) < span.nanoseconds
    · have hwhole : ¬-(-span.nanoseconds / (perSecond : Int)) < 0 := by
        simp only [perSecond] at hshort ⊢
        omega
      have hsame : -(-span.nanoseconds % (perSecond : Int)) = span.nanoseconds := by
        simp only [perSecond] at hshort ⊢
        omega
      rw [if_neg hwhole, if_pos ⟨hleap, hshort⟩, hsame]
    · have hwhole : -(-span.nanoseconds / (perSecond : Int)) < 0 := by
        simp only [perSecond] at hshort ⊢
        omega
      rw [if_pos hwhole, if_neg (fun h => hshort h.2)]
      rfl
  · rw [if_neg hleap, if_neg (fun h => hleap h.1)]
    rfl

/-- A way back that the calendar reaches ends before it began. -/
theorem exists_add?_lt (hneg : span.nanoseconds < 0)
    (hreaches : Reaches (start.reading + span.nanoseconds)) :
    ∃ finish, start.add? span = some finish ∧ finish < start := by
  have hvalid := start.valid
  simp only [IsInstant, perSecond] at hvalid
  rw [add?_of_neg hneg]
  split
  · next hshort =>
    obtain ⟨hleap, hshort⟩ := hshort
    have hstays : IsInstant start.seconds (start.nanos + span.nanoseconds).toNat := by
      simp only [IsLeap, IsInstant, perSecond] at hleap hshort ⊢
      omega
    refine ⟨⟨_, _, hstays⟩, dif_pos hstays, lt_iff.mpr (.inr ⟨rfl, ?_⟩)⟩
    simp only [IsLeap, perSecond] at hleap hshort ⊢
    omega
  · next hlong =>
    simp only [IsLeap, not_and, perSecond] at hlong
    have hlast : start.reading + span.nanoseconds < (lastSecond + 1) * perSecond := by
      simp only [reading, perSecond]
      omega
    obtain ⟨finish, hfinish, hseconds, hnanos⟩ := ofNanoseconds?_of_reaches hreaches hlast
    refine ⟨finish, hfinish, lt_iff.mpr ?_⟩
    simp only [reading, perSecond] at hseconds hnanos
    omega

/-- A way back beyond the calendar does not end at all. -/
theorem add?_eq_none (hneg : span.nanoseconds < 0)
    (hbeyond : ¬Reaches (start.reading + span.nanoseconds)) : start.add? span = none := by
  rw [add?_of_neg hneg, if_neg, ofNanoseconds?_of_not_reaches hbeyond]
  rintro ⟨hleap, hshort⟩
  have hvalid := start.valid
  simp only [Reaches, IsInstant, IsLeap, reading, perSecond] at hvalid hleap hshort hbeyond
  omega

end Time.Instant

namespace Cache.Entry

/-- From its creation on, an entry is past its time: no lookup gives it, and the first one drops
it. -/
structure IsDue (entry : Entry) : Prop where
  /-- The entry is expired from the instant at which it was made. -/
  expired : ∀ now, now = entry.createdAt ∨ entry.createdAt < now → entry.expired now = true
  /-- A cache that holds the entry does not give it, and holds it no longer once it was asked. -/
  dropped : ∀ (store : Store) (now : Instant), store.entries[entry.key]? = some entry →
    now = entry.createdAt ∨ entry.createdAt < now →
    (store.get entry.key now).1 = none ∧ (store.get entry.key now).2.entries[entry.key]? = none

/-- An entry is live at all times: every lookup gives it. -/
structure IsEndless (entry : Entry) : Prop where
  /-- The entry is never expired. -/
  live : ∀ now, entry.expired now = false
  /-- A cache that holds the entry gives it. -/
  given : ∀ (store : Store) (now : Instant), store.entries[entry.key]? = some entry →
    (store.get entry.key now).1 = some entry

variable {entry : Entry}

/-- An entry whose last instant lies before its creation is due. -/
theorem isDue_of_expiresAt_lt {last : Instant} (hlast : entry.expiresAt = some last)
    (hearly : last < entry.createdAt) : entry.IsDue := by
  have hexpired (now : Instant) (hnow : now = entry.createdAt ∨ entry.createdAt < now) :
      entry.expired now = true := by
    refine (expired_iff entry now).mpr ⟨last, hlast, ?_⟩
    rcases hnow with rfl | hlater
    · exact hearly
    · rw [Instant.lt_iff] at hearly hlater ⊢
      omega
  refine ⟨hexpired, fun store now hentry hnow => ?_⟩
  have hnone : (store.get entry.key now).1 = none := by
    rw [Store.get_fst, hentry, Option.filter_some, hexpired now hnow]
    rfl
  exact ⟨hnone, by rw [Store.getElem?_get, if_pos rfl, hnone]⟩

/-- An entry without a last instant is endless. -/
theorem isEndless_of_expiresAt_none (hnone : entry.expiresAt = none) : entry.IsEndless := by
  have hlive (now : Instant) : entry.expired now = false := by rw [expired, hnone, Option.any_none]
  refine ⟨hlive, fun store now hentry => ?_⟩
  rw [Store.get_fst, hentry, Option.filter_some, hlive now]
  rfl

/-- No entry is both due and endless. -/
theorem IsDue.not_isEndless (h : entry.IsDue) : ¬entry.IsEndless := by
  intro hendless
  have hexpired := h.expired entry.createdAt (.inl rfl)
  rw [hendless.live] at hexpired
  cases hexpired

variable (key : String) (value : Bytes) {ttl : Span} (now : Instant)

/-- The last instant of an entry with a negative time to live is where the way back from its
creation ends. -/
theorem expiresAt_new_of_neg (hneg : ttl.nanoseconds < 0) :
    (Entry.new key value (some ttl) now).expiresAt = now.add? ttl := by
  have hne : ttl ≠ Span.zero := by
    rintro rfl
    exact absurd hneg (Int.lt_irrefl _)
  simp [Entry.new, expiryAfter?, Option.filter_some, hne]

/-- An entry with a negative time to live is due from its creation on if the calendar reaches back
that far from there, and otherwise it is endless: the first second of the calendar is what decides,
whatever the key, the value and the instant. -/
theorem negative_lifetime_due_iff_reaches (hneg : ttl.nanoseconds < 0) :
    let entry := Entry.new key value (some ttl) now
    (entry.IsDue ↔ Instant.Reaches (now.reading + ttl.nanoseconds)) ∧
      (entry.IsEndless ↔ ¬Instant.Reaches (now.reading + ttl.nanoseconds)) := by
  intro entry
  have hlast : entry.expiresAt = now.add? ttl := expiresAt_new_of_neg key value now hneg
  by_cases hreaches : Instant.Reaches (now.reading + ttl.nanoseconds)
  · obtain ⟨last, hadd, hearly⟩ := Instant.exists_add?_lt hneg hreaches
    have hdue : entry.IsDue := isDue_of_expiresAt_lt (hlast.trans hadd) hearly
    exact ⟨iff_of_true hdue hreaches, iff_of_false hdue.not_isEndless (not_not_intro hreaches)⟩
  · have hendless : entry.IsEndless :=
      isEndless_of_expiresAt_none (hlast.trans (Instant.add?_eq_none hneg hreaches))
    exact ⟨iff_of_false (fun hdue => hdue.not_isEndless hendless) hreaches,
      iff_of_true hendless hreaches⟩

/-- An entry that is made five seconds too late is due. -/
theorem negative_lifetime_due_iff_reaches_seconds :
    (Span.ofSeconds (-5)).nanoseconds < 0 ∧
      (Entry.new "k" [118] (some (.ofSeconds (-5))) .epoch).IsDue := by
  have hneg : (Span.ofSeconds (-5)).nanoseconds < 0 := by decide
  exact ⟨hneg, (negative_lifetime_due_iff_reaches "k" [118] .epoch hneg).1.mpr (by decide)⟩

/-- The directives of a response that was stale longer ago than the calendar reaches back. -/
def staleBeforeCalendar : Http.Headers :=
  Http.Headers.empty.insert .cacheControl { bytes := Bytes.ofAscii "max-age=-9223372036854775" }

/-- A response that was stale longer ago than the calendar reaches back gets a negative time to
live, and yet its entry is never due: it is live at its creation and at any other time. -/
theorem staleBeforeCalendar_is_never_due :
    ∃ ttl, Policy.lifetime? staleBeforeCalendar .epoch = some ttl ∧ ttl.nanoseconds < 0 ∧
      ¬(Entry.new "k" [118] (some ttl) .epoch).IsDue ∧
      (Entry.new "k" [118] (some ttl) .epoch).expired .epoch = false := by
  have hneg : (Span.ofSeconds (-Span.maxSeconds)).nanoseconds < 0 := by decide
  have hendless : (Entry.new "k" [118] (some (.ofSeconds (-Span.maxSeconds))) .epoch).IsEndless :=
    isEndless_of_expiresAt_none (by decide)
  exact ⟨_, by decide, hneg, fun hdue => hdue.not_isEndless hendless, hendless.live .epoch⟩

end Cache.Entry
end ForwardProxy
