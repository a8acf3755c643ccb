import ForwardProxy.Net.Address
import ForwardProxy.Proofs.Text.Cut

/-!
# The text of a network address

An address is written in digits with signs between them, so every character of its text is visible
ASCII.
-/

namespace ForwardProxy.Net

/-- A character of ASCII that is seen: no control and no blank. -/
def IsVisible (c : Char) : Prop := 32 < c.toNat ∧ c.toNat < 127

instance : DecidablePred IsVisible := fun _ => inferInstanceAs (Decidable (_ ∧ _))

/-- The digit for any number is seen. -/
theorem isVisible_digitChar (n : Nat) : IsVisible n.digitChar := by
  have hdigit : ∀ n < 16, IsVisible n.digitChar := by decide
  by_cases hn : n < 16
  · exact hdigit n hn
  · have hstar : n.digitChar = '*' := by simp (disch := omega) only [Nat.digitChar, if_neg]
    rw [hstar]
    decide

/-- Every digit of a number is seen. -/
theorem isVisible_toDigits {base : Nat} (hbase : 1 < base) (n : Nat) :
    ∀ c ∈ Nat.toDigits base n, IsVisible c := by
  induction n using Nat.strongRecOn with
  | _ n ih =>
    rw [Nat.toDigits_eq_if hbase]
    split
    · simpa using isVisible_digitChar n
    · next hle =>
      have hlt : n / base < n := Nat.div_lt_self (by omega) hbase
      rw [List.forall_mem_append]
      exact ⟨ih _ hlt, by simpa using isVisible_digitChar (n % base)⟩

/-- Every character of a list of numbers with a sign between them is seen, if the sign is. -/
theorem isVisible_intercalate {sign : Char} (hsign : IsVisible sign) {base : Nat}
    (hbase : 1 < base) (numbers : List Nat) :
    ∀ c ∈ [sign].intercalate (numbers.map (Nat.toDigits base)), IsVisible c :=
  forall_mem_intercalate hsign (List.forall_mem_map.mpr fun n _ => isVisible_toDigits hbase n)

theorem Ipv4.isVisible_text (address : Ipv4) : ∀ c ∈ address.text, IsVisible c :=
  isVisible_intercalate (by decide) (by decide) _

theorem Ipv6.isVisible_groupsText (groups : List Nat) : ∀ c ∈ groupsText groups, IsVisible c :=
  isVisible_intercalate (by decide) (by decide) _

theorem Ipv6.isVisible_text (address : Ipv6) : ∀ c ∈ address.text, IsVisible c := by
  have hgap : ∀ c ∈ [':', ':'], IsVisible c :=
    List.forall_mem_cons.mpr ⟨by decide, List.forall_mem_singleton.mpr (by decide)⟩
  unfold text
  split
  split
  · exact isVisible_groupsText _
  · simp only [List.forall_mem_append]
    exact ⟨⟨isVisible_groupsText _, hgap⟩, isVisible_groupsText _⟩

theorem Ipv6.isVisible_displayText (address : Ipv6) : ∀ c ∈ address.displayText, IsVisible c := by
  have hall : "::ffff:".toList.all (IsVisible ·) = true := by decide
  have hfront : ∀ c ∈ "::ffff:".toList, IsVisible c := by
    simpa only [List.all_eq_true, decide_eq_true_eq] using hall
  unfold displayText
  split
  · exact List.forall_mem_append.mpr ⟨hfront, Ipv4.isVisible_text _⟩
  · exact isVisible_text address

/-- Every character in the text of an address with a port is seen. -/
theorem SocketAddress.isVisible_text (address : SocketAddress) :
    ∀ c ∈ address.text, IsVisible c := by
  have hport : ∀ c ∈ Nat.toDigits 10 address.port, IsVisible c :=
    isVisible_toDigits (by decide) address.port
  have hcolon : ∀ c ∈ [':'], IsVisible c := List.forall_mem_singleton.mpr (by decide)
  have hopening : ∀ c ∈ ['['], IsVisible c := List.forall_mem_singleton.mpr (by decide)
  have hclosing : ∀ c ∈ [']'], IsVisible c := List.forall_mem_singleton.mpr (by decide)
  have hscope : ∀ c ∈ (if address.scope = 0 then [] else '%' :: Nat.toDigits 10 address.scope),
      IsVisible c := by
    split
    · simp
    · exact List.forall_mem_cons.mpr ⟨by decide, isVisible_toDigits (by decide) _⟩
  unfold text
  simp only [List.forall_mem_append]
  refine ⟨⟨?_, hcolon⟩, hport⟩
  split
  · exact Ipv4.isVisible_text _
  · simp only [List.forall_mem_append]
    exact ⟨⟨⟨hopening, Ipv6.isVisible_displayText _⟩, hscope⟩, hclosing⟩

end ForwardProxy.Net
