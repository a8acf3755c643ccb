import ForwardProxy.Text.Bytes

/-!
# UTF-8

Reading octets as text, strictly or with replacement characters. An ill-formed sequence is cut into
its maximal subparts: the longest beginnings that could still have become a character, or a single
octet where there is none. Each subpart becomes one U+FFFD.
-/

namespace ForwardProxy.Utf8

/-- The octets of a text. -/
def encode (text : List Char) : Bytes :=
  text.flatMap String.utf8EncodeChar

/-- What an octet announces as the first of a sequence: how many octets follow, the least and the
greatest value of the next one, and the bits that it contributes itself. -/
def announced? (lead : UInt8) : Option (Nat × UInt8 × UInt8 × Nat) :=
  if lead < 0x80 then some (0, 0x80, 0xBF, lead.toNat)
  else if lead < 0xC2 then none
  else if lead < 0xE0 then some (1, 0x80, 0xBF, lead.toNat - 0xC0)
  else if lead = 0xE0 then some (2, 0xA0, 0xBF, 0)
  else if lead = 0xED then some (2, 0x80, 0x9F, 0xD)
  else if lead < 0xF0 then some (2, 0x80, 0xBF, lead.toNat - 0xE0)
  else if lead = 0xF0 then some (3, 0x90, 0xBF, 0)
  else if lead < 0xF4 then some (3, 0x80, 0xBF, lead.toNat - 0xF0)
  else if lead = 0xF4 then some (3, 0x80, 0x8F, 4)
  else none

/-- Reads the octets that a sequence still owes, the next one between `low` and `high`. Gives the
code point, or `none` if the sequence breaks off, and what was left unread. -/
def continueWith : (owed : Nat) → (low high : UInt8) → (bits : Nat) → Bytes → Option Nat × Bytes
  | 0, _, _, bits, rest => (some bits, rest)
  | _ + 1, _, _, _, [] => (none, [])
  | owed + 1, low, high, bits, b :: rest =>
    if low ≤ b ∧ b ≤ high then
      continueWith owed 0x80 0xBF (bits * 64 + b.toNat % 64) rest
    else (none, b :: rest)

/-- Reads one character or one maximal ill-formed subpart that starts with `lead`. -/
def next (lead : UInt8) (rest : Bytes) : Option Char × Bytes :=
  match announced? lead with
  | none => (none, rest)
  | some (owed, low, high, bits) =>
    let read := continueWith owed low high bits rest
    (read.1.map Char.ofNat, read.2)

theorem length_continueWith_le (owed : Nat) (low high : UInt8) (bits : Nat) (rest : Bytes) :
    (continueWith owed low high bits rest).2.length ≤ rest.length := by
  induction rest generalizing owed low high bits with
  | nil => cases owed <;> simp [continueWith]
  | cons b rest ih =>
    cases owed with
    | zero => simp [continueWith]
    | succ owed =>
      simp only [continueWith]
      split
      · exact Nat.le_succ_of_le (ih ..)
      · exact Nat.le_refl _

theorem length_next_le (lead : UInt8) (rest : Bytes) : (next lead rest).2.length ≤ rest.length := by
  unfold next
  split
  · exact Nat.le_refl _
  · exact length_continueWith_le ..

/-- The characters of an octet string in order, `none` for each ill-formed subpart, after those in
`done`, which are in reverse. -/
def piecesAfter (done : List (Option Char)) : Bytes → List (Option Char)
  | [] => done.reverse
  | lead :: rest => piecesAfter ((next lead rest).1 :: done) (next lead rest).2
termination_by bytes => bytes.length
decreasing_by
  have := length_next_le lead rest
  simp only [List.length_cons]
  omega

/-- The characters of an octet string in order, `none` for each ill-formed subpart. -/
def pieces (bytes : Bytes) : List (Option Char) := piecesAfter [] bytes

/-- What was read before stays in front. -/
theorem piecesAfter_eq (done : List (Option Char)) (bytes : Bytes) :
    piecesAfter done bytes = done.reverse ++ pieces bytes := by
  induction hn : bytes.length using Nat.strongRecOn generalizing bytes done with
  | _ n ih =>
    cases bytes with
    | nil => simp [pieces, piecesAfter]
    | cons lead rest =>
      have hlt : (next lead rest).2.length < n := by
        have := length_next_le lead rest
        simp only [List.length_cons] at hn
        omega
      rw [pieces, piecesAfter, piecesAfter, ih _ hlt _ _ rfl, ih _ hlt _ _ rfl]
      simp

@[simp] theorem pieces_nil : pieces [] = [] := by
  simp [pieces, piecesAfter]

theorem pieces_cons (lead : UInt8) (rest : Bytes) :
    pieces (lead :: rest) = (next lead rest).1 :: pieces (next lead rest).2 := by
  rw [pieces, piecesAfter, piecesAfter_eq]
  simp

/-- The text, with U+FFFD for each ill-formed subpart. -/
def decodeLossy (bytes : Bytes) : List Char :=
  (pieces bytes).map fun piece => piece.getD '\uFFFD'

/-- The text, if the octets are well formed throughout. -/
def decode? (bytes : Bytes) : Option (List Char) :=
  (pieces bytes).mapM id

end ForwardProxy.Utf8
