namespace Provenance.Text

/-- How a character goes on after its first byte: the number of bytes, the range of the next one,
and the bits of the first. -/
def following? (b : UInt8) : Option (Nat × UInt8 × UInt8 × Nat) :=
  let n := b.toNat
  if 0xC2 ≤ n ∧ n ≤ 0xDF then some (1, 0x80, 0xBF, n - 0xC0)
  else if n = 0xE0 then some (2, 0xA0, 0xBF, 0)
  else if n = 0xED then some (2, 0x80, 0x9F, 0xD)
  else if 0xE1 ≤ n ∧ n ≤ 0xEF then some (2, 0x80, 0xBF, n - 0xE0)
  else if n = 0xF0 then some (3, 0x90, 0xBF, 0)
  else if 0xF1 ≤ n ∧ n ≤ 0xF3 then some (3, 0x80, 0xBF, n - 0xF0)
  else if n = 0xF4 then some (3, 0x80, 0x8F, 4)
  else none

/-- Reads the bytes that complete a character, as far as they fit. -/
def complete : (n : Nat) → (low high : UInt8) → (bits : Nat) → (r : List UInt8) →
    Option Char × { rest : List UInt8 // rest.length ≤ r.length }
  | 0, _, _, bits, r => (some (Char.ofNat bits), ⟨r, Nat.le_refl _⟩)
  | _ + 1, _, _, _, [] => (none, ⟨[], Nat.le_refl _⟩)
  | n + 1, low, high, bits, b :: r =>
    if low ≤ b ∧ b ≤ high then
      let (c, rest) := complete n 0x80 0xBF (bits * 64 + (b.toNat - 0x80)) r
      (c, ⟨rest.1, Nat.le_succ_of_le rest.2⟩)
    else (none, ⟨b :: r, Nat.le_refl _⟩)

def replacement : Char := '\uFFFD'

/-- The characters that bytes stand for; `none` for each part that stands for none. -/
def readUtf8 : List UInt8 → List (Option Char)
  | [] => []
  | b :: r =>
    if b < 0x80 then some (Char.ofNat b.toNat) :: readUtf8 r
    else
      match following? b with
      | none => none :: readUtf8 r
      | some (n, low, high, bits) =>
        let (c, rest) := complete n low high bits r
        c :: readUtf8 rest.1
termination_by bytes => bytes.length
decreasing_by
  · simp
  · simp
  · have := rest.2
    simp only [List.length_cons]
    omega

/-- The text of bytes, with replacement characters for what is not well formed. -/
def lossyUtf8 (bytes : List UInt8) : List Char := (readUtf8 bytes).map (·.getD replacement)

/-- The text of bytes that are well formed. -/
def utf8? (bytes : List UInt8) : Option (List Char) := (readUtf8 bytes).mapM id

end Provenance.Text
