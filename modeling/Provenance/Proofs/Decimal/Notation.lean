import Provenance.Decimal.Notation
import Provenance.Proofs.Text.Characters

namespace Provenance.Decimal

open Text

private theorem allFrom_positional (style : Style) {digits : List Char} (h : AllFrom 33 digits)
    (k : Int) :
    AllFrom 33 (writePositional style digits k) := by
  have zeros (n : Nat) : AllFrom 33 (List.replicate n '0') := by
    intro c hc
    rw [List.eq_of_mem_replicate hc]
    decide
  unfold writePositional
  split
  · refine AllFrom.append.2 ⟨AllFrom.append.2 ⟨h, zeros _⟩, ?_⟩
    split <;> simp
  · dsimp only
    split
    · have whole := h.of_sublist (List.take_sublist (digits.length - (-k).toNat) _)
      have places := h.of_sublist (List.drop_sublist (digits.length - (-k).toNat) _)
      simp [whole, places]
    · simp [zeros, h]

private theorem allFrom_exponent {digits : List Char} (h : AllFrom 33 digits) (lead : Int) :
    AllFrom 33 (writeExponent digits lead) := by
  have sign : 33 ≤ (if lead < 0 then '-' else '+').toNat := by split <;> decide
  have exponent := (allFrom_toDigits lead.natAbs).mono (show 33 ≤ '0'.toNat by decide)
  unfold writeExponent
  refine AllFrom.append.2 ⟨?_, by simp [sign, exponent]⟩
  split
  · simpa using h
  · exact h

private theorem allFrom_magnitude (style : Style) (bits : UInt64) :
    AllFrom 33 (writeMagnitude style bits) := by
  unfold writeMagnitude
  generalize (Magnitude.ofBits bits).shortest = found
  obtain ⟨n, k⟩ := found
  have digits := (allFrom_toDigits n).mono (show 33 ≤ '0'.toNat by decide)
  split
  · exact allFrom_positional style (by simp) 0
  · dsimp only
    split
    · exact allFrom_positional style digits k
    · exact allFrom_exponent digits _

theorem allFrom_write (style : Style) (x : Float) : AllFrom 33 (write style x).toList := by
  have sign : AllFrom 33 (if x.toBits >>> 63 = 1 then ['-'] else []) := by
    split <;> simp
  unfold write
  dsimp only
  split
  · simp
  · split
    · simp [sign]
    · simp [sign, allFrom_magnitude]

end Provenance.Decimal
