import Mathlib

namespace Provenance.Decimal

open Float.Model
open Float.Model.UnpackedFloat (Accuracy ExtendedMantissa Sign)

/-- A zero, or a finite value whose exponent does not overflow. -/
def InRange : UnpackedFloat → Prop
  | .zero _ => True
  | .finite _ _ e _ => e ≤ 971
  | _ => False

/-- A finite double as it is stored: at most 53 bits, with an exponent that does not overflow. -/
def IsStored : UnpackedFloat → Prop
  | .zero _ => True
  | .finite _ m e _ => m < 2 ^ 53 ∧ e ≤ 971
  | _ => False

theorem isFinite_unpack (b : BitVec Format.binary64.numBits) :
    (UnpackedFloat.unpack Format.binary64 b).isFinite = true ↔
      UnpackedFloat.unpackExponent b ≠ -1#_ := by
  unfold UnpackedFloat.unpack
  dsimp only
  split_ifs <;> simp_all [UnpackedFloat.isFinite]

theorem isStored_unpack {b : BitVec Format.binary64.numBits}
    (h : (UnpackedFloat.unpack Format.binary64 b).isFinite = true) :
    IsStored (UnpackedFloat.unpack Format.binary64 b) := by
  have exponent := (isFinite_unpack b).1 h
  have regular (n : Nat) (lt : n < 2048) (ne : n ≠ 2047) : (n : Int) - (1023 + 52) ≤ 971 := by
    omega
  have bias : (Format.binary64.exponentBias : Int) = 1023 := rfl
  have bits : (Format.binary64.mantissaBitsWithoutImplicit : Int) = 52 := rfl
  have mantissa : (UnpackedFloat.unpackMantissa b).toNat < 2 ^ 52 :=
    (UnpackedFloat.unpackMantissa b).isLt
  have normal : (1#1 ++ UnpackedFloat.unpackMantissa b).toNat < 2 ^ 53 :=
    (1#1 ++ UnpackedFloat.unpackMantissa b).isLt
  unfold UnpackedFloat.unpack
  dsimp only
  rw [if_neg exponent, bias, bits]
  split_ifs with subnormal
  · trivial
  · refine ⟨Nat.lt_trans mantissa (by decide), ?_⟩
    rw [subnormal]
    decide
  · exact ⟨normal, regular _ (UnpackedFloat.unpackExponent b).isLt fun same =>
      exponent (BitVec.eq_of_toNat_eq same)⟩

private theorem isFinite_unpack_pack {f : UnpackedFloat} (h : InRange f) :
    (UnpackedFloat.unpack Format.binary64 (UnpackedFloat.pack Format.binary64 f)).isFinite =
      true := by
  rw [isFinite_unpack]
  cases f with
  | infinity s => cases h
  | notANumber => cases h
  | zero s =>
    simp only [UnpackedFloat.pack, UnpackedFloat.packedZero,
      UnpackedFloat.unpackExponent_packComponents]
    decide
  | finite s m e pos =>
    have h : e ≤ 971 := h
    have small : ¬ 2048 ≤ (e + 1023 + 52).toNat + 1 := by omega
    change UnpackedFloat.unpackExponent (if 2048 ≤ (e + 1023 + 52).toNat + 1 then _ else
      if m.log2 + 1 = 53 then UnpackedFloat.packComponents Format.binary64 s
        (BitVec.ofNat 11 (e + 1023 + 52).toNat) _ else _) ≠ _
    rw [if_neg small]
    split
    · rw [UnpackedFloat.unpackExponent_packComponents]
      intro same
      have value : (e + 1023 + 52).toNat % 2048 = 2047 := congrArg BitVec.toNat same
      omega
    · rw [UnpackedFloat.unpackExponent_packComponents]
      decide

/-- A mantissa is halved for each place that it is shifted. -/
theorem mantissa_shiftRight (em : ExtendedMantissa) (n : Nat) :
    (em >>> n).mantissa = em.mantissa / 2 ^ n := by
  induction n with
  | zero => rw [Nat.pow_zero, Nat.div_one]; rfl
  | succ n ih =>
    change (em >>> n).mantissa / 2 = _
    rw [ih, Nat.div_div_eq_div_mul, Nat.pow_succ]

theorem roundedMantissa_le (em : ExtendedMantissa) : em.roundedMantissa ≤ em.mantissa + 1 := by
  have half (n : Nat) : n % 2 ≤ 1 := by omega
  unfold ExtendedMantissa.roundedMantissa Accuracy.roundToNearestEven
  split <;> grind

theorem targetExponent_eq (t : Int) : Format.binary64.targetExponent t = max (t - 53) (-1074) := rfl

theorem mantissa_ofMantissaAndAccuracy (m : Nat) (acc : Accuracy) :
    (ExtendedMantissa.ofMantissaAndAccuracy m acc).mantissa = m := by
  unfold ExtendedMantissa.ofMantissaAndAccuracy
  split <;> rfl

theorem log2_le {m k : Nat} (h : m ≤ 2 ^ k) : m.log2 ≤ k := by
  by_cases zero : m = 0
  · simp [zero]
  · have lt : m < 2 ^ (k + 1) := Nat.lt_of_le_of_lt h (Nat.pow_lt_pow_succ (by decide))
    have := (Nat.log2_lt zero).2 lt
    omega

private theorem inRange_dite {c : Prop} [Decidable c] {s : Sign} {m : Nat} {e : Int}
    {pos : ¬ c → 0 < m}
    (h : e ≤ 971) : InRange (if zero : c then .zero s else .finite s m e (pos zero)) := by
  by_cases zero : c
  · rw [dif_pos zero]
    trivial
  · rw [dif_neg zero]
    exact h

/-- Rounding drops the bits beyond 53 and may carry once, so a value of `k` bits keeps its exponent
within one place of that. -/
theorem inRange_round {s : Sign} {m k : Nat} {e : Int} (acc : Accuracy) (bits : m < 2 ^ k)
    (exponent : e ≤ 971) (total : k + e ≤ 1023) :
    InRange (UnpackedFloat.roundWithAccuracy Format.binary64 s m e acc) := by
  have log := log2_le (Nat.le_of_lt bits)
  have carried (k₁ : Nat) :
      (ExtendedMantissa.ofMantissaAndAccuracy m acc >>> k₁).roundedMantissa.log2 ≤ k - k₁ := by
    have rounded := roundedMantissa_le (ExtendedMantissa.ofMantissaAndAccuracy m acc >>> k₁)
    rw [mantissa_shiftRight, mantissa_ofMantissaAndAccuracy] at rounded
    have kept : m / 2 ^ k₁ < 2 ^ (k - k₁) := by
      rw [Nat.div_lt_iff_lt_mul (Nat.two_pow_pos k₁), ← Nat.pow_add]
      exact Nat.lt_of_lt_of_le bits (Nat.pow_le_pow_right (by decide) (by omega))
    exact log2_le (Nat.le_trans rounded kept)
  simp only [UnpackedFloat.roundWithAccuracy, UnpackedFloat.shiftToTargetExponent,
    UnpackedFloat.shiftToExponent, targetExponent_eq, totalExponent]
  refine inRange_dite ?_
  have log' := carried (max ((m.log2 : Int) + 1 + e - 53) (-1074) - e).toNat
  omega

theorem isFinite_pack {f : UnpackedFloat} (h : InRange f) :
    (Float.ofModel (Float.Model.pack f)).isFinite = true :=
  isFinite_unpack_pack h

/-- A finite value is packed as a finite double or as an infinity. -/
theorem isFinite_pack_of_isInf {f : UnpackedFloat} (h : f.isFinite = true)
    (bounded : (Float.ofModel (Float.Model.pack f)).isInf = false) :
    (Float.ofModel (Float.Model.pack f)).isFinite = true := by
  cases f with
  | infinity s => cases h
  | notANumber => cases h
  | zero s => exact isFinite_pack trivial
  | finite s m e pos =>
    by_cases large : 2048 ≤ (e + 1023 + 52).toNat + 1
    · have packed : UnpackedFloat.pack Format.binary64 (.finite s m e pos) =
          UnpackedFloat.packedInfinity Format.binary64 s := if_pos large
      change (UnpackedFloat.unpack Format.binary64
        (UnpackedFloat.pack Format.binary64 (.finite s m e pos))).isInf = false at bounded
      rw [packed] at bounded
      cases s <;> exact absurd bounded (by decide)
    · exact isFinite_pack (show e ≤ 971 by omega)

theorem isStored_toModel {x : Float} (h : x.isFinite = true) : IsStored x.toModel.unpack :=
  isStored_unpack h

theorem isFinite_neg {x : Float} (h : x.isFinite = true) : (-x).isFinite = true := by
  have stored := isStored_toModel h
  refine isFinite_pack (f := x.toModel.unpack.neg) ?_
  cases parts : x.toModel.unpack with
  | infinity s => rw [parts] at stored; cases stored
  | notANumber => rw [parts] at stored; cases stored
  | zero s => trivial
  | finite s m e pos =>
    rw [parts] at stored
    exact stored.2

theorem isFinite_toFloat (n : UInt64) : n.toFloat.isFinite = true := by
  have below : n.toNat < 2 ^ 64 := n.toNat_lt
  refine isFinite_pack (f := UnpackedFloat.normalize Format.binary64 n.toNat 0 .positive) ?_
  have rounded {s : Sign} {m : Nat} (small : m < 2 ^ 64) :
      InRange (UnpackedFloat.round Format.binary64 s m 0) := by
    simp only [UnpackedFloat.round, UnpackedFloat.decreaseExponent]
    generalize (0 - Format.binary64.targetExponent (totalExponent m 0)).toNat = shift
    refine inRange_round (k := 64 + shift) .exact ?_ (by omega) (by omega)
    rw [Nat.shiftLeft_eq, Nat.pow_add]
    exact Nat.mul_lt_mul_of_pos_right small (Nat.two_pow_pos shift)
  unfold UnpackedFloat.normalize
  split
  · exact rounded (by omega)
  · trivial
  · exact rounded (by omega)

theorem isFinite_round (s : Sign) (m : Nat) (e : Int) (acc : Accuracy) :
    (UnpackedFloat.roundWithAccuracy Format.binary64 s m e acc).isFinite = true := by
  simp only [UnpackedFloat.roundWithAccuracy]
  split <;> rfl

theorem isFinite_mul {x y : Float} (hx : x.isFinite = true) (hy : y.isFinite = true)
    (bounded : (x * y).isInf = false) : (x * y).isFinite = true := by
  have finite {f g : UnpackedFloat} (hf : f.isFinite = true) (hg : g.isFinite = true) :
      (UnpackedFloat.mul Format.binary64 f g).isFinite = true := by
    cases f with
    | infinity s => cases hf
    | notANumber => cases hf
    | zero s => cases g <;> first | rfl | cases hg
    | finite s m e pos =>
      cases g with
      | infinity s => cases hg
      | notANumber => cases hg
      | zero s => rfl
      | finite s m e pos => exact isFinite_round _ _ _ _
  exact isFinite_pack_of_isInf (finite hx hy) bounded

def exceedsOne : UnpackedFloat → Bool
  | .finite _ m e _ => 2 ≤ totalExponent m e
  | _ => false

/-- The digits of a quotient: at most as many as the dividend has more than the divisor, and one. -/
theorem inRange_quotient {s : Sign} {m₁ m₂ : Nat} {e₁ e₂ : Int} (mantissa : m₁ < 2 ^ 53)
    (exponent : e₁ ≤ 971) (large : 2 ≤ totalExponent m₂ e₂) (pos : 0 < m₂) :
    InRange (UnpackedFloat.roundWithAccuracy Format.binary64 s
      (UnpackedFloat.divCore Format.binary64 m₁ e₁ m₂ e₂).1
      (UnpackedFloat.divCore Format.binary64 m₁ e₁ m₂ e₂).2.1
      (UnpackedFloat.divCore Format.binary64 m₁ e₁ m₂ e₂).2.2) := by
  have log : m₁.log2 ≤ 52 := by
    by_cases zero : m₁ = 0
    · simp [zero]
    · have := (Nat.log2_lt zero).2 mantissa
      omega
  simp only [UnpackedFloat.divCore, targetExponent_eq, totalExponent] at large ⊢
  generalize target : min (e₁ - e₂)
    (max ((m₁.log2 : Int) + 1 + e₁ - (m₂.log2 + 1 + e₂) - 53) (-1074)) = t
  generalize shift : (e₁ - e₂ - t).toNat = n
  refine inRange_round (k := 53 + n - m₂.log2) _ ?_ (by omega) (by omega)
  rw [Nat.div_lt_iff_lt_mul pos, Nat.shiftLeft_eq]
  have divisor := Nat.log2_self_le (Nat.ne_of_gt pos)
  calc m₁ * 2 ^ n < 2 ^ 53 * 2 ^ n := Nat.mul_lt_mul_of_pos_right mantissa (Nat.two_pow_pos n)
    _ = 2 ^ (53 + n) := (Nat.pow_add 2 53 n).symm
    _ ≤ 2 ^ (53 + n - m₂.log2 + m₂.log2) := Nat.pow_le_pow_right (by decide) (by omega)
    _ = 2 ^ (53 + n - m₂.log2) * 2 ^ m₂.log2 := Nat.pow_add _ _ _
    _ ≤ 2 ^ (53 + n - m₂.log2) * m₂ := Nat.mul_le_mul_left _ divisor

theorem isFinite_div {x y : Float} (hx : x.isFinite = true)
    (hy : exceedsOne y.toModel.unpack = true) : (x / y).isFinite = true := by
  have stored := isStored_toModel hx
  refine isFinite_pack
    (f := UnpackedFloat.div Format.binary64 x.toModel.unpack y.toModel.unpack) ?_
  cases divisor : y.toModel.unpack with
  | infinity s => rw [divisor] at hy; cases hy
  | notANumber => rw [divisor] at hy; cases hy
  | zero s => rw [divisor] at hy; cases hy
  | finite s₂ m₂ e₂ pos₂ =>
    rw [divisor] at hy
    cases parts : x.toModel.unpack with
    | infinity s => rw [parts] at stored; cases stored
    | notANumber => rw [parts] at stored; cases stored
    | zero s => trivial
    | finite s₁ m₁ e₁ pos₁ =>
      rw [parts] at stored
      exact inRange_quotient stored.1 stored.2 (of_decide_eq_true hy) pos₂

/-- The powers of ten among the doubles. -/
theorem exceedsOne_ofScientific : ∀ k < 309, 0 < k →
    exceedsOne (Float.ofScientific 1 false k).toModel.unpack = true := by
  decide +kernel

end Provenance.Decimal
