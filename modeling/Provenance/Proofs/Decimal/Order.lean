import Provenance.Proofs.Decimal.Finite

namespace Provenance.Double

open Float.Model
open Decimal (isFinite_pack_of_isInf isFinite_round)
open Float.Model.UnpackedFloat (Sign)

/-- Where a number lies: the infinities outermost, a finite one by its exponent and its mantissa. -/
def place : UnpackedFloat → Int ×ₗ Int ×ₗ Int
  | .infinity .negative => toLex (-2, toLex (0, 0))
  | .finite .negative m e _ => toLex (-1, toLex (-e, -m))
  | .finite .positive m e _ => toLex (1, toLex (e, m))
  | .infinity .positive => toLex (2, toLex (0, 0))
  | _ => toLex (0, toLex (0, 0))

private theorem then_compare (e₁ e₂ : Int) (m₁ m₂ : Nat) : (compare e₁ e₂).then (compare m₁ m₂) =
    cmp (toLex (e₁, (m₁ : Int))) (toLex (e₂, (m₂ : Int))) := by
  rcases lt_trichotomy e₁ e₂ with less | rfl | more
  · simp [compare_lt_iff_lt.2 less, cmp, cmpUsing, Prod.Lex.toLex_lt_toLex, less]
  · rcases lt_trichotomy m₁ m₂ with less | rfl | more
    · simp [compare_lt_iff_lt.2 less, cmp, cmpUsing, Prod.Lex.toLex_lt_toLex, less]
    · simp [cmp, cmpUsing]
    · simp [compare_gt_iff_gt.2 more, cmp, cmpUsing, Prod.Lex.toLex_lt_toLex, more,
        not_lt_of_gt more]
  · simp [compare_gt_iff_gt.2 more, cmp, cmpUsing, Prod.Lex.toLex_lt_toLex, more,
      not_lt_of_gt more, ne_of_gt more]

private theorem cmp_pos (e₁ e₂ m₁ m₂ : Int) :
    cmp (toLex ((1 : Int), toLex (e₁, m₁))) (toLex (1, toLex (e₂, m₂))) =
      cmp (toLex (e₁, m₁)) (toLex (e₂, m₂)) := by
  simp only [cmp, cmpUsing, Prod.Lex.toLex_lt_toLex (x := (_, toLex _)), lt_self_iff_false,
    true_and, false_or]

/-- Below 0 the order of exponents and mantissas is the other way round. -/
theorem cmp_neg (e₁ e₂ m₁ m₂ : Int) :
    cmp (toLex ((-1 : Int), toLex (-e₁, -m₁))) (toLex (-1, toLex (-e₂, -m₂))) =
      (cmp (toLex (e₁, m₁)) (toLex (e₂, m₂))).swap := by
  rw [cmp_swap]
  simp only [cmp, cmpUsing, Prod.Lex.toLex_lt_toLex, lt_self_iff_false, neg_lt_neg_iff, neg_inj,
    true_and, false_or, eq_comm]

/-- Numbers compare as their places do. -/
theorem compare_eq_cmp {f g : UnpackedFloat} (hf : f.isNaN = false) (hg : g.isNaN = false) :
    f.compare g = some (cmp (place f) (place g)) := by
  rcases f with (_ | _) | _ | _ | ⟨_ | _, m, e, p⟩ <;>
    rcases g with (_ | _) | _ | _ | ⟨_ | _, m', e', p'⟩
  case finite.negative.finite.negative =>
    show some ((compare e e').then (compare m m')).swap = _
    rw [then_compare, ← cmp_neg]
    rfl
  case finite.positive.finite.positive =>
    show some ((compare e e').then (compare m m')) = _
    rw [then_compare, ← cmp_pos]
    rfl
  all_goals first
    | cases hf; done
    | cases hg; done
    | rfl

theorem compare_eq_some_iff {f g : UnpackedFloat} {o : Ordering} : f.compare g = some o ↔
    f.isNaN = false ∧ g.isNaN = false ∧ cmp (place f) (place g) = o := by
  by_cases numbers : f.isNaN = false ∧ g.isNaN = false
  · rw [compare_eq_cmp numbers.1 numbers.2, Option.some.injEq]
    simp only [numbers, true_and]
  · have incomparable : f.compare g = none := by
      cases f with
      | notANumber => rfl
      | _ =>
        cases g with
        | notANumber => rfl
        | _ => exact absurd ⟨rfl, rfl⟩ numbers
    rw [incomparable]
    simp only [reduceCtorEq, false_iff]
    intro comparable
    exact numbers ⟨comparable.1, comparable.2.1⟩

/-- One double is less than another if both are numbers and it lies before the other. -/
theorem lt_iff {x y : Float} : x < y ↔ x.isNaN = false ∧ y.isNaN = false ∧
    place x.toModel.unpack < place y.toModel.unpack := by
  show decide (x.toModel < y.toModel) = true ↔ _
  rw [decide_eq_true_iff]
  show (x.toModel.unpack.compare y.toModel.unpack == some .lt) = true ↔ _
  rw [beq_iff_eq, compare_eq_some_iff, cmp_eq_lt_iff]
  exact Iff.rfl

theorem le_iff {x y : Float} : x ≤ y ↔ x.isNaN = false ∧ y.isNaN = false ∧
    place x.toModel.unpack ≤ place y.toModel.unpack := by
  show decide (x.toModel ≤ y.toModel) = true ↔ _
  rw [decide_eq_true_iff]
  show (x.toModel.unpack.compare y.toModel.unpack).any (·.isLE) = true ↔ _
  rw [Option.any_eq_true]
  simp only [compare_eq_some_iff]
  constructor
  · intro ordered
    obtain ⟨o, ⟨hx, hy, rfl⟩, before⟩ := ordered
    refine ⟨hx, hy, not_lt.1 ?_⟩
    intro after
    rw [(cmp_eq_gt_iff _ _).2 after] at before
    cases before
  · intro ordered
    obtain ⟨hx, hy, before⟩ := ordered
    refine ⟨_, ⟨hx, hy, rfl⟩, ?_⟩
    rcases before.lt_or_eq with less | same
    · rw [(cmp_eq_lt_iff _ _).2 less]
      rfl
    · rw [(cmp_eq_eq_iff _ _).2 same]
      rfl

/-- What is at most something, or has something above it, is a number. -/
theorem isNaN_of_le {x y : Float} (h : x ≤ y) : x.isNaN = false ∧ y.isNaN = false :=
  ⟨(le_iff.1 h).1, (le_iff.1 h).2.1⟩

theorem le_of_lt {x y : Float} (h : x < y) : x ≤ y := by
  obtain ⟨hx, hy, before⟩ := lt_iff.1 h
  exact le_iff.2 ⟨hx, hy, Std.le_of_lt before⟩

theorem le_trans {x y z : Float} (h : x ≤ y) (h' : y ≤ z) : x ≤ z := by
  obtain ⟨hx, -, before⟩ := le_iff.1 h
  obtain ⟨-, hz, before'⟩ := le_iff.1 h'
  exact le_iff.2 ⟨hx, hz, before.trans before'⟩

theorem not_lt_of_le {x y : Float} (h : x ≤ y) : ¬ y < x := by
  intro less
  exact not_lt.2 (le_iff.1 h).2.2 (lt_iff.1 less).2.2

/-- Of two numbers, one that is not less than the other has it at most as large. -/
theorem le_of_not_lt {x y : Float} (hx : x.isNaN = false) (hy : y.isNaN = false) (h : ¬ x < y) :
    y ≤ x := by
  refine le_iff.2 ⟨hy, hx, ?_⟩
  by_contra before
  exact h (lt_iff.2 ⟨hx, hy, not_le.1 before⟩)

/-- A number that is not at most another one is above it. -/
theorem lt_of_not_le {x y : Float} (hx : x.isNaN = false) (hy : y.isNaN = false) (h : ¬ x ≤ y) :
    y < x := by
  by_contra more
  exact h (le_of_not_lt hy hx more)

theorem isNaN_eq_false_of_isFinite {f : UnpackedFloat} (finite : f.isFinite = true) :
    f.isNaN = false := by
  cases f with
  | notANumber => cases finite
  | _ => rfl

theorem isFinite_of_isNaN_isInf {x : Float} (number : x.isNaN = false) (bounded : x.isInf = false) :
    x.isFinite = true := by
  have number : x.toModel.unpack.isNaN = false := number
  have bounded : x.toModel.unpack.isInf = false := bounded
  show x.toModel.unpack.isFinite = true
  cases parts : x.toModel.unpack with
  | notANumber => rw [parts] at number; cases number
  | infinity s => rw [parts] at bounded; cases bounded
  | zero s => rfl
  | finite s m e pos => rfl

/-- A number is packed as a number. -/
theorem isNaN_pack {f : UnpackedFloat} (number : f.isNaN = false) :
    (Float.ofModel (Float.Model.pack f)).isNaN = false := by
  cases f with
  | notANumber => cases number
  | infinity s => cases s <;> decide +kernel
  | zero s => cases s <;> decide +kernel
  | finite s m e pos =>
    show (Float.Model.pack (.finite s m e pos)).unpack.isNaN = false
    cases infinite : (Float.Model.pack (.finite s m e pos)).unpack.isInf with
    | false => exact isNaN_eq_false_of_isFinite (isFinite_pack_of_isInf rfl infinite)
    | true =>
      cases parts : (Float.Model.pack (.finite s m e pos)).unpack with
      | notANumber => rw [parts] at infinite; cases infinite
      | _ => rfl

/-- What lies above 0 is positive. -/
theorem positive_of_zero_lt {y : Float} (pos : (0.0 : Float) < y) :
    y.toModel.unpack = .infinity .positive ∨
      ∃ m e p, y.toModel.unpack = .finite .positive m e p := by
  obtain ⟨-, number, above⟩ := lt_iff.1 pos
  have number : y.toModel.unpack.isNaN = false := number
  have above : place (.zero .positive) < place y.toModel.unpack := above
  cases parts : y.toModel.unpack with
  | notANumber => rw [parts] at number; cases number
  | zero s => rw [parts] at above; exact absurd above (lt_irrefl _)
  | infinity s =>
    rw [parts] at above
    cases s with
    | positive => exact Or.inl rfl
    | negative => simp [place, Prod.Lex.toLex_lt_toLex] at above
  | finite s m e p =>
    rw [parts] at above
    cases s with
    | positive => exact Or.inr ⟨m, e, p, rfl⟩
    | negative => simp [place, Prod.Lex.toLex_lt_toLex] at above

/-- A finite double divided by one above 0, which may be infinite, is a number. -/
theorem isNaN_div {x y : Float} (hx : x.isFinite = true) (pos : (0.0 : Float) < y) :
    (x / y).isNaN = false := by
  refine isNaN_pack
    (f := UnpackedFloat.div Format.binary64 x.toModel.unpack y.toModel.unpack) ?_
  have finite : x.toModel.unpack.isFinite = true := hx
  cases dividend : x.toModel.unpack with
  | notANumber => rw [dividend] at finite; cases finite
  | infinity s => rw [dividend] at finite; cases finite
  | zero s =>
    rcases positive_of_zero_lt pos with divisor | ⟨m, e, p, divisor⟩
    · rw [divisor]; rfl
    · rw [divisor]; rfl
  | finite s m e p =>
    rcases positive_of_zero_lt pos with divisor | ⟨m', e', p', divisor⟩
    · rw [divisor]; rfl
    · rw [divisor]
      exact isNaN_eq_false_of_isFinite (isFinite_round _ _ _ _)

/-- A quotient by what is no number is none. -/
theorem isNaN_div_of_isNaN {x y : Float} (hy : y.isNaN = true) : (x / y).isNaN = true := by
  have divisor : y.toModel.unpack = .notANumber := by
    cases parts : y.toModel.unpack with
    | notANumber => rfl
    | _ =>
      have number : y.toModel.unpack.isNaN = true := hy
      rw [parts] at number
      cases number
  have quotient : UnpackedFloat.div Format.binary64 x.toModel.unpack y.toModel.unpack =
      .notANumber := by
    rw [divisor]
    cases x.toModel.unpack <;> rfl
  show (Float.Model.pack (UnpackedFloat.div Format.binary64 x.toModel.unpack
    y.toModel.unpack)).unpack.isNaN = true
  rw [quotient]
  decide +kernel

end Provenance.Double

namespace Provenance.Decimal

open Float.Model
open Float.Model.UnpackedFloat (Accuracy ExtendedMantissa Sign)

/-- The bits of a double that is neither zero nor subnormal. -/
def IsNormal (m : Nat) (e : Int) : Prop := 2 ^ 52 ≤ m ∧ m < 2 ^ 53 ∧ -1074 ≤ e ∧ e ≤ 971

theorem log2_eq {m : Nat} (low : 2 ^ 52 ≤ m) (high : m < 2 ^ 53) : m.log2 = 52 := by
  have ne : m ≠ 0 := by omega
  have := (Nat.le_log2 ne).2 low
  have := (Nat.log2_lt ne).2 high
  omega

/-- Storing such a value and reading it back gives the value. -/
theorem unpack_pack_of_isNormal {s : Sign} {m : Nat} {e : Int} {pos : 0 < m}
    (normal : IsNormal m e) :
    (Float.Model.pack (.finite s m e pos)).unpack = .finite s m e pos := by
  obtain ⟨low, high, small, large⟩ := normal
  obtain ⟨b, exponent, least, most, back⟩ : ∃ b : Nat, (e + 1023 + 52).toNat = b ∧
      1 ≤ b ∧ b ≤ 2046 ∧ (b : Int) - 1075 = e := ⟨_, rfl, by omega, by omega, by omega⟩
  have packed : UnpackedFloat.pack Format.binary64 (.finite s m e pos) =
      UnpackedFloat.packComponents Format.binary64 s (BitVec.ofNat 11 b) (BitVec.ofNat 52 m) := by
    show (if 2048 ≤ (e + 1023 + 52).toNat + 1 then _ else if m.log2 + 1 = 53 then
      UnpackedFloat.packComponents Format.binary64 s (BitVec.ofNat 11 (e + 1023 + 52).toNat)
        (BitVec.ofNat 52 m) else _) = _
    rw [exponent, if_neg (by omega), if_pos (by rw [log2_eq low high])]
  show UnpackedFloat.unpack Format.binary64 (UnpackedFloat.pack Format.binary64 _) = _
  have value : (BitVec.ofNat 11 b).toNat = b := by
    rw [BitVec.toNat_ofNat]
    omega
  have bits : (1#1 ++ BitVec.ofNat 52 m).toNat = m := by
    rw [BitVec.toNat_append]
    show 1 <<< 52 ||| m % 2 ^ 52 = m
    rw [← Nat.shiftLeft_add_eq_or_of_lt (Nat.mod_lt m (Nat.two_pow_pos 52))]
    omega
  have finite : BitVec.ofNat 11 b ≠ -1#11 := by
    intro same
    have last : b = 2047 := value.symm.trans (congrArg BitVec.toNat same)
    omega
  have regular : BitVec.ofNat 11 b ≠ 0#11 := by
    intro same
    have first : b = 0 := value.symm.trans (congrArg BitVec.toNat same)
    omega
  rw [packed]
  unfold UnpackedFloat.unpack
  simp only [UnpackedFloat.unpackExponent_packComponents,
    UnpackedFloat.unpackMantissa_packComponents, UnpackedFloat.unpackSign_packComponents,
    UnpackedFloat.Sign.ofBitVec_toBitVec]
  rw [if_neg finite, if_neg regular, UnpackedFloat.finite.injEq]
  exact ⟨rfl, bits, (congrArg (fun k : Nat => (k : Int) - 1075) value).trans back⟩

/-- The leading 53 bits. -/
theorem top_bits {m : Nat} (large : 2 ^ 52 ≤ m) :
    2 ^ 52 ≤ m / 2 ^ (m.log2 - 52) ∧ m / 2 ^ (m.log2 - 52) < 2 ^ 53 := by
  have ne : m ≠ 0 := by omega
  have log : 52 ≤ m.log2 := (Nat.le_log2 ne).2 large
  constructor
  · rw [Nat.le_div_iff_mul_le (Nat.two_pow_pos _), ← Nat.pow_add, Nat.add_sub_cancel' log]
    exact Nat.log2_self_le ne
  · rw [Nat.div_lt_iff_lt_mul (Nat.two_pow_pos _), ← Nat.pow_add]
    have exponent : 53 + (m.log2 - 52) = m.log2 + 1 := by omega
    rw [exponent]
    exact Nat.lt_log2_self

/-- A value with 53 bits or more is cut down to 53. -/
theorem shiftToTargetExponent_of_large {m : Nat} {e : Int} (large : 2 ^ 52 ≤ m)
    (normal : -1022 ≤ m.log2 + e) (acc : Accuracy) :
    UnpackedFloat.shiftToTargetExponent Format.binary64 m e acc =
      (ExtendedMantissa.ofMantissaAndAccuracy m acc >>> (m.log2 - 52), m.log2 + e - 52) := by
  have log : 52 ≤ m.log2 := (Nat.le_log2 (by omega)).2 large
  have target : Format.binary64.targetExponent (totalExponent m e) = m.log2 + e - 52 := by
    rw [targetExponent_eq, totalExponent]
    omega
  have shift : (m.log2 + e - 52 - e : Int).toNat = m.log2 - 52 := by omega
  have back : e + (m.log2 - 52 : Nat) = m.log2 + e - 52 := by omega
  rw [UnpackedFloat.shiftToTargetExponent, target]
  simp only [UnpackedFloat.shiftToExponent, shift, back]

private theorem le_roundedMantissa (em : ExtendedMantissa) : em.mantissa ≤ em.roundedMantissa := by
  unfold ExtendedMantissa.roundedMantissa Accuracy.roundToNearestEven
  split <;> omega

/-- Rounding keeps 53 bits: the rounded mantissa, or half of it after a carry. -/
theorem roundWithAccuracy_of_large {m : Nat} {e : Int} (large : 2 ^ 52 ≤ m)
    (normal : -1022 ≤ m.log2 + e) (s : Sign) (acc : Accuracy) :
    ∃ m' e' pos rounded, UnpackedFloat.roundWithAccuracy Format.binary64 s m e acc =
      .finite s m' e' pos ∧ 2 ^ 52 ≤ m' ∧ m' < 2 ^ 53 ∧
        (ExtendedMantissa.ofMantissaAndAccuracy m acc >>> (m.log2 - 52)).roundedMantissa =
          rounded ∧
        (m' = rounded ∧ e' = m.log2 + e - 52 ∨ 2 * m' = rounded ∧ e' = m.log2 + e - 51) := by
  set em := ExtendedMantissa.ofMantissaAndAccuracy m acc >>> (m.log2 - 52) with cut
  have kept : em.mantissa = m / 2 ^ (m.log2 - 52) := by
    rw [cut, mantissa_shiftRight, mantissa_ofMantissaAndAccuracy]
  obtain ⟨low, high⟩ := top_bits large
  have up := le_roundedMantissa em
  have carry := roundedMantissa_le em
  have rounded : 2 ^ 52 ≤ em.roundedMantissa := by omega
  have log : 52 ≤ em.roundedMantissa.log2 := (Nat.le_log2 (by omega)).2 rounded
  have log' : em.roundedMantissa.log2 ≤ 53 := log2_le (by omega)
  have result := shiftToTargetExponent_of_large (e := m.log2 + e - 52) rounded (by omega) .exact
  obtain ⟨low', high'⟩ := top_bits rounded
  have final : (ExtendedMantissa.ofMantissaAndAccuracy em.roundedMantissa .exact >>>
      (em.roundedMantissa.log2 - 52)).mantissa =
        em.roundedMantissa / 2 ^ (em.roundedMantissa.log2 - 52) := by
    rw [mantissa_shiftRight, mantissa_ofMantissaAndAccuracy]
  have pos : 0 < em.roundedMantissa / 2 ^ (em.roundedMantissa.log2 - 52) := by omega
  refine ⟨_, em.roundedMantissa.log2 + (m.log2 + e - 52) - 52, pos, em.roundedMantissa, ?_, low',
    high', rfl, ?_⟩
  · simp only [UnpackedFloat.roundWithAccuracy, shiftToTargetExponent_of_large large normal, ← cut,
      result, final]
    rw [dif_neg (by omega)]
  · rcases (by omega : em.roundedMantissa.log2 = 52 ∨ em.roundedMantissa.log2 = 53) with
      plain | carried
    · rw [plain]
      exact .inl ⟨Nat.div_one _, by omega⟩
    · have top : 2 ^ 53 ≤ em.roundedMantissa := (Nat.le_log2 (by omega)).1 carried.ge
      rw [carried]
      exact .inr ⟨by omega, by omega⟩

/-- A stored value with 53 bits and an exponent from -52 on is at least 1. -/
theorem one_le_of_parts {x : Float} {m : Nat} {e : Int} {pos : 0 < m}
    (parts : x.toModel.unpack = .finite .positive m e pos) (low : 2 ^ 52 ≤ m)
    (exponent : -52 ≤ e) : (1.0 : Float) ≤ x := by
  have number : x.isNaN = false := by
    show x.toModel.unpack.isNaN = false
    rw [parts]
    rfl
  have one : Double.place (1.0 : Float).toModel.unpack =
      toLex (1, toLex (-52, ((2 ^ 52 : Nat) : Int))) := rfl
  refine Double.le_iff.2 ⟨by decide +kernel, number, ?_⟩
  rw [one, parts]
  simp only [Double.place, Prod.Lex.toLex_le_toLex, true_and, lt_self_iff_false, false_or]
  omega

private theorem log2_shiftLeft {n : Nat} (pos : 0 < n) (k : Nat) : (n <<< k).log2 = n.log2 + k := by
  have ne : n ≠ 0 := by omega
  have low := Nat.log2_self_le ne
  have high := Nat.lt_log2_self (n := n)
  rw [Nat.shiftLeft_eq, Nat.log2_eq_iff (Nat.mul_ne_zero ne (by positivity))]
  constructor
  · rw [Nat.pow_add]
    exact Nat.mul_le_mul_right _ low
  · have split : n.log2 + k + 1 = n.log2 + 1 + k := by omega
    rw [split, Nat.pow_add]
    exact Nat.mul_lt_mul_of_pos_right high (Nat.two_pow_pos k)

/-- A whole number of 64 bits has its leading bit at 1 or above, also after it was rounded; one of 53
bits is not rounded. -/
theorem exists_parts_toFloat {n : UInt64} (pos : 0 < n) :
    ∃ m e kept, n.toFloat.toModel.unpack = .finite .positive m e kept ∧
      2 ^ 52 ≤ m ∧ m < 2 ^ 53 ∧ -52 ≤ e ∧ e ≤ 12 ∧
        (n.toNat < 2 ^ 53 → m = n.toNat <<< (52 - n.toNat.log2) ∧ e = n.toNat.log2 - 52) := by
  have some_bit : 0 < n.toNat := UInt64.lt_iff_toNat_lt.1 pos
  have below : n.toNat.log2 < 64 := (Nat.log2_lt (by omega)).2 n.toNat_lt
  have shift : (0 - Format.binary64.targetExponent (totalExponent n.toNat 0)).toNat =
      52 - n.toNat.log2 := by
    rw [targetExponent_eq, totalExponent]
    omega
  have log := log2_shiftLeft some_bit (52 - n.toNat.log2)
  have large : 2 ^ 52 ≤ n.toNat <<< (52 - n.toNat.log2) := by
    rw [← Nat.le_log2 (by rw [Nat.shiftLeft_eq]; positivity), log]
    omega
  obtain ⟨m, e, kept, whole, rounded, low, high, cut, parts⟩ := roundWithAccuracy_of_large
    (e := 0 - (52 - n.toNat.log2 : Nat)) large (by omega) .positive .exact
  have sign : compare (n.toNat : Int) 0 = .gt := by
    rw [compare_gt_iff_gt]
    omega
  have positive : UnpackedFloat.normalize Format.binary64 n.toNat 0 .positive =
      .finite .positive m e kept := by
    rw [UnpackedFloat.normalize, sign]
    simp only [UnpackedFloat.round, UnpackedFloat.decreaseExponent, Int.toNat_natCast, shift]
    exact rounded
  have stored : n.toFloat.toModel.unpack = .finite .positive m e kept := by
    show (Float.Model.pack (UnpackedFloat.normalize Format.binary64 n.toNat 0 .positive)).unpack = _
    rw [positive]
    exact unpack_pack_of_isNormal ⟨low, high, by omega, by omega⟩
  refine ⟨m, e, kept, stored, low, high, by omega, by omega, ?_⟩
  intro few
  have bits : n.toNat.log2 < 53 := (Nat.log2_lt (by omega)).2 few
  have uncut : (n.toNat <<< (52 - n.toNat.log2)).log2 - 52 = 0 := by omega
  have most : n.toNat <<< (52 - n.toNat.log2) < 2 ^ 53 := (Nat.log2_lt (by omega)).1 (by omega)
  rw [uncut] at cut
  have exact : n.toNat <<< (52 - n.toNat.log2) = whole := cut
  rcases parts with ⟨plain, exponent⟩ | ⟨carried, -⟩
  · exact ⟨plain.trans exact.symm, by omega⟩
  · omega

theorem one_le_toFloat {n : UInt64} (pos : 0 < n) : 1.0 ≤ n.toFloat := by
  obtain ⟨m, e, kept, parts, low, -, exponent, -⟩ := exists_parts_toFloat pos
  exact one_le_of_parts parts low exponent

end Provenance.Decimal
