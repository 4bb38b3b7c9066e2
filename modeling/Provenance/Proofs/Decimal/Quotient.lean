import Mathlib
import Provenance.Proofs.Decimal.Order

namespace Provenance.Decimal

open Float.Model
open Float.Model.UnpackedFloat (Accuracy ExtendedMantissa Sign)

variable {x y : ℚ} {m n : Nat} {acc : Accuracy}

/-- Where a number lies between a mantissa and the next one. -/
inductive Locates (m : Nat) (x : ℚ) : Accuracy → Prop where
  | exact (same : x = m) : Locates m x .exact
  | first (above : m < x) (below : x < m + 1 / 2) : Locates m x (.inexact .lt)
  | half (same : x = m + 1 / 2) : Locates m x (.inexact .eq)
  | second (above : m + 1 / 2 < x) (below : x < m + 1) : Locates m x (.inexact .gt)

private theorem locates_exact : Locates m x .exact ↔ x = m :=
  ⟨fun (.exact same) => same, .exact⟩

private theorem locates_lt : Locates m x (.inexact .lt) ↔ m < x ∧ x < m + 1 / 2 :=
  ⟨fun (.first above below) => ⟨above, below⟩, fun range => .first range.1 range.2⟩

private theorem locates_eq : Locates m x (.inexact .eq) ↔ x = m + 1 / 2 :=
  ⟨fun (.half same) => same, .half⟩

private theorem locates_gt : Locates m x (.inexact .gt) ↔ m + 1 / 2 < x ∧ x < m + 1 :=
  ⟨fun (.second above below) => ⟨above, below⟩, fun range => .second range.1 range.2⟩

/-- The remainder of a division locates the quotient. -/
theorem locates_div (pos : 0 < n) :
    Locates (m / n) (m / n) (UnpackedFloat.accuracyOfFraction (m % n) n) := by
  have below := Nat.mod_lt m pos
  have parts : (m : ℚ) = n * (m / n : Nat) + (m % n : Nat) := by
    exact_mod_cast (Nat.div_add_mod m n).symm
  have positive : (0 : ℚ) < n := by exact_mod_cast pos
  generalize m / n = q at parts ⊢
  generalize m % n = r at below parts ⊢
  have value : (m : ℚ) / n = q + r / n := by
    rw [parts]
    field_simp
  have proper : (r : ℚ) / n < 1 := by
    rw [div_lt_one positive]
    exact_mod_cast below
  rw [value, UnpackedFloat.accuracyOfFraction]
  split_ifs with zero
  · exact .exact (by simp [zero])
  · have some_rest : (0 : ℚ) < r / n := by
      have : 0 < r := by omega
      positivity
    rcases lt_trichotomy (2 * r) n with less | half | more
    · have less' : (r : ℚ) / n < 1 / 2 := by
        rw [div_lt_div_iff₀ positive two_pos]
        exact_mod_cast (by omega : r * 2 < 1 * n)
      rw [compare_lt_iff_lt.2 less]
      exact .first (by linarith) (by linarith)
    · have half' : (r : ℚ) / n = 1 / 2 := by
        rw [div_eq_div_iff positive.ne' two_ne_zero]
        exact_mod_cast (by omega : r * 2 = 1 * n)
      rw [compare_eq_iff_eq.2 half]
      exact .half (congrArg _ half')
    · have more' : 1 / 2 < (r : ℚ) / n := by
        rw [div_lt_div_iff₀ two_pos positive]
        exact_mod_cast (by omega : 1 * n < r * 2)
      rw [compare_gt_iff_gt.2 more]
      exact .second (by linarith) (by linarith)

private theorem locates_ofMantissaAndAccuracy (located : Locates m x acc) :
    Locates (ExtendedMantissa.ofMantissaAndAccuracy m acc).mantissa x
      (ExtendedMantissa.ofMantissaAndAccuracy m acc).accuracy := by
  cases located with
  | exact same => exact .exact same
  | first above below => exact .first above below
  | half same => exact .half same
  | second above below => exact .second above below

/-- The round bit and the sticky bit keep track of what is shifted out. -/
theorem Locates.shiftRightOne {em : ExtendedMantissa} (located : Locates em.mantissa x em.accuracy) :
    Locates em.shiftRightOne.mantissa (x / 2) em.shiftRightOne.accuracy := by
  obtain ⟨m, round, sticky⟩ := em
  -- The last bit of the mantissa becomes the round bit, and the other two one sticky bit.
  rcases Nat.even_or_odd' m with ⟨k, rfl | rfl⟩
  · have half : 2 * k / 2 = k := by omega
    cases round <;> cases sticky <;>
      simp [ExtendedMantissa.accuracy, ExtendedMantissa.shiftRightOne, half, locates_exact,
        locates_lt, locates_eq, locates_gt] at located ⊢ <;>
      grind
  · have half : (2 * k + 1) / 2 = k := by omega
    cases round <;> cases sticky <;>
      simp [ExtendedMantissa.accuracy, ExtendedMantissa.shiftRightOne, half, locates_exact,
        locates_lt, locates_eq, locates_gt] at located ⊢ <;>
      grind

private theorem Locates.shiftRight {em : ExtendedMantissa}
    (located : Locates em.mantissa x em.accuracy)
    (k : Nat) : Locates (em >>> k).mantissa (x / 2 ^ k) (em >>> k).accuracy := by
  induction k with
  | zero =>
    rw [pow_zero, div_one]
    exact located
  | succ k ih =>
    rw [pow_succ, ← div_div]
    exact ih.shiftRightOne

/-- Rounding goes to one of the nearest whole numbers. -/
theorem Locates.abs_roundedMantissa_sub_le {em : ExtendedMantissa}
    (located : Locates em.mantissa x em.accuracy) : |(em.roundedMantissa : ℚ) - x| ≤ 1 / 2 := by
  unfold ExtendedMantissa.roundedMantissa
  rw [abs_le]
  generalize em.accuracy = acc at located
  cases located with
  | exact same =>
    rw [Accuracy.roundToNearestEven]
    constructor <;> linarith
  | first above below =>
    simp only [Accuracy.roundToNearestEven]
    constructor <;> linarith
  | half same =>
    have parity : (0 : ℚ) ≤ (em.mantissa % 2 : Nat) ∧ ((em.mantissa % 2 : Nat) : ℚ) ≤ 1 :=
      ⟨by positivity, by exact_mod_cast (by omega : em.mantissa % 2 ≤ 1)⟩
    obtain ⟨even, odd⟩ := parity
    simp only [Accuracy.roundToNearestEven, Nat.cast_add]
    constructor <;> linarith
  | second above below =>
    simp only [Accuracy.roundToNearestEven, Nat.cast_add, Nat.cast_one]
    constructor <;> linarith

/-- Rounding leaves a value within half a unit of its last place. -/
theorem roundWithAccuracy_near {e : Int} (large : 2 ^ 52 ≤ m) (normal : -1022 ≤ m.log2 + e)
    (located : Locates m x acc) (s : Sign) :
    ∃ m' e' pos, UnpackedFloat.roundWithAccuracy Format.binary64 s m e acc =
      .finite s m' e' pos ∧ 2 ^ 52 ≤ m' ∧ m' < 2 ^ 53 ∧ m.log2 + e - 52 ≤ e' ∧
        e' ≤ m.log2 + e - 51 ∧ |(m' : ℚ) * 2 ^ e' - x * 2 ^ e| ≤ 2 ^ e' / 2 := by
  obtain ⟨m', e', pos, rounded, result, low, high, same, parts⟩ :=
    roundWithAccuracy_of_large large normal s acc
  refine ⟨m', e', pos, result, low, high, by omega, by omega, ?_⟩
  have log : 52 ≤ m.log2 := (Nat.le_log2 (by omega)).2 large
  have near :=
    ((locates_ofMantissaAndAccuracy located).shiftRight (m.log2 - 52)).abs_roundedMantissa_sub_le
  rw [same] at near
  -- In units of the last place before the carry, if there is one.
  have unit : (0 : ℚ) < 2 ^ (m.log2 + e - 52) := by positivity
  have exact : x * 2 ^ e = x / 2 ^ (m.log2 - 52) * 2 ^ (m.log2 + e - 52) := by
    have exponent : (m.log2 : Int) + e - 52 = e + (m.log2 - 52 : Nat) := by omega
    rw [exponent, zpow_add₀ two_ne_zero, zpow_natCast]
    field_simp
  have value : (m' : ℚ) * 2 ^ e' = rounded * 2 ^ (m.log2 + e - 52) := by
    rcases parts with ⟨plain, rfl⟩ | ⟨carried, rfl⟩
    · rw [plain]
    · have exponent : (m.log2 : Int) + e - 51 = m.log2 + e - 52 + 1 := by omega
      rw [exponent, zpow_add_one₀ two_ne_zero, ← carried]
      push_cast
      ring
  have grown : (2 : ℚ) ^ (m.log2 + e - 52) ≤ 2 ^ e' :=
    zpow_le_zpow_right₀ one_le_two (by omega)
  rw [value, exact, ← sub_mul, abs_mul, abs_of_pos unit]
  calc |(rounded : ℚ) - x / 2 ^ (m.log2 - 52)| * 2 ^ (m.log2 + e - 52)
    _ ≤ 1 / 2 * 2 ^ (m.log2 + e - 52) := mul_le_mul_of_nonneg_right near unit.le
    _ ≤ 2 ^ e' / 2 := by linarith

/-- The double `f` is the value `v` of 53 bits, rounded to within half a unit of its last place. -/
def Near (f : Float) (v : ℚ) : Prop :=
  ∃ m e pos, f.toModel.unpack = .finite .positive m e pos ∧ 2 ^ 52 ≤ m ∧ m < 2 ^ 53 ∧
    |(m : ℚ) * 2 ^ e - v| ≤ 2 ^ e / 2

section Division

variable {f g : Float} {m₁ m₂ : Nat} {e₁ e₂ : Int} {pos₁ : 0 < m₁} {pos₂ : 0 < m₂}

/-- With as many bits on both sides the quotient has 53 or 54 before it is rounded. -/
theorem near_div (hf : f.toModel.unpack = .finite .positive m₁ e₁ pos₁)
    (hg : g.toModel.unpack = .finite .positive m₂ e₂ pos₂) (low₁ : 2 ^ 52 ≤ m₁) (high₁ : m₁ < 2 ^ 53)
    (low₂ : 2 ^ 52 ≤ m₂) (high₂ : m₂ < 2 ^ 53) (small : -1021 ≤ e₁ - e₂) (large : e₁ - e₂ ≤ 1000) :
    Near (f / g) (m₁ * 2 ^ e₁ / (m₂ * 2 ^ e₂)) := by
  have target : min (e₁ - e₂) (Format.binary64.targetExponent
      (totalExponent m₁ e₁ - totalExponent m₂ e₂)) = e₁ - e₂ - 53 := by
    rw [targetExponent_eq, totalExponent, totalExponent, log2_eq low₁ high₁, log2_eq low₂ high₂]
    omega
  have shift : (e₁ - e₂ - (e₁ - e₂ - 53)).toNat = 53 := by omega
  have quotient : UnpackedFloat.div Format.binary64 f.toModel.unpack g.toModel.unpack =
      UnpackedFloat.roundWithAccuracy Format.binary64 .positive (m₁ <<< 53 / m₂) (e₁ - e₂ - 53)
        (UnpackedFloat.accuracyOfFraction (m₁ <<< 53 % m₂) m₂) := by
    have sign : Sign.positive / Sign.positive = .positive := rfl
    rw [hf, hg]
    simp only [UnpackedFloat.div, UnpackedFloat.divCore, target, shift, sign]
  have least : 2 ^ 52 ≤ m₁ <<< 53 / m₂ := by
    rw [Nat.le_div_iff_mul_le pos₂, Nat.shiftLeft_eq]
    omega
  have most : m₁ <<< 53 / m₂ < 2 ^ 54 := by
    rw [Nat.div_lt_iff_lt_mul pos₂, Nat.shiftLeft_eq]
    omega
  have log : (m₁ <<< 53 / m₂).log2 < 54 := (Nat.log2_lt (by omega)).2 most
  have log' : 52 ≤ (m₁ <<< 53 / m₂).log2 := (Nat.le_log2 (by omega)).2 least
  obtain ⟨m, e, pos, rounded, low, high, exponent, exponent', near⟩ :=
    roundWithAccuracy_near (e := e₁ - e₂ - 53) least (by omega) (locates_div pos₂) .positive
  refine ⟨m, e, pos, ?_, low, high, ?_⟩
  · show (Float.Model.pack (UnpackedFloat.div Format.binary64 f.toModel.unpack
      g.toModel.unpack)).unpack = _
    rw [quotient, rounded]
    exact unpack_pack_of_isNormal ⟨low, high, by omega, by omega⟩
  · have value : (m₁ : ℚ) * (2 : ℚ) ^ e₁ / (m₂ * (2 : ℚ) ^ e₂) =
        (m₁ <<< 53 : Nat) / m₂ * 2 ^ (e₁ - e₂ - 53) := by
      rw [Nat.shiftLeft_eq, zpow_sub₀ two_ne_zero, zpow_sub₀ two_ne_zero]
      push_cast
      field_simp
    rwa [value]

end Division

section Share

variable {k : Nat} {f : Float} {v : ℚ}

/-- A whole number of 53 bits is a double. -/
theorem exists_parts_of_lt (pos : 0 < n) (few : n < 2 ^ 53) :
    ∃ m e kept, n.toUInt64.toFloat.toModel.unpack = .finite .positive m e kept ∧
      2 ^ 52 ≤ m ∧ m < 2 ^ 53 ∧ -52 ≤ e ∧ e ≤ 12 ∧ (m : ℚ) * 2 ^ e = n := by
  have same : n.toUInt64.toNat = n := Nat.mod_eq_of_lt (by omega)
  have counted : 0 < n.toUInt64 := by
    rw [UInt64.lt_iff_toNat_lt, same]
    exact pos
  obtain ⟨m, e, kept, parts, low, high, small, large, exact⟩ := exists_parts_toFloat counted
  rw [same] at exact
  obtain ⟨rfl, rfl⟩ := exact few
  refine ⟨_, _, kept, parts, low, high, small, large, ?_⟩
  have bits : n.log2 < 53 := (Nat.log2_lt pos.ne').2 few
  have exponent : (n.log2 : Int) - 52 = -(52 - n.log2 : Nat) := by omega
  rw [exponent, Nat.shiftLeft_eq, zpow_neg, zpow_natCast]
  push_cast
  field_simp

/-- The quotient of two whole numbers of 53 bits is rounded to within half a unit. -/
theorem near_share (some_part : 0 < k) (few : k < 2 ^ 53) (pos : 0 < n) (few' : n < 2 ^ 53) :
    Near (k.toUInt64.toFloat / n.toUInt64.toFloat) (k / n) := by
  obtain ⟨m₁, e₁, pos₁, parts₁, low₁, high₁, small₁, large₁, value₁⟩ :=
    exists_parts_of_lt some_part few
  obtain ⟨m₂, e₂, pos₂, parts₂, low₂, high₂, small₂, large₂, value₂⟩ := exists_parts_of_lt pos few'
  rw [← value₁, ← value₂]
  exact near_div parts₁ parts₂ low₁ high₁ low₂ high₂ (by omega) (by omega)

/-- The double next to three tenths lies just below them. -/
theorem parts_three_tenths : ∃ pos, (0.3 : Float).toModel.unpack =
    .finite .positive 5404319552844595 (-54) pos := ⟨by decide, by rfl⟩

theorem three_tenths_lt_iff {m : Nat} {e : Int} {pos : 0 < m}
    (parts : f.toModel.unpack = .finite .positive m e pos) :
    0.3 < f ↔ -54 < e ∨ e = -54 ∧ 5404319552844595 < m := by
  obtain ⟨_, tenths⟩ := parts_three_tenths
  have number : f.isNaN = false := by
    show f.toModel.unpack.isNaN = false
    rw [parts]
    rfl
  have number' : (0.3 : Float).isNaN = false := by decide +kernel
  rw [Double.lt_iff, tenths, parts]
  simp only [number, number', Double.place, Prod.Lex.toLex_lt_toLex, true_and, lt_self_iff_false,
    false_or]
  omega

/-- A quotient of at most three tenths is rounded to no more than the double next to them. -/
theorem Near.not_three_tenths_lt (near : Near f v) (few : v ≤ 3 / 10) : ¬ 0.3 < f := by
  obtain ⟨m, e, pos, parts, low, high, close⟩ := near
  rw [three_tenths_lt_iff parts]
  have above := (abs_le.1 close).2
  rintro (larger | ⟨rfl, more⟩)
  · have unit : (2 : ℚ) ^ (-53 : Int) ≤ 2 ^ e := zpow_le_zpow_right₀ one_le_two (by omega)
    have large : (2 ^ 52 : ℚ) ≤ m := by exact_mod_cast low
    have least : (2 ^ 52 - 1 / 2 : ℚ) * 2 ^ (-53 : Int) ≤ (m - 1 / 2) * 2 ^ e :=
      mul_le_mul (by linarith) unit (by positivity) (by linarith)
    norm_num at least
    linarith
  · have next : (5404319552844596 : ℚ) ≤ m := by exact_mod_cast more
    norm_num at above
    linarith

/-- A quotient that exceeds three tenths by the unit there is rounded to more than the double next to
them. -/
theorem Near.three_tenths_lt (near : Near f v) (more : 3 / 10 + 1 / 2 ^ 54 ≤ v) : 0.3 < f := by
  obtain ⟨m, e, pos, parts, low, high, close⟩ := near
  rw [three_tenths_lt_iff parts]
  have below := (abs_le.1 close).1
  by_contra less
  rcases (by omega : e ≤ -55 ∨ e = -54 ∧ m ≤ 5404319552844595) with smaller | ⟨rfl, least⟩
  · have unit : (2 : ℚ) ^ e ≤ 2 ^ (-55 : Int) := zpow_le_zpow_right₀ one_le_two smaller
    have small : (m : ℚ) ≤ 2 ^ 53 := by exact_mod_cast high.le
    have most : ((m : ℚ) + 1 / 2) * 2 ^ e ≤ (2 ^ 53 + 1 / 2) * 2 ^ (-55 : Int) := by gcongr
    norm_num at most
    linarith
  · have bound : (m : ℚ) ≤ 5404319552844595 := by exact_mod_cast least
    norm_num at below
    linarith

/-- Nothing has no share. -/
theorem not_three_tenths_lt_zero (pos : 0 < n) (few : n < 2 ^ 53) :
    ¬ 0.3 < (0 : Nat).toUInt64.toFloat / n.toUInt64.toFloat := by
  obtain ⟨m, e, kept, parts, -⟩ := exists_parts_of_lt pos few
  obtain ⟨_, tenths⟩ := parts_three_tenths
  have zero : (0 : Nat).toUInt64.toFloat.toModel.unpack = .zero .positive := by rfl
  have quotient : ((0 : Nat).toUInt64.toFloat / n.toUInt64.toFloat).toModel.unpack =
      .zero .positive := by
    show (Float.Model.pack (UnpackedFloat.div Format.binary64 (0 : Nat).toUInt64.toFloat.toModel.unpack
      n.toUInt64.toFloat.toModel.unpack)).unpack = _
    rw [zero, parts]
    show (Float.Model.pack (.zero .positive)).unpack = _
    rfl
  rw [Double.lt_iff, tenths, quotient]
  rintro ⟨-, -, less⟩
  simp [Double.place, Prod.Lex.toLex_lt_toLex] at less

/-- The share of one whole number in another exceeds three tenths as a double if it does exactly. -/
theorem three_tenths_lt_share (few : k < 2 ^ 50) (pos : 0 < n) (few' : n < 2 ^ 50) :
    0.3 < k.toUInt64.toFloat / n.toUInt64.toFloat ↔ 3 * n < 10 * k := by
  have positive : (0 : ℚ) < n := by exact_mod_cast pos
  rcases Nat.eq_zero_or_pos k with rfl | some_part
  · exact iff_of_false (not_three_tenths_lt_zero pos (by omega)) (by omega)
  have near := near_share some_part (by omega) pos (by omega)
  constructor
  · intro exceeds
    by_contra most
    refine near.not_three_tenths_lt ?_ exceeds
    rw [div_le_div_iff₀ positive (by norm_num)]
    exact_mod_cast (by omega : k * 10 ≤ 3 * n)
  · intro more
    refine near.three_tenths_lt ?_
    have step : (3 * n + 1 : ℚ) ≤ 10 * k := by exact_mod_cast more
    have bound : (n : ℚ) ≤ 2 ^ 50 := by exact_mod_cast few'.le
    rw [le_div_iff₀ positive]
    linarith

end Share

end Provenance.Decimal
