import Provenance.Descriptor
import Provenance.Proofs.Decimal.Order

namespace Provenance

open Decimal

def InUnit (x : Float) : Prop := 0.0 ≤ x ∧ x ≤ 1.0

theorem InUnit.isNaN_eq_false {x : Float} (h : InUnit x) : x.isNaN = false :=
  (Double.isNaN_of_le h.1).2

/-- A number is limited to one from 0 to 1. -/
theorem inUnit_clampUnit {x : Float} (number : x.isNaN = false) : InUnit (clampUnit x) := by
  have zero : (0.0 : Float).isNaN = false := by decide +kernel
  have one : (1.0 : Float).isNaN = false := by decide +kernel
  unfold clampUnit
  split_ifs with low high
  · exact ⟨by decide +kernel, by decide +kernel⟩
  · exact ⟨by decide +kernel, by decide +kernel⟩
  · exact ⟨Double.le_of_not_lt number zero low, Double.le_of_not_lt one number high⟩

theorem clampUnit_of_isNaN {x : Float} (none : x.isNaN = true) : clampUnit x = x := by
  have low : ¬ x < 0.0 := by
    intro less
    have number := (Double.isNaN_of_le (Double.le_of_lt less)).1
    rw [none] at number
    cases number
  have high : ¬ x > 1.0 := by
    intro more
    have number := (Double.isNaN_of_le (Double.le_of_lt more)).2
    rw [none] at number
    cases number
  rw [clampUnit, if_neg low, if_neg high]

/-- What holds of a natural logarithm of doubles: it is 0 at 1, grows, is above 0 beyond 1, finite at
finite doubles, and no number where its argument is none. -/
structure IsLog (ln : Float → Float) : Prop where
  one : ln 1.0 = 0.0
  mono : ∀ x y, 1.0 ≤ x → x ≤ y → ln x ≤ ln y
  pos : ∀ x, 1.0 < x → 0.0 < ln x
  bounded : ∀ x, 1.0 ≤ x → x.isFinite = true → (ln x).isInf = false
  isNaN : ∀ x, x.isNaN = true → (ln x).isNaN = true

/-- From 1 on, finite doubles have finite logarithms. -/
theorem IsLog.isFinite {ln : Float → Float} (log : IsLog ln) {x : Float} (large : 1.0 ≤ x)
    (finite : x.isFinite = true) : (ln x).isFinite = true := by
  have start : 0.0 ≤ ln x := by
    rw [← log.one]
    exact log.mono 1.0 x (by decide +kernel) large
  exact Double.isFinite_of_isNaN_isInf (Double.isNaN_of_le start).2 (log.bounded x large finite)

namespace RankPolicy

variable {ln : Float → Float} {p : RankPolicy} {signal : Option Nat}

/-- The rank with a given natural logarithm. -/
def rankBy (ln : Float → Float) (p : RankPolicy) (signal : Option Nat) : Float :=
  match signal with
  | none => p.default
  | some n => clampUnit (ln (max n 1).toUInt64.toFloat / ln p.base)

theorem rank_eq_rankBy (p : RankPolicy) (signal : Option Nat) :
    p.rank signal = p.rankBy Float.log signal := by
  cases signal <;> rfl

def IsSignal (signal : Option Nat) : Prop := ∀ n ∈ signal, n < 2 ^ 64

theorem inUnit_rankBy (log : IsLog ln) (base : 1.0 < p.base) (default : InUnit p.default)
    (small : IsSignal signal) : InUnit (p.rankBy ln signal) := by
  cases signal with
  | none => exact default
  | some n =>
    have below : max n 1 < 2 ^ 64 := by
      have := small n rfl
      omega
    have value : (max n 1).toUInt64.toNat = max n 1 := Nat.mod_eq_of_lt below
    have counted : 0 < (max n 1).toUInt64 := by
      rw [UInt64.lt_iff_toNat_lt, value]
      show 0 < max n 1
      omega
    have finite := log.isFinite (one_le_toFloat counted) (isFinite_toFloat _)
    exact inUnit_clampUnit (Double.isNaN_div finite (log.pos p.base base))

theorem isNaN_rankBy (log : IsLog ln) (base : p.base.isNaN = true) (n : Nat) :
    (p.rankBy ln (some n)).isNaN = true := by
  have quotient : (ln (max n 1).toUInt64.toFloat / ln p.base).isNaN = true :=
    Double.isNaN_div_of_isNaN (log.isNaN p.base base)
  rw [rankBy, clampUnit_of_isNaN quotient]
  exact quotient

end RankPolicy

end Provenance
