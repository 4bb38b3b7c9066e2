/-!
The shortest decimal that reads back as a given double. A double stands for all reals that round
to it; of the powers of ten that have a multiple among these, the largest is taken, and of its
multiples the one nearest to the double.
-/

namespace Provenance.Decimal

/-- A finite non-zero magnitude `m * 2 ^ q`, with `m` odd, even or the smallest of its binade. -/
structure Magnitude where
  m : Nat
  q : Int
  /-- The gap below is half the gap above. -/
  atBinadeStart : Bool
  deriving DecidableEq, Repr

def Magnitude.ofBits (bits : UInt64) : Magnitude :=
  let fraction := (bits &&& 0xFFFFFFFFFFFFF).toNat
  let exponent := ((bits >>> 52) &&& 0x7FF).toNat
  if exponent = 0 then ⟨fraction, -1074, false⟩
  else ⟨Nat.pow 2 52 + fraction, (exponent : Int) - 1075, fraction = 0 && exponent ≠ 1⟩

def compareScaled (c : Nat) (k : Int) (x : Nat) (e : Int) : Ordering :=
  compare (c * Nat.pow 10 k.toNat * Nat.pow 2 (-e).toNat)
    (x * Nat.pow 2 e.toNat * Nat.pow 10 (-k).toNat)

namespace Magnitude

/-- Whether `c * 10 ^ k` rounds to the double: it lies between the midpoints to the two
neighbours, and the midpoints themselves belong to the even one. -/
def Covers (v : Magnitude) (c : Nat) (k : Int) : Bool :=
  let low := compareScaled c k (4 * v.m - if v.atBinadeStart then 1 else 2) (v.q - 2)
  let high := compareScaled c k (4 * v.m + 2) (v.q - 2)
  if v.m % 2 = 0 then low != .lt && high != .gt else low == .gt && high == .lt

/-- The multiple of `10 ^ k` at or below the double, divided by `10 ^ k`. -/
def floorAt (v : Magnitude) (k : Int) : Nat :=
  (v.m * Nat.pow 2 v.q.toNat * Nat.pow 10 (-k).toNat) /
    (Nat.pow 2 (-v.q).toNat * Nat.pow 10 k.toNat)

/-- Whether the double lies nearer to `c * 10 ^ k` than to the next multiple; a tie goes to the
even digit. -/
def prefersFloor (v : Magnitude) (c : Nat) (k : Int) : Bool :=
  match compareScaled (2 * c + 1) k (2 * v.m) v.q with
  | .gt => true
  | .eq => c % 2 = 0
  | .lt => false

/-- The multiple of `10 ^ k` that reads back as the double and lies nearest to it. -/
def multipleAt? (v : Magnitude) (k : Int) : Option Nat :=
  let c := v.floorAt k
  let below := c ≠ 0 ∧ v.Covers c k
  let above := v.Covers (c + 1) k
  if below ∧ (v.prefersFloor c k ∨ ¬ above) then some c
  else if above then some (c + 1)
  else none

/-- Digits and exponent of the shortest decimal. Every double is below `10 ^ 309`, and the grid of
`10 ^ -343` is finer than the gaps between doubles. -/
def shortest (v : Magnitude) : Nat × Int :=
  let exponents := (List.range 653).map fun i => (309 : Int) - (i : Nat)
  (exponents.findSome? fun k => (v.multipleAt? k).map (·, k)).getD (0, 0)

end Magnitude

end Provenance.Decimal
