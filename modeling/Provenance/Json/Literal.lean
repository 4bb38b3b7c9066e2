import Provenance.Json.Basic
import Provenance.Text.Digits

namespace Provenance.Json

/-- The parts of a number literal as written, digits as characters. -/
structure Literal where
  negative : Bool
  whole : List Char
  fraction : List Char
  exponent : Option Int
  deriving Repr

namespace Literal

/-- Appends digits while the number fits 64 bits; returns it and how many digits were used. -/
def accumulate (n : Nat) : List Char → Nat × Nat
  | [] => (n, 0)
  | c :: cs =>
    let m := n * 10 + (Text.digitValue? c).getD 0
    if m < Nat.pow 2 64 then
      let (r, used) := accumulate m cs
      (r, used + 1)
    else (n, 0)

/-- The digits used and the power of ten they are scaled by. Once a digit does not fit, it and all
later fraction digits are dropped. -/
def significand (l : Literal) : Nat × Int :=
  let (n, used) := accumulate 0 l.whole
  let (n, used') := accumulate n l.fraction
  (n, ((l.whole.length - used : Nat) : Int) - used' + l.exponent.getD 0)

/-- `x * 10 ^ e`, rounded after each step; `none` if it is beyond all doubles. -/
def scale (x : Float) (e : Int) : Option Float :=
  if e.natAbs ≤ 308 then
    if 0 ≤ e then
      let y := x * Float.ofScientific 1 false e.natAbs
      if y.isInf then none else some y
    else some (x / Float.ofScientific 1 false e.natAbs)
  else if x == 0 then some x
  else if 0 ≤ e then none
  else scale (x / Float.ofScientific 1 false 308) (e + 308)
termination_by e.natAbs
decreasing_by omega

/-- The number that a literal stands for: an integer if it has neither fraction nor exponent and
fits 64 bits, else a double; `none` if it is beyond all doubles. -/
def toNumber? (l : Literal) : Option Number :=
  let (n, e) := l.significand
  let isInteger := l.fraction.isEmpty && l.exponent.isNone && e = 0
  if isInteger && !l.negative then some (.int n)
  else if isInteger && n ≠ 0 && n ≤ Nat.pow 2 63 then some (.int (-n))
  else
    (scale n.toUInt64.toFloat e).map fun x => .float (if l.negative then -x else x)

def readSign : List Char → Bool × List Char
  | '-' :: r => (true, r)
  | r => (false, r)

def readExponentSign : List Char → Bool × List Char
  | '-' :: r => (true, r)
  | '+' :: r => (false, r)
  | r => (false, r)

/-- Reads all digits that follow each other; there is at least one. -/
def readDigits (cs : List Char) : Option (List Char × List Char) :=
  match cs.takeWhile Char.isDigit with
  | [] => none
  | ds => some (ds, cs.dropWhile Char.isDigit)

/-- Reads the digits before the point; a leading zero stands alone. -/
def readWhole : List Char → Option (List Char × List Char)
  | '0' :: r => if r.head?.any Char.isDigit then none else some (['0'], r)
  | r => readDigits r

/-- Reads a point and the digits after it, if there is one. -/
def readFraction : List Char → Option (List Char × List Char)
  | '.' :: r => readDigits r
  | r => some ([], r)

/-- Reads the letter of an exponent and its signed digits, if there is one. -/
def readExponent : List Char → Option (Option Int × List Char)
  | [] => some (none, [])
  | c :: r =>
    if c = 'e' ∨ c = 'E' then
      let (negative, r) := readExponentSign r
      (readDigits r).map fun (ds, r) =>
        let n : Int := (Text.numberOf 10 ds : Nat)
        (some (if negative then -n else n), r)
    else some (none, c :: r)

/-- Reads the longest literal: no leading zeros, and digits on both sides of a point. -/
def read (cs : List Char) : Option (Literal × List Char) := do
  let (negative, r) := readSign cs
  let (whole, r) ← readWhole r
  let (fraction, r) ← readFraction r
  let (exponent, r) ← readExponent r
  return (⟨negative, whole, fraction, exponent⟩, r)

end Literal

end Provenance.Json
