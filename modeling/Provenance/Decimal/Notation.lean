import Provenance.Decimal.Shortest

namespace Provenance.Decimal

/-- How a double is written. The digits are the shortest that read back. -/
structure Style where
  /-- Powers of ten of the leading digit that are written positionally. -/
  positional : Int → Bool
  /-- Whether a whole number ends in `.0`. -/
  pointZero : Bool

/-- Always positional, and a whole number has no point. -/
def plain : Style := ⟨fun _ => true, false⟩

/-- Positional from `1e-5` to below `1e16`, otherwise with an exponent. -/
def scientific : Style := ⟨fun e => -5 ≤ e ∧ e ≤ 15, true⟩

/-- `digits * 10 ^ k`, written out in full. -/
def writePositional (style : Style) (digits : List Char) (k : Int) : List Char :=
  if 0 ≤ k then
    digits ++ List.replicate k.toNat '0' ++ (if style.pointZero then ['.', '0'] else [])
  else
    let places := (-k).toNat
    if places < digits.length then
      let whole := digits.length - places
      digits.take whole ++ '.' :: digits.drop whole
    else
      '0' :: '.' :: List.replicate (places - digits.length) '0' ++ digits

/-- One digit before the point and a signed exponent; `lead` is the power of ten of that digit. -/
def writeExponent (digits : List Char) (lead : Int) : List Char :=
  let mantissa :=
    match digits with
    | d :: e :: ds => d :: '.' :: e :: ds
    | ds => ds
  mantissa ++ 'e' :: (if lead < 0 then '-' else '+') :: Nat.toDigits 10 lead.natAbs

/-- The digits of a finite magnitude without sign; zero has the digit `0`. -/
def writeMagnitude (style : Style) (bits : UInt64) : List Char :=
  if bits &&& 0x7FFFFFFFFFFFFFFF = 0 then writePositional style ['0'] 0
  else
    let (n, k) := (Magnitude.ofBits bits).shortest
    let digits := Nat.toDigits 10 n
    let lead := k + digits.length - 1
    if style.positional lead then writePositional style digits k else writeExponent digits lead

/-- Writes a double; infinities and NaN by name. -/
def write (style : Style) (x : Float) : String :=
  let bits := x.toBits
  let sign := if bits >>> 63 = 1 then ['-'] else []
  if x.isNaN then "NaN"
  else if x.isInf then String.ofList (sign ++ ['i', 'n', 'f'])
  else String.ofList (sign ++ writeMagnitude style bits)

end Provenance.Decimal
