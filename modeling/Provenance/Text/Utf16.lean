namespace Provenance.Text

inductive ByteOrder where
  | lowFirst
  | highFirst
  deriving DecidableEq, Repr

/-- The code units of bytes; there is no half unit. -/
def codeUnits? (order : ByteOrder) : List UInt8 → Option (List Nat)
  | [] => some []
  | [_] => none
  | a :: b :: r =>
    let unit := match order with
      | .lowFirst => b.toNat * 256 + a.toNat
      | .highFirst => a.toNat * 256 + b.toNat
    (codeUnits? order r).map (unit :: ·)

def isHighSurrogate (n : Nat) : Bool := 0xD800 ≤ n && n < 0xDC00

def isLowSurrogate (n : Nat) : Bool := 0xDC00 ≤ n && n < 0xE000

/-- The characters of code units; surrogates come in pairs only. -/
def ofCodeUnits? : List Nat → Option (List Char)
  | [] => some []
  | [n] => if isHighSurrogate n || isLowSurrogate n then none else some [Char.ofNat n]
  | n :: m :: r =>
    if isHighSurrogate n then
      if isLowSurrogate m then
        (ofCodeUnits? r).map (Char.ofNat (0x10000 + (n - 0xD800) * 0x400 + (m - 0xDC00)) :: ·)
      else none
    else if isLowSurrogate n then none
    else (ofCodeUnits? (m :: r)).map (Char.ofNat n :: ·)

def utf16? (order : ByteOrder) (bytes : List UInt8) : Option (List Char) :=
  (codeUnits? order bytes).bind ofCodeUnits?

end Provenance.Text
