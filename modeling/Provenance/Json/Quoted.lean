import Provenance.Text.Digits
import Provenance.Text.Utf16

namespace Provenance.Json.Quoted

open Text

def encodeChar (c : Char) : List Char :=
  if c = '"' then ['\\', '"']
  else if c = '\\' then ['\\', '\\']
  else if c.toNat = 8 then ['\\', 'b']
  else if c.toNat = 9 then ['\\', 't']
  else if c.toNat = 10 then ['\\', 'n']
  else if c.toNat = 12 then ['\\', 'f']
  else if c.toNat = 13 then ['\\', 'r']
  else if c.toNat < 32 then
    ['\\', 'u'] ++ hexDigits 4 c.toNat
  else [c]

/-- The shortest form: the quote, the backslash and the controls below a blank are escaped. -/
def encode (cs : List Char) : List Char := cs.flatMap encodeChar

def escape? (c : Char) : Option Char :=
  if c = '"' ∨ c = '\\' ∨ c = '/' then some c
  else if c = 'b' then some (Char.ofNat 8)
  else if c = 'f' then some (Char.ofNat 12)
  else if c = 'n' then some '\n'
  else if c = 'r' then some '\r'
  else if c = 't' then some '\t'
  else none

def unit? (a b c d : Char) : Option Nat := do
  return (((← digitValue? a) * 16 + (← digitValue? b)) * 16 + (← digitValue? c)) * 16 + (← digitValue? d)

/-- Reads escapes. A unit of a surrogate pair must stand beside its partner, and a control below a
blank must be escaped. -/
def decode : List Char → Option (List Char)
  | [] => some []
  | '\\' :: 'u' :: a :: b :: c :: d :: r =>
    match unit? a b c d with
    | none => none
    | some n =>
      if isLowSurrogate n then none
      else if isHighSurrogate n then
        match r with
        | '\\' :: 'u' :: a :: b :: c :: d :: r =>
          match unit? a b c d with
          | none => none
          | some m =>
            if isLowSurrogate m then
              (decode r).map (Char.ofNat (0x10000 + (n - 0xD800) * 0x400 + (m - 0xDC00)) :: ·)
            else none
        | _ => none
      else (decode r).map (Char.ofNat n :: ·)
  | '\\' :: c :: r =>
    match escape? c with
    | none => none
    | some e => (decode r).map (e :: ·)
  | c :: r => if c = '\\' ∨ c.toNat < 32 then none else (decode r).map (c :: ·)

/-- Whether all escapes are well formed and no control stands unescaped. Units of surrogate pairs may
stand alone, so this is less than being text. -/
def isWellFormed : List Char → Bool
  | [] => true
  | '\\' :: 'u' :: a :: b :: c :: d :: r => (unit? a b c d).isSome && isWellFormed r
  | '\\' :: c :: r => (escape? c).isSome && isWellFormed r
  | c :: r => c ≠ '\\' && 32 ≤ c.toNat && isWellFormed r

/-- Splits after the first quote that no backslash escapes. -/
def split : List Char → Option (List Char × List Char)
  | [] => none
  | '"' :: r => some ([], r)
  | '\\' :: c :: r => (split r).map fun (a, b) => ('\\' :: c :: a, b)
  | c :: r => (split r).map fun (a, b) => (c :: a, b)

end Provenance.Json.Quoted
