import Provenance.Decimal.Notation
import Provenance.Json.Basic
import Provenance.Json.Quoted

namespace Provenance.Json

def writeNumber : Number → List Char
  | .int i => (toString i).toList
  | .float x => if x.isFinite then (Decimal.write Decimal.scientific x).toList else ['n', 'u', 'l', 'l']

def writeString (s : String) : List Char := '"' :: Quoted.encode s.toList ++ ['"']

mutual

def write : Json → List Char
  | null => ['n', 'u', 'l', 'l']
  | unreadable => ['n', 'u', 'l', 'l']
  | bool true => ['t', 'r', 'u', 'e']
  | bool false => ['f', 'a', 'l', 's', 'e']
  | num n => writeNumber n
  | str s => writeString s
  | arr items => '[' :: writeItems items ++ [']']
  | obj members => '\x7b' :: writeMembers members ++ ['\x7d']

def writeItems : List Json → List Char
  | [] => []
  | [v] => write v
  | v :: vs => write v ++ ',' :: writeItems vs

def writeMembers : List (String × Json) → List Char
  | [] => []
  | [(name, v)] => writeString name ++ ':' :: write v
  | (name, v) :: ms => writeString name ++ ':' :: write v ++ ',' :: writeMembers ms

end

/-- Compact JSON text: no blanks, members in their order, strings in their shortest form. A double
without a finite value is written as `null`. -/
def render (v : Json) : String := String.ofList (write v)

/-- A character in printable ASCII: any other is escaped by its UTF-16 units. -/
def asciiChar (c : Char) : List Char :=
  let unit (n : Nat) : List Char := '\\' :: 'u' :: Text.hexDigits 4 n
  if 32 ≤ c.toNat ∧ c.toNat < 127 then [c]
  else if c.toNat < 0x10000 then unit c.toNat
  else
    let n := c.toNat - 0x10000
    unit (0xD800 + n / 0x400) ++ unit (0xDC00 + n % 0x400)

/-- Compact JSON text in printable ASCII, in which scripted runs answer; the program writes other
characters as they are. -/
def renderAscii (v : Json) : String := String.ofList ((write v).flatMap asciiChar)

end Provenance.Json
