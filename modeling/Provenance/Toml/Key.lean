import Provenance.Toml.Quoted

namespace Provenance.Toml

/-- A dotted key; it has at least one part. -/
abbrev Key := List String

/-- Keys have fewer parts than this, and arrays and inline tables are nested less deep. -/
def nestingLimit : Nat := 80

def isKeyChar (c : Char) : Bool := c.isAlphanum || c = '-' || c = '_'

def readKeyPart (cs : List Char) : Option (String × List Char) :=
  match cs with
  | '"' :: _ => readQuotedLine cs
  | '\'' :: _ => readQuotedLine cs
  | _ =>
    match cs.takeWhile isKeyChar with
    | [] => none
    | part => some (String.ofList part, cs.dropWhile isKeyChar)

/-- The parts of a key with dots between them and blanks around each. -/
def readKeyParts : Nat → Reader Key
  | 0, _ => none
  | n + 1, cs =>
    match readKeyPart (skipBlanks cs) with
    | none => none
    | some (part, r) =>
      match skipBlanks r with
      | '.' :: r => (readKeyParts n r).map fun (parts, r) => (part :: parts, r)
      | r => some ([part], r)

def readKey (cs : List Char) : Option (Key × List Char) :=
  match readKeyParts (cs.length + 1) cs with
  | none => none
  | some (key, r) => if key.length < nestingLimit then some (key, r) else none

end Provenance.Toml
