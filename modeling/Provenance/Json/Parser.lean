import Provenance.Json.Literal
import Provenance.Json.Quoted
import Provenance.Text.Utf8

namespace Provenance.Json

def isBlank (c : Char) : Bool := c = ' ' || c = '\n' || c = '\t' || c = '\r'

def skipBlanks (cs : List Char) : List Char := cs.dropWhile isBlank

/-- Reads a string whose opening quote is already consumed; one that is well formed may still be no
text. -/
def readString (cs : List Char) : Option (Option String × List Char) := do
  let (raw, rest) ← Quoted.split cs
  match Quoted.decode raw with
  | some s => some (some (String.ofList s), rest)
  | none => if Quoted.isWellFormed raw then some (none, rest) else none

/-- The object of members whose names may be no text. -/
def ofMembers (ms : List (Option String × Json)) : Json :=
  match ms.mapM fun (name, v) => name.map (·, v) with
  | some ms => .obj ms
  | none => .unreadable

mutual

/-- Reads a value, blanks before it included. -/
def readValue : Nat → List Char → Option (Json × List Char)
  | 0, _ => none
  | n + 1, cs =>
    match skipBlanks cs with
    | 'n' :: 'u' :: 'l' :: 'l' :: r => some (.null, r)
    | 't' :: 'r' :: 'u' :: 'e' :: r => some (.bool true, r)
    | 'f' :: 'a' :: 'l' :: 's' :: 'e' :: r => some (.bool false, r)
    | '"' :: r => (readString r).map fun (s, r) => ((s.map .str).getD .unreadable, r)
    | '[' :: r =>
      match skipBlanks r with
      | ']' :: r => some (.arr [], r)
      | r => (readItems n r).map fun (vs, r) => (.arr vs, r)
    | '\x7b' :: r =>
      match skipBlanks r with
      | '\x7d' :: r => some (.obj [], r)
      | r => (readMembers n r).map fun (ms, r) => (ofMembers ms, r)
    | r => (Literal.read r).map fun (l, r) => ((l.toNumber?.map .num).getD .unreadable, r)

/-- Reads the items of an array up to its closing bracket; there is at least one. -/
def readItems : Nat → List Char → Option (List Json × List Char)
  | 0, _ => none
  | n + 1, cs =>
    match readValue n cs with
    | none => none
    | some (v, r) =>
      match skipBlanks r with
      | ',' :: r => (readItems n r).map fun (vs, r) => (v :: vs, r)
      | ']' :: r => some ([v], r)
      | _ => none

/-- Reads the members of an object up to its closing brace; there is at least one. -/
def readMembers : Nat → List Char → Option (List (Option String × Json) × List Char)
  | 0, _ => none
  | n + 1, cs =>
    match skipBlanks cs with
    | '"' :: r =>
      match readString r with
      | none => none
      | some (name, r) =>
        match skipBlanks r with
        | ':' :: r =>
          match readValue n r with
          | none => none
          | some (v, r) =>
            match skipBlanks r with
            | ',' :: r => (readMembers n r).map fun (ms, r) => ((name, v) :: ms, r)
            | '\x7d' :: r => some ([(name, v)], r)
            | _ => none
        | _ => none
    | _ => none

end

/-- Reads a whole text: one value with nothing but blanks around it. Every value takes at least one
character, so the length of the text bounds the recursion. -/
def parse? (text : String) : Option Json :=
  let cs := text.toList
  match readValue (2 * cs.length + 1) cs with
  | some (v, r) => if (skipBlanks r).isEmpty then some v else none
  | none => none

/-- What stands in for bytes that are no character: like half of a surrogate pair they may be passed
over in a string, but not read, and stand nowhere else. The half is written twice so that nothing
that follows makes it whole. -/
def standIn : List Char := ['\\', 'u', 'd', '8', '0', '0', '\\', 'u', 'd', '8', '0', '0']

/-- The text of characters, some of which are none. Behind a backslash they are no escape. -/
def standIns (escaped : Bool) : List (Option Char) → List Char
  | [] => []
  | some c :: cs => c :: standIns (!escaped && c = '\\') cs
  | none :: cs => (if escaped then ['\x00'] else standIn) ++ standIns false cs

def parseBytes? (bytes : ByteArray) : Option Json :=
  match String.fromUTF8? bytes with
  | some text => parse? text
  | none => parse? (String.ofList (standIns false (Text.readUtf8 bytes.data.toList)))

end Provenance.Json
