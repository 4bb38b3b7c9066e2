namespace Provenance

inductive Toml where
  | str (s : String)
  | int (i : Int)
  | float (x : Float)
  | bool (b : Bool)
  /-- A date, a time or both, as written. -/
  | moment (s : String)
  | arr (items : List Toml)
  | table (entries : List (String × Toml))
  deriving Repr, Inhabited

namespace Toml

/-- Reads something and gives what is left of the text. -/
abbrev Reader (α : Type) := List Char → Option (α × List Char)

def isBlank (c : Char) : Bool := c = ' ' || c = '\t'

def skipBlanks (cs : List Char) : List Char := cs.dropWhile isBlank

/-- A tab, or anything but a control character. -/
def isPrintable (c : Char) : Bool := c = '\t' || (32 ≤ c.toNat && c.toNat ≠ 127)

/-- A line feed, with or without a carriage return before it. -/
def newline? : List Char → Option (List Char)
  | '\n' :: r => some r
  | '\r' :: '\n' :: r => some r
  | _ => none

/-- Skips a comment up to the end of its line; controls may not occur in it. -/
def skipComment : List Char → List Char
  | '#' :: r => r.dropWhile isPrintable
  | r => r

/-- Reads the rest of a line: blanks, perhaps a comment, and its end. -/
def lineEnd? (cs : List Char) : Option (List Char) :=
  match skipComment (skipBlanks cs) with
  | [] => some []
  | r => newline? r

/-- Skips blanks, comments and line ends; a comment must reach the end of its line. -/
def skipLines : Nat → List Char → List Char
  | 0, cs => cs
  | n + 1, cs =>
    match skipBlanks cs with
    | [] => []
    | '#' :: r =>
      let rest := r.dropWhile isPrintable
      match newline? rest with
      | some r => skipLines n r
      | none => if rest.isEmpty then [] else '#' :: r
    | r =>
      match newline? r with
      | some r => skipLines n r
      | none => r

end Toml

end Provenance
