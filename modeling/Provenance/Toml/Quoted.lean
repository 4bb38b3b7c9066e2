import Provenance.Text.Digits
import Provenance.Toml.Basic

namespace Provenance.Toml

/-- Four or eight hexadecimal digits that name a character. -/
def codePoint? (count : Nat) (cs : List Char) : Option (Char × List Char) :=
  let ds := cs.take count
  let n := Text.numberOf 16 ds
  if ds.length = count && ds.all Text.isHexDigit && n.isValidChar then
    some (Char.ofNat n, cs.drop count)
  else none

/-- Reads an escape whose backslash is already consumed. -/
def escape? : List Char → Option (Char × List Char)
  | 'b' :: r => some (Char.ofNat 8, r)
  | 't' :: r => some ('\t', r)
  | 'n' :: r => some ('\n', r)
  | 'f' :: r => some (Char.ofNat 12, r)
  | 'r' :: r => some ('\r', r)
  | '"' :: r => some ('"', r)
  | '\\' :: r => some ('\\', r)
  | 'u' :: r => codePoint? 4 r
  | 'U' :: r => codePoint? 8 r
  | _ => none

def skipFold : Nat → List Char → List Char
  | 0, cs => cs
  | n + 1, cs =>
    let r := skipBlanks cs
    match newline? r with
    | some r => skipFold n r
    | none => r

/-- The line end after a backslash, perhaps with blanks before it, and the blank lines below. -/
def foldedLine? (cs : List Char) : Option (List Char) :=
  (newline? (skipBlanks cs)).map fun r => skipFold r.length r

def readBasic : Nat → Reader (List Char)
  | 0, _ => none
  | _ + 1, [] => none
  | _ + 1, '"' :: r => some ([], r)
  | n + 1, '\\' :: r =>
    match escape? r with
    | none => none
    | some (c, r) => (readBasic n r).map fun (s, r) => (c :: s, r)
  | n + 1, c :: r => if isPrintable c then (readBasic n r).map fun (s, r) => (c :: s, r) else none

def readLiteral : Reader (List Char)
  | [] => none
  | '\'' :: r => some ([], r)
  | c :: r => if isPrintable c then (readLiteral r).map fun (s, r) => (c :: s, r) else none

/-- How many of the next characters are `quote`, up to five. -/
def quoteRun (quote : Char) (cs : List Char) : Nat := ((cs.takeWhile (· = quote)).take 5).length

/-- Reads a basic string of several lines. Up to two quotes may stand before the closing three. -/
def readBasicLines : Nat → Reader (List Char)
  | 0, _ => none
  | n + 1, cs =>
    let quotes := quoteRun '"' cs
    if 3 ≤ quotes then some (List.replicate (quotes - 3) '"', cs.drop quotes)
    else
      match cs with
      | [] => none
      | '\\' :: r =>
        match foldedLine? r with
        | some r => readBasicLines n r
        | none =>
          match escape? r with
          | none => none
          | some (c, r) => (readBasicLines n r).map fun (s, r) => (c :: s, r)
      | c :: r =>
        match newline? cs with
        | some r => (readBasicLines n r).map fun (s, r) => ('\n' :: s, r)
        | none =>
          if isPrintable c then (readBasicLines n r).map fun (s, r) => (c :: s, r) else none

def readLiteralLines : Nat → Reader (List Char)
  | 0, _ => none
  | n + 1, cs =>
    let quotes := quoteRun '\'' cs
    if 3 ≤ quotes then some (List.replicate (quotes - 3) '\'', cs.drop quotes)
    else
      match newline? cs with
      | some r => (readLiteralLines n r).map fun (s, r) => ('\n' :: s, r)
      | none =>
        match cs with
        | [] => none
        | c :: r =>
          if isPrintable c then (readLiteralLines n r).map fun (s, r) => (c :: s, r) else none

/-- A line end right after the opening quotes belongs to them. -/
def skipFirstLineEnd (cs : List Char) : List Char := (newline? cs).getD cs

/-- Reads a string on one line, as keys may be. -/
def readQuotedLine : Reader String
  | '"' :: r => (readBasic (r.length + 1) r).map fun (s, r) => (String.ofList s, r)
  | '\'' :: r => (readLiteral r).map fun (s, r) => (String.ofList s, r)
  | _ => none

def readQuoted : Reader String
  | '"' :: '"' :: '"' :: r =>
    (readBasicLines (r.length + 1) (skipFirstLineEnd r)).map fun (s, r) => (String.ofList s, r)
  | '\'' :: '\'' :: '\'' :: r =>
    (readLiteralLines (r.length + 1) (skipFirstLineEnd r)).map fun (s, r) => (String.ofList s, r)
  | r => readQuotedLine r

end Provenance.Toml
