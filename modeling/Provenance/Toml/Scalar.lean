import Provenance.Text.Digits
import Provenance.Time.Calendar
import Provenance.Toml.Basic

namespace Provenance.Toml

/-- The digits that continue a number; an underscore counts only before a digit. -/
def moreDigits (digit : Char → Bool) : List Char → List Char × List Char
  | '_' :: d :: r =>
    if digit d then
      let (ds, r) := moreDigits digit r
      (d :: ds, r)
    else ([], '_' :: d :: r)
  | c :: r =>
    if digit c then
      let (ds, r) := moreDigits digit r
      (c :: ds, r)
    else ([], c :: r)
  | [] => ([], [])

/-- Digits, at least one, perhaps grouped by underscores. -/
def readGrouped (digit : Char → Bool) : Reader (List Char)
  | [] => none
  | c :: r =>
    if digit c then
      let (ds, r) := moreDigits digit r
      some (c :: ds, r)
    else none

def readSign : List Char → Bool × List Char
  | '-' :: r => (true, r)
  | '+' :: r => (false, r)
  | r => (false, r)

/-- The digits of a decimal integer; only a lone zero starts with zero. -/
def readWhole : Reader (List Char)
  | '0' :: r => some (['0'], r)
  | r => readGrouped Char.isDigit r

def integer? (negative : Bool) (n : Nat) : Option Toml :=
  let i : Int := if negative then -n else n
  if -(Nat.pow 2 63) ≤ i ∧ i < Nat.pow 2 63 then some (.int i) else none

def readInteger (cs : List Char) : Option (Toml × List Char) := do
  match cs with
  | '0' :: 'x' :: r =>
    let (ds, r) ← readGrouped Text.isHexDigit r
    return (← integer? false (Text.numberOf 16 ds), r)
  | '0' :: 'o' :: r =>
    let (ds, r) ← readGrouped (fun c => '0' ≤ c && c ≤ '7') r
    return (← integer? false (Text.numberOf 8 ds), r)
  | '0' :: 'b' :: r =>
    let (ds, r) ← readGrouped (fun c => c = '0' || c = '1') r
    return (← integer? false (Text.numberOf 2 ds), r)
  | _ =>
    let (negative, r) := readSign cs
    let (ds, r) ← readWhole r
    return (← integer? negative (Text.numberOf 10 ds), r)

def nearestDouble (n : Nat) (e : Int) : Float :=
  let lead := e + (Nat.toDigits 10 n).length
  if n = 0 || lead < -400 then 0.0
  else if lead > 400 then 1.0 / 0.0
  else Float.ofScientific n (e < 0) e.natAbs

def readExponent (cs : List Char) : Option (Int × List Char) :=
  let (negative, r) := readSign cs
  (readGrouped Char.isDigit r).map fun (ds, r) =>
    let n := Text.numberOf 10 ds
    (if negative then -(n : Int) else n, r)

def isExponentMark (c : Char) : Bool := c = 'e' || c = 'E'

/-- A number with a fraction, an exponent or both. It may not round up to infinity. -/
def readDecimal (cs : List Char) : Option (Toml × List Char) := do
  let (negative, r) := readSign cs
  let (whole, r) ← readWhole r
  let (fraction, r) ← match r with
    | '.' :: r => readGrouped Char.isDigit r
    | c :: _ => if isExponentMark c then some ([], r) else none
    | [] => none
  let (exponent, r) ← match r with
    | c :: s => if isExponentMark c then readExponent s else some (0, r)
    | [] => some (0, r)
  let x := nearestDouble (Text.numberOf 10 (whole ++ fraction)) (exponent - fraction.length)
  if x.isInf && !negative then none
  else return (.float (if negative then -x else x), r)

/-- Infinity and what is no number, with an optional sign. -/
def readSpecial (cs : List Char) : Option (Toml × List Char) :=
  let (negative, r) := readSign cs
  match r with
  | 'i' :: 'n' :: 'f' :: r => some (.float (if negative then -1.0 / 0.0 else 1.0 / 0.0), r)
  | 'n' :: 'a' :: 'n' :: r => some (.float (0.0 / 0.0), r)
  | _ => none

/-- Exactly `count` digits whose number lies in a range. -/
def readField (count low high : Nat) : Reader Nat := fun cs =>
  let ds := cs.take count
  let n := Text.numberOf 10 ds
  if ds.length = count && ds.all Char.isDigit && low ≤ n && n ≤ high then some (n, cs.drop count)
  else none

def expect (c : Char) : List Char → Option (List Char)
  | d :: r => if c = d then some r else none
  | [] => none

/-- A time of day, with a fraction of any length. -/
def readClock (cs : List Char) : Option (List Char) := do
  let (_, r) ← readField 2 0 23 cs
  let (_, r) ← readField 2 0 59 (← expect ':' r)
  let (_, r) ← readField 2 0 60 (← expect ':' r)
  match r with
  | '.' :: d :: s => if d.isDigit then return s.dropWhile Char.isDigit else none
  | ['.'] => none
  | r => return r

/-- An offset from UTC if there is one. -/
def readZone (cs : List Char) : Option (List Char) :=
  let clock (r : List Char) : Option (List Char) := do
    let (_, r) ← readField 2 0 23 r
    let (_, r) ← readField 2 0 59 (← expect ':' r)
    return r
  match cs with
  | 'Z' :: r => some r
  | 'z' :: r => some r
  | '+' :: r => clock r
  | '-' :: r => clock r
  | r => some r

/-- A date, perhaps with a time and an offset. -/
def readDate (cs : List Char) : Option (List Char) := do
  let (year, r) ← readField 4 0 9999 cs
  let (month, r) ← readField 2 1 12 (← expect '-' r)
  let (day, r) ← readField 2 1 31 (← expect '-' r)
  if !(Time.Date.IsValid ⟨year, month, day⟩) then none
  else
    match r with
    | 'T' :: s => readZone (← readClock s)
    | 't' :: s => readZone (← readClock s)
    | ' ' :: s => if s.head?.any Char.isDigit then readZone (← readClock s) else return r
    | r => return r

/-- A date or a time. Four digits and a hyphen start a date, two and a colon a time. -/
def readMoment (cs : List Char) : Option (Toml × List Char) :=
  ((readDate cs).orElse fun _ => readClock cs).map fun r =>
    (.moment (String.ofList (cs.take (cs.length - r.length))), r)

def looksLikeMoment (cs : List Char) : Bool :=
  match cs with
  | a :: b :: ':' :: _ => a.isDigit && b.isDigit
  | a :: b :: c :: d :: '-' :: _ => [a, b, c, d].all Char.isDigit
  | _ => false

/-- Reads what starts with a sign or a digit. -/
def readNumber (cs : List Char) : Option (Toml × List Char) :=
  if looksLikeMoment cs then readMoment cs
  else (readDecimal cs).orElse fun _ => (readSpecial cs).orElse fun _ => readInteger cs

end Provenance.Toml
