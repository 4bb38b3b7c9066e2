import Provenance.Text.Digits
import Provenance.Text.Split
import Provenance.Time.Calendar

namespace Provenance.Time

/-- At least `width` digits, padded with zeros. -/
def padded (width n : Nat) : List Char :=
  let ds := Nat.toDigits 10 n
  List.replicate (width - ds.length) '0' ++ ds

/-- Four digits; a year outside 0 to 9999 carries its sign. -/
def writeYear (year : Int) : List Char :=
  if 0 ≤ year ∧ year ≤ 9999 then padded 4 year.toNat
  else (if year < 0 then '-' else '+') :: padded 4 year.natAbs

/-- No fraction, or the fewest of 3, 6 and 9 digits that are exact. -/
def writeFraction (nanos : Nat) : List Char :=
  if nanos = 0 then []
  else if nanos % 1000000 = 0 then '.' :: padded 3 (nanos / 1000000)
  else if nanos % 1000 = 0 then '.' :: padded 6 (nanos / 1000)
  else '.' :: padded 9 nanos

namespace Instant

def write (t : Instant) : List Char :=
  let date := dateOfDays (t.seconds / 86400)
  let clock := (t.seconds % 86400).toNat
  let carry := t.nanos / 1000000000
  writeYear date.year ++ '-' :: padded 2 date.month ++ '-' :: padded 2 date.day ++
    'T' :: padded 2 (clock / 3600) ++ ':' :: padded 2 (clock / 60 % 60) ++
    ':' :: padded 2 (clock % 60 + carry) ++ writeFraction (t.nanos % 1000000000) ++ ['Z']

def toText (t : Instant) : String := String.ofList t.write

end Instant

/-- Reads one digit or more, at most `width` of them. -/
def readNumber (width : Nat) (cs : List Char) : Option (Nat × List Char) :=
  match (cs.takeWhile Char.isDigit).take width with
  | [] => none
  | ds => some (Text.numberOf 10 ds, cs.drop ds.length)

/-- A signed year takes any number of digits, one without sign at most four. -/
def readYear (cs : List Char) : Option (Int × List Char) :=
  match cs with
  | '-' :: r => (readNumber r.length r).map fun (n, r) => (-(n : Int), r)
  | '+' :: r => (readNumber r.length r).map fun (n, r) => ((n : Int), r)
  | r => (readNumber 4 r).map fun (n, r) => ((n : Int), r)

/-- Reads a separator and the number after it, blanks before each. -/
def readPart (separator : Char) (cs : List Char) : Option (Nat × List Char) :=
  match Text.skipBlanks cs with
  | c :: r => if c = separator then readNumber 2 (Text.skipBlanks r) else none
  | [] => none

/-- Reads a fraction of a second if there is one; digits beyond the ninth are dropped. -/
def readFraction (cs : List Char) : Option (Nat × List Char) :=
  match cs with
  | '.' :: r =>
    match r.takeWhile Char.isDigit with
    | [] => none
    | ds =>
      let used := ds.take 9
      some (Text.numberOf 10 used * Nat.pow 10 (9 - used.length), r.drop ds.length)
  | r => some (0, r)

/-- Reads an offset from UTC in seconds: `Z`, `UTC`, or hours and minutes with a sign. -/
def readOffset (cs : List Char) : Option (Int × List Char) :=
  let signed (sign : Int) (r : List Char) : Option (Int × List Char) :=
    match r with
    | a :: b :: r =>
      if a.isDigit && b.isDigit then
        match r.dropWhile (fun c => c = ':' || Text.isBlank c) with
        | c :: d :: r =>
          if '0' ≤ c && c ≤ '5' && d.isDigit then
            some (sign * (Text.numberOf 10 [a, b] * 3600 + Text.numberOf 10 [c, d] * 60 : Nat), r)
          else none
        | _ => none
      else none
    | _ => none
  match cs with
  | 'Z' :: r => some (0, r)
  | 'z' :: r => some (0, r)
  | '+' :: r => signed 1 r
  | '-' :: r => signed (-1) r
  | '−' :: r => signed (-1) r
  | a :: b :: c :: r =>
    if [a, b, c].map Char.toLower = ['u', 't', 'c'] then some (0, r) else none
  | _ => none

/-- The instant of a date and time of day at an offset from UTC. -/
def instant? (date : Date) (hour minute second nanos : Nat) (offset : Int) : Option Instant :=
  if date.IsValid && hour < 24 && minute < 60 && second ≤ 60 && offset.natAbs < 86400 then
    let days := daysOfDate date
    let clock : Int := (hour * 3600 + minute * 60 + min second 59 : Nat)
    let extra := if second = 60 then 1000000000 else 0
    let localTime := days * 86400 + clock
    let t : Instant := ⟨localTime - offset, nanos + extra⟩
    if minSeconds ≤ localTime ∧ localTime ≤ maxSeconds ∧ t.IsValid then some t else none
  else none

/-- Reads a date, one of `T`, `t` and a blank, a time of day and an offset. -/
def Instant.read? (cs : List Char) : Option Instant := do
  let (year, r) ← readYear (Text.skipBlanks cs)
  let (month, r) ← readPart '-' r
  let (day, r) ← readPart '-' r
  let r ← match r with
    | c :: r => if c = 'T' || c = 't' || c = ' ' then some r else none
    | [] => none
  let (hour, r) ← readNumber 2 (Text.skipBlanks r)
  let (minute, r) ← readPart ':' r
  let (second, r) ← readPart ':' r
  let (nanos, r) ← readFraction r
  let (offset, r) ← readOffset (Text.skipBlanks r)
  if (Text.skipBlanks r).isEmpty then instant? ⟨year, month, day⟩ hour minute second nanos offset
  else none

def Instant.ofText? (s : String) : Option Instant := Instant.read? s.toList

end Provenance.Time
