namespace Provenance.Git

/-- The fingerprint of a content: hashes of its runs, the least ones and the greatest ones, in order. -/
structure Fingerprint where
  least : List UInt32
  greatest : List UInt32
  /-- How many lines end in the content; line ends right after a run count as one. -/
  lines : Nat
  deriving DecidableEq, Repr

namespace Fingerprint

def capacity : Nat := 127

def longestRun : Nat := 80

def initialHash : UInt32 := 0x8ABCDEF0

/-- Cutting a content into runs, at line ends and after eighty bytes. Blanks at the start of a line
do not count. -/
structure Scan where
  /-- Blanks are passed over, as at the start of a line. -/
  indent : Bool := true
  /-- A run has just ended, and line ends after it are passed over. -/
  ended : Bool := false
  length : Nat := 0
  hash : UInt32 := initialHash
  lines : Nat := 0
  /-- The hashes of the runs so far, the last one first. -/
  runs : List UInt32 := []

def isBlankByte (b : UInt8) : Bool := b = 0x20 || b = 0x09 || b = 0x0C || b = 0x0D || b = 0x0B

def isLineEnd (b : UInt8) : Bool := b = 0x0A || b = 0

namespace Scan

/-- Ends the run; an empty one leaves no hash. -/
def close (s : Scan) : Scan :=
  { s with
    ended := true
    length := 0
    hash := initialHash
    runs := if s.length = 0 then s.runs else s.hash :: s.runs }

def step (s : Scan) (b : UInt8) : Scan :=
  if s.ended && isLineEnd b then s
  else
    let s := { s with ended := false }
    if (s.indent && isBlankByte b) || b = 0x0D then s
    else if isLineEnd b then { s with indent := b = 0x0A, lines := s.lines + 1 }.close
    else
      let s := { s with indent := false, length := s.length + 1, hash := s.hash * 31 + b.toUInt32 }
      if s.length = longestRun then s.close else s

end Scan

def Scan.ofContent (content : List UInt8) : Scan := (content.foldl Scan.step {}).close

/-- Enters a hash into a list that is in order by `before`. -/
def enter (before : UInt32 → UInt32 → Bool) (x : UInt32) : List UInt32 → List UInt32
  | [] => [x]
  | y :: r => if before x y then x :: y :: r else y :: enter before x r

/-- Offers a hash to a list of those that come first by `before`. A full list that the hash belongs
to loses its last element and does not take the hash. -/
def offer (before : UInt32 → UInt32 → Bool) (kept : List UInt32) (x : UInt32) : List UInt32 :=
  if kept.length < capacity then enter before x kept
  else
    match kept.getLast? with
    | some last => if before x last then kept.dropLast else kept
    | none => kept

def ofContent (content : List UInt8) : Fingerprint :=
  let scan := Scan.ofContent content
  let hashes := scan.runs.reverse
  { least := hashes.foldl (offer fun x y => decide (x < y)) []
    greatest := hashes.foldl (offer fun x y => decide (y < x)) []
    lines := scan.lines }

def shared (before : UInt32 → UInt32 → Bool) : List UInt32 → List UInt32 → Nat
  | [], _ => 0
  | _ :: _, [] => 0
  | x :: xs, y :: ys =>
    if x = y then shared before xs ys + 1
    else if before x y then shared before xs (y :: ys)
    else shared before (x :: xs) ys

def percent (before : UInt32 → UInt32 → Bool) (xs ys : List UInt32) : Nat :=
  100 * (2 * shared before xs ys) / (xs.length + ys.length)

/-- The resemblance of two contents in percent. Contents without any run resemble each other only if no
line ends in them. -/
def compare (a b : Fingerprint) : Nat :=
  if a.least = [] ∧ b.least = [] then
    if a.lines = 0 ∧ b.lines = 0 then 100 else 0
  else
    let low := percent (fun x y => decide (x < y)) a.least b.least
    if a.least.length < capacity then low
    else (low + percent (fun x y => decide (y < x)) a.greatest b.greatest) / 2

end Fingerprint

/-- Contents are not compared if one is more than eight times as long as the other, short ones apart. -/
def differInSize (a b : List UInt8) : Bool :=
  127 < a.length && 127 < b.length && (8 * b.length < a.length || 8 * a.length < b.length)

end Provenance.Git
