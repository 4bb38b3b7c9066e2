import Provenance.Text.CaseTable

namespace Provenance.Text

def CaseRun.lower? (r : CaseRun) (n : Nat) : Option Nat :=
  if r.first ≤ n ∧ n ≤ r.last ∧ (n - r.first) % r.step = 0 then some (r.lower + (n - r.first))
  else none

def inRanges (ranges : List (Nat × Nat)) (c : Char) : Bool :=
  ranges.any fun (a, b) => a ≤ c.toNat && c.toNat ≤ b

def startsCased (cs : List Char) : Bool :=
  match cs.dropWhile (inRanges caseIgnorable) with
  | [] => false
  | c :: _ => inRanges cased c

/-- The lower case of a letter on its own. An I with a dot keeps the dot as a mark. -/
def lowerChar (c : Char) : List Char :=
  if c.toNat < 128 then [c.toLower]
  else if c = 'İ' then ['i', '\u0307']
  else [((caseRuns.findSome? (·.lower? c.toNat)).map Char.ofNat).getD c]

/-- The lower case of a text, given what comes before it in reverse. -/
def lowerAfter (before : List Char) : List Char → List Char
  | [] => []
  | c :: r =>
    let l := if c = 'Σ' then (if startsCased before && !startsCased r then ['ς'] else ['σ'])
      else lowerChar c
    l ++ lowerAfter (c :: before) r

end Provenance.Text

namespace Provenance

def lowercase (s : String) : String := String.ofList (Text.lowerAfter [] s.toList)

end Provenance
