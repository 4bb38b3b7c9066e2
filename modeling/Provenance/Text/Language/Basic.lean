import Std.Data.ExtTreeMap

namespace Provenance.Text

/-- How often each letter occurs in texts of a language, and how often two stand side by side. A
blank counts as a letter here, so that the beginnings and the ends of words are pairs as well. -/
structure Language where
  /-- The small letters and the blank. One letter in `2 ^ n` is of rarity `n`, one in `2 ^ 12` or fewer
  are of rarity 12. -/
  rarity : Std.ExtTreeMap Char Nat
  /-- How much a pair of neighbours speaks for the language, by the code of the pair. -/
  weights : Std.ExtTreeMap Nat Int
  /-- The weight of a pair that does not occur although its letters are common. -/
  unseen : Int

namespace Language

def pairCode (c d : Char) : Nat := c.toNat * 0x110000 + d.toNat

def pairsOf : List Char → List (Char × Char)
  | c :: d :: r => (c, d) :: pairsOf r
  | _ => []

/-- A language by lists of its letters by rarity and of its pairs by weight. -/
def ofLists (unseen : Int) (letters : List (Nat × String)) (pairs : List (Int × String)) :
    Language where
  rarity := letters.foldl (fun m (n, cs) => cs.toList.foldl (·.insert · n) m) ∅
  weights := pairs.foldl
    (fun m (w, cs) => (pairsOf cs.toList).foldl (fun m (c, d) => m.insert (pairCode c d) w) m) ∅
  unseen

/-- The sum of rarities up to which the letters of a pair count as common. -/
def commonRarity : Nat := 12

/-- The weight of two neighbours, `none` if one of them is no letter of the language. -/
def weight? (l : Language) (c d : Char) : Option Int :=
  match l.rarity[c]?, l.rarity[d]? with
  | some m, some n =>
    some (l.weights[pairCode c d]?.getD (if m + n ≤ commonRarity then l.unseen else 0))
  | _, _ => none

/-- The weight of two neighbours that go together in no language. -/
def implausible : Int := -220

def bestWeight (languages : List Language) (c d : Char) : Int :=
  (languages.filterMap (·.weight? c d)).max?.getD implausible

end Language

end Provenance.Text
