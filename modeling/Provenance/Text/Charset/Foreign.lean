import Provenance.Text.Charset.Basic
import Provenance.Text.Charset.Latin

namespace Provenance.Text

/-- How the letters since the beginning of a word are written. -/
inductive WordCase where
  | outside
  | small
  | capital
  /-- A capital and small letters after it. -/
  | capitalised
  | capitals
  /-- Anything else, or letters of two scripts. -/
  | mixed
  deriving DecidableEq, Repr

namespace Foreign

/-- What the letters of a set and their use are. -/
structure Manner where
  /-- The letters have capitals. -/
  hasCase : Bool := false
  /-- The weight of a word in capitals. -/
  capitalsWeight : Int := 0
  /-- Words of another language in Latin letters have accents. -/
  hasAccents : Bool := false
  /-- A letter at the place where other sets have the blank that does not break. -/
  blankLetter : Option Char := none

def Manner.of : Charset → Manner
  | .windows1251 | .windows1253 | .isoCyrillic | .isoGreek => { hasCase := true }
  | .koi8 => { hasCase := true, capitalsWeight := -40 }
  | .ibm866 => { hasCase := true, blankLetter := some 'а' }
  | .windows1256 => { hasAccents := true }
  | _ => {}

def Manner.latinUse (m : Manner) : LatinUse := if m.hasAccents then .accented else .plain

/-- A text up to a character. -/
structure Reading where
  before : Role := .blank
  /-- The last character is ASCII. -/
  isAscii : Bool := true
  /-- The last character is the one that may stand for a blank. -/
  isBlankLetter : Bool := false
  wordCase : WordCase := .outside
  latinCase : LetterCase := .outside
  /-- The number of letters since the beginning of the word. -/
  length : Nat := 0
  /-- The number of letters of the longest word. -/
  longest : Nat := 0
  score : Int := 0

def capitalisedWeight : Int := 40

def innerCapitalWeight : Int := -80

def mixedLetterWeight : Int := -20

def latinBesideWeight : Int := -50

/-- The state of a word after a character, and the weight of it. -/
def stepCase (m : Manner) (s : WordCase) (length : Nat) (role : Role) : WordCase × Int :=
  match role with
  | .latin _ => (.mixed, 0)
  | .letter _ true =>
    match s with
    | .outside => (.capital, 0)
    | .capital => (.capitals, 0)
    | .small | .capitalised => (.mixed, innerCapitalWeight)
    | s => (s, 0)
  | .letter _ false =>
    match s with
    | .outside => (.small, 0)
    | .capital => (.capitalised, 0)
    | .capitals => (.mixed, 0)
    | s => (s, 0)
  | _ =>
    (.outside,
      match s with
      | .capitalised => capitalisedWeight
      | .capitals => m.capitalsWeight
      | .mixed => mixedLetterWeight * length
      | _ => 0)

/-- The weight of a character's role beside the one before, at least one of them outside ASCII. A
letter that stands for blanks says nothing beside blanks. -/
def besideWeight (languages : List Language) (r : Reading) (isBlankLetter : Bool) (role : Role) : Int :=
  let padding :=
    (isBlankLetter && (r.isBlankLetter || r.before = .blank)) || (role = .blank && r.isBlankLetter)
  (if padding then 0 else neighbourWeight languages r.before role) +
    if (role.isLatin && r.before.isLetter) || (r.before.isLatin && role.isLetter) then
      latinBesideWeight
    else 0

def step (m : Manner) (languages : List Language) (r : Reading) (c : Char) : Option Reading :=
  (Role.ofChar? m.latinUse c).map fun role =>
    let withinAscii := r.isAscii && Text.isAscii c
    let isBlankLetter := m.blankLetter = some c
    let (wordCase, caseWeight) :=
      if m.hasCase then stepCase m r.wordCase r.length role else (.outside, 0)
    let (latinCase, change) := match role with
      | .latin isCapital => r.latinCase.step isCapital
      | _ => (.outside, 0)
    { before := role
      isAscii := Text.isAscii c
      isBlankLetter
      wordCase
      latinCase
      length := if role.isLetter then r.length + 1 else 0
      longest := max r.longest r.length
      score := r.score + caseWeight + (if m.hasAccents ∧ !withinAscii then change else 0) +
        if withinAscii then 0 else besideWeight languages r isBlankLetter role }

/-- The number of letters that some word of a text in the language has. -/
def leastWord : Nat := 2

/-- The score of a text, `none` if it has a control character or no word. Latin letters may occur in
it, but not inside of its words, and words of small letters with a capital in front speak for it. A
blank is taken to follow the text. -/
def score? (m : Manner) (languages : List Language) (text : List Char) : Option Int :=
  ((text ++ [' ']).foldlM (step m languages) ({} : Reading)).bind fun r =>
    if leastWord ≤ r.longest then some r.score else none

end Foreign

end Provenance.Text
