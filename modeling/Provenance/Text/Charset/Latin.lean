import Provenance.Text.Charset.Ordinal
import Provenance.Text.Language.Basic

namespace Provenance.Text

/-- How the letters since the beginning of a word are written. -/
inductive LetterCase where
  | outside
  | small
  | capital
  | capitals
  deriving DecidableEq, Repr

namespace LetterCase

/-- A change of case inside of a word. -/
def breach : Int := -180

def step (s : LetterCase) (isCapital : Bool) : LetterCase × Int :=
  match s, isCapital with
  | .capitals, false => (.small, breach)
  | _, false => (.small, 0)
  | .outside, true => (.capital, 0)
  | .small, true => (.capital, breach)
  | _, true => (.capitals, 0)

end LetterCase

/-- The weight of two neighbours in texts of the languages. Two that are written alike in ASCII say
nothing. -/
def neighbourWeight (languages : List Language) (before after : Role) : Int :=
  match before.face?, after.face? with
  | some c, some d => if isAscii c && isAscii d then 0 else Language.bestWeight languages c d
  | _, _ =>
    match before, after with
    | .symbol, .letter .. | .symbol, .latin _ | .symbol, .sign => Language.implausible
    | .letter .., .symbol | .latin _, .symbol | .sign, .symbol => Language.implausible
    | _, _ => 0

namespace Latin

/-- A text up to a character. -/
structure Reading where
  before : Role := .blank
  /-- How many characters up to there are outside ASCII, without one of ASCII among them. -/
  run : Nat := 0
  letterCase : LetterCase := .outside
  ordinal : Ordinal := .wordStart
  score : Int := 0

/-- The weight of a character after a run of characters outside ASCII. -/
def crowding : Nat → Int
  | 0 | 1 | 2 => 0
  | 3 => -5
  | 4 => -20
  | _ => -200

/-- The weight of a character's role beside the one before. Neighbours within ASCII say nothing, nor
does a blank beside ASCII. -/
def besideWeight (languages : List Language) (r : Reading) (ascii : Bool) (role : Role) : Int :=
  if (ascii ∧ (r.run = 0 ∨ r.before = .blank)) ∨ (role = .blank ∧ r.run = 0) then 0
  else neighbourWeight languages r.before role

def step (languages : List Language) (usesOrdinals : Bool) (r : Reading) (c : Char) :
    Option Reading :=
  (Role.ofChar? .own c).map fun role =>
    let ascii := isAscii c
    let (letterCase, change) := match role with
      | .letter _ isCapital => r.letterCase.step isCapital
      | _ => (.outside, 0)
    let (ordinal, reward) := if usesOrdinals then r.ordinal.step c role else (r.ordinal, 0)
    { before := role
      run := if ascii then 0 else r.run + 1
      letterCase
      ordinal
      score := r.score + crowding r.run + (if ascii ∧ r.run = 0 then 0 else change) +
        besideWeight languages r ascii role + reward }

/-- The score of a text, `none` if it has a control character. Neighbours speak for it or against
it, unless both are ASCII; runs of characters outside ASCII and capitals after small letters speak
against it. A blank is taken to follow the text. -/
def score? (languages : List Language) (usesOrdinals : Bool) (text : List Char) : Option Int :=
  ((text ++ [' ']).foldlM (step languages usesOrdinals) ({} : Reading)).map Reading.score

end Latin

end Provenance.Text
