import Provenance.Text.Charset.Role

namespace Provenance.Text

/-- What the characters since the last blank may be the beginning of. -/
inductive Ordinal where
  | wordStart
  /-- Something else, up to the next blank. -/
  | elsewhere
  /-- Complete, if a blank follows. -/
  | complete (reward : Int)
  /-- An abbreviation of "number", complete if a blank or a digit follows. -/
  | numberSign
  | capitalN
  | smallN
  /-- `N.` or `n.`. -/
  | pointAfterN
  /-- `M`, `D` or `S`, which begin titles. -/
  | title
  | digits
  | roman
  deriving DecidableEq, Repr

namespace Ordinal

/-- A number in digits with its raised letter. -/
def numeralReward : Int := 300

/-- An abbreviation or a Roman number with its raised letter. -/
def abbreviationReward : Int := 520

def signReward : Int := 222

def isRaised (c : Char) : Bool := c = 'ª' || c = 'º'

def isRomanDigit (c : Char) : Bool := "ivxIVX".toList.contains c

def begin (c : Char) (role : Role) : Ordinal :=
  if role = .blank then wordStart
  else if isRaised c then complete abbreviationReward
  else if c = 'M' ∨ c = 'D' ∨ c = 'S' then title
  else if c = 'N' then capitalN
  else if c = 'n' then smallN
  else if role = .digit then digits
  else if isRomanDigit c then roman
  else if c = '©' then complete signReward
  else elsewhere

/-- What is left where a character does not go on with what was begun. -/
def afterOther (role : Role) : Ordinal := if role = .blank then wordStart else elsewhere

/-- What a character goes on with, and the reward if it completes something. -/
def step (s : Ordinal) (c : Char) (role : Role) : Ordinal × Int :=
  match s with
  | wordStart => (begin c role, 0)
  | elsewhere => (afterOther role, 0)
  | complete reward => (afterOther role, if role = .blank then reward else 0)
  | numberSign => (afterOther role, if role = .blank ∨ role = .digit then abbreviationReward else 0)
  | capitalN =>
    (if c = 'ª' then complete abbreviationReward
      else if c = 'º' then numberSign
      else if c = '.' then pointAfterN
      else afterOther role, 0)
  | smallN => (if c = 'º' then numberSign else if c = '.' then pointAfterN else afterOther role, 0)
  | pointAfterN => (if c = 'º' then numberSign else afterOther role, 0)
  | title => (if c = 'ª' then complete abbreviationReward else afterOther role, 0)
  | digits =>
    (if isRaised c then complete numeralReward
      else if role = .digit then digits
      else afterOther role, 0)
  | roman =>
    (if isRaised c then complete abbreviationReward
      else if isRomanDigit c then roman
      else afterOther role, 0)

end Ordinal

end Provenance.Text
