import Provenance.Text.Lowercase

namespace Provenance.Text

inductive Role where
  | blank
  | digit
  /-- A letter of the text's own script, in its small form. -/
  | letter (small : Char) (isCapital : Bool)
  /-- A Latin letter in a text of another script. -/
  | latin (isCapital : Bool)
  /-- A sign that may stand beside letters and digits alike. -/
  | sign
  /-- A symbol that does not stand beside letters. -/
  | symbol
  deriving DecidableEq, Repr

/-- How Latin letters occur in the texts of a character set. -/
inductive LatinUse where
  | own
  /-- As words of another language, with accents. -/
  | accented
  /-- As words of another language, without accents. -/
  | plain
  deriving DecidableEq, Repr

namespace Role

def isLetter : Role → Bool
  | letter .. => true
  | _ => false

def isLatin : Role → Bool
  | latin _ => true
  | _ => false

/-- What stands for a letter in a pair of neighbours: the letter in its small form or a blank. -/
def face? : Role → Option Char
  | blank => some ' '
  | letter c _ => some c
  | _ => none

end Role

def isAscii (c : Char) : Bool := c.toNat < 128

def isLatinLetter (c : Char) : Bool :=
  let n := c.toNat
  0xC0 ≤ n && n < 0x250 && n ≠ 0xD7 && n ≠ 0xF7

def isGreekLetter (c : Char) : Bool :=
  let n := c.toNat
  n = 0x37A || n = 0x386 || 0x388 ≤ n && n < 0x400

def isCyrillicLetter (c : Char) : Bool := 0x400 ≤ c.toNat && c.toNat < 0x530

def isHebrewLetter (c : Char) : Bool :=
  let n := c.toNat
  0x5D0 ≤ n && n ≤ 0x5F2 || 0x5B0 ≤ n && n ≤ 0x5BD || n = 0x5BF || n = 0x5C1 || n = 0x5C2

def isArabicLetter (c : Char) : Bool :=
  let n := c.toNat
  0x621 ≤ n && n ≤ 0x652 || 0x671 ≤ n && n ≤ 0x6D3

def isThaiLetter (c : Char) : Bool :=
  let n := c.toNat
  0xE01 ≤ n && n ≤ 0xE4E && n ≠ 0xE3F

/-- Quotation marks, dashes, accents without a letter, and other punctuation outside ASCII. -/
def outerMarks : List Char :=
  "\xa0˝˛˘˙¸‘’“”„‚«»‹›–—…•¡¿†―\u200c\u200d\u200e\u200f\u060c\u061b\u061f".toList

def signs : List Char := "™®°©·§¨".toList

namespace Role

/-- The role of a letter, with a hacek alone counted as one, as its form is that of an accent and its
place that of a letter. -/
def ofLetter? (use : LatinUse) (c : Char) : Option Role :=
  let small := (lowerChar c).headD c
  if isLatinLetter c then
    match use with
    | .own => some (.letter small (small ≠ c))
    | .accented => some (.latin (small ≠ c))
    | .plain => some .symbol
  else if isThaiLetter c then some (.letter c false)
  else if isGreekLetter c || isCyrillicLetter c || isHebrewLetter c || isArabicLetter c || c = 'ˇ' then
    some (.letter small (small ≠ c))
  else none

/-- The role of a character, `none` for a control character. -/
def ofChar? (use : LatinUse) (c : Char) : Option Role :=
  if isAscii c then
    if c.isAlpha then
      match use with
      | .own => some (.letter c.toLower c.isUpper)
      | _ => some (.latin c.isUpper)
    else if c.isDigit then some .digit
    else some .blank
  else if c.toNat < 0xA0 then none
  else
    match ofLetter? use c with
    | some role => some role
    | none =>
      if outerMarks.contains c then some .blank
      else if signs.contains c then some .sign
      else some .symbol

end Role

end Provenance.Text
