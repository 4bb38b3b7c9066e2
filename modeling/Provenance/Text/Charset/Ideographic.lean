import Provenance.Text.Charset.Basic
import Provenance.Text.Charset.Role

namespace Provenance.Text.Ideographic

/-- The commonest ideographs of Japanese texts, the most frequent ones first. -/
def commonKanji : String :=
  "一人使行出見定分上用時方事自合下私動書作思来場手子中入大日間設要何実前文的言御気以本必生二者変彼通知同最数意能目心後立持名云全理" ++
    "今無対起込問小葉新関部当度可法力情様取正女話成点年語表先他内続物音読家三次報十明示不例所訳記聞有多切指付機注外送接考信少体長現字"

def commonHanzi : String :=
  "的一国在人了有中是年和大业不为发会工经上地市要个产这出行作生家以成到日民来我部对进多全建他公开们场展时理新方主企资实学报制政济用同" ++
    "于法高长现本月定化加动合品重关机分力自外者区能设后就等体下万元社过前面农也得与说之员而务利电文事可种总改三各好金第司其从平代当"

def commonHangul : String :=
  "다이는하에을의로를한스서지가은있고리어기것용사수일트해시그들도정자면니인라으할나드보만여파되설게대터러제문아프부우적된버과모주위치크분" ++
    "와전디요메소상명경않작때음실신야장바데입같행구세내포동화템눅마른없당유호록개원성함습비합필번방커더결운든네간널단관션키래능"

/-- What one of the commonest characters has on top of its weight: 8 at the head of the list, less
further down. -/
def commonness (ranking : String) (c : Char) : Int :=
  match ranking.toList.findIdx? (· = c) with
  | some i => ((128 - i) / 16 : Nat)
  | none => 0

/-- What a character is to the next one. -/
inductive Side where
  | outside
  | asciiLetter
  | ideograph
  | hangul
  | hanja
  deriving DecidableEq, Repr

def Side.isInner : Side → Bool
  | outside | asciiLetter => false
  | _ => true

/-- What becomes of a weight that waits for the next character. -/
inductive Waiting where
  | stays
  | counts
  | lapses
  deriving DecidableEq, Repr

/-- What a character adds to the score of a text. -/
structure Appraisal where
  weight : Int
  side : Side
  /-- The weight waits if it is the first of a word. -/
  waits : Bool := false
  earlier : Waiting := .stays
  /-- What it adds at the beginning of a word. -/
  opening : Int := 0
  isHalfWidth : Bool := false

def isIdeograph (c : Char) : Bool :=
  let n := c.toNat
  0x3400 ≤ n && n < 0xA000 || 0xF900 ≤ n && n < 0xFB00 || 0xFFFF < n

def isKana (c : Char) : Bool := 0x3040 ≤ c.toNat && c.toNat < 0x3100

/-- The kana that are letters on their own. -/
def isKanaLetter (c : Char) : Bool :=
  let n := c.toNat
  0x3041 ≤ n && n ≤ 0x3093 || 0x30A1 ≤ n && n ≤ 0x30F6

def isObsoleteKana (c : Char) : Bool := "ゐゑヰヱ".toList.contains c

def isHalfKatakana (c : Char) : Bool := 0xFF61 ≤ c.toNat && c.toNat ≤ 0xFF9F

def isVoicing (c : Char) : Bool := c.toNat = 0xFF9E || c.toNat = 0xFF9F

def isHangul (c : Char) : Bool := 0xAC00 ≤ c.toNat && c.toNat ≤ 0xD7A3

def isPrivate (c : Char) : Bool := 0xE000 ≤ c.toNat && c.toNat < 0xF900

/-- The blank, the comma, the full stop and the brackets that all of the sets have. -/
def isCommonMark (c : Char) : Bool := "\u3000、。（）".toList.contains c

def isChineseMark (c : Char) : Bool := isCommonMark c || "！，；？".toList.contains c

def common : Int := 41

def rare : Int := 20

def other : Int := 5

def gbk (code : Nat) (c : Char) : Appraisal :=
  let lead := code / 256
  let trail := code % 256
  if code < 256 then { weight := -1640, side := .outside }
  else if 0x10000 ≤ code then
    if 0xF0000 ≤ c.toNat then { weight := -410, side := .outside }
    else { weight := other, side := .ideograph, earlier := .counts }
  else if isIdeograph c then
    let weight :=
      if trail < 0xA1 ∨ lead < 0xA1 ∨ 0x9FA5 < c.toNat ∨ c.toNat < 0x4E00 then other
      else if lead ≤ 0xD7 then common + commonness commonHanzi c
      else rare
    { weight, side := .ideograph, waits := true, earlier := .counts }
  else if isChineseMark c then { weight := rare, side := .outside, earlier := .counts }
  else { weight := other, side := .outside, waits := true }

def big5 (code : Nat) (c : Char) : Appraisal :=
  let lead := code / 256
  if isIdeograph c then
    { weight := if 0xA4 ≤ lead ∧ lead ≤ 0xC6 then common else rare
      side := .ideograph, waits := true, earlier := .counts }
  else if isChineseMark c then { weight := rare, side := .outside, earlier := .counts }
  else { weight := other, side := .outside, waits := true }

def eucJp (code : Nat) (c : Char) : Appraisal :=
  if isKanaLetter c then
    { weight := if isObsoleteKana c then 40 else 54, side := .ideograph, opening := -14 }
  else if isHalfKatakana c then { weight := 1, side := .ideograph }
  else if isIdeograph c then
    { weight := if code < 0xD000 then common + commonness commonKanji c else rare
      side := .ideograph }
  else { weight := if isCommonMark c then rare else other, side := .outside }

def eucKr (code : Nat) (c : Char) : Appraisal :=
  if isHangul c then
    { weight := if 0xA100 ≤ code ∧ 0xA1 ≤ code % 256 then 42 + commonness commonHangul c else 4
      side := .hangul, waits := true, earlier := .counts }
  else if isIdeograph c then
    { weight := 10, side := .hanja, waits := true, earlier := .counts }
  else { weight := other, side := .outside }

def shiftJis (code : Nat) (c : Char) : Appraisal :=
  if isHalfKatakana c then
    { weight := if isVoicing c then 10 else 1
      side := .ideograph, earlier := .lapses, isHalfWidth := true }
  else if isKana c then { weight := rare, side := .ideograph, earlier := .counts }
  else if isIdeograph c then
    { weight := if code < 0x9873 then common + commonness commonKanji c else rare
      side := .ideograph, waits := true, earlier := .counts }
  else if isPrivate c then { weight := -410, side := .ideograph, earlier := .counts }
  else if isCommonMark c then { weight := rare, side := .outside, earlier := .counts }
  else if code < 256 then { weight := -220, side := .outside, earlier := .lapses }
  else { weight := other, side := .outside, waits := true }

def vacant (code : Nat) : Appraisal where
  weight := -820
  side := if code < 256 then .outside else .ideograph

/-- What a character outside ASCII adds. -/
def appraise (cs : Charset) (g : Glyph) : Appraisal :=
  match g.char with
  | none => vacant g.code
  | some c =>
    match cs with
    | .gbk => gbk g.code c
    | .big5 => big5 g.code c
    | .eucJp => eucJp g.code c
    | .eucKr => eucKr g.code c
    | _ => shiftJis g.code c

/-- First bytes that are quotation marks, dashes, the degree sign or common letters in the sets of
one byte. A single character that begins with one says little. -/
def isDoubtful (cs : Charset) (lead : Nat) : Bool :=
  (0x91 ≤ lead && lead ≤ 0x97) || [0x8A, 0x8B, 0x8E, 0x9A, 0x9B, 0x9E, 0xB0].contains lead ||
    (cs = .shiftJis && [0x82, 0x84, 0x85, 0xA0].contains lead)

/-- A text up to a character. -/
structure Reading where
  side : Side := .outside
  /-- A weight that counts if the next character goes on with the word. -/
  waiting : Int := 0
  /-- The number of Korean characters since the beginning of the word. -/
  length : Nat := 0
  hasHalfWidth : Bool := false
  score : Int := 0

def letterBesideWeight : Int := -41

def halfWidthWeight : Int := -75

def hanjaAfterHangul : Int := -410

/-- The number of characters that Korean words do not exceed as a rule. -/
def usualWord : Nat := 5

def longWordWeight : Int := -6

def afterAscii (r : Reading) (c : Char) : Reading :=
  let isLetter := c.isAlpha
  { r with
    side := if isLetter then .asciiLetter else .outside
    waiting := 0
    length := 0
    score := r.score + if isLetter && r.side.isInner then letterBesideWeight else 0 }

def afterAppraisal (r : Reading) (a : Appraisal) (isDoubtful : Bool) : Reading :=
  let isKorean := a.side = .hangul || a.side = .hanja
  let length := if isKorean then r.length + 1 else 0
  let beside :=
    if a.side.isInner then if r.side = .asciiLetter then letterBesideWeight
      else if r.side = .outside then a.opening else 0
    else 0
  let korean :=
    (if a.side = .hanja ∧ r.side = .hangul then hanjaAfterHangul else 0) +
      if usualWord < length then longWordWeight else 0
  let half := if a.isHalfWidth ∧ !r.hasHalfWidth then halfWidthWeight else 0
  let released := if a.earlier = .counts then r.waiting else 0
  let held := if a.earlier = .stays then r.waiting else 0
  let waits := a.waits && isDoubtful && !r.side.isInner
  { side := a.side
    waiting := if waits then a.weight else held
    length
    hasHalfWidth := r.hasHalfWidth || a.isHalfWidth
    score := r.score + beside + korean + half + released + if waits then 0 else a.weight }

def step (cs : Charset) (r : Reading) (g : Glyph) : Reading :=
  match g.char with
  | some c =>
    if isAscii c then afterAscii r c
    else afterAppraisal r (appraise cs g) (isDoubtful cs (g.code / 256))
  | none => afterAppraisal r (appraise cs g) false

/-- The score of a text. Common characters stand in other rows than rare ones, and the commonest are
listed; ASCII says nothing, but its letters do not stand beside ideographs. -/
def score (cs : Charset) (glyphs : List Glyph) : Int :=
  (glyphs.foldl (step cs) ({} : Reading)).score

end Provenance.Text.Ideographic
