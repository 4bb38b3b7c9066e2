import Provenance.Text.Charset.Big5
import Provenance.Text.Charset.Gbk
import Provenance.Text.Charset.Jis
import Provenance.Text.Charset.Korean
import Provenance.Text.Charset.MultiByte
import Provenance.Text.Charset.SingleByte

namespace Provenance.Text

/-- Character sets that extend ASCII. In some every byte is a character, in others a byte above
ASCII may begin a character of two or four. -/
inductive Charset where
  | gbk
  | eucJp
  | eucKr
  | shiftJis
  | big5
  | windows1250
  | windows1251
  | windows1252
  | windows1253
  | windows1254
  | windows1255
  | windows1256
  | windows1257
  | windows874
  | isoLatin2
  | isoLatin4
  | isoLatin7
  | isoCyrillic
  | isoArabic
  | isoGreek
  | koi8
  | ibm866
  deriving DecidableEq, Repr

/-- A place in a character set: the number that its bytes make up, and the character there if there
is one. -/
structure Glyph where
  code : Nat
  char : Option Char
  deriving DecidableEq, Repr

namespace Charset

/-- The table of a set in which every byte is a character. -/
def table? : Charset → Option String
  | windows1250 => some SingleByte.windows1250
  | windows1251 => some SingleByte.windows1251
  | windows1252 => some SingleByte.windows1252
  | windows1253 => some SingleByte.windows1253
  | windows1254 => some SingleByte.windows1254
  | windows1255 => some SingleByte.windows1255
  | windows1256 => some SingleByte.windows1256
  | windows1257 => some SingleByte.windows1257
  | windows874 => some SingleByte.windows874
  | isoLatin2 => some SingleByte.isoLatin2
  | isoLatin4 => some SingleByte.isoLatin4
  | isoLatin7 => some SingleByte.isoLatin7
  | isoCyrillic => some SingleByte.isoCyrillic
  | isoArabic => some SingleByte.isoArabic
  | isoGreek => some SingleByte.isoGreek
  | koi8 => some SingleByte.koi8
  | ibm866 => some SingleByte.ibm866
  | _ => none

/-- The half-width katakana, which stand for one byte in one set and for two in another. -/
def halfKatakana? (b : Nat) : Option Char :=
  if 0xA1 ≤ b ∧ b ≤ 0xDF then some (Char.ofNat (0xFF61 + b - 0xA1)) else none

def isJisTrail (b : Nat) : Bool := 0x40 ≤ b && b ≤ 0xFC && b != 0x7F

def jisPrivate? (lead trail : Nat) : Option Char :=
  if 0xF0 ≤ lead ∧ lead ≤ 0xF9 ∧ isJisTrail trail then
    some (Char.ofNat (0xE000 + (lead - 0xF0) * 188 + trail - if trail < 0x7F then 0x40 else 0x41))
  else none

def jisChar? (row cell : Nat) : Option Char :=
  let pointer := row * 94 + cell
  let lead := pointer / 188
  let trail := pointer % 188
  twoByteChar? jisRows (lead + if lead < 0x1F then 0x81 else 0xC1)
    (trail + if trail < 0x3F then 0x40 else 0x41)

def single? (cs : Charset) (b : Nat) : Option Glyph :=
  match cs with
  | gbk => if b = 0x80 then some ⟨b, some '€'⟩ else none
  | shiftJis =>
    if b = 0x80 then some ⟨b, some '\x80'⟩
    else if b = 0xA0 ∨ 0xFD ≤ b then some ⟨b, none⟩
    else (halfKatakana? b).map (⟨b, some ·⟩)
  | _ => none

def double? (cs : Charset) (lead trail : Nat) : Option Glyph :=
  let glyph (c : Option Char) : Option Glyph := c.map (⟨lead * 256 + trail, some ·⟩)
  match cs with
  | gbk => glyph (twoByteChar? gbkRows lead trail)
  | eucKr => glyph (twoByteChar? koreanRows lead trail)
  | big5 => glyph (twoByteChar? big5Rows lead trail)
  | eucJp =>
    if lead = 0x8E then glyph (halfKatakana? trail)
    else if 0xA1 ≤ lead ∧ 0xA1 ≤ trail then glyph (jisChar? (lead - 0xA1) (trail - 0xA1))
    else none
  | shiftJis =>
    if isJisTrail trail then
      some ⟨lead * 256 + trail, (twoByteChar? jisRows lead trail).or (jisPrivate? lead trail)⟩
    else none
  | _ => none

def quadruple? (cs : Charset) (b₁ b₂ b₃ b₄ : Nat) : Option Glyph :=
  match cs with
  | gbk =>
    (FourByte.char? b₁ b₂ b₃ b₄).map (⟨((b₁ * 256 + b₂) * 256 + b₃) * 256 + b₄, some ·⟩)
  | _ => none

def singles? (table : List Char) : List UInt8 → Option (List Glyph)
  | [] => some []
  | b :: r =>
    if b < 0x80 then (singles? table r).map (⟨b.toNat, some (Char.ofNat b.toNat)⟩ :: ·)
    else
      match table[b.toNat - 0x80]? with
      | none => none
      | some c => if c = '\uFFFD' then none else (singles? table r).map (⟨b.toNat, some c⟩ :: ·)

/-- The places of bytes, some of them two or four bytes long. -/
def mixed? (cs : Charset) : List UInt8 → Option (List Glyph)
  | [] => some []
  | b :: r =>
    if b < 0x80 then (mixed? cs r).map (⟨b.toNat, some (Char.ofNat b.toNat)⟩ :: ·)
    else
      match cs.single? b.toNat with
      | some g => (mixed? cs r).map (g :: ·)
      | none =>
        match r with
        | [] => none
        | t :: r =>
          match cs.double? b.toNat t.toNat with
          | some g => (mixed? cs r).map (g :: ·)
          | none =>
            match r with
            | u :: v :: r =>
              match cs.quadruple? b.toNat t.toNat u.toNat v.toNat with
              | some g => (mixed? cs r).map (g :: ·)
              | none => none
            | _ => none

def glyphs? (cs : Charset) (bytes : List UInt8) : Option (List Glyph) :=
  match cs.table? with
  | some table => singles? table.toList bytes
  | none => mixed? cs bytes

def decode? (cs : Charset) (bytes : List UInt8) : Option (List Char) :=
  (cs.glyphs? bytes).bind (·.mapM Glyph.char)

end Charset

end Provenance.Text
