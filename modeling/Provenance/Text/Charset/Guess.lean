import Provenance.Text.Charset.Foreign
import Provenance.Text.Charset.Ideographic
import Provenance.Text.Language.BaltoSlavic
import Provenance.Text.Language.Cyrillic
import Provenance.Text.Language.Germanic
import Provenance.Text.Language.Greek
import Provenance.Text.Language.Iranian
import Provenance.Text.Language.Latin
import Provenance.Text.Language.Romance
import Provenance.Text.Language.Semitic
import Provenance.Text.Language.Thai

namespace Provenance.Text

/-- How the characters of a text are weighed. -/
inductive Weighing where
  /-- By the pairs of letters in languages with Latin letters, and by ordinal numbers where they are
  usual. -/
  | latin (languages : List Language) (usesOrdinals : Bool)
  /-- By the pairs of letters in languages with other letters. -/
  | foreign (languages : List Language)
  /-- By the places of ideographs in the set. -/
  | ideographic

/-- What a text may be written in. -/
structure Candidate where
  charset : Charset
  weighing : Weighing

namespace Candidate

open Provenance.Text.Language

def western : List Language :=
  [french, german, spanish, portuguese, italian, catalan, dutch, swedish, danish, norwegian, finnish,
    estonian, irish, afrikaans, breton, luxembourgish, corsican]

def centralEuropean : List Language :=
  [czech, slovak, polish, hungarian, slovene, croatian, romanian]

def baltic : List Language := [latvian, lithuanian, estonian]

/-- All candidates, in the order of preference where nothing speaks for one of them. Icelandic and
Faroese have letters of their own in the set of Western Europe, and come later than the others. -/
def all : List Candidate :=
  [⟨.gbk, .ideographic⟩,
    ⟨.eucJp, .ideographic⟩,
    ⟨.eucKr, .ideographic⟩,
    ⟨.shiftJis, .ideographic⟩,
    ⟨.big5, .ideographic⟩,
    ⟨.windows1252, .latin western true⟩,
    ⟨.windows1251, .foreign [russian, ukrainian, belarusian, bulgarian, macedonian, serbian]⟩,
    ⟨.windows1250, .latin centralEuropean false⟩,
    ⟨.isoLatin2, .latin centralEuropean false⟩,
    ⟨.windows1256, .foreign [arabic, persian]⟩,
    ⟨.windows1252, .latin [icelandic, faroese] false⟩,
    ⟨.windows1254, .latin [turkish, azerbaijani, kurdish] false⟩,
    ⟨.windows874, .foreign [thai]⟩,
    ⟨.windows1255, .foreign [hebrew]⟩,
    ⟨.windows1253, .foreign [greek]⟩,
    ⟨.isoGreek, .foreign [greek]⟩,
    ⟨.windows1257, .latin baltic false⟩,
    ⟨.koi8, .foreign [russian, ukrainian]⟩,
    ⟨.ibm866, .foreign [russian, ukrainian, belarusian]⟩,
    ⟨.isoArabic, .foreign [arabic]⟩,
    ⟨.isoLatin4, .latin baltic false⟩,
    ⟨.isoCyrillic, .foreign [russian, belarusian, bulgarian, macedonian, serbian]⟩,
    ⟨.isoLatin7, .latin baltic false⟩]

/-- The score of bytes, `none` if they cannot be read or cannot be text. -/
def score? (k : Candidate) (bytes : List UInt8) : Option Int :=
  match k.weighing with
  | .latin languages usesOrdinals =>
    (k.charset.decode? bytes).bind (Latin.score? languages usesOrdinals)
  | .foreign languages =>
    (k.charset.decode? bytes).bind (Foreign.score? (.of k.charset) languages)
  | .ideographic => (k.charset.glyphs? bytes).map (Ideographic.score k.charset)

end Candidate

namespace Charset

/-- The bytes from the one before the first byte outside ASCII. -/
def fromLastAscii : List UInt8 → List UInt8
  | a :: b :: r => if a < 0x80 ∧ b < 0x80 then fromLastAscii (b :: r) else a :: b :: r
  | bytes => bytes

/-- The set of the candidate with the best score above 0, the first of them if there are several.
Without any it is the set for Western European languages. -/
def guess (bytes : List UInt8) : Charset :=
  let bytes := fromLastAscii bytes
  (Candidate.all.foldl (fun (best : Charset × Int) k =>
    match k.score? bytes with
    | some score => if best.2 < score then (k.charset, score) else best
    | none => best) (windows1252, 0)).1

end Charset

end Provenance.Text
