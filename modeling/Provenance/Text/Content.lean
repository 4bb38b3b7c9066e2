import Provenance.Text.Charset.Guess
import Provenance.Text.Utf16
import Provenance.Text.Utf8

namespace Provenance.Text

/-- What a file holds. Text is UTF-8 if it can be; otherwise a byte order mark or, failing that, the
bytes themselves tell its encoding. -/
inductive Content where
  | text (text : String)
  | binary
  /-- Text in an encoding that does not admit all of the bytes. -/
  | undecodable
  deriving DecidableEq, Repr

def sampleLength : Nat := 512

/-- Printable ASCII, the usual white space, backspace and form feed. -/
def isTextByte (b : UInt8) : Bool :=
  (32 ≤ b && b ≤ 126) || b = 0x0A || b = 0x0D || b = 0x09 || b = 0x08 || b = 0x0C

/-- The share of other bytes than those of text up to which a sample may still be from a text. -/
def binaryShare : Float := 0.3

/-- A sample with a zero byte, or with too large a share of other bytes than those of text, is not
from a text. An empty one is. -/
def isBinary (bytes : List UInt8) : Bool :=
  let sample := bytes.take sampleLength
  if sample.isEmpty then false
  else
    sample.contains 0 ||
      binaryShare < (sample.countP (!isTextByte ·)).toUInt64.toFloat / sample.length.toUInt64.toFloat

def byteOrderMark : Char := '\uFEFF'

def dropMark : List Char → List Char
  | c :: r => if c = byteOrderMark then r else c :: r
  | [] => []

/-- The text of bytes that are no UTF-8. -/
def decodeOther? : List UInt8 → Option (List Char)
  | 0xEF :: 0xBB :: 0xBF :: _ => none
  | 0xFF :: 0xFE :: r => utf16? .lowFirst r
  | 0xFE :: 0xFF :: r => utf16? .highFirst r
  | bytes => (Charset.guess bytes).decode? bytes

def decode? (bytes : List UInt8) : Option (List Char) :=
  match utf8? bytes with
  | some cs => some (dropMark cs)
  | none => decodeOther? bytes

def Content.ofBytes (bytes : List UInt8) : Content :=
  if isBinary bytes then .binary
  else
    match decode? bytes with
    | some cs => .text (String.ofList cs)
    | none => .undecodable

end Provenance.Text
