import Provenance.Text.Digits

namespace Provenance.Git.Sha1

structure State where
  a : UInt32
  b : UInt32
  c : UInt32
  d : UInt32
  e : UInt32
  deriving DecidableEq

def init : State := ⟨0x67452301, 0xEFCDAB89, 0x98BADCFE, 0x10325476, 0xC3D2E1F0⟩

def rotate (x n : UInt32) : UInt32 := (x <<< n) ||| (x >>> (32 - n))

/-- The words that bytes spell out, the high byte first. -/
def words : List UInt8 → List UInt32
  | a :: b :: c :: d :: r =>
    ((a.toUInt32 <<< 24) ||| (b.toUInt32 <<< 16) ||| (c.toUInt32 <<< 8) ||| d.toUInt32) :: words r
  | _ => []

/-- The low `n` bytes of a number, the high byte first. -/
def bytesOf : Nat → Nat → List UInt8
  | 0, _ => []
  | n + 1, x => (x / Nat.pow 256 n).toUInt8 :: bytesOf n x

/-- How many zero bytes fill a message up to a whole number of blocks. -/
def paddingZeros (size : Nat) : Nat := (119 - size % 64) % 64

/-- The message with a single one bit, zeros and its length in bits after it. -/
def pad (message : List UInt8) : List UInt8 :=
  message ++ 0x80 :: List.replicate (paddingZeros message.length) 0 ++ bytesOf 8 (8 * message.length)

/-- Puts `n` more words before those of a block, which are given with the last one first. -/
def extend : Nat → List UInt32 → List UInt32
  | 0, ws => ws
  | n + 1, ws =>
    let w (i : Nat) : UInt32 := ws.getD i 0
    extend n (rotate (w 2 ^^^ w 7 ^^^ w 13 ^^^ w 15) 1 :: ws)

/-- The eighty words that the rounds over a block take. -/
def schedule (block : List UInt8) : List UInt32 := (extend 64 (words block).reverse).reverse

/-- What the `i`-th round mixes in: a choice, a parity or a majority of three words, and a constant. -/
def mix (i : Nat) (b c d : UInt32) : UInt32 :=
  if i < 20 then ((b &&& c) ||| (~~~b &&& d)) + 0x5A827999
  else if i < 40 then (b ^^^ c ^^^ d) + 0x6ED9EBA1
  else if i < 60 then ((b &&& c) ||| (b &&& d) ||| (c &&& d)) + 0x8F1BBCDC
  else (b ^^^ c ^^^ d) + 0xCA62C1D6

def round (s : State) (word : UInt32 × Nat) : State :=
  ⟨rotate s.a 5 + mix word.2 s.b s.c s.d + s.e + word.1, s.a, rotate s.b 30, s.c, s.d⟩

def compress (s : State) (block : List UInt8) : State :=
  let t := (schedule block).zipIdx.foldl round s
  ⟨s.a + t.a, s.b + t.b, s.c + t.c, s.d + t.d, s.e + t.e⟩

def blocks : Nat → List UInt8 → State → State
  | 0, _, s => s
  | n + 1, bytes, s => blocks n (bytes.drop 64) (compress s (bytes.take 64))

def digest (message : List UInt8) : String :=
  let padded := pad message
  let s := blocks (padded.length / 64) padded init
  String.ofList ([s.a, s.b, s.c, s.d, s.e].flatMap fun w => Text.hexDigits 8 w.toNat)

end Provenance.Git.Sha1
