import Provenance.Text.Digits
import Provenance.Text.Split

namespace Provenance.Git

/-- What HEAD refers to: its file holds the name of a reference or the id of a commit. -/
inductive Head where
  | reference (name : String)
  | detached (id : String)
  | malformed
  deriving DecidableEq, Repr

namespace Head

def isBlankEnd (c : Char) : Bool := c = ' ' || (9 ≤ c.toNat && c.toNat ≤ 13)

/-- The characters that no name of a reference has, controls and the blank apart. -/
def forbidden : List Char := ['~', '^', ':', '\\', '?', '[', '*']

def hasForbiddenPair : List Char → Bool
  | a :: b :: r => (a = '.' && b = '.') || (a = '@' && b = '\x7b') || hasForbiddenPair (b :: r)
  | _ => false

/-- A part of a name between slashes. It is not empty, does not start with a point and does not end
like the name of a lock. -/
def isSegment (s : List Char) : Bool :=
  !s.isEmpty && s.head? ≠ some '.' && s.all (fun c => 32 < c.toNat && !forbidden.contains c) &&
    !hasForbiddenPair s && !".lock".toList.isSuffixOf s

/-- Names such as HEAD, which stand alone. -/
def isCapitals (s : List Char) : Bool :=
  s.all (fun c => ('A' ≤ c && c ≤ 'Z') || c = '_') && s.head? ≠ some '_' && s.getLast? ≠ some '_'

def longestName : Nat := 1023

/-- The name of a reference in its normal form, where repeated slashes count as one. It is capitals
without a slash, or segments of which the first one is not capitals. -/
def referenceName? (name : List Char) : Option String :=
  let segments := (Text.splitAt '/' name).filter (!·.isEmpty)
  let valid := match segments with
    | [s] => isSegment s && isCapitals s
    | first :: rest => (first :: rest).all isSegment && !isCapitals first
    | [] => false
  let normal := "/".intercalate (segments.map String.ofList)
  if valid && name.head? ≠ some '/' && name.getLast? ≠ some '/' && name.getLast? ≠ some '.' &&
      normal.utf8ByteSize ≤ longestName then some normal
  else none

def idLength : Nat := 40

/-- Reads the file. A zero byte ends what it holds, and a reference that is HEAD itself leads nowhere. -/
def ofText (content : List Char) : Head :=
  if "ref: ".toList.isPrefixOf content then
    let name := ((Text.trimEnd isBlankEnd content).drop 5).takeWhile (· ≠ '\x00')
    match referenceName? name with
    | some name => if name = "HEAD" then malformed else reference name
    | none => malformed
  else
    let content := content.takeWhile (· ≠ '\x00')
    let id := content.take idLength
    if id.length = idLength && id.all Text.isHexDigit && ((content.drop idLength).head?.all isBlankEnd) then
      detached (String.ofList (id.map Char.toLower))
    else malformed

def branchName? (reference : String) : Option String :=
  let start := "refs/heads/".toList
  if start.isPrefixOf reference.toList then some (String.ofList (reference.toList.drop start.length))
  else none

end Head

end Provenance.Git
