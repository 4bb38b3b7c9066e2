import Provenance.Text.Digits
import Provenance.Text.Split

namespace Provenance.Http

abbrev Bytes := List UInt8

/-- Fields in the order they were received, names in lower case. -/
abbrev Headers := List (String × Bytes)

def isTokenChar (c : Char) : Bool :=
  c.isAlphanum || "!#$%&*+-.^_|~".toList.contains c || c.toNat = 39 || c.toNat = 96

def headerName? (name : String) : Option String :=
  if !name.isEmpty && name.all isTokenChar then some (name.map Char.toLower) else none

/-- Whether bytes can be a header value: a tab is the only control. -/
def isHeaderValue (v : Bytes) : Bool :=
  v.all fun b => b = 9 || (32 ≤ b && b ≠ 127)

/-- A header field, if name and value are allowed. Scripted responses are made of these; in the
program the network makes them. -/
def header? (name : String) (v : Bytes) : Option (String × Bytes) := do
  let name ← headerName? name
  if isHeaderValue v then some (name, v) else none

namespace Headers

def get? (h : Headers) (name : String) : Option Bytes := h.lookup name

/-- A value as text; only visible ASCII, blanks and tabs count as text. -/
def text? (h : Headers) (name : String) : Option (List Char) := do
  let v ← h.get? name
  if v.all fun b => b = 9 || (32 ≤ b && b < 127) then
    some (v.map fun b => Char.ofNat b.toNat)
  else none

end Headers

def bracketed? : List Char → Option (List Char)
  | '<' :: r => if r.getLast? = some '>' then some r.dropLast else none
  | _ => none

def relNext : List Char := "rel=\"next\"".toList

/-- The target of one link value if it is marked as the next page. -/
def nextTarget? (value : List Char) : Option (List Char) :=
  match Text.splitAt ';' value with
  | [] => none
  | target :: parameters => do
    let target ← bracketed? (Text.trimBlanks target)
    if parameters.any (Text.trimBlanks · = relNext) then some target else none

/-- The target of the first link value that is marked as the next page. -/
def nextLink? (h : Headers) : Option String := do
  let link ← h.text? "link"
  (Text.splitAt ',' link).findSome? fun value => (nextTarget? value).map String.ofList

/-- The 64-bit number with a sign that agrees with `i` modulo `2 ^ 64`. -/
def wrap64 (i : Int) : Int := i.bmod (Nat.pow 2 64)

/-- A request quota as a platform reports it. Times are Unix seconds in 64 bits with a sign. -/
structure Quota where
  remaining : Nat
  /-- When the quota is replenished. -/
  resetAt : Int
  deriving DecidableEq, Repr

def Quota.isExhausted (q : Quota) : Bool := q.remaining = 0

def headerNumber? (h : Headers) (name : String) : Option Nat :=
  (h.text? name).bind fun v => Decimal.unsigned? (Text.trimBlanks v)

/-- The quota of a response; both headers must hold numbers. -/
def Quota.ofHeaders? (h : Headers) : Option Quota := do
  let remaining ← headerNumber? h "x-ratelimit-remaining"
  let reset ← headerNumber? h "x-ratelimit-reset"
  return ⟨remaining, wrap64 reset⟩

end Provenance.Http
