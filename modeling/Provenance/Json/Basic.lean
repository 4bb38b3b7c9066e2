namespace Provenance

/-- A JSON number: an integer of at most 64 bits or a double. -/
inductive Json.Number where
  | int (i : Int)
  | float (x : Float)
  deriving Repr, Inhabited

/-- JSON values. Members keep their order and their duplicates; whoever reads an object decides what
a repeated name means. -/
inductive Json where
  | null
  | bool (b : Bool)
  | num (n : Json.Number)
  | str (s : String)
  | arr (items : List Json)
  | obj (members : List (String × Json))
  /-- What can be passed over but not read: a number beyond all doubles, a string that is no text, or
  an object with such a name. -/
  | unreadable
  deriving Repr, Inhabited

namespace Json

def ofNat (n : Nat) : Json := num (.int n)

def ofInt (i : Int) : Json := num (.int i)

def ofFloat (x : Float) : Json := num (.float x)

/-- The value of the first member of that name. Scripts of runs are read with it; the program reads
records. -/
def member? (v : Json) (name : String) : Option Json :=
  match v with
  | obj members => members.lookup name
  | _ => none

mutual

def depth : Json → Nat
  | arr items => depthItems items + 1
  | obj members => depthMembers members + 1
  | _ => 0

def depthItems : List Json → Nat
  | [] => 0
  | v :: vs => max (depth v) (depthItems vs)

def depthMembers : List (String × Json) → Nat
  | [] => 0
  | (_, v) :: vs => max (depth v) (depthMembers vs)

end

mutual

def isReadable : Json → Bool
  | unreadable => false
  | arr items => areReadable items
  | obj members => membersReadable members
  | _ => true

def areReadable : List Json → Bool
  | [] => true
  | v :: vs => isReadable v && areReadable vs

def membersReadable : List (String × Json) → Bool
  | [] => true
  | (_, v) :: vs => isReadable v && membersReadable vs

end

end Json

end Provenance
