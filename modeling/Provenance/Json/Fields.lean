import Provenance.Json.Basic
import Provenance.Record

namespace Provenance.Json

def string? : Json → Option String
  | str s => some s
  | _ => none

def bool? : Json → Option Bool
  | bool b => some b
  | _ => none

def float? : Json → Option Float
  | num (.int i) => some (if i < 0 then -(i.natAbs.toUInt64.toFloat) else i.natAbs.toUInt64.toFloat)
  | num (.float x) => some x
  | _ => none

def natBelow? (bits : Nat) : Json → Option Nat
  | num (.int i) => if 0 ≤ i ∧ i < Nat.pow 2 bits then some i.toNat else none
  | _ => none

/-- A value of its own type, or `null` for none. -/
def nullable? {β : Type} (decode : Json → Option β) : Json → Option (Option β)
  | null => some none
  | v => (decode v).map some

def items? {β : Type} (decode : Json → Option β) : Json → Option (List β)
  | arr vs => vs.mapM decode
  | _ => none

/-- The fields of a record that has these names, in this order. -/
def record? (names : List String) : Json → Option (Record Json)
  | obj members => Record.ofMembers? names members
  | arr items => Record.ofItems? names items
  | _ => none

end Provenance.Json
