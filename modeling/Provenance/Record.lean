namespace Provenance

/-- The fields found in a value, in the order of the record's declaration. By name, fields nobody
asks for are ignored and none may be given twice; by position, none may be left over. -/
structure Record (α : Type) where
  byPosition : Bool
  fields : List (String × α)

namespace Record

variable {α : Type}

def ofMembers? (names : List String) (members : List (String × α)) : Option (Record α) :=
  let known := members.filter fun (name, _) => names.contains name
  if (known.map (·.1)).Nodup then some ⟨false, known⟩ else none

def ofItems? (names : List String) (items : List α) : Option (Record α) :=
  if items.length ≤ names.length then some ⟨true, names.zip items⟩ else none

def get? (r : Record α) (name : String) : Option α := r.fields.lookup name

def required {β : Type} (r : Record α) (name : String) (decode : α → Option β) : Option β :=
  (r.get? name).bind decode

/-- A field that takes a default when it is missing. -/
def orDefault {β : Type} (r : Record α) (name : String) (decode : α → Option β) (default : β) :
    Option β :=
  match r.get? name with
  | none => some default
  | some v => decode v

/-- A field that may be missing, but not from a record given by position. -/
def optional {β : Type} (r : Record α) (name : String) (decode : α → Option (Option β)) :
    Option (Option β) :=
  match r.get? name with
  | none => if r.byPosition then none else some none
  | some v => decode v

end Record

end Provenance
