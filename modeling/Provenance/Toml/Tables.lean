import Provenance.Toml.Key

namespace Provenance.Toml

/-- An entry of a table under construction. A table that only came up on the way to a longer key is
`implicit`; it is `dotted` if that key was one of an assignment. -/
inductive Node where
  | value (v : Toml)
  | table (implicit dotted : Bool) (entries : List (String × Node))
  | tables (elements : List (List (String × Node)))
  deriving Inhabited

abbrev Entries := List (String × Node)

def setEntry (entries : Entries) (name : String) (node : Node) : Entries :=
  entries.map fun (k, v) => if k = name then (k, node) else (k, v)

/-- Adds a value. `extensible` tells whether an assignment may add to this table; the tables that a
dotted key makes are, those of headers are not. -/
def assignIn (extensible : Bool) (entries : Entries) : Key → Toml → Option Entries
  | [], _ => none
  | [name], v =>
    if extensible && (entries.lookup name).isNone then some (entries ++ [(name, .value v)]) else none
  | name :: part :: rest, v =>
    match entries.lookup name with
    | none =>
      (assignIn true [] (part :: rest) v).map fun es => entries ++ [(name, .table true true es)]
    | some (.table implicit dotted es) =>
      if implicit then
        (assignIn dotted es (part :: rest) v).map fun es =>
          setEntry entries name (.table implicit dotted es)
      else none
    | some (.tables elements) =>
      match elements.getLast? with
      | none => none
      | some es =>
        (assignIn false es (part :: rest) v).map fun es =>
          setEntry entries name (.tables (elements.dropLast ++ [es]))
    | some (.value _) => none

/-- Changes the table of a key; of an array of tables that is the last element. Tables missing on
the way are made. -/
def modifyAt (f : Entries → Option Entries) (entries : Entries) : Key → Option Entries
  | [] => f entries
  | name :: rest =>
    match entries.lookup name with
    | none => (modifyAt f [] rest).map fun es => entries ++ [(name, .table true false es)]
    | some (.table implicit dotted es) =>
      (modifyAt f es rest).map fun es => setEntry entries name (.table implicit dotted es)
    | some (.tables elements) =>
      match elements.getLast? with
      | none => none
      | some es =>
        (modifyAt f es rest).map fun es =>
          setEntry entries name (.tables (elements.dropLast ++ [es]))
    | some (.value _) => none

/-- Defines the table of a header, which may have come up before but not been defined. -/
def openTable (root : Entries) (key : Key) : Option Entries :=
  let name := key.getLastD ""
  modifyAt (fun entries =>
    match entries.lookup name with
    | none => some (entries ++ [(name, .table false false [])])
    | some (.table true false es) => some (setEntry entries name (.table false false es))
    | some _ => none) root key.dropLast

/-- Adds an element to the array of tables of a header. -/
def openElement (root : Entries) (key : Key) : Option Entries :=
  let name := key.getLastD ""
  modifyAt (fun entries =>
    match entries.lookup name with
    | none => some (entries ++ [(name, .tables [[]])])
    | some (.tables elements) => some (setEntry entries name (.tables (elements ++ [[]])))
    | some _ => none) root key.dropLast

namespace Node

mutual

def toValue : Node → Toml
  | value v => v
  | table _ _ entries => .table (entryValues entries)
  | tables elements => .arr (elementValues elements)

def entryValues : List (String × Node) → List (String × Toml)
  | [] => []
  | (name, node) :: rest => (name, toValue node) :: entryValues rest

def elementValues : List (List (String × Node)) → List Toml
  | [] => []
  | entries :: rest => .table (entryValues entries) :: elementValues rest

end

end Node

end Provenance.Toml
