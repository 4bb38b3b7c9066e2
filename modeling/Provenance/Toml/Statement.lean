import Provenance.Toml.Scalar
import Provenance.Toml.Tables

namespace Provenance.Toml

inductive Statement where
  /-- `[key]` -/
  | header (key : Key)
  /-- `[[key]]` -/
  | arrayHeader (key : Key)
  | assign (key : Key) (value : Toml)
  deriving Repr

mutual

/-- Reads a value; `depth` arrays and inline tables are open around it. -/
def readValue : Nat → (depth : Nat) → Reader Toml
  | 0, _, _ => none
  | n + 1, depth, cs =>
    match cs with
    | '[' :: r =>
      if depth + 1 < nestingLimit then (readItems n (depth + 1) r).map fun (vs, r) => (.arr vs, r)
      else none
    | '\x7b' :: r =>
      if depth + 1 < nestingLimit then
        match skipBlanks r with
        | '\x7d' :: r => some (.table [], r)
        | r =>
          match readFields n (depth + 1) [] r with
          | none => none
          | some (entries, r) => some (.table (Node.entryValues entries), r)
      else none
    | 't' :: 'r' :: 'u' :: 'e' :: r => some (.bool true, r)
    | 'f' :: 'a' :: 'l' :: 's' :: 'e' :: r => some (.bool false, r)
    | '"' :: _ => (readQuoted cs).map fun (s, r) => (.str s, r)
    | '\'' :: _ => (readQuoted cs).map fun (s, r) => (.str s, r)
    | 'i' :: _ => readSpecial cs
    | 'n' :: _ => readSpecial cs
    | _ => readNumber cs

/-- Reads the items of an array up to its bracket; a comma may follow the last. -/
def readItems : Nat → Nat → Reader (List Toml)
  | 0, _, _ => none
  | n + 1, depth, cs =>
    match skipLines cs.length cs with
    | ']' :: r => some ([], r)
    | r =>
      match readValue n depth r with
      | none => none
      | some (v, r) =>
        match skipLines r.length r with
        | ',' :: r => (readItems n depth r).map fun (vs, r) => (v :: vs, r)
        | ']' :: r => some ([v], r)
        | _ => none

/-- Reads the fields of an inline table up to its brace; there is at least one. -/
def readFields : Nat → Nat → Entries → Reader Entries
  | 0, _, _, _ => none
  | n + 1, depth, entries, cs =>
    match readKey cs with
    | none => none
    | some (key, r) =>
      match skipBlanks r with
      | '=' :: r =>
        match readValue n depth (skipBlanks r) with
        | none => none
        | some (v, r) =>
          match assignIn true entries key v with
          | none => none
          | some entries =>
            match skipBlanks r with
            | ',' :: r => readFields n depth entries r
            | '\x7d' :: r => some (entries, r)
            | _ => none
      | _ => none

end

/-- Reads a header or an assignment and the rest of its line. -/
def readStatement (cs : List Char) : Option (Statement × List Char) := do
  match cs with
  | '[' :: '[' :: r =>
    let (key, r) ← readKey r
    let r ← match r with
      | ']' :: ']' :: r => some r
      | _ => none
    return (.arrayHeader key, ← lineEnd? r)
  | '[' :: r =>
    let (key, r) ← readKey r
    return (.header key, ← lineEnd? (← expect ']' r))
  | _ =>
    let (key, r) ← readKey cs
    let r ← expect '=' (skipBlanks r)
    let (v, r) ← readValue (2 * r.length + 1) 0 (skipBlanks r)
    return (.assign key v, ← lineEnd? r)

/-- Reads all statements. A statement takes at least one character, which bounds their number. -/
def readStatements : Nat → List Char → Option (List Statement)
  | 0, _ => none
  | n + 1, cs =>
    match skipLines cs.length cs with
    | [] => some []
    | r =>
      match readStatement r with
      | none => none
      | some (s, r) => (readStatements n r).map (s :: ·)

/-- A document under construction and the table that assignments go to. -/
structure Builder where
  root : Entries
  current : Key

def Builder.apply (b : Builder) : Statement → Option Builder
  | .header key => (openTable b.root key).map (⟨·, key⟩)
  | .arrayHeader key => (openElement b.root key).map (⟨·, key⟩)
  | .assign key v => (modifyAt (assignIn true · key v) b.root b.current).map (⟨·, b.current⟩)

/-- Reads a document; a byte order mark may start it. -/
def parse? (text : String) : Option (List (String × Toml)) := do
  let cs := match text.toList with
    | '\ufeff' :: r => r
    | r => r
  let b ← (← readStatements (cs.length + 1) cs).foldlM Builder.apply ⟨[], []⟩
  return Node.entryValues b.root

end Provenance.Toml
