import Provenance.CodeUnit.Basic
import Provenance.Json.Fields
import Provenance.Json.Parser
import Provenance.Json.Printer
import Provenance.Time.Written

namespace Provenance

def optionalText (s : Option String) : Json := (s.map Json.str).getD .null

namespace Author

def toJson (a : Author) : Json :=
  .obj [("name", .str a.name), ("profile_url", optionalText a.profileUrl)]

def ofJson? (v : Json) : Option Author := do
  let r ← v.record? ["name", "profile_url"]
  return {
    name := ← r.required "name" Json.string?
    profileUrl := ← r.optional "profile_url" (Json.nullable? Json.string?) }

end Author

namespace Symbol

def toJson (s : Symbol) : Json :=
  .obj [("kind", .str s.kind), ("line", .ofNat s.line), ("column", .ofNat s.column)]

def ofJson? (v : Json) : Option Symbol := do
  let r ← v.record? ["kind", "line", "column"]
  return {
    kind := ← r.required "kind" Json.string?
    line := ← r.required "line" (Json.natBelow? 32)
    column := ← r.required "column" (Json.natBelow? 32) }

end Symbol

namespace Symbols

def toJson (s : Symbols) : Json :=
  .obj (s.toList.map fun (name, found) => (name, .arr (found.map Symbol.toJson)))

/-- A name given twice keeps its last symbols. -/
def ofJson? : Json → Option Symbols
  | .obj members => do
    let entries ← members.mapM fun (name, v) => do
      return (name, ← v.items? Symbol.ofJson?)
    return entries.foldl (fun m (name, found) => m.insert name found) ∅
  | _ => none

end Symbols

def Time.Instant.ofJson? (v : Json) : Option Time.Instant := v.string?.bind ofText?

namespace CodeUnit

def fieldNames : List String :=
  ["display_name", "source_text", "file_path", "authors", "canonical_url", "time_created",
    "time_last_modified", "rank", "symbols"]

def toJson (u : CodeUnit) : Json :=
  .obj [("display_name", .str u.displayName), ("source_text", .str u.sourceText),
    ("file_path", .str u.filePath), ("authors", .arr (u.authors.map Author.toJson)),
    ("canonical_url", optionalText u.canonicalUrl), ("time_created", .str u.created.toText),
    ("time_last_modified", .str u.modified.toText), ("rank", .ofFloat u.rank),
    ("symbols", u.symbols.toJson)]

def ofJson? (v : Json) : Option CodeUnit := do
  let r ← v.record? fieldNames
  return {
    displayName := ← r.required "display_name" Json.string?
    sourceText := ← r.required "source_text" Json.string?
    filePath := ← r.required "file_path" Json.string?
    authors := ← r.required "authors" (Json.items? Author.ofJson?)
    canonicalUrl := ← r.optional "canonical_url" (Json.nullable? Json.string?)
    created := ← r.required "time_created" Time.Instant.ofJson?
    modified := ← r.required "time_last_modified" Time.Instant.ofJson?
    rank := ← r.required "rank" Json.float?
    symbols := ← r.orDefault "symbols" Symbols.ofJson? ∅ }

def encode (u : CodeUnit) : String := u.toJson.render

def decode? (text : String) : Option CodeUnit := (Json.parse? text).bind ofJson?

end CodeUnit

end Provenance
