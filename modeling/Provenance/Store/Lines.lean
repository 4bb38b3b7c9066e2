import Provenance.CodeUnit.Format
import Provenance.Files.Path

namespace Provenance

inductive StoreError where
  | io (cause : IoError)
  | unencodable (detail : String)
  deriving DecidableEq, Repr, Inhabited

def StoreError.message : StoreError → String
  | io cause => "IO error: " ++ cause.message
  | unencodable detail => "Serialization error: " ++ detail

namespace Store

/-- The line of a unit: its stored form holds no line feed. -/
def line (u : CodeUnit) : ByteArray := (u.encode.push '\n').toUTF8

/-- Opens the file for units at a path, with the directories that lead to it. -/
def openLines (files : FileTree) (path : String) : Except (Broken StoreError) FileTree :=
  let opened : Except (Broken IoError) FileTree := do
    let place ← files.trying (FileTree.place path)
    let files ← files.makeDirectories place.dropLast
    files.trying (files.openPath path)
  match opened with
  | .ok files => .ok files
  | .error broken => .error ⟨.io broken.cause, broken.files⟩

def insertLine (files : FileTree) (path : String) (u : CodeUnit) : Except StoreError FileTree :=
  match files.append (Place.ofText path) (line u) with
  | .ok files => .ok files
  | .error e => .error (.io e)

end Store

end Provenance
