import Provenance.Files.Tree

namespace Provenance

namespace FileTree

/-- How a path text ends. One that ends in a slash or in a point stands for a directory, so no file
can be opened by it. -/
inductive PathEnd where
  | name
  | slash
  | point
  deriving DecidableEq, Repr

def PathEnd.ofText (path : String) : PathEnd :=
  let reversed := path.toList.reverse
  let last := (reversed.dropWhile (· = '/')).takeWhile (· ≠ '/')
  if last = ['.'] then .point else if reversed.head? = some '/' then .slash else .name

/-- The place that a path text leads to, if the system takes the text at all. -/
def place (path : String) : Except IoError Place :=
  if path.isEmpty then .error .notFound
  else if path.any (· = '\x00') then .error .zeroInPath
  else if longestPath < path.utf8ByteSize then .error .nameTooLong
  else .ok (Place.ofText path)

/-- Opens the file at a path to write at its end; makes it if nothing is there. -/
def openPath (t : FileTree) (path : String) : Except IoError FileTree := do
  let p ← place path
  match PathEnd.ofText path with
  | .name => t.openFile p
  | .slash =>
    let _ ← t.enter mostLinks [] p.dropLast
    throw .isDirectory
  | .point =>
    let _ ← t.enter mostLinks [] p
    throw .isDirectory

def readPath (t : FileTree) (path : String) : Except IoError ByteArray := do
  let p ← place path
  match PathEnd.ofText path with
  | .name => t.read p
  | _ =>
    let _ ← t.enter mostLinks [] p
    throw .isDirectory

end FileTree

end Provenance
