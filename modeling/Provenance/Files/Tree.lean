import Std.Data.ExtTreeMap
import Provenance.Files.Error

/-!
Trees of files and directories. A tree maps the place of an entry to the entry; the top directory is
always there and has no entry. Trees are equal if they hold the same entries, so that an operation
leaves no trace exactly if its result equals the tree before it.
-/

namespace Provenance

/-- The names on the way from the top to an entry. -/
abbrev Place := List String

/-- The place that a path text leads to; repeated slashes count as one. -/
def Place.ofText (path : String) : Place :=
  go [] path.toList
where
  name (reversed : List Char) : Place :=
    if reversed = [] ∨ reversed = ['.'] then [] else [String.ofList reversed.reverse]
  go (reversed : List Char) : List Char → Place
    | [] => name reversed
    | c :: r => if c = '/' then name reversed ++ go [] r else go (c :: reversed) r

inductive FileEntry where
  | file (content : ByteArray)
  | directory
  /-- A symbolic link. -/
  | link (target : Place)

abbrev FileTree := Std.ExtTreeMap Place FileEntry

/-- How an operation on files broke off. -/
structure Broken (ε : Type) where
  cause : ε
  /-- The files that it leaves, with what it had done by then. -/
  files : FileTree

namespace Place

/-- The system takes no path with a zero byte. -/
def hasZero (p : Place) : Bool := p.any fun name => name.any (· = '\x00')

/-- The bytes of the path, with a slash before each name. -/
def size : Place → Nat
  | [] => 0
  | name :: names => name.utf8ByteSize + 1 + size names

end Place

namespace FileTree

def longestPath : Nat := 4095

def longestName : Nat := 255

/-- How many links are followed on the way to one entry. -/
def mostLinks : Nat := 40

/-- The entry at a place; the top is a directory. -/
def entry? (t : FileTree) (p : Place) : Option FileEntry :=
  if p = [] then some .directory else t[p]?

/-- Goes from a directory to another one by names, through at most `links` links; `..` leads up, and
nothing is above the top. -/
def enter (t : FileTree) (links : Nat) (p : Place) : List String → Except IoError Place
  | [] => .ok p
  | name :: names =>
    if name = ".." then t.enter links p.dropLast names
    else if longestName < name.utf8ByteSize then .error .nameTooLong
    else
      match t[p ++ [name]]? with
      | none => .error .notFound
      | some (.file _) => .error .notDirectory
      | some .directory => t.enter links (p ++ [name]) names
      | some (.link target) =>
        match links with
        | 0 => .error .tooManyLinks
        | links + 1 => t.enter links [] (target ++ names)
termination_by names => (links, names.length)

/-- Where the entry of a place is, or would be: all names before its last are followed. -/
def locate (t : FileTree) (p : Place) : Except IoError Place :=
  if p.hasZero then .error .zeroInPath
  else
    match p.getLast? with
    | none => .ok []
    | some name => do
      let directory ← t.enter mostLinks [] p.dropLast
      if name = ".." then return directory.dropLast
      else if longestName < name.utf8ByteSize then throw .nameTooLong
      else return directory ++ [name]

/-- Like `locate`, but a link at the end is followed as well, through at most `n` links. -/
def follow (t : FileTree) : Nat → Place → Except IoError Place
  | 0, _ => .error .tooManyLinks
  | n + 1, p => do
    let q ← t.locate p
    match t.entry? q with
    | some (.link target) => t.follow n target
    | _ => return q

def lookup (t : FileTree) (p : Place) : Except IoError FileEntry := do
  match t.entry? (← t.follow mostLinks p) with
  | some e => return e
  | none => throw .notFound

def isDirectory (t : FileTree) (p : Place) : Bool :=
  match t.lookup p with
  | .ok .directory => true
  | _ => false

def exists? (t : FileTree) (p : Place) : Bool := (t.lookup p).isOk

def read (t : FileTree) (p : Place) : Except IoError ByteArray := do
  match ← t.lookup p with
  | .file content => return content
  | _ => throw .isDirectory

def makeDirectory (t : FileTree) (p : Place) : Except IoError FileTree :=
  if p.hasZero then .error .zeroInPath
  else if longestPath < p.size then .error .nameTooLong
  else
    match t.locate p with
    | .error e => .error e
    | .ok q => if (t.entry? q).isSome then .error .alreadyExists else .ok (t.insert q .directory)

/-- What is tried on the tree leaves it as it is if it fails. -/
def trying {α : Type} (t : FileTree) : Except IoError α → Except (Broken IoError) α
  | .ok a => .ok a
  | .error e => .error ⟨e, t⟩

/-- Makes a directory and all that lead to it, unless they are there. If it cannot be made, those on
the way that could be stay. -/
def makeDirectories (t : FileTree) (p : Place) : Except (Broken IoError) FileTree :=
  match t.makeDirectory p with
  | .ok t => .ok t
  | .error e =>
    if e = .notFound ∧ p ≠ [] then
      match t.makeDirectories p.dropLast with
      | .error broken => .error broken
      | .ok t =>
        match t.makeDirectory p with
        | .ok t => .ok t
        | .error e => if t.isDirectory p then .ok t else .error ⟨e, t⟩
    else if t.isDirectory p then .ok t
    else .error ⟨e, t⟩
termination_by p.length
decreasing_by
  rename_i h
  have := List.length_pos_iff.2 h.2
  simp only [List.length_dropLast]
  omega

/-- Opens a file to write at its end; makes it if nothing is there. -/
def openFile (t : FileTree) (p : Place) : Except IoError FileTree := do
  let q ← t.follow mostLinks p
  match t.entry? q with
  | some (.file _) => return t
  | some _ => throw .isDirectory
  | none => return t.insert q (.file ByteArray.empty)

def append (t : FileTree) (p : Place) (bytes : ByteArray) : Except IoError FileTree := do
  let content ← t.read p
  return t.insert (← t.follow mostLinks p) (.file (content ++ bytes))

def write (t : FileTree) (p : Place) (bytes : ByteArray) : Except IoError FileTree := do
  let t ← t.openFile p
  return t.insert (← t.follow mostLinks p) (.file bytes)

def withDirectory (t : FileTree) (p : Place) : FileTree := (t.makeDirectories p).toOption.getD t

def withFile (t : FileTree) (p : Place) (content : ByteArray) : FileTree :=
  let t := t.withDirectory p.dropLast
  (t.write p content).toOption.getD t

/-- Removes an entry and all below it; a link is removed without its target. -/
def removeAll (t : FileTree) (p : Place) : FileTree := t.filter fun q _ => !p.isPrefixOf q

def names (t : FileTree) (p : Place) : List String :=
  t.keys.filterMap fun q => if q.dropLast = p then q.getLast? else none

end FileTree

end Provenance
