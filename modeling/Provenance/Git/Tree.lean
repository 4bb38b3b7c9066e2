import Provenance.Git.Sha1
import Provenance.Text.Split
import Provenance.Text.Utf8

namespace Provenance.Git

/-- The name of a file's content or of a commit that a submodule stands at. -/
abbrev ObjectId := String

/-- A file's content is named by the digest of its length and its bytes. -/
def blobId (content : List UInt8) : ObjectId :=
  Sha1.digest (("blob " ++ toString content.length).toUTF8.toList ++ 0 :: content)

inductive Mode where
  | regular
  | executable
  /-- A symbolic link; its content is the text of its target. -/
  | link
  | submodule
  deriving DecidableEq, Repr

/-- An entry that is no directory. -/
structure Entry where
  mode : Mode
  id : ObjectId
  deriving DecidableEq, Repr

abbrev Name := List UInt8

abbrev RawPath := List UInt8

def slash : UInt8 := 0x2F

/-- The entries of a directory in order; a subdirectory stands where its name with a slash after it
belongs. Names are bytes and need not be text. -/
inductive Tree where
  | nil
  | entry (name : Name) (entry : Entry) (rest : Tree)
  | directory (name : Name) (children rest : Tree)
  deriving Repr

/-- A file of a commit with its path as text and the name of its content. -/
structure TrackedFile where
  path : String
  blob : ObjectId
  deriving DecidableEq, Repr

namespace Tree

def entries (root : RawPath) : Tree → List (RawPath × Entry)
  | nil => []
  | entry name e rest => (root ++ name, e) :: entries root rest
  | directory name children rest =>
    entries (root ++ name ++ [slash]) children ++ entries root rest

/-- The files below `root` in order, each before those after it in its directory, and whether the
walk gets past them: it ends at the first entry of a directory whose path is no text. Submodules are
no files. -/
def visit (root : RawPath) : Tree → List TrackedFile × Bool
  | nil => ([], true)
  | entry name e rest =>
    match Text.utf8? root with
    | none => ([], false)
    | some before =>
      let (files, more) := visit root rest
      if e.mode = .submodule then (files, more)
      else (⟨String.ofList (before ++ Text.lossyUtf8 name), e.id⟩ :: files, more)
  | directory name children rest =>
    match Text.utf8? root with
    | none => ([], false)
    | some _ =>
      let (inside, more) := visit (root ++ name ++ [slash]) children
      if more then
        let (after, more) := visit root rest
        (inside ++ after, more)
      else (inside, false)

def trackedFiles (t : Tree) : List TrackedFile := (t.visit []).1

/-- Enters an entry; one of the same name gives way to it. -/
def setEntry (name : Name) (e : Entry) : Tree → Tree
  | nil => entry name e nil
  | entry n x rest =>
    if n = name then entry name e rest
    else if name < n then entry name e (entry n x rest)
    else entry n x (setEntry name e rest)
  | directory n children rest =>
    if name < n ++ [slash] then entry name e (directory n children rest)
    else directory n children (setEntry name e rest)

/-- Changes the directory of a name; one that is missing starts out empty. -/
def updateDirectory (name : Name) (f : Tree → Tree) : Tree → Tree
  | nil => directory name (f nil) nil
  | entry n x rest =>
    if name ++ [slash] < n then directory name (f nil) (entry n x rest)
    else entry n x (updateDirectory name f rest)
  | directory n children rest =>
    if n = name then directory name (f children) rest
    else if name ++ [slash] < n ++ [slash] then directory name (f nil) (directory n children rest)
    else directory n children (updateDirectory name f rest)

/-- Enters an entry at the end of a way of names. -/
def insert (e : Entry) : List Name → Tree → Tree
  | [], t => t
  | [name], t => t.setEntry name e
  | name :: names, t => t.updateDirectory name (insert e names)

def namesOf (p : RawPath) : List Name := Text.splitAt slash p

def ofFiles (files : List (RawPath × Entry)) : Tree :=
  files.foldl (fun t (path, e) => insert e (namesOf path) t) nil

end Tree

end Provenance.Git
