import Provenance.Git.Repository

/-!
Building a repository commit by commit, for scripted runs. The program only reads repositories; the
clones of `Offline` start from the empty one.
-/

namespace Provenance.Git

/-- A file to commit: its path, its mode and its content. For a submodule the content only tells
different commits apart. -/
structure NewFile where
  path : RawPath
  mode : Mode := .regular
  content : List UInt8

namespace Repository

def empty (head : Head) : Repository := ⟨[], ∅, head, []⟩

def addCommit (r : Repository) (id : CommitId) (author : List UInt8) (time : Int)
    (parents : List CommitId) (files : List NewFile) : Repository :=
  let named := files.map fun f => (f, blobId f.content)
  let tree := Tree.ofFiles (named.map fun (f, blob) => (f.path, ⟨f.mode, blob⟩))
  { r with
    commits := r.commits ++ [(id, ⟨author, time, parents, tree⟩)]
    blobs := named.foldl (fun m (f, blob) =>
      if f.mode = .submodule then m else m.insert blob f.content) r.blobs }

def refer (r : Repository) (name : String) (id : CommitId) : Repository :=
  { r with references := (name, id) :: r.references }

/-- Takes a commit out of the store; what refers to it still does. -/
def loseCommit (r : Repository) (id : CommitId) : Repository :=
  { r with commits := r.commits.filter (·.1 ≠ id) }

def loseBlob (r : Repository) (content : List UInt8) : Repository :=
  { r with blobs := r.blobs.erase (blobId content) }

end Repository

end Provenance.Git
