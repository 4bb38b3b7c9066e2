import Provenance.Git.Head
import Provenance.Git.Rename
import Provenance.History.Graph

namespace Provenance

namespace Git

/-- A commit as it is stored; the author's name is bytes as they stand before the address. -/
structure Revision where
  author : List UInt8
  time : Int
  parents : List CommitId
  tree : Tree

/-- What surrounds a name without belonging to it: blanks, controls, points, commas, colons,
semicolons, angle brackets, quotes and backslashes. -/
def isAroundName (b : UInt8) : Bool :=
  b ≤ 32 || [0x2E, 0x2C, 0x3A, 0x3B, 0x3C, 0x3E, 0x22, 0x27, 0x5C].contains b

def trimName (name : List UInt8) : List UInt8 := Text.trimEnds isAroundName name

/-- A line feed in the author's name breaks the commit, so that it cannot be read. -/
def Revision.isReadable (r : Revision) : Bool := !r.author.contains 0x0A

/-- The name of the author; it ends at a zero byte. -/
def Revision.authorName (r : Revision) : String :=
  String.ofList (Text.lossyUtf8 ((trimName r.author).takeWhile (· ≠ 0)))

def Revision.commit (r : Revision) (id : CommitId) : Commit where
  id
  author := r.authorName
  time := r.time
  parents := r.parents

/-- Commits with their trees, the contents of files, and what HEAD and the references lead to. An
object that is not there cannot be read. -/
structure Repository where
  commits : List (CommitId × Revision)
  blobs : Std.ExtTreeMap ObjectId (List UInt8)
  head : Head
  /-- The commit that each reference leads to, through a tag if need be. -/
  references : List (String × CommitId)

namespace Repository

def unreadable (what : String) : HistoryError := .unreadable ("cannot read " ++ what)

def revision (r : Repository) (id : CommitId) : Except HistoryError Revision :=
  match r.commits.lookup id with
  | none => .error (.missingCommit id)
  | some revision => if revision.isReadable then .ok revision else .error (unreadable id)

def directories : List String :=
  ["hooks", "info", "objects", "objects/info", "objects/pack", "refs", "refs/heads", "refs/tags"]

/-- The files of every repository that are named like references and hold none. -/
def plainFiles : List String := ["hooks/README.sample", "info/exclude"]

def longestFileName : Nat := 255

/-- Whether a reference cannot be looked for, because a segment of its name is too long for a file in
the directory before it. Where that directory is not there, the reference is just not there either. -/
def isOverlong (r : Repository) (directory : List Char) : List (List Char) → Bool
  | [] => false
  | segment :: rest =>
    longestFileName < (String.ofList segment).utf8ByteSize ||
      (let next := if directory = [] then segment else directory ++ '/' :: segment
       (directories.contains (String.ofList next) ||
          r.references.any fun (name, _) => (next ++ ['/']).isPrefixOf name.toList) &&
        r.isOverlong next rest)

/-- The commit that a reference leads to; `none` if there is no such reference. -/
def target (r : Repository) (name : String) : Except HistoryError (Option CommitId) :=
  if plainFiles.contains name || r.isOverlong [] (Text.splitAt '/' name.toList) then
    .error (unreadable name)
  else .ok (r.references.lookup name)

/-- The commit at HEAD; `none` as long as the reference that HEAD names has no commit. -/
def headCommit (r : Repository) : Except HistoryError (Option CommitId) :=
  let present (id : CommitId) : Except HistoryError (Option CommitId) :=
    if (r.revision id).isOk then .ok (some id) else .error (unreadable id)
  match r.head with
  | .malformed => .error (unreadable "HEAD")
  | .detached id => present id
  | .reference name =>
    match r.target name with
    | .error e => .error e
    | .ok none => .ok none
    | .ok (some id) => present id

def defaultBranch (r : Repository) : Option String :=
  match r.head with
  | .reference name => (r.references.lookup name).bind fun _ => Head.branchName? name
  | _ => none

def trackedFiles (r : Repository) (id : CommitId) : Except HistoryError (List TrackedFile) :=
  (r.revision id).map (·.tree.trackedFiles)

def content (r : Repository) (blob : ObjectId) : Except HistoryError (List UInt8) :=
  match r.blobs[blob]? with
  | none => .error (unreadable blob)
  | some bytes => .ok bytes

def pathText (p : RawPath) : Path := String.ofList (Text.lossyUtf8 p)

end Repository

def Delta.change : Delta → PathChange
  | added p _ => .added (Repository.pathText p)
  | modified p => .modified (Repository.pathText p)
  | deleted p _ => .deleted (Repository.pathText p)
  | renamed s t => .renamed (Repository.pathText s) (Repository.pathText t)

namespace Repository

/-- The changes from a parent to a commit, with renames; those of a root are all additions. -/
def changes (r : Repository) (parent : Option CommitId) (id : CommitId) :
    Except HistoryError (List PathChange) := do
  let new := (← r.revision id).tree.snapshot
  match parent with
  | none => return (Delta.between ∅ new).map Delta.change
  | some parent =>
    let old := (← r.revision parent).tree.snapshot
    match Delta.findRenames? (fun id => r.blobs[id]?) (Delta.between old new) with
    | none => .error (unreadable "a file")
    | some deltas => return deltas.map Delta.change

def commit (r : Repository) (id : CommitId) : Except HistoryError Commit :=
  (r.revision id).map (·.commit id)

theorem mem_ids_of_commit {r : Repository} {id : CommitId} {c : Commit} (h : r.commit id = .ok c) :
    id ∈ r.commits.map (·.1) := by
  unfold commit revision at h
  split at h
  · cases h
  · exact mem_map_of_lookup ‹_›

def history (r : Repository) : History where
  ids := r.commits.map (·.1)
  commit := r.commit
  changes := r.changes
  mem_ids := mem_ids_of_commit

end Repository

end Git

end Provenance
