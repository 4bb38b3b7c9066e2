namespace Provenance

abbrev CommitId := String

abbrev Path := String

/-- A commit without its changes; `time` is in Unix seconds. -/
structure Commit where
  id : CommitId
  author : String
  time : Int
  parents : List CommitId
  deriving DecidableEq, Repr, Inhabited

/-- One entry of the change list that turns a parent's files into its child's. -/
inductive PathChange where
  | added (path : Path)
  | modified (path : Path)
  | deleted (path : Path)
  | renamed (source target : Path)
  deriving DecidableEq, Repr, Inhabited

namespace PathChange

/-- The changed path as the child knows it; a deleted path has none. -/
def childPath? : PathChange → Option Path
  | added p => some p
  | modified p => some p
  | deleted _ => none
  | renamed _ t => some t

def isAdded : PathChange → Bool
  | added _ => true
  | _ => false

/-- The rename source, the only path a change brings in that the child does not have. -/
def source? : PathChange → Option Path
  | renamed s _ => some s
  | _ => none

end PathChange

inductive HistoryError where
  | unreadable (detail : String)
  | missingCommit (id : CommitId)
  | cancelled
  deriving DecidableEq, Repr, Inhabited

def HistoryError.message : HistoryError → String
  | unreadable detail => "Git error: " ++ detail
  | missingCommit id => "Commit not found: " ++ id
  | cancelled => "History walk cancelled"

theorem mem_map_of_lookup {α β : Type} [BEq α] [LawfulBEq α] {l : List (α × β)} {k : α} {v : β}
    (h : l.lookup k = some v) : k ∈ l.map (·.1) := by
  induction l with
  | nil => cases h
  | cons p l ih =>
    obtain ⟨a, b⟩ := p
    rw [List.lookup_cons] at h
    split at h
    · rename_i same
      simp [eq_of_beq same]
    · exact List.mem_cons_of_mem _ (ih h)

/-- Read access to a finite commit graph. Every commit that can be looked up is listed in `ids`;
any lookup may fail. A root is compared with the empty tree, so its `parent` is `none`. -/
structure History where
  ids : List CommitId
  commit : CommitId → Except HistoryError Commit
  changes : (parent : Option CommitId) → CommitId → Except HistoryError (List PathChange)
  mem_ids : ∀ {id c}, commit id = .ok c → id ∈ ids

namespace History

/-- The change lists of a commit, one for each parent, in the order of the parents. -/
def changeSources (c : Commit) : List (Option CommitId) :=
  if c.parents.isEmpty then [none] else c.parents.map some

def renameSources (h : History) : List Path :=
  h.ids.flatMap fun id =>
    match h.commit id with
    | .error _ => []
    | .ok c => (changeSources c).flatMap fun parent =>
      match h.changes parent id with
      | .error _ => []
      | .ok changes => changes.filterMap PathChange.source?

def maxParents (h : History) : Nat :=
  h.ids.foldl (fun n id =>
    match h.commit id with
    | .error _ => n
    | .ok c => max n c.parents.length) 0

end History

end Provenance
