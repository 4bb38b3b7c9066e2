import Mathlib.Data.List.TakeWhile
import Provenance.Git.Repository
import Provenance.Proofs.Text.Utf8

namespace Provenance.Git

open Text (IsText utf8? bytes)

/-- The file that an entry is, under its path; submodules are none. -/
def Entry.file? (e : Entry) (path : RawPath) : Option TrackedFile :=
  if e.mode = .submodule then none else some ⟨Repository.pathText path, e.id⟩

/-- What stands in a directory under a name: an entry, or a directory again. -/
structure Node where
  /-- The path of the directory with a slash after it. -/
  directory : RawPath
  name : Name
  entry? : Option Entry

namespace Node

def entryAt? (n : Node) : Option (RawPath × Entry) := n.entry?.map (n.directory ++ n.name, ·)

def file? (n : Node) : Option TrackedFile := n.entry?.bind (·.file? (n.directory ++ n.name))

def isLegible (n : Node) : Bool := (utf8? n.directory).isSome

private theorem isLegible_iff {n : Node} : n.isLegible = true ↔ IsText n.directory :=
  Text.isSome_utf8?_iff

end Node

namespace Tree

/-- Everything below a root, a directory before what stands in it. -/
def nodes (root : RawPath) : Tree → List Node
  | nil => []
  | entry name e rest => ⟨root, name, some e⟩ :: nodes root rest
  | directory name children rest =>
    ⟨root, name, none⟩ :: (nodes (root ++ name ++ [slash]) children ++ nodes root rest)

/-- The files of a tree: one for each entry that is no submodule, in order. -/
def files (t : Tree) : List TrackedFile := (t.entries []).filterMap fun (path, e) => e.file? path

variable {t : Tree} {root : RawPath}

private theorem filterMap_nodes (t : Tree) (root : RawPath) :
    (t.nodes root).filterMap Node.entryAt? = t.entries root := by
  induction t generalizing root with
  | nil => rfl
  | entry name e rest ih =>
    rw [nodes, List.filterMap_cons, ih, entries]
    rfl
  | directory name children rest ih_children ih =>
    rw [nodes, List.filterMap_cons_none rfl, List.filterMap_append, ih_children, ih, entries]

private theorem files_eq (t : Tree) : t.files = (t.nodes []).filterMap Node.file? := by
  rw [files, ← filterMap_nodes, List.filterMap_filterMap]
  congr 1
  funext n
  cases entry : n.entry? <;> simp [Node.entryAt?, Node.file?, entry]

/-- Below a directory whose path is a text, a file has that text and its name for a path. -/
theorem pathText_append {before : List Char} (text : utf8? root = some before) (name : Name) :
    Repository.pathText (root ++ name) = String.ofList (before ++ Text.lossyUtf8 name) := by
  obtain rfl := Text.utf8?_eq_some_iff.1 text
  rw [Repository.pathText, Text.lossyUtf8_bytes_append, String.toList_ofList]

private theorem takeWhile_append_of_all_eq_false {α : Type} {p : α → Bool} {l r : List α}
    (part : l.all p = false) : (l ++ r).takeWhile p = l.takeWhile p := by
  rw [List.takeWhile_append, if_neg]
  intro same
  have all := List.takeWhile_eq_self_iff.1 ((List.takeWhile_prefix p).eq_of_length same)
  rw [List.all_eq_true.2 all] at part
  cases part

/-- A walk gets as far as the paths of the directories are texts. -/
theorem visit_eq (t : Tree) (root : RawPath) :
    t.visit root = (((t.nodes root).takeWhile Node.isLegible).filterMap Node.file?,
      (t.nodes root).all Node.isLegible) := by
  induction t generalizing root with
  | nil => rfl
  | entry name e rest ih =>
    rw [visit, nodes]
    cases text : utf8? root with
    | none => simp [Node.isLegible, text]
    | some before =>
      have legible : Node.isLegible ⟨root, name, some e⟩ = true := by simp [Node.isLegible, text]
      have path := pathText_append text name
      rw [List.takeWhile_cons_of_pos legible, List.all_cons, legible, Bool.true_and]
      simp only [ih]
      by_cases sub : e.mode = .submodule <;> simp [Node.file?, Entry.file?, sub, path]
  | directory name children rest ih_children ih =>
    rw [visit, nodes]
    cases text : utf8? root with
    | none => simp [Node.isLegible, text]
    | some before =>
      have legible : Node.isLegible ⟨root, name, none⟩ = true := by simp [Node.isLegible, text]
      rw [List.takeWhile_cons_of_pos legible, List.all_cons, legible, Bool.true_and,
        List.filterMap_cons_none rfl, List.all_append]
      simp only [ih_children, ih]
      cases whole : (children.nodes (root ++ name ++ [slash])).all Node.isLegible with
      | true =>
        have all := List.all_eq_true.1 whole
        rw [List.takeWhile_append_of_pos all, List.takeWhile_eq_self_iff.2 all]
        simp
      | false =>
        rw [takeWhile_append_of_all_eq_false whole]
        simp

private theorem trackedFiles_eq (t : Tree) :
    t.trackedFiles = ((t.nodes []).takeWhile Node.isLegible).filterMap Node.file? := by
  rw [trackedFiles, visit_eq]

/-- The files that a walk does not get to. -/
def lost (t : Tree) : List TrackedFile :=
  ((t.nodes []).dropWhile Node.isLegible).filterMap Node.file?

theorem trackedFiles_append_lost (t : Tree) : t.trackedFiles ++ t.lost = t.files := by
  rw [trackedFiles_eq, lost, ← List.filterMap_append, List.takeWhile_append_dropWhile, files_eq]

theorem lost_eq_nil_iff : t.lost = [] ↔ ∀ before node after, t.nodes [] = before ++ node :: after →
    ¬ IsText node.directory → ∀ n ∈ node :: after, n.file? = none := by
  rw [lost, List.filterMap_eq_nil_iff]
  constructor
  · intro none_lost before node after split illegible n mem
    have stops : ¬ node.isLegible = true := fun legible => illegible (Node.isLegible_iff.1 legible)
    refine none_lost n ?_
    rw [split, List.dropWhile_append]
    split
    · rwa [List.dropWhile_cons_of_neg stops]
    · exact List.mem_append_right _ mem
  · intro none_after n mem
    have whole : (t.nodes []).takeWhile Node.isLegible ++ (t.nodes []).dropWhile Node.isLegible =
        t.nodes [] := List.takeWhile_append_dropWhile
    have stops := List.head?_dropWhile_not Node.isLegible (t.nodes [])
    cases rest : (t.nodes []).dropWhile Node.isLegible with
    | nil => simp [rest] at mem
    | cons node after =>
      rw [rest] at mem whole stops
      have illegible : ¬ IsText node.directory := by
        rw [← Node.isLegible_iff, Bool.not_eq_true]
        exact stops
      exact none_after _ node after whole.symm illegible n mem

end Tree

namespace Repository

variable {r : Repository} {id : CommitId} {revision : Revision}

/-- The files of a commit that can be read are those of its tree in order, each with the name of its
own content, up to the first thing that stands in a directory whose path is no text. They are all of
them exactly if no file stands there or after it. The names of the files need not be texts. -/
theorem trackedFiles_complete_iff (found : r.revision id = .ok revision) :
    ∃ files, r.trackedFiles id = .ok files ∧ files ++ revision.tree.lost = revision.tree.files ∧
      (files = revision.tree.files ↔
        ∀ before node after, revision.tree.nodes [] = before ++ node :: after →
          ¬ IsText node.directory → ∀ n ∈ node :: after, n.file? = none) := by
  refine ⟨revision.tree.trackedFiles, ?_, revision.tree.trackedFiles_append_lost, ?_⟩
  · rw [trackedFiles, found]
    rfl
  · rw [← Tree.lost_eq_nil_iff, ← revision.tree.trackedFiles_append_lost]
    exact List.self_eq_append_right

end Repository

/-- A file whose name is no text, a link in a directory, and a directory whose name is no text but
which holds only a submodule. -/
def Tree.stray : Tree :=
  .entry [0x63, 0x61, 0x66, 0xE9] ⟨.regular, "b1"⟩
    (.directory [0x64] (.entry [0x6C] ⟨.link, "b2"⟩ .nil)
      (.directory [0x64, 0xFF] (.entry [0x73] ⟨.submodule, "c1"⟩ .nil) .nil))

/-- A file in a directory whose name is no text, and one after it. -/
def Tree.illegible : Tree :=
  .directory [0x64, 0xFF] (.entry [0x78] ⟨.regular, "b1"⟩ .nil)
    (.entry [0x65] ⟨.regular, "b2"⟩ .nil)

namespace Repository

def single (t : Tree) : Repository := ⟨[("c", ⟨[0x41], 100, [], t⟩)], ∅, .detached "c", []⟩

/-- Nothing is lost where only a submodule stands in a directory whose name is no text. -/
theorem trackedFiles_complete_iff_stray :
    (single .stray).revision "c" = .ok ⟨[0x41], 100, [], .stray⟩ ∧
      (single .stray).trackedFiles "c" = .ok [⟨"caf\uFFFD", "b1"⟩, ⟨"d/l", "b2"⟩] := by
  have read : (single .stray).revision "c" = .ok ⟨[0x41], 100, [], .stray⟩ := rfl
  obtain ⟨files, found, -, complete⟩ := trackedFiles_complete_iff read
  have all : Tree.stray.files = [⟨"caf\uFFFD", "b1"⟩, ⟨"d/l", "b2"⟩] := by decide +kernel
  have none_lost := complete.2 (Tree.lost_eq_nil_iff.1 (by decide +kernel))
  exact ⟨read, found.trans (congrArg Except.ok (none_lost.trans all))⟩

/-- The files of a commit are not always all those of its tree: that in a directory whose name is no
text is lost, and so is every one after it. -/
theorem trackedFiles_stops_at_illegible :
    (single .illegible).trackedFiles "c" = .ok [] ∧
      Tree.illegible.files = [⟨"d\uFFFD/x", "b1"⟩, ⟨"e", "b2"⟩] ∧
      ¬ ∀ (r : Repository) (id : CommitId) (revision : Revision), r.revision id = .ok revision →
        r.trackedFiles id = .ok revision.tree.files := by
  have nothing : (single .illegible).trackedFiles "c" = .ok [] := by
    have stops : Tree.illegible.trackedFiles = [] := by decide +kernel
    exact congrArg Except.ok stops
  have all : Tree.illegible.files = [⟨"d\uFFFD/x", "b1"⟩, ⟨"e", "b2"⟩] := by decide +kernel
  refine ⟨nothing, all, fun complete => ?_⟩
  have found := complete (single .illegible) "c" _ rfl
  rw [nothing] at found
  have empty : Tree.illegible.files = [] := (Except.ok.inj found).symm
  rw [all] at empty
  cases empty

end Repository

end Provenance.Git
