import Provenance.Proofs.History.Termination

namespace Provenance

namespace FileRecord

variable {r s t : FileRecord} {c : Commit} {creates : Bool}

/-- The times are in order, and a record without authors is one that no commit has touched. -/
structure Sound (r : FileRecord) : Prop where
  created_le : r.created ≤ r.modified
  modified_nonneg : 0 ≤ r.modified
  unseen : r.authors = ∅ → r.created = 0 ∧ r.modified = 0

/-- The second record is of the same blob, and nothing that the first one knows is lost. -/
structure Grows (r s : FileRecord) : Prop where
  blob : s.blob = r.blob
  authors : ∀ a ∈ r.authors, a ∈ s.authors
  modified : r.modified ≤ s.modified

theorem sound_unseen (blob : String) : (unseen blob).Sound := by
  constructor
  · exact Int.le_refl 0
  · exact Int.le_refl 0
  · intro _
    exact ⟨rfl, rfl⟩

/-- A credit sets both times to at most the new last change, and leaves an author behind. -/
theorem Sound.credit (sound : r.Sound) (c : Commit) (creates : Bool) :
    (r.credit c creates).Sound := by
  have order := sound.created_le
  have start := sound.modified_nonneg
  constructor
  · show (if creates then if r.created = 0 then c.time else min r.created c.time else r.created) ≤
      max r.modified c.time
    split_ifs <;> omega
  · show 0 ≤ max r.modified c.time
    omega
  · intro empty
    have author : c.author ∈ (r.credit c creates).authors := Std.ExtTreeSet.mem_insert_self
    rw [empty] at author
    exact absurd author Std.ExtTreeSet.not_mem_empty

theorem Grows.refl (r : FileRecord) : r.Grows r := by
  constructor
  · rfl
  · intro a known
    exact known
  · exact Int.le_refl _

theorem Grows.trans (first : r.Grows s) (second : s.Grows t) : r.Grows t := by
  constructor
  · exact second.blob.trans first.blob
  · intro a known
    exact second.authors a (first.authors a known)
  · exact Int.le_trans first.modified second.modified

private theorem grows_credit (r : FileRecord) (c : Commit) (creates : Bool) :
    r.Grows (r.credit c creates) := by
  constructor
  · rfl
  · intro a known
    exact Std.ExtTreeSet.mem_insert.2 (Or.inr known)
  · exact Int.le_max_left _ _

/-- Any number of credits keeps a record sound and lets it grow. -/
theorem creditAll_grows (credits : List (Commit × Bool)) (r : FileRecord) :
    r.Grows (r.creditAll credits) ∧ (r.Sound → (r.creditAll credits).Sound) := by
  induction credits generalizing r with
  | nil => exact ⟨.refl r, id⟩
  | cons x credits ih =>
    rw [creditAll_cons]
    obtain ⟨grows, stays⟩ := ih (r.credit x.1 x.2)
    have one := grows_credit r x.1 x.2
    constructor
    · exact one.trans grows
    · intro sound
      exact stays (sound.credit x.1 x.2)

end FileRecord

namespace FileRecords

variable {files : List (Path × String)} {m n : FileRecords}

/-- The records are those of the given files with their last blobs, and each of them is sound. -/
structure Sound (files : List (Path × String)) (m : FileRecords) : Prop where
  keys : ∀ file : Path, file ∈ m ↔ file ∈ files.map (·.1)
  blobs : ∀ (file : Path) (r : FileRecord), m[file]? = some r →
    files.reverse.lookup file = some r.blob
  records : ∀ (file : Path) (r : FileRecord), m[file]? = some r → r.Sound

/-- The same files have records, and each of them has grown. -/
def Grow (m n : FileRecords) : Prop :=
  ∀ file : Path, Option.Rel FileRecord.Grows m[file]? n[file]?

theorem Grow.refl (m : FileRecords) : m.Grow m := by
  intro file
  cases m[file]? with
  | none => exact .none
  | some r => exact .some (.refl r)

private theorem grow_credit (m : FileRecords) (c : Commit) (paths : PathMap)
    (changes : List (List PathChange)) : m.Grow (m.credit c paths changes) := by
  intro file
  rw [getElem?_credit]
  cases m[file]? with
  | none => exact .none
  | some r => exact .some (FileRecord.creditAll_grows _ r).1

private theorem sound_ofFiles (files : List (Path × String)) : Sound files (ofFiles files) := by
  have entry (file : Path) : (ofFiles files)[file]? =
      (files.reverse.lookup file).map FileRecord.unseen := getElem?_ofFiles files file
  constructor
  · intro file
    rw [← Std.ExtTreeMap.isSome_getElem?_iff_mem, entry, Option.isSome_map,
      List.lookup_isSome_iff]
    simp only [List.mem_reverse, beq_iff_eq, List.mem_map]
    exact exists_congr fun e => and_congr_right fun _ => eq_comm
  · intro file r found
    rw [entry] at found
    obtain ⟨blob, listed, rfl⟩ := Option.map_eq_some_iff.1 found
    exact listed
  · intro file r found
    rw [entry] at found
    obtain ⟨blob, listed, rfl⟩ := Option.map_eq_some_iff.1 found
    exact FileRecord.sound_unseen blob

theorem Sound.credit (sound : Sound files m) (c : Commit) (paths : PathMap)
    (changes : List (List PathChange)) : Sound files (m.credit c paths changes) := by
  have entry (file : Path) := getElem?_credit m c paths changes file
  constructor
  · intro file
    rw [← Std.ExtTreeMap.isSome_getElem?_iff_mem, entry, Option.isSome_map,
      Std.ExtTreeMap.isSome_getElem?_iff_mem]
    exact sound.keys file
  · intro file r found
    rw [entry] at found
    obtain ⟨before, known, rfl⟩ := Option.map_eq_some_iff.1 found
    rw [FileRecord.creditAll_blob]
    exact sound.blobs file before known
  · intro file r found
    rw [entry] at found
    obtain ⟨before, known, rfl⟩ := Option.map_eq_some_iff.1 found
    exact (FileRecord.creditAll_grows _ before).2 (sound.records file before known)

end FileRecords

namespace Walk

variable {h : History} {cancel : CancelAt} {head : CommitId} {files : List (Path × String)}
  {v w : Walk}

/-- The records are sound, and what waits leads to given files only. -/
structure Sound (files : List (Path × String)) (w : Walk) : Prop where
  records : w.records.Sound files
  maps : ∀ item ∈ w.work, ∀ p f : Path, item.2[p]? = some f → f ∈ files.map (·.1)

private theorem sound_init (head : CommitId) (files : List (Path × String)) :
    Sound files (init head files) := by
  constructor
  · exact FileRecords.sound_ofFiles files
  · intro item waiting p f tracked
    obtain rfl : item = (head, .identity (files.map (·.1))) := by simpa [init] using waiting
    obtain ⟨given, rfl⟩ := PathMap.getElem?_identity_eq_some.1 tracked
    exact given

/-- The map of a parent leads to no file that the map of its child does not lead to. -/
theorem Sound.turn (sound : w.Sound files) (turn : Turn h w v) : v.Sound files := by
  have maps := sound.maps
  cases turn with
  | skip next known =>
    rw [next] at maps
    constructor
    · exact sound.records
    · intro item waiting
      exact maps item (List.mem_cons_of_mem _ waiting)
  | @visit id paths rest c calls changes next tracks fresh found read =>
    rw [next] at maps
    constructor
    · exact sound.records.credit c paths changes
    · intro item waiting p f tracked
      rcases List.mem_append.1 waiting with new | old
      · obtain ⟨cs, -, -, same⟩ :=
          Expands.mem_parentItems ⟨found, forall₂_of_readChanges read⟩ new
        rw [same] at tracked
        obtain ⟨q, here, -⟩ := before_of_atParent tracked
        exact maps (id, paths) List.mem_cons_self q f here
      · exact maps item (List.mem_cons_of_mem _ old) p f tracked

private theorem Turn.grow (turn : Turn h w v) : w.records.Grow v.records := by
  cases turn with
  | skip _ _ => exact .refl _
  | visit _ _ _ _ _ => exact FileRecords.grow_credit _ _ _ _

/-- A step that ends the walk leaves the records as they are. -/
theorem Sound.step (sound : w.Sound files) {result : Option Result}
    (stepped : w.step h cancel = (v, result)) : v.Sound files ∧ w.records.Grow v.records := by
  cases outcome_of_step stepped with
  | done _ => exact ⟨sound, .refl _⟩
  | cancelled _ _ => exact ⟨sound, .refl _⟩
  | turn _ turn => exact ⟨sound.turn turn, turn.grow⟩
  | failed _ fails =>
    cases fails with
    | visit next _ _ _ =>
      have maps := sound.maps
      rw [next] at maps
      constructor
      · constructor
        · exact sound.records
        · intro item waiting
          exact maps item (List.mem_cons_of_mem _ waiting)
      · exact .refl _

theorem Pops.sound (pops : Pops h cancel head files w) : w.Sound files := by
  induction pops with
  | refl => exact sound_init head files
  | tail _ stepped ih => exact (ih.step stepped).1

/-- In every state of a walk, and after every step of it, the records are those of the given files
with their blobs, the times of each are in order, one that has no author has not been touched, and
all that waits leads to given files. A step takes no author from a record, and its last change
only moves on. A walk that ends well returns such records. -/
theorem records_stay_sound (h : History) (head : CommitId) (files : List (Path × String))
    (cancel : CancelAt) :
    (∀ w, Pops h cancel head files w → w.Sound files ∧
      ∀ v result, w.step h cancel = (v, result) → v.Sound files ∧ w.records.Grow v.records) ∧
    ∀ records, (walk h head files cancel).2 = .ok records → records.Sound files := by
  constructor
  · intro w pops
    have sound := pops.sound
    refine ⟨sound, ?_⟩
    intro v result stepped
    exact sound.step stepped
  · intro records ok
    obtain ⟨v, pops, ended⟩ := walk_ends h cancel head files
    rw [ok] at ended
    obtain ⟨-, -, rfl⟩ := done_of_step ended
    exact pops.sound.records

/-- A commit before the epoch creates a file, and another one at the epoch changes it. -/
example :
    let history := HistoryTable.history
      [("b", ⟨⟨"b", "B", 0, ["a"]⟩, [.ok [.modified "f"]]⟩),
        ("a", ⟨⟨"a", "A", -5, []⟩, [.ok [.added "f"]]⟩)]
    (walk history "b" [("f", "x")] none).2.toOption.map
        (fun m => m.toList.map fun e => (e.2.created, e.2.modified)) =
      some [(-5, 0)] := by
  decide +kernel

end Walk

end Provenance
