import Provenance.Index.Indexer
import Provenance.Proofs.History.Attribution

namespace Provenance

namespace Walk

/-- A token that is cancelled before the first lookup ends the walk at once. -/
theorem walk_cancelled_at_once (h : History) (head : CommitId) (files : List (Path × String)) :
    (walk h head files (some 0)).2 = .error .cancelled := by
  unfold walk stepBound
  dsimp only
  rw [run]
  have ends : (init head files).step h (some 0) = (init head files, some (.error .cancelled)) := rfl
  rw [ends]

end Walk

namespace Indexer

open Git (Repository TrackedFile)
open Text (Content)

def content? (r : Repository) (file : TrackedFile) : Option Content :=
  (r.content file.blob).toOption.map Content.ofBytes

/-- The files that are text, in order, each with its own text. -/
def texts (r : Repository) (files : List TrackedFile) : List (TrackedFile × String) :=
  files.filterMap fun file =>
    match content? r file with
    | some (.text text) => some (file, text)
    | _ => none

/-- The number of files that are binary or in no encoding that is known. -/
def othersOf (r : Repository) (files : List TrackedFile) : Nat :=
  files.countP (content? r · = some .binary) + files.countP (content? r · = some .undecodable)

/-- The unit of a file is built from its own text and from what is recorded for its path. -/
def IsUnitOf (d : Descriptor) (refs : BrowseRefs) (records : FileRecords) (unit : CodeUnit)
    (file : TrackedFile × String) : Prop :=
  ∃ record, records[file.1.path]? = some record ∧
    unit = CodeUnit.build d refs file.1.path file.2 record

variable {r : Repository} {d : Descriptor} {refs : BrowseRefs} {records : FileRecords}
  {cancel : CancelMoment} {head : CommitId} {file : TrackedFile} {files : List TrackedFile}
  {reading : Reading} {report : IndexReport}

theorem content?_eq_some (r : Repository) {bytes : List UInt8}
    (found : r.content file.blob = .ok bytes) :
    content? r file = some (Content.ofBytes bytes) := by
  rw [content?, found]
  rfl

theorem texts_cons_of_text (rest : List TrackedFile) {text : String}
    (holds : content? r file = some (.text text)) :
    texts r (file :: rest) = (file, text) :: texts r rest ∧
      othersOf r (file :: rest) = othersOf r rest := by
  constructor
  · exact List.filterMap_cons_some (by rw [holds])
  · unfold othersOf
    rw [List.countP_cons_of_neg (by simp [holds]), List.countP_cons_of_neg (by simp [holds])]

theorem texts_cons_of_other (rest : List TrackedFile) {content : Content}
    (holds : content? r file = some content) (other : ∀ text, content ≠ .text text) :
    texts r (file :: rest) = texts r rest ∧
      othersOf r (file :: rest) = othersOf r rest + 1 := by
  unfold texts othersOf
  cases content with
  | text text => exact absurd rfl (other text)
  | binary =>
    rw [List.filterMap_cons_none (by rw [holds]), List.countP_cons_of_pos (by simp [holds]),
      List.countP_cons_of_neg (by simp [holds])]
    exact ⟨rfl, by omega⟩
  | undecodable =>
    rw [List.filterMap_cons_none (by rw [holds]), List.countP_cons_of_neg (by simp [holds]),
      List.countP_cons_of_pos (by simp [holds])]
    exact ⟨rfl, by omega⟩

/-- Every file that can be read is text or counted with the others. -/
theorem length_texts_add_othersOf
    (readable : ∀ file ∈ files, ∃ bytes, r.content file.blob = .ok bytes) :
    (texts r files).length + othersOf r files = files.length := by
  induction files with
  | nil => rfl
  | cons file files ih =>
    obtain ⟨bytes, found⟩ := readable file List.mem_cons_self
    have rest := ih fun f mem => readable f (List.mem_cons_of_mem file mem)
    have holds := content?_eq_some r found
    cases content : Content.ofBytes bytes with
    | text text =>
      rw [content] at holds
      obtain ⟨more, same⟩ := texts_cons_of_text files holds
      rw [more, same, List.length_cons, List.length_cons]
      omega
    | _ =>
      rw [content] at holds
      obtain ⟨same, more⟩ := texts_cons_of_other files holds nofun
      rw [same, more, List.length_cons]
      omega

/-- What reading gives for one more file. -/
theorem map_reading {bytes : List UInt8} (found : r.content file.blob = .ok bytes) :
    (match Content.ofBytes bytes with
      | .text text => (⟨(file, text) :: texts r files, othersOf r files⟩ : Reading)
      | _ => ⟨texts r files, othersOf r files + 1⟩) =
      ⟨texts r (file :: files), othersOf r (file :: files)⟩ := by
  have holds := content?_eq_some r found
  cases content : Content.ofBytes bytes with
  | text text =>
    rw [content] at holds
    obtain ⟨more, same⟩ := texts_cons_of_text files holds
    rw [more, same]
  | _ =>
    rw [content] at holds
    obtain ⟨same, more⟩ := texts_cons_of_other files holds nofun
    rw [same, more]

/-- Reading goes through only if every file can be read; it splits them into texts and others. -/
theorem of_read {n : Nat} (done : read r cancel n files = .ok reading) :
    (∀ file ∈ files, ∃ bytes, r.content file.blob = .ok bytes) ∧
      reading = ⟨texts r files, othersOf r files⟩ := by
  induction files generalizing n reading with
  | nil =>
    cases done
    exact ⟨nofun, rfl⟩
  | cons file files ih =>
    unfold read at done
    split at done
    · cases done
    · split at done
      · cases done
      · rename_i bytes found
        cases rest : read r cancel (n + 1) files with
        | error e =>
          rw [rest] at done
          cases done
        | ok others =>
          obtain ⟨readable, rfl⟩ := ih rest
          rw [rest] at done
          cases done
          exact ⟨List.forall_mem_cons.2 ⟨⟨bytes, found⟩, readable⟩, map_reading found⟩

private theorem read_of_readable (uncancelled : ∀ n, cancel.isBefore n = false)
    (readable : ∀ file ∈ files, ∃ bytes, r.content file.blob = .ok bytes) (n : Nat) :
    read r cancel n files = .ok ⟨texts r files, othersOf r files⟩ := by
  induction files generalizing n with
  | nil => rfl
  | cons file files ih =>
    obtain ⟨bytes, found⟩ := readable file List.mem_cons_self
    have rest := ih (fun f mem => readable f (List.mem_cons_of_mem file mem)) (n + 1)
    rw [read, if_neg (by rw [uncancelled n]; exact Bool.false_ne_true), found, rest]
    exact congrArg Except.ok (map_reading found)

/-- Where every path has a record, each text has its unit. -/
theorem forall₂_units {list : List (TrackedFile × String)}
    (recorded : ∀ x ∈ list, ∃ record, records[x.1.path]? = some record) :
    List.Forall₂ (IsUnitOf d refs records) (units d refs records list) list := by
  induction list with
  | nil => exact .nil
  | cons x list ih =>
    obtain ⟨file, text⟩ := x
    obtain ⟨record, found⟩ := recorded _ List.mem_cons_self
    have rest := ih fun y mem => recorded y (List.mem_cons_of_mem _ mem)
    have unit : records[file.path]?.map (CodeUnit.build d refs file.path text) =
        some (CodeUnit.build d refs file.path text record) := by
      rw [found]
      rfl
    have more : units d refs records ((file, text) :: list) =
        CodeUnit.build d refs file.path text record :: units d refs records list :=
      List.filterMap_cons_some unit
    rw [more]
    exact .cons ⟨record, found, rfl⟩ rest

/-- The units have the paths and the texts of their files. -/
theorem paths_and_texts {units : List CodeUnit} {list : List (TrackedFile × String)}
    (built : List.Forall₂ (IsUnitOf d refs records) units list) :
    units.map (fun unit => (unit.filePath, unit.sourceText)) =
      list.map fun x => (x.1.path, x.2) := by
  induction built with
  | nil => rfl
  | @cons unit x units list unit_of rest ih =>
    obtain ⟨record, -, rfl⟩ := unit_of
    rw [List.map_cons, List.map_cons, ih]
    rfl

/-- The walk over the history of the files that are text. -/
def textWalk (r : Repository) (head : CommitId) (files : List TrackedFile)
    (cancel : CancelMoment) : Walk.Result :=
  (walk r.history head ((texts r files).map fun x => (x.1.path, x.1.blob)) cancel.inWalk).2

theorem textWalk_reading (n : Nat) : textWalk r head files (.reading n) = .error .cancelled :=
  Walk.walk_cancelled_at_once _ _ _

private theorem isBefore_eq_false (never : ∀ n, cancel ≠ .reading n) (n : Nat) :
    cancel.isBefore n = false := by
  cases cancel with
  | reading m => exact absurd rfl (never m)
  | _ => rfl

private theorem indexCommit_of_read (tracked : r.trackedFiles head = .ok files)
    (done : read r cancel 0 files = .ok ⟨texts r files, othersOf r files⟩) :
    indexCommit r d cancel head =
      match textWalk r head files cancel with
      | .error e => .error (.history e)
      | .ok records =>
        .ok ⟨units d ⟨r.defaultBranch, some head⟩ records (texts r files), othersOf r files⟩ := by
  unfold indexCommit textWalk
  rw [tracked]
  dsimp only [Bind.bind, Except.bind, Except.mapError]
  rw [done]
  dsimp only
  generalize (walk r.history head _ cancel.inWalk).2 = walked
  cases walked <;> rfl

/-- Indexing succeeds exactly if all files can be read and the walk over the texts ends well. -/
theorem indexCommit_eq_ok_iff (tracked : r.trackedFiles head = .ok files) :
    indexCommit r d cancel head = .ok report ↔
      (∀ file ∈ files, ∃ bytes, r.content file.blob = .ok bytes) ∧
      ∃ records, textWalk r head files cancel = .ok records ∧
        report = ⟨units d ⟨r.defaultBranch, some head⟩ records (texts r files),
          othersOf r files⟩ := by
  constructor
  · intro done
    cases reads : read r cancel 0 files with
    | error e =>
      unfold indexCommit at done
      rw [tracked] at done
      dsimp only [Bind.bind, Except.bind, Except.mapError] at done
      rw [reads] at done
      cases done
    | ok reading =>
      obtain ⟨readable, rfl⟩ := of_read reads
      rw [indexCommit_of_read tracked reads] at done
      refine ⟨readable, ?_⟩
      split at done
      · cases done
      · rename_i records walked
        cases done
        exact ⟨records, walked, rfl⟩
  · rintro ⟨readable, records, walked, rfl⟩
    have never (n : Nat) : cancel ≠ .reading n := by
      rintro rfl
      rw [textWalk_reading] at walked
      cases walked
    have reads := read_of_readable (isBefore_eq_false never) readable 0
    rw [indexCommit_of_read tracked reads, walked]

/-- Indexing fails exactly if a file cannot be read or the walk over the texts fails. -/
theorem indexCommit_fails_iff (tracked : r.trackedFiles head = .ok files) :
    (∃ e, indexCommit r d cancel head = .error e) ↔
      (∃ file ∈ files, ∃ e, r.content file.blob = .error e) ∨
        ∃ e, textWalk r head files cancel = .error e := by
  constructor
  · rintro ⟨e, failed⟩
    by_contra fine
    rw [not_or] at fine
    have readable (file : TrackedFile) (mem : file ∈ files) :
        ∃ bytes, r.content file.blob = .ok bytes := by
      cases content : r.content file.blob with
      | error e => exact absurd ⟨file, mem, e, content⟩ fine.1
      | ok bytes => exact ⟨bytes, rfl⟩
    cases walked : textWalk r head files cancel with
    | error e => exact fine.2 ⟨e, walked⟩
    | ok records =>
      rw [(indexCommit_eq_ok_iff tracked).2 ⟨readable, records, walked, rfl⟩] at failed
      cases failed
  · intro failure
    cases done : indexCommit r d cancel head with
    | error e => exact ⟨e, rfl⟩
    | ok report =>
      obtain ⟨readable, records, walked, -⟩ := (indexCommit_eq_ok_iff tracked).1 done
      rcases failure with ⟨file, mem, e, unread⟩ | ⟨e, failed⟩
      · obtain ⟨bytes, found⟩ := readable file mem
        rw [found] at unread
        cases unread
      · rw [failed] at walked
        cases walked

private theorem index_eq_indexCommit (commit : r.headCommit = .ok (some head)) :
    index (some r) d cancel = indexCommit r d cancel head := by
  unfold index
  dsimp only
  rw [commit]

/-- The files of the commit at HEAD can be listed. -/
theorem exists_trackedFiles (commit : r.headCommit = .ok (some head)) :
    ∃ files, r.trackedFiles head = .ok files := by
  have present (c : CommitId) (found : (if (r.revision c).isOk then Except.ok (some c) else
      Except.error (Repository.unreadable c)) = .ok (some head)) :
      ∃ files, r.trackedFiles head = .ok files := by
    split at found
    · rename_i readable
      cases found
      cases found_revision : r.revision head with
      | error e =>
        rw [found_revision] at readable
        cases readable
      | ok revision =>
        unfold Repository.trackedFiles
        rw [found_revision]
        exact ⟨_, rfl⟩
    · cases found
  unfold Repository.headCommit at commit
  dsimp only at commit
  split at commit
  · cases commit
  · exact present _ commit
  · split at commit
    · cases commit
    · cases commit
    · exact present _ commit

/-- Indexing a repository with a commit at HEAD accounts for all of its files. With a report, each
of them is a unit or counted as skipped: the units are those of the files that are text, in order,
each with its own text and with what the walk records for its path, also where several files have
the same path as text. There is none exactly if a file cannot be read, on a cancellation between
the files, or if the walk fails. -/
theorem index_accounts (commit : r.headCommit = .ok (some head)) (d : Descriptor)
    (cancel : CancelMoment) :
    ∃ files, r.trackedFiles head = .ok files ∧
      (∀ report, index (some r) d cancel = .ok report →
        report.units.length + report.skipped = files.length ∧
        report.skipped = othersOf r files ∧
        ∃ records, textWalk r head files cancel = .ok records ∧
          List.Forall₂ (IsUnitOf d ⟨r.defaultBranch, some head⟩ records) report.units
            (texts r files)) ∧
      ((∃ e, index (some r) d cancel = .error e) ↔
        (∃ file ∈ files, ∃ e, r.content file.blob = .error e) ∨ (∃ n, cancel = .reading n) ∨
          ∃ e, textWalk r head files cancel = .error e) := by
  obtain ⟨files, tracked⟩ := exists_trackedFiles commit
  rw [index_eq_indexCommit commit]
  refine ⟨files, tracked, ?_, ?_⟩
  · intro report done
    obtain ⟨readable, records, walked, rfl⟩ := (indexCommit_eq_ok_iff tracked).1 done
    have recorded (x : TrackedFile × String) (mem : x ∈ texts r files) :
        ∃ record, records[x.1.path]? = some record := by
      refine Walk.exists_record_of_walk walked ?_
      rw [List.map_map]
      exact List.mem_map_of_mem mem
    have built : List.Forall₂ (IsUnitOf d ⟨r.defaultBranch, some head⟩ records) _ _ :=
      forall₂_units recorded
    refine ⟨?_, rfl, records, walked, built⟩
    rw [built.length_eq]
    exact length_texts_add_othersOf readable
  · rw [indexCommit_fails_iff tracked]
    constructor
    · exact Or.imp_right Or.inr
    · rintro (unread | ⟨n, rfl⟩ | failed)
      · exact Or.inl unread
      · exact Or.inr ⟨_, textWalk_reading n⟩
      · exact Or.inr failed

end Indexer

/-- A binary file and two texts whose names are not text and are shown alike. -/
def Git.Tree.shownAlike : Tree :=
  .entry [0x62] ⟨.regular, "b1"⟩
    (.entry [0xE8] ⟨.regular, "b2"⟩ (.entry [0xE9] ⟨.regular, "b3"⟩ .nil))

def Git.Repository.shownAlike : Repository where
  commits := [("c", ⟨[0x41], 100, [], .shownAlike⟩)]
  blobs := .ofList [("b1", ([0, 1] : List UInt8)), ("b2", [0x78]), ("b3", [0x79])]
  head := .detached "c"
  references := []

def Git.TrackedFile.shownAlike : List TrackedFile :=
  [⟨"b", "b1"⟩, ⟨"\uFFFD", "b2"⟩, ⟨"\uFFFD", "b3"⟩]

namespace Indexer

open Git (Repository TrackedFile)

/-- Files that are shown alike are units of their own, each with its own text. -/
theorem index_accounts_shown_alike :
    Repository.shownAlike.headCommit = .ok (some "c") ∧
      ∃ report, index (some .shownAlike)
          (.announce "https://github.com/a/b" "a/b" .github 1) .never = .ok report ∧
        report.skipped = 1 ∧
        report.units.map (fun unit => (unit.filePath, unit.sourceText)) =
          [("\uFFFD", "x"), ("\uFFFD", "y")] := by
  let d : Descriptor := .announce "https://github.com/a/b" "a/b" .github 1
  have commit : Repository.shownAlike.headCommit = .ok (some "c") := rfl
  refine ⟨commit, ?_⟩
  obtain ⟨files, tracked, accounts, fails⟩ := index_accounts commit d .never
  have listed : Repository.shownAlike.trackedFiles "c" = .ok TrackedFile.shownAlike :=
    congrArg Except.ok (by decide +kernel)
  cases Except.ok.inj (listed.symm.trans tracked)
  have shown : texts .shownAlike TrackedFile.shownAlike =
      [(⟨"\uFFFD", "b2"⟩, "x"), (⟨"\uFFFD", "b3"⟩, "y")] := by
    decide +kernel
  have walks : (textWalk .shownAlike "c" TrackedFile.shownAlike .never).isOk = true := by
    decide +kernel
  cases done : index (some Repository.shownAlike) d .never with
  | error e =>
    rcases fails.1 ⟨e, done⟩ with ⟨file, mem, e, unread⟩ | ⟨n, reading⟩ | ⟨e, failed⟩
    · have readable : ∀ file ∈ TrackedFile.shownAlike,
          (Repository.shownAlike.content file.blob).isOk = true := by
        decide +kernel
      have read := readable file mem
      rw [unread] at read
      cases read
    · cases reading
    · rw [failed] at walks
      cases walks
  | ok report =>
    obtain ⟨-, skipped, records, -, built⟩ := accounts report done
    refine ⟨report, rfl, skipped.trans (by decide +kernel), ?_⟩
    rw [paths_and_texts built, shown]
    rfl

end Indexer

end Provenance
