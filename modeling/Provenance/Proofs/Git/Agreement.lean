import Provenance.Proofs.Git.Changes

namespace Provenance.Git

open Text (IsText bytes)

namespace Tree

variable {t : Tree}

def entryAt? (t : Tree) (p : Path) : Option Entry := t.snapshot[bytes p]?

theorem snapshot_eq (t : Tree) : t.snapshot = (∅ : Snapshot).insertMany (t.entries []) := by
  rw [Std.ExtTreeMap.insertMany_list_eq_foldl]
  rfl

theorem mem_snapshot_iff {b : RawPath} : b ∈ t.snapshot ↔ ∃ e, (b, e) ∈ t.entries [] := by
  rw [snapshot_eq, Std.ExtTreeMap.mem_insertMany_list, List.contains_iff_mem, List.mem_map]
  simp

private theorem mem_of_insertMany {l : List (RawPath × Entry)} {m : Snapshot} {b : RawPath}
    {e : Entry}
    (found : (m.insertMany l)[b]? = some e) : (b, e) ∈ l ∨ m[b]? = some e := by
  induction l generalizing m with
  | nil => exact Or.inr found
  | cons x l ih =>
    rw [Std.ExtTreeMap.insertMany_cons] at found
    rcases ih found with later | now
    · exact Or.inl (List.mem_cons_of_mem x later)
    · rw [Std.ExtTreeMap.getElem?_insert] at now
      split at now
      · rename_i same
        rw [Std.LawfulEqCmp.compare_eq_iff_eq] at same
        cases now
        exact Or.inl (same ▸ List.mem_cons_self)
      · exact Or.inr now

theorem mem_entries_of_snapshot {b : RawPath} {e : Entry} (found : t.snapshot[b]? = some e) :
    (b, e) ∈ t.entries [] := by
  rw [snapshot_eq] at found
  rcases mem_of_insertMany found with mem | missing
  · exact mem
  · rw [Std.ExtTreeMap.getElem?_empty] at missing
    cases missing

end Tree

/-- A path is told of as arriving: it is added, or a plain file comes there by a rename. -/
def Arrives (changes : List PathChange) (p : Path) (e : Entry) : Prop :=
  arrivals changes p = [.added p] ∨
    e.mode.isPlain = true ∧ ∃ s, arrivals changes p = [.renamed s p]

/-- A path is told of as leaving: it is deleted, or a plain file goes away by a rename. -/
def Leaves (changes : List PathChange) (p : Path) (e : Entry) : Prop :=
  departures changes p = [.deleted p] ∨
    e.mode.isPlain = true ∧ ∃ t, departures changes p = [.renamed p t]

section Told

open Delta Repository

variable {old new : Snapshot} {renames : List Pairing} {e e' : Entry} {p : Path} {q : Pairing}
  {b : RawPath} (texts : ∀ b, b ∈ old ∨ b ∈ new → IsText b)
  (explains : Explains renames (between old new))

include texts explains

private theorem arrives_of_replaced (present : new[bytes p]? = some e')
    (apart : ∀ e, old[bytes p]? = some e → e.mode.sameType e'.mode = false) :
    Arrives ((between old new).filterMap (told? renames)) p e' := by
  have here : atPath (bytes p) old[bytes p]? new[bytes p]? =
      old[bytes p]?.toList.map (.deleted (bytes p)) ++ [.added (bytes p) e'] := by
    rw [atPath_replaced, present]
    · rfl
    · intro e e'' before after
      rw [present] at after
      cases after
      exact apart e before
  have split : arrivals ((between old new).filterMap (told? renames)) p =
      arrivals ([Delta.added (bytes p) e'].filterMap (told? renames)) p := by
    rw [arrivals_eq texts, here, List.filterMap_append, arrivals, List.filter_append]
    exact congrArg (· ++ _) (arrivals_deleted _)
  have name : pathText (bytes p) = p := (pathText_eq_iff ⟨p, rfl⟩).2 rfl
  unfold Arrives
  rw [split]
  rcases told?_added renames (bytes p) e' with ⟨-, told⟩ | ⟨q, mem, target, told⟩
  · left
    rw [List.filterMap_cons_some told, name]
    simp [arrivals, PathChange.childPath?]
  · obtain ⟨e'', addition, plain⟩ := explains.added q mem
    rw [target] at addition
    have same := (of_added_mem_atPath (mem_between_iff.1 addition)).1
    rw [path, present] at same
    cases same
    refine Or.inr ⟨plain, pathText q.source, ?_⟩
    rw [List.filterMap_cons_some told, name]
    simp [arrivals, PathChange.childPath?]

/-- An addition takes away only what is renamed. -/
theorem departures_added (unmoved : ∀ q ∈ renames, q.source ≠ bytes p) (b : RawPath)
    (l : List Entry) : departures ((l.map (.added b)).filterMap (told? renames)) p = [] := by
  refine List.filter_eq_nil_iff.2 fun c hc former => ?_
  obtain ⟨d, hd, told⟩ := List.mem_filterMap.1 hc
  obtain ⟨e', -, rfl⟩ := List.mem_map.1 hd
  rcases told?_added renames b e' with ⟨-, same⟩ | ⟨q, mem, -, same⟩
  all_goals
    rw [same] at told
    cases told
  · cases of_decide_eq_true former
  · have source := Option.some.inj (of_decide_eq_true former)
    exact unmoved q mem ((source_eq_iff texts explains mem).1 source)

/-- The deletion of what is renamed is told of by the rename alone. -/
theorem departures_deleted (mem : q ∈ renames) (source : pathText q.source = p)
    (addition : .added b e' ∈ between old new) (l : List Entry) :
    departures ((l.map (.deleted b)).filterMap (told? renames)) p = [] := by
  refine List.filter_eq_nil_iff.2 fun c hc former => ?_
  obtain ⟨d, hd, told⟩ := List.mem_filterMap.1 hc
  obtain ⟨e, -, rfl⟩ := List.mem_map.1 hd
  rcases told?_deleted renames b e with ⟨unmoved, same⟩ | ⟨-, same⟩
  all_goals
    rw [same] at told
    cases told
  have here := (path_eq_iff texts addition).1 (Option.some.inj (of_decide_eq_true former))
  exact unmoved q mem (((source_eq_iff texts explains mem).1 source).trans here.symm)

private theorem departures_of_unmoved (unmoved : ∀ q ∈ renames, q.source ≠ bytes p)
    (present : old[bytes p]? = some e)
    (apart : ∀ e', new[bytes p]? = some e' → e.mode.sameType e'.mode = false) :
    departures ((between old new).filterMap (told? renames)) p = [.deleted p] := by
  have here : atPath (bytes p) old[bytes p]? new[bytes p]? =
      .deleted (bytes p) e :: new[bytes p]?.toList.map (.added (bytes p)) := by
    rw [atPath_replaced, present]
    · rfl
    · intro e'' e' before after
      rw [present] at before
      cases before
      exact apart e' after
  have told : told? renames (.deleted (bytes p) e) = some (.deleted p) := by
    rcases told?_deleted renames (bytes p) e with ⟨-, told⟩ | ⟨⟨q, mem, source⟩, -⟩
    · rwa [(pathText_eq_iff ⟨p, rfl⟩).2 rfl] at told
    · exact absurd source (unmoved q mem)
  rw [departures_eq texts explains unmoved, here, List.filterMap_cons_some told, departures,
    List.filter_cons_of_pos (by simp [formerPath?])]
  exact congrArg (_ :: ·) (departures_added texts explains unmoved _ _)

private theorem departures_of_mem (mem : q ∈ renames) (source : pathText q.source = p) :
    departures ((between old new).filterMap (told? renames)) p =
      [.renamed p (pathText q.target)] := by
  obtain ⟨e', addition, -⟩ := explains.added q mem
  have there : atPath q.target old[q.target]? new[q.target]? =
      old[q.target]?.toList.map (.deleted q.target) ++ [.added q.target e'] :=
    (of_added_mem_atPath (mem_between_iff.1 addition)).2
  have told : told? renames (.added q.target e') = some (.renamed p (pathText q.target)) := by
    rcases told?_added renames q.target e' with ⟨unmoved, -⟩ | ⟨q', mem', target, told⟩
    · exact absurd rfl (unmoved q mem)
    · have same := explains.apart q' mem' q mem (Pairing.rivals_iff.2 (Or.inr target))
      rwa [same, source] at told
  rw [departures_eq_of_mem texts explains mem ((source_eq_iff texts explains mem).1 source), there,
    List.filterMap_append, departures, List.filter_append]
  refine (congrArg (· ++ _) (departures_deleted texts explains mem source addition _)).trans ?_
  rw [List.filterMap_cons_some told]
  simp [formerPath?]

private theorem leaves_of_replaced (present : old[bytes p]? = some e)
    (apart : ∀ e', new[bytes p]? = some e' → e.mode.sameType e'.mode = false) :
    Leaves ((between old new).filterMap (told? renames)) p e := by
  by_cases moved : ∃ q ∈ renames, q.source = bytes p
  · obtain ⟨q, mem, source⟩ := moved
    obtain ⟨e'', deletion, plain⟩ := explains.deleted q mem
    rw [source] at deletion
    have same := of_deleted_mem_atPath (mem_between_iff.1 deletion)
    rw [path, present] at same
    cases same
    have text := (source_eq_iff texts explains mem).2 source
    exact Or.inr ⟨plain, pathText q.target, departures_of_mem texts explains mem text⟩
  · have unmoved (q : Pairing) (mem : q ∈ renames) : q.source ≠ bytes p :=
      fun source => moved ⟨q, mem, source⟩
    exact Or.inl (departures_of_unmoved texts explains unmoved present apart)

end Told

/-- What a list of changes tells of every path, given the entries before and after. An entry that
changes its type leaves, and the one in its place arrives. -/
structure Tells (old new : Path → Option Entry) (changes : List PathChange) : Prop where
  absent : ∀ p, new p = none → arrivals changes p = []
  fresh : ∀ p, old p = none → departures changes p = []
  kept : ∀ p e, old p = some e → new p = some e →
    arrivals changes p = [] ∧ departures changes p = []
  modified : ∀ p e e', old p = some e → new p = some e' → e ≠ e' →
    e.mode.sameType e'.mode = true →
    arrivals changes p = [.modified p] ∧ departures changes p = []
  arrives : ∀ p e', new p = some e' → (∀ e, old p = some e → e.mode.sameType e'.mode = false) →
    Arrives changes p e'
  leaves : ∀ p e, old p = some e → (∀ e', new p = some e' → e.mode.sameType e'.mode = false) →
    Leaves changes p e

/-- A list of changes agrees with the entries before and after. A path that both have keeps its
entry without a change or is modified there, or a rename leads to it; a path that only one of them
has arrives or leaves once; and no path that is still there is deleted. -/
structure Agrees (old new : Path → Option Entry) (changes : List PathChange) : Prop where
  kept : ∀ p e, old p = some e → new p = some e → arrivals changes p = []
  altered : ∀ p e e', old p = some e → new p = some e' → e ≠ e' →
    (.modified p ∈ changes ∨ ∃ s, .renamed s p ∈ changes) ∧ .added p ∉ changes
  arrived : ∀ p e', old p = none → new p = some e' →
    arrivals changes p = [.added p] ∨ ∃ s, arrivals changes p = [.renamed s p]
  left : ∀ p e, old p = some e → new p = none →
    departures changes p = [.deleted p] ∨ ∃ t, departures changes p = [.renamed p t]
  present : ∀ p e', new p = some e' → .deleted p ∉ changes

section Agreement

variable {old new : Path → Option Entry} {changes : List PathChange} {p : Path} {e e' : Entry}

private theorem added_mem_iff : .added p ∈ changes ↔ .added p ∈ arrivals changes p := by
  simp [arrivals, PathChange.childPath?]

private theorem deleted_mem_iff : .deleted p ∈ changes ↔ .deleted p ∈ departures changes p := by
  simp [departures, formerPath?]

/-- The changes agree with the trees exactly if no entry changes its type. -/
theorem Tells.agrees_iff (tells : Tells old new changes) : Agrees old new changes ↔
    ∀ p e e', old p = some e → new p = some e' → e.mode.sameType e'.mode = true := by
  constructor
  · intro agrees p e e' before after
    by_contra apart
    rw [Bool.not_eq_true] at apart
    have changed : e ≠ e' := by
      rintro rfl
      rw [Mode.sameType_self] at apart
      cases apart
    have arrives : Arrives changes p e' := by
      refine tells.arrives p e' after fun e'' found => ?_
      rw [before] at found
      cases found
      exact apart
    have leaves : Leaves changes p e := by
      refine tells.leaves p e before fun e'' found => ?_
      rw [after] at found
      cases found
      exact apart
    -- one of the entries is no plain file, and no rename explains that one
    rcases arrives with added | ⟨plain', -⟩
    · apply (agrees.altered p e e' before after changed).2
      rw [added_mem_iff, added]
      exact List.mem_singleton_self _
    · rcases leaves with deleted | ⟨plain, -⟩
      · apply agrees.present p e' after
        rw [deleted_mem_iff, deleted]
        exact List.mem_singleton_self _
      · rw [Mode.sameType_of_isPlain plain plain'] at apart
        cases apart
  · intro same
    constructor
    · intro p e before after
      exact (tells.kept p e before after).1
    · intro p e e' before after changed
      have told := (tells.modified p e e' before after changed (same p e e' before after)).1
      constructor
      · left
        have mem : .modified p ∈ arrivals changes p := told ▸ List.mem_singleton_self _
        exact List.mem_of_mem_filter mem
      · rw [added_mem_iff, told]
        simp
    · intro p e' before after
      refine (tells.arrives p e' after ?_).imp_right And.right
      simp [before]
    · intro p e before after
      refine (tells.leaves p e before ?_).imp_right And.right
      simp [after]
    · intro p e' after deleted
      rw [deleted_mem_iff] at deleted
      cases before : old p with
      | none =>
        rw [tells.fresh p before] at deleted
        cases deleted
      | some e =>
        by_cases changed : e = e'
        · subst changed
          rw [(tells.kept p e before after).2] at deleted
          cases deleted
        · have types := same p e e' before after
          rw [(tells.modified p e e' before after changed types).2] at deleted
          cases deleted

end Agreement

section

open Delta

private theorem tells_of_explains {old new : Snapshot} {renames : List Pairing}
    (texts : ∀ b, b ∈ old ∨ b ∈ new → IsText b) (explains : Explains renames (between old new)) :
    Tells (fun p => old[bytes p]?) (fun p => new[bytes p]?)
      ((between old new).filterMap (told? renames)) where
  absent p after := by
    rw [arrivals_eq texts, after, atPath_none_right, arrivals_deleted]
  fresh p before := by
    refine departures_eq_nil texts explains fun e deletion => ?_
    have found := of_deleted_mem_atPath (mem_between_iff.1 deletion)
    rw [path, before] at found
    cases found
  kept p e before after := by
    have here : atPath (bytes p) old[bytes p]? new[bytes p]? = [] := by
      rw [before, after, atPath_self]
    constructor
    · rw [arrivals_eq texts, here]
      rfl
    · refine departures_eq_nil texts explains fun e' deletion => ?_
      have found := mem_between_iff.1 deletion
      rw [path, here] at found
      cases found
  modified p e e' before after changed types := by
    have here : atPath (bytes p) old[bytes p]? new[bytes p]? = [.modified (bytes p)] := by
      rw [before, after, atPath_altered (bytes p) changed types]
    constructor
    · have told : told? renames (.modified (bytes p)) = some (.modified p) := by
        have name := (pathText_eq_iff ⟨p, rfl⟩).2 rfl
        exact congrArg (fun text => some (PathChange.modified text)) name
      rw [arrivals_eq texts, here, List.filterMap_cons_some told]
      simp [arrivals, PathChange.childPath?]
    · refine departures_eq_nil texts explains fun e'' deletion => ?_
      have found := mem_between_iff.1 deletion
      rw [path, here] at found
      cases List.mem_singleton.1 found
  arrives p e' after apart := arrives_of_replaced texts explains after apart
  leaves p e before apart := leaves_of_replaced texts explains before apart

end

namespace Repository

variable {r : Repository} {parent id : CommitId} {before after : Revision}
  {changes : List PathChange}

theorem changes_eq (parent_found : r.revision parent = .ok before)
    (found : r.revision id = .ok after) : r.changes (some parent) id =
      match Delta.findRenames? (fun id => r.blobs[id]?)
        (Delta.between before.tree.snapshot after.tree.snapshot) with
      | none => .error (unreadable "a file")
      | some deltas => .ok (deltas.map Delta.change) := by
  rw [Repository.changes, found]
  dsimp only [Bind.bind, Except.bind]
  rw [parent_found]
  rfl

/-- A plain file that comes or goes is one of the trees. -/
theorem mem_entries_of_source?_or_target? {d : Delta} {x : RawPath × ObjectId}
    (mem : d ∈ Delta.between before.tree.snapshot after.tree.snapshot)
    (plain : d.source? = some x ∨ d.target? = some x) :
    ∃ e, (x.1, e) ∈ before.tree.entries [] ++ after.tree.entries [] ∧ e.mode.isPlain = true ∧
      e.id = x.2 := by
  rcases plain with source | target
  · obtain ⟨e, rfl, plain, id⟩ := Delta.source?_eq_some source
    have found := Delta.of_deleted_mem_atPath (Delta.mem_between_iff.1 mem)
    exact ⟨e, List.mem_append_left _ (Tree.mem_entries_of_snapshot found), plain, id⟩
  · obtain ⟨e, rfl, plain, id⟩ := Delta.target?_eq_some target
    have found := (Delta.of_added_mem_atPath (Delta.mem_between_iff.1 mem)).1
    exact ⟨e, List.mem_append_right _ (Tree.mem_entries_of_snapshot found), plain, id⟩

/-- The changes between two commits whose paths are texts tell what happens at every path. They
agree with the trees exactly if no entry changes its type: such an entry is deleted or added though
its path is there before and after. There are changes if every plain file can be read. -/
theorem changes_agree_iff (parent_found : r.revision parent = .ok before)
    (found : r.revision id = .ok after)
    (texts : ∀ x ∈ before.tree.entries [] ++ after.tree.entries [], IsText x.1) :
    (∀ changes, r.changes (some parent) id = .ok changes →
      Tells before.tree.entryAt? after.tree.entryAt? changes ∧
      (Agrees before.tree.entryAt? after.tree.entryAt? changes ↔
        ∀ p e e', before.tree.entryAt? p = some e → after.tree.entryAt? p = some e' →
          e.mode.sameType e'.mode = true)) ∧
    ((∀ x ∈ before.tree.entries [] ++ after.tree.entries [], x.2.mode.isPlain = true →
      x.2.id ∈ r.blobs) → ∃ changes, r.changes (some parent) id = .ok changes) := by
  have all_texts (b : RawPath) (mem : b ∈ before.tree.snapshot ∨ b ∈ after.tree.snapshot) :
      IsText b := by
    rcases mem with mem | mem <;> obtain ⟨e, mem⟩ := Tree.mem_snapshot_iff.1 mem
    · exact texts (b, e) (List.mem_append_left _ mem)
    · exact texts (b, e) (List.mem_append_right _ mem)
  rw [changes_eq parent_found found]
  constructor
  · intro changes same
    split at same
    · cases same
    · rename_i deltas search
      cases same
      obtain ⟨renames, explains, rfl⟩ := Delta.exists_of_findRenames? search
      rw [Delta.map_change_rename]
      have tells := tells_of_explains all_texts explains
      exact ⟨tells, tells.agrees_iff⟩
  · intro readable
    have searched : (Delta.findRenames? (fun id => r.blobs[id]?)
        (Delta.between before.tree.snapshot after.tree.snapshot)).isSome := by
      refine Delta.isSome_findRenames? fun d mem x plain => ?_
      obtain ⟨e, file, plain, id⟩ := mem_entries_of_source?_or_target? mem plain
      rw [← Std.ExtTreeMap.mem_iff_isSome_getElem?, ← id]
      exact readable _ file plain
    obtain ⟨deltas, search⟩ := Option.isSome_iff_exists.1 searched
    rw [search]
    exact ⟨_, rfl⟩

end Repository

def Tree.twoFiles : Tree :=
  .entry [0x66] ⟨.regular, "b1"⟩ (.entry [0x6B] ⟨.regular, "b2"⟩ .nil)

/-- One of the files under another name; the other one is executable, with another content. -/
def Tree.movedFiles : Tree :=
  .entry [0x67] ⟨.regular, "b1"⟩ (.entry [0x6B] ⟨.executable, "b3"⟩ .nil)

def Tree.oneFile : Tree := .entry [0x66] ⟨.regular, "b1"⟩ .nil

def Tree.oneLink : Tree := .entry [0x66] ⟨.link, "b2"⟩ .nil

theorem isText_of_forall {l : List (RawPath × Entry)}
    (all : ∀ x ∈ l, (Text.utf8? x.1).isSome = true) : ∀ x ∈ l, IsText x.1 :=
  fun x mem => Text.isSome_utf8?_iff.1 (all x mem)

namespace Repository

def succession (before after : Tree) (blobs : List (ObjectId × List UInt8)) : Repository where
  commits := [("p", ⟨[0x41], 100, [], before⟩), ("c", ⟨[0x42], 200, ["p"], after⟩)]
  blobs := .ofList blobs
  head := .detached "c"
  references := []

def moved : Repository :=
  succession .twoFiles .movedFiles [("b1", [1]), ("b2", [2]), ("b3", [3])]

def relinked : Repository := succession .oneFile .oneLink [("b1", [1]), ("b2", [2])]

theorem changes_agree_iff_moved :
    moved.revision "p" = .ok ⟨[0x41], 100, [], .twoFiles⟩ ∧
      moved.revision "c" = .ok ⟨[0x42], 200, ["p"], .movedFiles⟩ ∧
      ∃ changes, moved.changes (some "p") "c" = .ok changes ∧
        Agrees Tree.twoFiles.entryAt? Tree.movedFiles.entryAt? changes := by
  have parent : moved.revision "p" = .ok ⟨[0x41], 100, [], .twoFiles⟩ := rfl
  have child : moved.revision "c" = .ok ⟨[0x42], 200, ["p"], .movedFiles⟩ := rfl
  have texts := isText_of_forall (l := Tree.twoFiles.entries [] ++ Tree.movedFiles.entries [])
    (by decide +kernel)
  have readable : ∀ x ∈ Tree.twoFiles.entries [] ++ Tree.movedFiles.entries [],
      x.2.mode.isPlain = true → x.2.id ∈ moved.blobs := by
    decide +kernel
  have types : ∀ x ∈ Tree.twoFiles.entries [], ∀ y ∈ Tree.movedFiles.entries [],
      x.2.mode.sameType y.2.mode = true := by
    decide
  obtain ⟨tell, found⟩ := changes_agree_iff parent child texts
  obtain ⟨changes, found⟩ := found readable
  refine ⟨parent, child, changes, found, (tell changes found).2.2 fun p e e' before after => ?_⟩
  exact types _ (Tree.mem_entries_of_snapshot before) _ (Tree.mem_entries_of_snapshot after)

/-- A file that gives way to a link of the same name is deleted and added. -/
theorem changes_disagree_on_types :
    (∀ x ∈ Tree.oneFile.entries [] ++ Tree.oneLink.entries [], IsText x.1) ∧
      relinked.revision "p" = .ok ⟨[0x41], 100, [], .oneFile⟩ ∧
      relinked.revision "c" = .ok ⟨[0x42], 200, ["p"], .oneLink⟩ ∧
      relinked.changes (some "p") "c" = .ok [.deleted "f", .added "f"] ∧
      ¬ Agrees Tree.oneFile.entryAt? Tree.oneLink.entryAt? [.deleted "f", .added "f"] := by
  have parent : relinked.revision "p" = .ok ⟨[0x41], 100, [], .oneFile⟩ := rfl
  have child : relinked.revision "c" = .ok ⟨[0x42], 200, ["p"], .oneLink⟩ := rfl
  have deltas : Delta.findRenames? (fun id => relinked.blobs[id]?)
      (Delta.between Tree.oneFile.snapshot Tree.oneLink.snapshot) =
        some [.deleted [0x66] ⟨.regular, "b1"⟩, .added [0x66] ⟨.link, "b2"⟩] := by
    decide +kernel
  have found : relinked.changes (some "p") "c" = .ok [.deleted "f", .added "f"] := by
    rw [changes_eq parent child, deltas]
    exact congrArg Except.ok (by decide +kernel)
  refine ⟨isText_of_forall (by decide +kernel), parent, child, found, fun agrees => ?_⟩
  have there : Tree.oneLink.entryAt? "f" = some ⟨.link, "b2"⟩ := by decide +kernel
  exact agrees.present "f" _ there List.mem_cons_self

end Repository

end Provenance.Git
