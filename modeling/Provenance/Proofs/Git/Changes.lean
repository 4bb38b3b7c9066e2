import Provenance.Git.Repository
import Provenance.Proofs.Git.Renames

namespace Provenance.Git

open Text (IsText bytes)

theorem pathText_eq_iff {q : RawPath} (text : IsText q) {p : Path} :
    Repository.pathText q = p ↔ q = bytes p := by
  obtain ⟨s, rfl⟩ := text
  rw [Repository.pathText, Text.lossyUtf8_bytes, String.ofList_toList]
  constructor
  · rintro rfl
    rfl
  · intro same
    have chars := congrArg Text.lossyUtf8 same
    rwa [Text.lossyUtf8_bytes, Text.lossyUtf8_bytes, String.toList_inj] at chars

theorem Mode.sameType_self (m : Mode) : m.sameType m = true := by
  cases m <;> decide

theorem Mode.sameType_of_isPlain {m n : Mode} :
    m.isPlain = true → n.isPlain = true → m.sameType n = true := by
  cases m <;> cases n <;> decide

section Lists

variable {α β : Type} [DecidableEq α]

/-- What has the key of an item is what the item gives. -/
theorem filter_flatMap_key {g : α → List β} {k : β → α} (own : ∀ a, ∀ b ∈ g a, k b = a)
    {l : List α} (nodup : l.Nodup) (a : α) :
    (l.flatMap g).filter (k · = a) = if a ∈ l then g a else [] := by
  induction l with
  | nil => simp
  | cons b l ih =>
    obtain ⟨fresh, nodup⟩ := List.nodup_cons.1 nodup
    rw [List.flatMap_cons, List.filter_append, ih nodup]
    by_cases same : b = a
    · subst same
      have all : (g b).filter (k · = b) = g b :=
        List.filter_eq_self.2 fun c hc => decide_eq_true (own b c hc)
      rw [all, if_neg fresh, if_pos List.mem_cons_self, List.append_nil]
    · have none_left : (g b).filter (k · = a) = [] := by
        refine List.filter_eq_nil_iff.2 fun c hc => ?_
        rw [own b c hc, decide_eq_true_eq]
        exact same
      have mem_iff : a ∈ b :: l ↔ a ∈ l := by
        rw [List.mem_cons, or_iff_right (Ne.symm same)]
      rw [none_left, List.nil_append, if_congr mem_iff rfl rfl]

/-- Only items with the key give what is looked for. -/
theorem filter_filterMap_key {γ : Type} {l : List β} {k : β → α} {a : α} {g : β → Option γ}
    {f : γ → Bool} (only : ∀ b ∈ l, ∀ c, g b = some c → f c = true → k b = a) :
    (l.filterMap g).filter f = ((l.filter (k · = a)).filterMap g).filter f := by
  rw [List.filterMap_filter, List.filter_filterMap, List.filter_filterMap]
  refine List.filterMap_congr fun b mem => ?_
  by_cases own : k b = a
  · rw [if_pos (decide_eq_true own)]
  · rw [if_neg (by simpa using own), Option.filter_none, Option.filter_eq_none_iff]
    intro c given found
    exact own (only b mem c given found)

end Lists

namespace Delta

variable {old new : Snapshot} {p : RawPath} {d : Delta} {renames : List Pairing}

private theorem path_of_mem_atPath {a b : Option Entry} (mem : d ∈ atPath p a b) : d.path = p := by
  unfold atPath at mem
  split at mem
  · cases mem
  · rw [List.mem_singleton.1 mem, path]
  · rw [List.mem_singleton.1 mem, path]
  · split at mem
    · cases mem
    · split at mem
      · rw [List.mem_singleton.1 mem, path]
      · rcases List.mem_pair.1 mem with rfl | rfl <;> rfl

private theorem mem_foldl_insert {l : List RawPath} {m : Std.ExtTreeMap RawPath Unit} :
    p ∈ l.foldl (fun m q => m.insert q ()) m ↔ p ∈ l ∨ p ∈ m := by
  induction l generalizing m with
  | nil => simp
  | cons q l ih =>
    rw [List.foldl_cons, ih, Std.ExtTreeMap.mem_insert, Std.LawfulEqCmp.compare_eq_iff_eq,
      List.mem_cons, eq_comm, or_left_comm, or_assoc]

/-- What happens at a path is there once, and nothing else at that path. -/
theorem filter_between (old new : Snapshot) (p : RawPath) :
    (between old new).filter (·.path = p) = atPath p old[p]? new[p]? := by
  unfold between
  dsimp only
  rw [filter_flatMap_key (fun _ _ => path_of_mem_atPath) Std.ExtTreeMap.nodup_keys]
  split
  · rfl
  · rename_i absent
    rw [Std.ExtTreeMap.mem_keys, mem_foldl_insert, Std.ExtTreeMap.mem_keys] at absent
    rw [not_or, Std.ExtTreeMap.mem_map] at absent
    rw [Std.ExtTreeMap.getElem?_eq_none absent.1, Std.ExtTreeMap.getElem?_eq_none absent.2]
    rfl

theorem mem_between_iff : d ∈ between old new ↔ d ∈ atPath d.path old[d.path]? new[d.path]? := by
  rw [← filter_between, List.mem_filter, decide_eq_true_eq]
  exact (and_iff_left rfl).symm

section AtPath

variable {a b : Option Entry} {e e' : Entry}

theorem atPath_none_right (p : RawPath) (a : Option Entry) :
    atPath p a none = a.toList.map (deleted p) := by
  cases a <;> rfl

private theorem atPath_none_left (p : RawPath) (b : Option Entry) :
    atPath p none b = b.toList.map (added p) := by
  cases b <;> rfl

theorem atPath_self (p : RawPath) (e : Entry) : atPath p (some e) (some e) = [] := by
  rw [atPath, if_pos rfl]

theorem atPath_altered (p : RawPath) (changed : e ≠ e') (same : e.mode.sameType e'.mode = true) :
    atPath p (some e) (some e') = [modified p] := by
  rw [atPath, if_neg changed, if_pos same]

/-- Where no entry stays or is modified, the one before goes and the one after comes. -/
theorem atPath_replaced (p : RawPath) (apart : ∀ e e', a = some e → b = some e' →
    e.mode.sameType e'.mode = false) :
    atPath p a b = a.toList.map (deleted p) ++ b.toList.map (added p) := by
  cases a with
  | none => rw [atPath_none_left, Option.toList_none, List.map_nil, List.nil_append]
  | some e =>
    cases b with
    | none => rw [atPath_none_right, Option.toList_none, List.map_nil, List.append_nil]
    | some e' =>
      have types := apart e e' rfl rfl
      have changed : e ≠ e' := by
        rintro rfl
        rw [Mode.sameType_self] at types
        cases types
      rw [atPath, if_neg changed, if_neg (by rw [types]; exact Bool.false_ne_true)]
      rfl

theorem of_added_mem_atPath (mem : added p e ∈ atPath p a b) :
    b = some e ∧ atPath p a b = a.toList.map (deleted p) ++ [added p e] := by
  unfold atPath at mem ⊢
  split at mem
  · cases mem
  · cases List.mem_singleton.1 mem
    exact ⟨rfl, rfl⟩
  · cases List.mem_singleton.1 mem
  · split at mem
    · cases mem
    · split at mem
      · cases List.mem_singleton.1 mem
      · rename_i changed types
        rcases List.mem_pair.1 mem with same | same
        · cases same
        · cases same
          exact ⟨rfl, by simp [changed, types]⟩

theorem of_deleted_mem_atPath (mem : deleted p e ∈ atPath p a b) : a = some e := by
  unfold atPath at mem
  split at mem
  · cases mem
  · cases List.mem_singleton.1 mem
  · cases List.mem_singleton.1 mem
    rfl
  · split at mem
    · cases mem
    · split at mem
      · cases List.mem_singleton.1 mem
      · rcases List.mem_pair.1 mem with same | same
        · cases same
          rfl
        · cases same

private theorem renamed_notMem_atPath {source target : RawPath} :
    renamed source target ∉ atPath p a b := by
  intro mem
  unfold atPath at mem
  split at mem
  · cases mem
  · cases List.mem_singleton.1 mem
  · cases List.mem_singleton.1 mem
  · split at mem
    · cases mem
    · split at mem
      · cases List.mem_singleton.1 mem
      · rcases List.mem_pair.1 mem with same | same <;> cases same

end AtPath

/-- The change that is told of, once renames take the place of what they explain. -/
def told? (renames : List Pairing) : Delta → Option PathChange
  | added path _ =>
    match renames.find? (·.target = path) with
    | some p => some (.renamed (Repository.pathText p.source) (Repository.pathText path))
    | none => some (.added (Repository.pathText path))
  | deleted path _ =>
    if renames.any (·.source = path) then none else some (.deleted (Repository.pathText path))
  | d => some d.change

theorem map_change_rename (renames : List Pairing) (deltas : List Delta) :
    (rename renames deltas).map change = deltas.filterMap (told? renames) := by
  rw [rename, List.map_filterMap]
  congr 1
  funext d
  cases d with
  | added path e =>
    dsimp only [told?]
    cases renames.find? (·.target = path) <;> rfl
  | deleted path e =>
    dsimp only [told?]
    split <;> rfl
  | _ => rfl

end Delta

/-- The changes that leave a path in the child. -/
def arrivals (changes : List PathChange) (p : Path) : List PathChange :=
  changes.filter (·.childPath? = some p)

/-- The path that a change takes away from where it was. -/
def formerPath? : PathChange → Option Path
  | .deleted p => some p
  | .renamed s _ => some s
  | _ => none

/-- The changes that take a path away. -/
def departures (changes : List PathChange) (p : Path) : List PathChange :=
  changes.filter (formerPath? · = some p)

section Told

open Delta Repository

variable {old new : Snapshot} {renames : List Pairing} {d : Delta} {c : PathChange} {e e' : Entry}
  {p s : Path} {q : Pairing} {b : RawPath}

theorem told?_added (renames : List Pairing) (b : RawPath) (e : Entry) :
    ((∀ q ∈ renames, q.target ≠ b) ∧ told? renames (.added b e) = some (.added (pathText b))) ∨
      ∃ q ∈ renames, q.target = b ∧
        told? renames (.added b e) = some (.renamed (pathText q.source) (pathText b)) := by
  dsimp only [told?]
  cases search : renames.find? (·.target = b) with
  | none =>
    refine Or.inl ⟨fun q mem target => ?_, rfl⟩
    exact List.find?_eq_none.1 search q mem (decide_eq_true target)
  | some q =>
    have target : q.target = b := by simpa using List.find?_some search
    exact Or.inr ⟨q, List.mem_of_find?_eq_some search, target, rfl⟩

theorem told?_deleted (renames : List Pairing) (b : RawPath) (e : Entry) :
    ((∀ q ∈ renames, q.source ≠ b) ∧ told? renames (.deleted b e) = some (.deleted (pathText b))) ∨
      (∃ q ∈ renames, q.source = b) ∧ told? renames (.deleted b e) = none := by
  dsimp only [told?]
  split
  · rename_i found
    obtain ⟨q, mem, source⟩ := List.any_eq_true.1 found
    exact Or.inr ⟨⟨q, mem, of_decide_eq_true source⟩, rfl⟩
  · rename_i missing
    refine Or.inl ⟨fun q mem source => missing ?_, rfl⟩
    exact List.any_eq_true.2 ⟨q, mem, decide_eq_true source⟩

private theorem pathText_of_childPath? (told : told? renames d = some c)
    (child : c.childPath? = some p) :
    pathText d.path = p := by
  cases d with
  | added b e =>
    rcases told?_added renames b e with ⟨-, same⟩ | ⟨q, -, -, same⟩
    all_goals
      rw [same] at told
      cases told
      exact Option.some.inj child
  | deleted b e =>
    rcases told?_deleted renames b e with ⟨-, same⟩ | ⟨-, same⟩
    all_goals
      rw [same] at told
      cases told
    cases child
  | modified b =>
    cases told
    exact Option.some.inj child
  | renamed s t =>
    cases told
    exact Option.some.inj child

/-- A path is taken away by its deletion or by a rename that explains an addition. -/
theorem of_formerPath? (mem : d ∈ between old new) (told : told? renames d = some c)
    (former : formerPath? c = some p) :
    (pathText d.path = p ∧ ∃ e, d = .deleted d.path e ∧ ∀ q ∈ renames, q.source ≠ d.path) ∨
      ∃ q ∈ renames, q.target = d.path ∧ pathText q.source = p := by
  cases d with
  | added b e =>
    rcases told?_added renames b e with ⟨-, same⟩ | ⟨q, hq, target, same⟩
    all_goals
      rw [same] at told
      cases told
    · cases former
    · exact Or.inr ⟨q, hq, target, Option.some.inj former⟩
  | deleted b e =>
    rcases told?_deleted renames b e with ⟨apart, same⟩ | ⟨-, same⟩
    all_goals
      rw [same] at told
      cases told
    exact Or.inl ⟨Option.some.inj former, e, rfl, apart⟩
  | modified b =>
    cases told
    cases former
  | renamed s t => exact absurd (mem_between_iff.1 mem) renamed_notMem_atPath

section Texts

variable (texts : ∀ b, b ∈ old ∨ b ∈ new → IsText b)

include texts

theorem path_eq_iff (mem : d ∈ between old new) : pathText d.path = p ↔ d.path = bytes p := by
  refine pathText_eq_iff (texts d.path ?_)
  by_contra absent
  rw [not_or] at absent
  have nothing := mem_between_iff.1 mem
  rw [Std.ExtTreeMap.getElem?_eq_none absent.1, Std.ExtTreeMap.getElem?_eq_none absent.2] at nothing
  cases nothing

/-- What leaves a path in the child happens at that path. -/
theorem arrivals_eq (renames : List Pairing) (p : Path) :
    arrivals ((between old new).filterMap (told? renames)) p =
      arrivals ((atPath (bytes p) old[bytes p]? new[bytes p]?).filterMap (told? renames)) p := by
  rw [arrivals, filter_filterMap_key (k := Delta.path) (a := bytes p), filter_between]
  · rfl
  · intro d mem c told child
    exact (path_eq_iff texts mem).1 (pathText_of_childPath? told (of_decide_eq_true child))

variable (explains : Explains renames (between old new))

include explains

theorem source_eq_iff (mem : q ∈ renames) : pathText q.source = p ↔ q.source = bytes p := by
  obtain ⟨e, deletion, -⟩ := explains.deleted q mem
  exact path_eq_iff texts deletion

/-- A path is taken away only if its entry is deleted. -/
theorem departures_eq_nil (stays : ∀ e, .deleted (bytes p) e ∉ between old new) :
    departures ((between old new).filterMap (told? renames)) p = [] := by
  refine List.filter_eq_nil_iff.2 fun c hc former => ?_
  obtain ⟨d, mem, told⟩ := List.mem_filterMap.1 hc
  rcases of_formerPath? mem told (of_decide_eq_true former) with ⟨path, e, same, -⟩ | renamed
  · rw [(path_eq_iff texts mem).1 path] at same
    exact stays e (same ▸ mem)
  · obtain ⟨q, hq, -, source⟩ := renamed
    obtain ⟨e, deletion, -⟩ := explains.deleted q hq
    rw [(source_eq_iff texts explains hq).1 source] at deletion
    exact stays e deletion

/-- Without a rename, what takes a path away happens at that path. -/
theorem departures_eq (unmoved : ∀ q ∈ renames, q.source ≠ bytes p) :
    departures ((between old new).filterMap (told? renames)) p =
      departures ((atPath (bytes p) old[bytes p]? new[bytes p]?).filterMap (told? renames)) p := by
  rw [departures, filter_filterMap_key (k := Delta.path) (a := bytes p), filter_between]
  · rfl
  · intro d mem c told former
    rcases of_formerPath? mem told (of_decide_eq_true former) with ⟨path, -⟩ | renamed
    · exact (path_eq_iff texts mem).1 path
    · obtain ⟨q, hq, -, source⟩ := renamed
      exact absurd ((source_eq_iff texts explains hq).1 source) (unmoved q hq)

/-- With a rename, what takes a path away happens at the target. -/
theorem departures_eq_of_mem (mem : q ∈ renames) (source : q.source = bytes p) :
    departures ((between old new).filterMap (told? renames)) p =
      departures ((atPath q.target old[q.target]? new[q.target]?).filterMap (told? renames)) p := by
  rw [departures, filter_filterMap_key (k := Delta.path) (a := q.target), filter_between]
  · rfl
  · intro d hd c told former
    rcases of_formerPath? hd told (of_decide_eq_true former) with ⟨path, e, -, unmoved⟩ | renamed
    · exact absurd (source.trans ((path_eq_iff texts hd).1 path).symm) (unmoved q mem)
    · obtain ⟨q', hq', target, other⟩ := renamed
      have sources := source.trans ((source_eq_iff texts explains hq').1 other).symm
      rw [explains.apart q mem q' hq' (Pairing.rivals_iff.2 (Or.inl sources))]
      exact target.symm

end Texts

/-- A deletion leaves no path in the child. -/
theorem arrivals_deleted (l : List Entry) :
    arrivals ((l.map (.deleted b)).filterMap (told? renames)) p = [] := by
  refine List.filter_eq_nil_iff.2 fun c hc child => ?_
  obtain ⟨d, hd, told⟩ := List.mem_filterMap.1 hc
  obtain ⟨e, -, rfl⟩ := List.mem_map.1 hd
  rcases told?_deleted renames b e with ⟨-, same⟩ | ⟨-, same⟩
  all_goals
    rw [same] at told
    cases told
  cases of_decide_eq_true child

end Told

end Provenance.Git
