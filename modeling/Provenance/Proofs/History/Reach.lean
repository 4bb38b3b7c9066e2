import Provenance.Proofs.History.Walk

namespace Provenance

private theorem PathMap.isEmpty_atParent {m : PathMap} {changes : List PathChange}
    (empty : m.isEmpty = true) : (m.atParent changes).isEmpty = true := by
  rw [Std.ExtTreeMap.isEmpty_iff] at empty ⊢
  subst empty
  ext q f
  constructor
  · intro tracked
    obtain ⟨p, nothing, -⟩ := before_of_atParent tracked
    simp at nothing
  · intro nothing
    simp at nothing

namespace Walk

variable {h : History} {cancel : CancelAt} {start item : CommitId × PathMap} {v w : Walk}

theorem readable_of_expands {id : CommitId} {c : Commit}
    {changes : List (List PathChange)} (expands : Expands h id c changes) : h.Readable id := by
  refine ⟨c, expands.1, fun parent source => ?_⟩
  obtain ⟨cs, read, -⟩ := expands.forall_changes_iff.1 (fun _ _ => True.intro) parent source
  exact ⟨cs, read⟩

/-- The item is reached from the start through items that track something. -/
def Needed (h : History) (start : CommitId × PathMap) : CommitId × PathMap → Prop :=
  Relation.ReflTransGen (fun a b => a.2.isEmpty = false ∧ Leads h a b) start

def reached (h : History) (start : CommitId × PathMap) : Set (CommitId × PathMap) :=
  {item | Relation.ReflTransGen (Leads h) start item ∧ item.2.isEmpty = false}

/-- The maps that track something and with which routes from HEAD come to a commit. -/
def incoming (h : History) (head : CommitId) (files : List (Path × String)) (id : CommitId) :
    Set PathMap :=
  {m | (id, m) ∈ reached h (head, .identity (files.map (·.1)))}

private theorem Leads.tracks {a b : CommitId × PathMap} (leads : Leads h a b)
    (tracks : b.2.isEmpty = false) : a.2.isEmpty = false := by
  cases leads with
  | parent =>
    rw [← Bool.not_eq_true] at tracks ⊢
    exact fun empty => tracks (PathMap.isEmpty_atParent empty)

/-- An item that tracks nothing leads to no other that does. -/
theorem mem_reached_iff :
    item ∈ reached h start ↔ Needed h start item ∧ item.2.isEmpty = false := by
  constructor
  · rintro ⟨way, tracks⟩
    refine ⟨?_, tracks⟩
    induction way with
    | refl => exact .refl
    | tail _ leads ih =>
      have before := leads.tracks tracks
      exact (ih before).tail ⟨before, leads⟩
  · rintro ⟨needed, tracks⟩
    exact ⟨Relation.ReflTransGen.mono (fun _ _ step => step.2) _ _ needed, tracks⟩

/-- Whatever an item that is reached tracks lies on a lineage. -/
theorem lineage_of_reached
    {head : CommitId} {files : List (Path × String)}
    (way : Relation.ReflTransGen (Leads h) (head, .identity (files.map (·.1))) item) :
    ∀ p f : Path, item.2[p]? = some f → f ∈ files.map (·.1) ∧ Lineage h head f item.1 p := by
  induction way with
  | refl => exact fun _ _ tracked => lineage_of_identity tracked
  | tail _ leads ih => exact leads.lineage ih

/-- What holds of the items and lookups of a walk whenever it takes its next item. -/
structure Searched (h : History) (start : CommitId × PathMap) (w : Walk) : Prop where
  visited_nodup : w.visited.Nodup
  visited_track : ∀ item ∈ w.visited, item.2.isEmpty = false
  needed : ∀ item ∈ w.visited ++ w.work, Needed h start item
  lookups_eq : w.lookups = w.visited.reverse.flatMap (visitLookups h ·.1)
  succeeded : ∀ l ∈ w.lookups, l.failure? h = none

private theorem searched_init (h : History) (head : CommitId) (files : List (Path × String)) :
    Searched h (head, .identity (files.map (·.1))) (init head files) where
  visited_nodup := List.nodup_nil
  visited_track := by simp [init]
  needed := by
    intro item listed
    obtain rfl : item = (head, .identity (files.map (·.1))) := by simpa [init] using listed
    exact .refl
  lookups_eq := rfl
  succeeded := by simp [init]

theorem Searched.turn (searched : Searched h start w) (turn : Turn h w v) : Searched h start v := by
  have needed : ∀ item ∈ v.visited ++ v.work, Needed h start item := by
    intro item listed
    rcases turn.old_or_led listed with old | ⟨a, waiting, tracks, leads⟩
    · exact searched.needed item old
    · exact (searched.needed a (List.mem_append_right _ waiting)).tail ⟨tracks, leads⟩
  cases turn with
  | skip next known => exact { searched with needed }
  | @visit id paths rest c calls changes next tracks fresh found read =>
    have all : visitLookups h id = .commit id :: calls := by simp [visitLookups, found, read]
    refine ⟨List.nodup_cons.2 ⟨fresh, searched.visited_nodup⟩,
      List.forall_mem_cons.2 ⟨tracks, searched.visited_track⟩, needed, ?_, ?_⟩
    · simp [searched.lookups_eq, all]
    · rw [List.append_assoc]
      refine List.forall_mem_append.2 ⟨searched.succeeded, ?_⟩
      have readable := readable_of_expands ⟨found, forall₂_of_readChanges read⟩
      have succeed := visitLookups_succeed readable
      rwa [all] at succeed

theorem Pops.invariant {head : CommitId} {files : List (Path × String)}
    (pops : Pops h cancel head files w) : Invariant h head files w :=
  (invariant_init h head files).turns (Passes.turns pops)

theorem Pops.searched {head : CommitId} {files : List (Path × String)}
    (pops : Pops h cancel head files w) :
    Searched h (head, .identity (files.map (·.1))) w := by
  have turns := Passes.turns pops
  clear pops
  induction turns with
  | refl => exact searched_init h head files
  | tail _ turn ih => exact ih.turn turn

/-- With no work left, the visited items are those needed that track something. -/
theorem Searched.mem_visited_iff (searched : Searched h start w) (closed : Closed h start w)
    (empty : w.work = []) : item ∈ w.visited ↔ item ∈ reached h start := by
  rw [mem_reached_iff]
  constructor
  · intro visited
    exact ⟨searched.needed item (List.mem_append_left _ visited),
      searched.visited_track item visited⟩
  · rintro ⟨needed, tracks⟩
    have visited_of_seen : ∀ {item}, Seen w item → item.2.isEmpty = false → item ∈ w.visited := by
      intro item seen tracks
      rcases seen with nothing | visited | waiting
      · rw [tracks] at nothing
        cases nothing
      · exact visited
      · rw [empty] at waiting
        cases waiting
    refine visited_of_seen ?_ tracks
    induction needed with
    | refl => exact closed.start_seen
    | tail _ step ih =>
      obtain ⟨before, leads⟩ := step
      obtain ⟨c, changes, expands, seen⟩ :=
        closed.parents_seen _ (visited_of_seen (ih before) before)
      cases leads with
      | parent found mem read =>
        obtain rfl := expands.commit_eq_ok.1 found
        exact seen _ (expands.parentItems_mem mem read)

end Walk

end Provenance
