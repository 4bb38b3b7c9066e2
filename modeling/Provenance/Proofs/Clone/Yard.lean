import Mathlib.Data.List.Dedup
import Mathlib.Logic.Function.Basic
import Provenance.Proofs.Clone.Rooted
import Provenance.Proofs.Pipeline.Backpressure
import Provenance.Proofs.Pipeline.Directories

namespace Provenance

/-- A pipeline with the clone calls of its cloners and the files that these work on. -/
structure Yard where
  pipeline : Pipeline
  files : FileTree
  /-- The calls of the cloners; a cloner that is not in a call has one that has not begun. -/
  calls : Nat → CloneCall := fun _ => .called
  /-- The places of the directories that calls have made. -/
  claimed : List Place := []
  /-- The cloners for which git was started, the latest first. -/
  started : List Nat := []

namespace CloneCall

def starting : CloneCall → CloneCall → Bool
  | claimed _ _ _, running _ _ _ => true
  | _, _ => false

end CloneCall

namespace Yard

/-- An event happens in the pipeline; the directories of the clones that it drops are removed. -/
def happen (y : Yard) (q : Pipeline) : Yard :=
  { y with
    pipeline := q
    files := (y.pipeline.droppedSince q).foldl (fun t c => c.drop t) y.files }

def setCall (y : Yard) (i : Nat) (c : CloneCall) : Yard :=
  { y with calls := Function.update y.calls i c }

def advance (y : Yard) (i : Nat) (c : CloneCall) (files : FileTree) : Yard :=
  { y.setCall i c with
    files
    claimed := (y.calls i).making c ++ y.claimed
    started := (if (y.calls i).starting c then [i] else []) ++ y.started }

/-- What can happen next; others may change the files as `may` says. -/
inductive Next (cloner : GitCloner) (may : Yard → FileTree → Prop) (y : Yard) : Yard → Prop where
  | event (e q) : (∀ i o, e ≠ .cloned i o) → y.pipeline.step e = some q →
      Next cloner may y (y.happen q)
  | answer (i o q) : y.calls i = .returned o → y.pipeline.step (.cloned i o) = some q →
      Next cloner may y ((y.happen q).setCall i .called)
  | call (i d s c files) : y.pipeline.cloners[i]? = some ⟨.cloning d, s⟩ →
      CloneCall.Next cloner d y.pipeline.cancelled (y.calls i) y.files c files →
      Next cloner may y (y.advance i c files)
  | others (files) : may y files → Next cloner may y { y with files }

/-- The yards that some order of events leads to. -/
abbrev Reaches (cloner : GitCloner) (may : Yard → FileTree → Prop) : Yard → Yard → Prop :=
  Relation.ReflTransGen (Next cloner may)

/-- Where the clone root leads, past the directories that calls have made. -/
def LeadsTo (cloner : GitCloner) (y : Yard) : Place → Prop := cloner.LeadsPast y.claimed y.files

/-- Others make nothing again that a call has made and that is removed, and leave the clone root. -/
structure Harmless (cloner : GitCloner) (y : Yard) (files : FileTree) : Prop where
  spares : ∀ p ∈ y.claimed, y.files[p]? = none → files[p]? = none
  keeps : ∀ root, y.LeadsTo cloner root → LeadsTo cloner { y with files } root

/-- The directories that calls have made and that exist. -/
def standing (y : Yard) : List Place := y.claimed.dedup.filter fun p => (y.files[p]?).isSome

/-- A clone call of a cloner or the holder of a clone is to remove the directory at a place. -/
def Owned (y : Yard) (p : Place) : Prop :=
  (∃ i < y.pipeline.cloners.length, (y.calls i).target? = some p) ∨
    ∃ c ∈ y.pipeline.heldClones, c.clone.place = p

/-- A cloner that is not in a call, and did not break down in one, has none under way. -/
def Tidy (y : Yard) : Prop :=
  ∀ i w, y.pipeline.cloners[i]? = some w → y.calls i ≠ .called →
    w.state = .broken ∨ ∃ d, w.state = .cloning d

/-- What holds of every yard while others are harmless. -/
structure Sound (cloner : GitCloner) (y : Yard) : Prop where
  accounted : y.pipeline.Accounted
  tidy : y.Tidy
  rooted : ∀ i, (y.calls i).Rooted cloner (y.LeadsTo cloner)
  below : ∀ p ∈ y.claimed, ∃ root name, y.LeadsTo cloner root ∧ p = root ++ [name]
  ours : ∀ i p, (y.calls i).target? = some p → p ∈ y.claimed
  made : ∀ c ∈ y.pipeline.madeClones, c.clone.place ∈ y.claimed
  owned : ∀ p ∈ y.claimed, y.files[p]? ≠ none → y.Owned p

end Yard

theorem Clone.getElem?_of_drops {cs : List Clone} {t : FileTree} {p : Place}
    (there : (cs.foldl (fun t c => c.drop t) t)[p]? ≠ none) : t[p]? ≠ none := by
  induction cs generalizing t with
  | nil => exact there
  | cons c cs ih =>
    have before : (c.drop t)[p]? ≠ none := ih there
    rw [Clone.drop, FileTree.getElem?_removeAll] at before
    split at before
    · exact absurd rfl before
    · exact before

private theorem Clone.prune_drops {cs : List Clone} {t : FileTree} {ps : List Place}
    (ours : ∀ c ∈ cs, c.place ∈ ps) :
    FileTree.prune (cs.foldl (fun t c => c.drop t) t) ps = t.prune ps := by
  induction cs generalizing t with
  | nil => rfl
  | cons c cs ih =>
    rw [List.foldl_cons, ih fun c mem => ours c (List.mem_cons_of_mem _ mem)]
    exact FileTree.prune_removeAll (ours c List.mem_cons_self)

namespace Pipeline

variable {p q : Pipeline} {e : Event} {i : Nat} {c : HeldClone}

/-- The cloner is in a call, or it broke down in one. -/
def InCall (w : Seat Cloning) : Prop := w.state = .broken ∨ ∃ d, w.state = .cloning d

/-- A cloner leaves a call only when it returns. -/
theorem inCall_of_step {w' : Seat Cloning} (stepped : p.step e = some q)
    (goes : ∀ o, e ≠ .cloned i o) (found' : q.cloners[i]? = some w') :
    ∃ w, p.cloners[i]? = some w ∧ (InCall w → InCall w') := by
  obtain ⟨r, move, rfl⟩ := move_of_step stepped
  rw [reap_eq_with] at found'
  have set {j : Nat} {v v' : Seat Cloning} (found : p.cloners[j]? = some v)
      (found' : (p.cloners.set j v')[i]? = some w') (same : j = i → InCall v → InCall v') :
      ∃ w, p.cloners[i]? = some w ∧ (InCall w → InCall w') := by
    rcases getElem?_set_or found found' with ⟨rfl, rfl⟩ | kept
    · exact ⟨v, found, same rfl⟩
    · exact ⟨w', kept, id⟩
  cases move with
  | work work =>
    cases work with
    | clone found _ clones =>
      refine set found found' fun at_i busy => ?_
      subst at_i
      cases clones with
      | clone c => exact absurd rfl (goes _)
      | timeOut millis => exact absurd rfl (goes _)
      | fail cause => exact absurd rfl (goes _)
      | _ => rcases busy with broken | ⟨d, cloning⟩ <;> contradiction
    | _ => exact ⟨w', found', id⟩
  | quitCloning found quits =>
    refine set found found' fun at_i busy => ?_
    subst at_i
    cases quits with
    | interrupted => exact absurd rfl (goes _)
    | broke => exact .inl rfl
    | _ => rcases busy with broken | ⟨d, cloning⟩ <;> contradiction
  | _ => exact ⟨w', found', id⟩

private theorem madeClones_reap (p : Pipeline) : p.reap.madeClones = p.madeClones := by
  rw [madeClones, reap_eq_with]
  cases p.indexersDone with
  | false => rfl
  | true => simp [madeClones, List.flatMap_map, Happening.made]

/-- A clone is made when a call returns it. -/
theorem made_of_step (stepped : p.step e = some q) (made : c ∈ q.madeClones) :
    c ∈ p.madeClones ∨ ∃ i, e = .cloned i (.cloned c.clone) := by
  obtain ⟨r, move, rfl⟩ := move_of_step stepped
  have reaped : c ∈ r.madeClones := madeClones_reap r ▸ made
  have noted {notes : List Happening} (mem : c ∈ (p.journal ++ notes).flatMap Happening.made) :
      c ∈ p.madeClones ∨ c ∈ notes.flatMap Happening.made := by
    rwa [List.flatMap_append, List.mem_append] at mem
  cases move with
  | cancel => exact .inl reaped
  | work work =>
    cases work with
    | discover found discovers =>
      refine (noted reaped).imp_right fun new => ?_
      cases discovers <;> cases new
    | clone found queue clones =>
      refine (noted reaped).imp_right fun new => ?_
      cases clones with
      | clone c' => exact ⟨_, by rw [List.mem_singleton.1 new]⟩
      | _ => cases new
    | index found queue indexes =>
      refine (noted reaped).imp_right fun new => ?_
      cases indexes <;> cases new
  | quitDiscovering found quits => exact .inl reaped
  | quitCloning found quits =>
    refine (noted reaped).imp_right fun new => ?_
    cases quits <;> cases new
  | quitIndexing found quits =>
    refine (noted reaped).imp_right fun new => ?_
    cases quits <;> cases new

/-- A clone that a call returned is in the hands of the cloner. -/
theorem held_of_cloned {c : Clone} (stepped : p.step (.cloned i (.cloned c)) = some q) :
    ⟨p.made, c⟩ ∈ q.heldClones := by
  obtain ⟨r, happened, rfl⟩ := Option.map_eq_some_iff.1 stepped
  obtain ⟨⟨state, s⟩, found, answered⟩ := Option.bind_eq_some_iff.1 happened
  cases state <;> cases answered
  rw [mem_held_iff_holding]
  refine ⟨.cloner i, ?_⟩
  rw [reap_eq_with]
  simp [holding?, note, setCloner, Cloning.take, Cloning.held?,
    List.getElem?_set_self (List.getElem?_eq_some_iff.1 found).1]

/-- A clone that is held is held on, or an event drops it. -/
theorem held_or_dropped (accounted : p.Accounted) (stepped : p.step e = some q)
    (held : c ∈ p.heldClones) : c ∈ q.heldClones ∨ c.clone ∈ p.droppedSince q := by
  obtain ⟨made, kept⟩ := accounted.mem_held_iff.1 held
  have grown := journal_of_step stepped
  obtain ⟨new, split, since⟩ := dropped_of_grown grown
  have made' : c ∈ q.madeClones := by
    obtain ⟨notes, whole⟩ := grown
    rw [madeClones, ← whole, List.flatMap_append]
    exact List.mem_append_left _ made
  by_cases dropped : c ∈ q.droppedClones
  · rw [split] at dropped
    right
    rw [since]
    exact List.mem_map_of_mem ((List.mem_append.1 dropped).resolve_left kept)
  · exact .inl ((accounted.step stepped).mem_held_iff.2 ⟨made', dropped⟩)

end Pipeline

namespace Yard

variable {cloner : GitCloner} {may : Yard → FileTree → Prop} {y z : Yard} {e : Event}
  {q : Pipeline}

@[simp] theorem setCall_self (y : Yard) (i : Nat) (c : CloneCall) : (y.setCall i c).calls i = c :=
  Function.update_self ..

theorem setCall_of_ne {i j : Nat} {c : CloneCall} (other : j ≠ i) :
    (y.setCall i c).calls j = y.calls j :=
  Function.update_of_ne other ..

/-- An event that leaves a directory leaves it with its owner. -/
theorem Sound.owned_of_happen {p : Place} (sound : y.Sound cloner)
    (stepped : y.pipeline.step e = some q) (mem : p ∈ y.claimed)
    (there : (y.happen q).files[p]? ≠ none) :
    (∃ i < q.cloners.length, (y.calls i).target? = some p) ∨
      ∃ c ∈ q.heldClones, c.clone.place = p := by
  have seats := (Pipeline.seats_of_step stepped).1
  rcases sound.owned p mem (Clone.getElem?_of_drops there) with ⟨i, inside, target⟩ | ⟨c, held, rfl⟩
  · exact .inl ⟨i, seats ▸ inside, target⟩
  · rcases Pipeline.held_or_dropped sound.accounted stepped held with still | dropped
    · exact .inr ⟨c, still, rfl⟩
    · exact absurd (Clone.bare_drops dropped y.files _ List.prefix_rfl) there

/-- The directory of every clone that was made is one that a call has made. -/
theorem Sound.made_of_step (sound : y.Sound cloner) (stepped : y.pipeline.step e = some q)
    (returned : ∀ i c, e = .cloned i (.cloned c) → (y.calls i).target? = some c.place) :
    ∀ c ∈ q.madeClones, c.clone.place ∈ y.claimed := by
  intro c made
  rcases Pipeline.made_of_step stepped made with before | ⟨i, same⟩
  · exact sound.made c before
  · exact sound.ours i _ (returned i _ same)

/-- Dropping clones changes nothing past the directories of calls. -/
theorem Sound.prune_happen (sound : y.Sound cloner) (stepped : y.pipeline.step e = some q)
    (made : ∀ c ∈ q.madeClones, c.clone.place ∈ y.claimed) :
    (y.happen q).files.prune y.claimed = y.files.prune y.claimed := by
  obtain ⟨new, split, since⟩ := Pipeline.dropped_of_grown (Pipeline.journal_of_step stepped)
  have ours : ∀ c ∈ y.pipeline.droppedSince q, c.place ∈ y.claimed := by
    intro c mem
    rw [since] at mem
    obtain ⟨held, recent, rfl⟩ := List.mem_map.1 mem
    have dropped : held ∈ q.droppedClones := split ▸ List.mem_append_right _ recent
    refine made held ?_
    exact (sound.accounted.step stepped).made_perm.mem_iff.2 (List.mem_append_right _ dropped)
  exact Clone.prune_drops ours

/-- Dropping clones does not move the clone root. -/
theorem Sound.leadsTo_happen (sound : y.Sound cloner) (stepped : y.pipeline.step e = some q)
    (made : ∀ c ∈ q.madeClones, c.clone.place ∈ y.claimed) :
    (y.happen q).LeadsTo cloner = y.LeadsTo cloner := by
  funext root
  exact congrArg (fun t => FileTree.Leads t (Place.ofText cloner.root) root)
    (sound.prune_happen stepped made)

private theorem Sound.event (sound : y.Sound cloner) (goes : ∀ i o, e ≠ .cloned i o)
    (stepped : y.pipeline.step e = some q) : (y.happen q).Sound cloner := by
  have made := sound.made_of_step stepped fun i c same => absurd same (goes i _)
  have still := sound.leadsTo_happen stepped made
  refine ⟨sound.accounted.step stepped, fun i w' found' under_way => ?_, ?_, ?_, sound.ours, made,
    fun p mem there => ?_⟩
  · obtain ⟨w, found, kept⟩ := Pipeline.inCall_of_step stepped (goes i) found'
    exact kept (sound.tidy i w found under_way)
  · rw [still]
    exact sound.rooted
  · rw [still]
    exact sound.below
  · exact sound.owned_of_happen stepped mem there

private theorem Sound.answer {i : Nat} {o : CloneOutcome} (sound : y.Sound cloner)
    (returned : y.calls i = .returned o) (stepped : y.pipeline.step (.cloned i o) = some q) :
    Sound cloner ((y.happen q).setCall i .called) := by
  have made := sound.made_of_step stepped fun j c same => by
    cases same
    rw [returned]
    rfl
  have still : ((y.happen q).setCall i .called).LeadsTo cloner = y.LeadsTo cloner :=
    sound.leadsTo_happen stepped made
  have idle : ((y.happen q).setCall i .called).calls i = .called := setCall_self _ _ _
  have rest {j : Nat} (other : j ≠ i) :
      ((y.happen q).setCall i .called).calls j = y.calls j := setCall_of_ne other
  refine ⟨sound.accounted.step stepped, fun j w' found' under_way => ?_, fun j => ?_, ?_,
    fun j p target => ?_, made, fun p mem there => ?_⟩
  · have other : j ≠ i := by
      rintro rfl
      exact under_way idle
    have goes : ∀ o', Event.cloned i o ≠ .cloned j o' := by
      intro o' same
      cases same
      exact other rfl
    rw [rest other] at under_way
    obtain ⟨w, found, kept⟩ := Pipeline.inCall_of_step stepped goes found'
    exact kept (sound.tidy j w found under_way)
  · rw [still]
    by_cases other : j = i
    · rw [other, idle]
      trivial
    · rw [rest other]
      exact sound.rooted j
  · rw [still]
    exact sound.below
  · by_cases other : j = i
    · rw [other, idle] at target
      cases target
    · rw [rest other] at target
      exact sound.ours j p target
  · rcases sound.owned_of_happen stepped mem there with ⟨j, inside, target⟩ | held
    · by_cases other : j = i
      · -- The call hands its clone to the cloner.
        rw [other, returned] at target
        cases o <;> cases target
        exact .inr ⟨_, Pipeline.held_of_cloned stepped, rfl⟩
      · exact .inl ⟨j, inside, (congrArg _ (rest other)).trans target⟩
    · exact .inr held

private theorem Sound.advance {i : Nat} {d : Descriptor} {s : HarvestStats} {c : CloneCall}
    {files : FileTree} (sound : y.Sound cloner)
    (found : y.pipeline.cloners[i]? = some ⟨.cloning d, s⟩)
    (next : CloneCall.Next cloner d y.pipeline.cancelled (y.calls i) y.files c files) :
    (y.advance i c files).Sound cloner := by
  have self : (y.advance i c files).calls i = c := setCall_self y i c
  have rest {j : Nat} (other : j ≠ i) : (y.advance i c files).calls j = y.calls j :=
    setCall_of_ne other
  have leads : y.claimed ≠ [] → ∃ root, y.LeadsTo cloner root := by
    intro some_claim
    obtain ⟨p, mem⟩ := List.exists_mem_of_ne_nil _ some_claim
    obtain ⟨root, -, leads, -⟩ := sound.below p mem
    exact ⟨root, leads⟩
  have keeps (root : Place) (before : y.LeadsTo cloner root) :
      (y.advance i c files).LeadsTo cloner root :=
    CloneCall.leadsPast_of_next next (sound.rooted i) (sound.ours i) before
  have rooted : c.Rooted cloner ((y.advance i c files).LeadsTo cloner) :=
    CloneCall.rooted_of_next next (sound.rooted i) (sound.ours i) leads
  have ours : ∀ p, c.target? = some p → p ∈ (y.advance i c files).claimed :=
    CloneCall.ours_of_next next (sound.ours i)
  refine ⟨sound.accounted, fun j w found' under_way => ?_, fun j => ?_, fun p mem => ?_,
    fun j p target => ?_, fun c made => List.mem_append_right _ (sound.made c made),
    fun p mem there => ?_⟩
  · by_cases other : j = i
    · subst other
      cases found.symm.trans found'
      exact .inr ⟨d, rfl⟩
    · rw [rest other] at under_way
      exact sound.tidy j w found' under_way
  · by_cases other : j = i
    · rw [other, self]
      exact rooted
    · rw [rest other]
      exact (sound.rooted j).mono keeps
  · rcases List.mem_append.1 mem with new | old
    · obtain ⟨root, name, below, rfl, -⟩ := CloneCall.exists_of_mem_making new rooted
      exact ⟨root, name, below, rfl⟩
    · obtain ⟨root, name, before, rfl⟩ := sound.below p old
      exact ⟨root, name, keeps root before, rfl⟩
  · by_cases other : j = i
    · rw [other, self] at target
      exact ours p target
    · rw [rest other] at target
      exact List.mem_append_right _ (sound.ours j p target)
  · have mine (target : c.target? = some p) : (y.advance i c files).Owned p :=
      .inl ⟨i, (List.getElem?_eq_some_iff.1 found).1, by rw [self, target]⟩
    rcases List.mem_append.1 mem with new | old
    · obtain ⟨-, -, -, -, target⟩ := CloneCall.exists_of_mem_making new rooted
      exact mine target
    · -- The step can only have made or removed the directory of its own call.
      obtain ⟨root, name, before, rfl⟩ := sound.below p old
      rcases CloneCall.there_of_next next (sound.rooted i) before there with
        target | ⟨there, apart⟩
      · exact mine target
      · rcases sound.owned _ old there with ⟨j, inside, target⟩ | held
        · have other : j ≠ i := by
            rintro rfl
            exact apart target
          exact .inl ⟨j, inside, rest other ▸ target⟩
        · exact .inr held

/-- Whatever else happens the directories have owners, as long as others are harmless. -/
theorem Sound.next (sound : y.Sound cloner) (next : Next cloner (Harmless cloner) y z) :
    z.Sound cloner := by
  cases next with
  | event e q goes stepped => exact sound.event goes stepped
  | answer i o q returned stepped => exact sound.answer returned stepped
  | call i d s c files found next => exact sound.advance found next
  | others files harmless =>
    exact { sound with
      rooted := fun i => (sound.rooted i).mono harmless.keeps
      below := fun p mem => by
        obtain ⟨root, name, before, rfl⟩ := sound.below p mem
        exact ⟨root, name, harmless.keeps root before, rfl⟩
      owned := fun p mem there =>
        sound.owned p mem fun none => there (harmless.spares p mem none) }

theorem sound_start {n cloners indexers room room' : Nat} (files : FileTree) :
    Sound cloner ⟨.idle n cloners indexers room room', files, fun _ => .called, [], []⟩ where
  accounted := Pipeline.accounted_idle _ _ _ _ _
  tidy _ _ _ under_way := absurd rfl under_way
  rooted _ := trivial
  below := nofun
  ours := nofun
  made := nofun
  owned := nofun

theorem Reaches.sound (run : Reaches cloner (Harmless cloner) y z) (sound : y.Sound cloner) :
    z.Sound cloner := by
  induction run with
  | refl => exact sound
  | tail _ next ih => exact ih.next next

private theorem Reaches.pipeline (run : Reaches cloner may y z) :
    y.pipeline.Reaches z.pipeline := by
  induction run with
  | refl => exact .refl
  | tail _ next ih =>
    cases next with
    | event e q _ stepped => exact ih.step stepped
    | answer i o q _ stepped => exact ih.step stepped
    | call => exact ih
    | others => exact ih

/-- The directory that a cloner has made in a call, or that of the clone it holds. -/
def cloneOf? (y : Yard) (i : Nat) : Option Place :=
  (y.calls i).target?.or
    ((y.pipeline.cloners[i]?.bind (·.state.held?)).map fun c => c.clone.place)

/-- All directories that somebody is to remove. -/
def owned (y : Yard) : List Place :=
  (List.range y.pipeline.cloners.length).filterMap y.cloneOf? ++
    y.pipeline.indexQueue.map (fun c => c.clone.place) ++
    (y.pipeline.indexers.filterMap (·.state.held?)).map fun c => c.clone.place

theorem length_owned_le (y : Yard) : y.owned.length ≤
    y.pipeline.cloners.length + y.pipeline.indexQueue.length + y.pipeline.indexers.length := by
  have cloners := List.length_filterMap_le y.cloneOf? (List.range y.pipeline.cloners.length)
  have indexers := List.length_filterMap_le (fun w : Seat Indexing => w.state.held?)
    y.pipeline.indexers
  simp only [owned, List.length_append, List.length_map, List.length_range] at cloners ⊢
  omega

private theorem Owned.mem {p : Place} (owned : y.Owned p) (tidy : y.Tidy) : p ∈ y.owned := by
  unfold Yard.owned
  rw [List.append_assoc]
  rcases owned with ⟨i, inside, target⟩ | ⟨c, held, rfl⟩
  · refine List.mem_append_left _ (List.mem_filterMap.2 ⟨i, List.mem_range.2 inside, ?_⟩)
    rw [cloneOf?, target, Option.some_or]
  · rw [Pipeline.heldClones, List.append_assoc] at held
    rcases List.mem_append.1 held with cloners | rest
    · obtain ⟨w, mem, holds⟩ := List.mem_filterMap.1 cloners
      obtain ⟨i, found⟩ := List.mem_iff_getElem?.1 mem
      have returned : y.calls i = .called := by
        by_contra under_way
        rcases tidy i w found under_way with broken | ⟨d, cloning⟩
        · rw [broken] at holds; cases holds
        · rw [cloning] at holds; cases holds
      refine List.mem_append_left _ (List.mem_filterMap.2 ⟨i, ?_, ?_⟩)
      · exact List.mem_range.2 (List.getElem?_eq_some_iff.1 found).1
      · simp [cloneOf?, returned, CloneCall.target?, found, holds]
    · refine List.mem_append_right _ ?_
      rcases List.mem_append.1 rest with queued | indexers
      · exact List.mem_append_left _ (List.mem_map_of_mem queued)
      · exact List.mem_append_right _ (List.mem_map_of_mem indexers)

private theorem Sound.standing_le (sound : y.Sound cloner) : y.standing.length ≤
    y.pipeline.cloners.length + y.pipeline.indexQueue.length + y.pipeline.indexers.length := by
  have inside : y.standing ⊆ y.owned := by
    intro p mem
    obtain ⟨claimed, there⟩ := List.mem_filter.1 mem
    refine (sound.owned p (List.mem_dedup.1 claimed) ?_).mem sound.tidy
    exact Option.isSome_iff_ne_none.1 there
  have apart : y.standing.Nodup := (List.nodup_dedup _).filter _
  exact (apart.subperm inside).length_le.trans (length_owned_le y)

/-- A call that runs alone, with no other step between its own, returns what the program gives. -/
theorem Reaches.of_clone {σ : Type} {git : GitProgram σ} (confined : git.Confined) {d : Descriptor}
    {i : Nat} {s : HarvestStats} (found : y.pipeline.cloners[i]? = some ⟨.cloning d, s⟩)
    (begins : y.calls i = .called) (t : σ) : ∃ z, Reaches cloner may y z ∧
      z.pipeline = y.pipeline ∧
      z.calls i = .returned (cloner.clone git d y.pipeline.cancelled y.files t).outcome ∧
      z.files = (cloner.clone git d y.pipeline.cancelled y.files t).files := by
  have lift (b : CloneCall × FileTree)
      (steps : CloneCall.Steps cloner d y.pipeline.cancelled (.called, y.files) b) :
      ∃ z, Reaches cloner may y z ∧ z.pipeline = y.pipeline ∧ z.calls i = b.1 ∧ z.files = b.2 := by
    induction steps with
    | refl => exact ⟨y, .refl, rfl, begins, rfl⟩
    | @tail b c _ next ih =>
      obtain ⟨z, run, same, call, files⟩ := ih
      rw [← same, ← call, ← files] at next
      exact ⟨z.advance i c.1 c.2, run.tail (.call i d s c.1 c.2 (same ▸ found) next), same,
        setCall_self z i c.1, rfl⟩
  exact lift _ (CloneCall.steps_of_clone confined cloner d _ y.files t)

/-- Whatever disturbs a pipeline: of the descriptors that the clone queue accepted at most as many
wait for the end of their clone call as the queue has room for and there are cloners; of the clones
that were made at most as many wait for the end of indexing as the index queue has room for and
there are cloners and indexers, those counted too that still store units; and at most as many of the
directories that the clone calls of a run have made exist, as long as others neither make them again
nor take away the clone root. A call that runs alone does there what the program does. -/
theorem backlog_le {settings : Pipeline.Settings} {n : Nat} {files files' : FileTree}
    {p : Pipeline} (started : Pipeline.start settings n files = .ok (p, files')) :
    (∀ q, p.Reaches q →
      q.journal.countP Happening.isQueued ≤
        q.journal.countP Happening.isCloneEnd + settings.cloneCapacity + settings.cloners ∧
      q.journal.countP Happening.isCloned + q.indexers.countP (·.state.isStoring) ≤
        q.journal.countP Happening.isIndexed + settings.indexCapacity + settings.cloners +
          settings.indexers) ∧
    (∀ (cloner : GitCloner) (y : Yard),
      Reaches cloner (Harmless cloner) { pipeline := p, files := files' } y →
        p.Reaches y.pipeline ∧
        y.standing.length ≤ settings.indexCapacity + settings.cloners + settings.indexers) ∧
    ∀ (cloner : GitCloner) (y : Yard) (σ : Type) (git : GitProgram σ) i d s t, git.Confined →
      y.pipeline.cloners[i]? = some ⟨.cloning d, s⟩ → y.calls i = .called →
        ∃ z, Reaches cloner (Harmless cloner) y z ∧ z.pipeline = y.pipeline ∧
          z.calls i = .returned (cloner.clone git d y.pipeline.cancelled y.files t).outcome ∧
          z.files = (cloner.clone git d y.pipeline.cancelled y.files t).files := by
  obtain ⟨-, -, rfl⟩ := Pipeline.idle_of_start started
  refine ⟨fun q run => ⟨run.queued_le, run.cloned_le⟩, fun cloner y run => ?_,
    fun cloner y σ git i d s t confined found begins => Reaches.of_clone confined found begins t⟩
  have sound := run.sound (sound_start files')
  have run := run.pipeline
  refine ⟨run, ?_⟩
  have standing := sound.standing_le
  have seats := run.seats
  have capacity := run.capacity.2
  have queue := (run.covers Burden.kept_fair).2.indexQueue
  simp only [Pipeline.idle, List.length_replicate] at seats capacity
  omega

private theorem vacant_root (p : Place) : (∅ : FileTree)[p]? = none :=
  Std.ExtTreeMap.getElem?_empty

private theorem fit_root : FileTree.Fit "c" := ⟨by decide, by decide, by decide⟩

private theorem prepare_root : GitCloner.prepare ⟨"c", 1000, 2⟩ ∅ =
    .ok ((∅ : FileTree).insert ["c"] .directory, ["c"]) := by
  have text : Place.ofText "c" = [] ++ ["c"] := by decide
  have makes := FileTree.makeDirectory_of_paved (FileTree.paved_nil ∅) fit_root (by decide)
    (vacant_root _)
  have followed := FileTree.follow_of_paved (n := 39)
    (FileTree.paved_nil ((∅ : FileTree).insert ["c"] .directory)) fit_root
    (by simp)
  rw [GitCloner.prepare, text, FileTree.makeDirectories, makes]
  simp only [bind, Except.bind, FileTree.trying, FileTree.mostLinks, List.nil_append] at followed ⊢
  rw [followed]
  rfl

private theorem step_root : Claim.step { root := Place.ofText "c", base := Claim.baseName "a/b" 0 }
    ((∅ : FileTree).insert ["c"] .directory) =
      .claimed (((∅ : FileTree).insert ["c"] .directory).insert (["c"] ++ ["a-b-0"]) .directory)
        "a-b-0" := by
  have text : Place.ofText "c" = ["c"] := by decide
  have base : Claim.baseName "a/b" 0 = "a-b-0" := by decide +kernel
  have paved : FileTree.Paved ((∅ : FileTree).insert ["c"] .directory) ["c"] :=
    (FileTree.paved_nil _).push (p := []) fit_root (by simp)
  have fit : FileTree.Fit "a-b-0" := ⟨by decide, by decide, by decide⟩
  have makes := FileTree.makeDirectory_of_paved paved fit (by decide)
    (by rw [FileTree.getElem?_insert, if_neg (by decide), vacant_root])
  rw [text, base]
  simp only [Claim.step, Claim.place, Claim.name, if_true, makes]

private theorem standing_root (claimed : y.claimed = [["c", "a-b-0"]])
    (made : y.files[["c", "a-b-0"]]? = some .directory) : y.standing = [["c", "a-b-0"]] := by
  have single : [["c", "a-b-0"]].dedup = [["c", "a-b-0"]] :=
    List.dedup_eq_self.2 (List.nodup_singleton _)
  rw [standing, claimed, single]
  exact List.filter_cons_of_pos (by rw [made]; rfl)

/-- A cloner has made the directory of its first clone and is about to start git. -/
theorem backlog_le_first : ∃ y, Reaches ⟨"c", 1000, 2⟩ (Harmless ⟨"c", 1000, 2⟩)
    { pipeline := .idle 1 1 1 5000 10, files := ∅ } y ∧ y.standing = [["c", "a-b-0"]] ∧
      y.pipeline.journal.countP Happening.isQueued = 1 ∧ y.standing.length ≤ 10 + 1 + 1 := by
  let cloner : GitCloner := ⟨"c", 1000, 2⟩
  let d : Descriptor := .announce "https://github.com/a/b" "a/b" .github 1
  have goes (w : WorkerId) (i : Nat) (o : CloneOutcome) : Event.advance w ≠ .cloned i o := by
    intro same
    cases same
  have goes' (i : Nat) (o : CloneOutcome) : Event.produced 0 (.ok (some [d])) ≠ .cloned i o := by
    intro same
    cases same
  have start : Reaches cloner (Harmless cloner)
    { pipeline := .idle 1 1 1 5000 10, files := ∅ } _ := .refl
  have asked := start.tail (.event (.advance (.discoverer 0)) _ (goes _) rfl)
  have found := asked.tail (.event (.produced 0 (.ok (some [d]))) _ goes' rfl)
  have sent := found.tail (.event (.advance (.discoverer 0)) _ (goes _) rfl)
  have received := sent.tail (.event (.advance (.cloner 0)) _ (goes _) rfl)
  have ready := received.tail (.call 0 d {} _ _ rfl (.prepare _ ["c"] 0 rfl prepare_root))
  have claimed := ready.tail (.call 0 d {} _ _ rfl (.make _ "a-b-0" step_root))
  have started : Pipeline.start {} 1 ∅ = .ok (.idle 1 1 1 5000 10, ∅) := rfl
  have law := (backlog_le started).2.1 cloner _ claimed
  have made : (((∅ : FileTree).insert ["c"] .directory).insert (["c"] ++ ["a-b-0"])
      .directory)[["c", "a-b-0"]]? = some .directory := FileTree.getElem?_insert.trans (if_pos rfl)
  exact ⟨_, claimed, standing_root rfl made, rfl, law.2⟩

end Yard

end Provenance
