import Provenance.Proofs.Pipeline.Progress

namespace Provenance

/-- A queue accepted something or gave something out. -/
def Happening.isPassage : Happening → Bool
  | queued _ => true
  | handed _ => true
  | cloning _ => true
  | indexing _ => true
  | _ => false

/-- A call of a discoverer, a cloner or an indexer returned. -/
def Event.isAnswer : Event → Bool
  | produced _ _ => true
  | cloned _ _ => true
  | indexed _ _ => true
  | _ => false

def Event.isStore : Event → Bool
  | parsed _ _ _ => true
  | _ => false

def stepsOf (w : WorkerId) (es : List Event) : List Event := es.filter fun e => e.worker? = some w

def Discovering.isCalling : Discovering → Bool
  | producing => true
  | _ => false

def Cloning.isCalling : Cloning → Bool
  | cloning _ => true
  | _ => false

/-- The worker is in an index call or in one of the parser. -/
def Indexing.isCalling : Indexing → Bool
  | indexing _ => true
  | parsing _ _ => true
  | _ => false

/-- What the `i`-th discoverer still does. -/
inductive Discovering.Winds (i : Nat) :
    Event → Seat Discovering → List Happening → Seat Discovering → Prop where
  | look {s} : Winds i (.advance (.discoverer i)) ⟨.ready, s⟩ [] ⟨.stopped, s⟩
  | answer {s} (result : Produced) :
      Winds i (.produced i result) ⟨.producing, s⟩ [.produced i result] ⟨.take result, s⟩
  | refuse {s d rest} : Winds i (.advance (.discoverer i)) ⟨.sending d rest, s⟩ [] ⟨.stopped, s⟩
  | rest {s why} : Winds i (.rested i) ⟨.pausing why, s⟩ [.paused i why] ⟨.ready, s⟩
  | broke {s} : Winds i (.broke (.discoverer i)) ⟨.producing, s⟩ [] ⟨.broken, s⟩

/-- What the `i`-th cloner still does. -/
inductive Cloning.Winds (i : Nat) :
    Event → Seat Cloning → List Happening → Seat Cloning → Prop where
  | look {s} : Winds i (.advance (.cloner i)) ⟨.receiving, s⟩ [] ⟨.stopped, s⟩
  | clone {s s' d} (c : HeldClone) :
      Winds i (.cloned i (.cloned c.clone)) ⟨.cloning d, s⟩ [.cloned c] ⟨.handing c, s'⟩
  | discard {s s' d} (o : CloneOutcome) :
      Winds i (.cloned i o) ⟨.cloning d, s⟩ [.notCloned d] ⟨.receiving, s'⟩
  | interrupted {s d} : Winds i (.cloned i .cancelled) ⟨.cloning d, s⟩ [] ⟨.stopped, s⟩
  | refuse {s c} : Winds i (.advance (.cloner i)) ⟨.handing c, s⟩ [.dropped c] ⟨.stopped, s⟩
  | broke {s d} : Winds i (.broke (.cloner i)) ⟨.cloning d, s⟩ [] ⟨.broken, s⟩

/-- What the `i`-th indexer still does. -/
inductive Indexing.Winds (i : Nat) :
    Event → Seat Indexing → List Happening → Seat Indexing → Prop where
  | look {s} : Winds i (.advance (.indexer i)) ⟨.receiving, s⟩ [] ⟨.stopped, s⟩
  | report {s s' c} (report : IndexReport) :
      Winds i (.indexed i (.ok report)) ⟨.indexing c, s⟩ [.indexed c (.ok report), .dropped c]
        ⟨.storing report.units, s'⟩
  | fail {s s' c} (e : IndexError) :
      Winds i (.indexed i (.error e)) ⟨.indexing c, s⟩ [.indexed c (.error e), .dropped c]
        ⟨.receiving, s'⟩
  /-- The units that are left, if any, are given up. -/
  | leave {s s' units} : Winds i (.advance (.indexer i)) ⟨.storing units, s⟩ [] ⟨.receiving, s'⟩
  | parse {s s' u u' rest} (symbols : Symbols) (result : Except ParseError Unit) :
      Winds i (.parsed i symbols result) ⟨.parsing u rest, s⟩ [.inserting u']
        ⟨.inserting u' rest, s'⟩
  | insert {s s' u rest} (result : Except StoreError Unit) :
      Winds i (.inserted i result) ⟨.inserting u rest, s⟩ [] ⟨.storing rest, s'⟩
  | brokeIndexing {s c} :
      Winds i (.broke (.indexer i)) ⟨.indexing c, s⟩ [.dropped c] ⟨.broken, s⟩
  | brokeParsing {s u rest} :
      Winds i (.broke (.indexer i)) ⟨.parsing u rest, s⟩ [] ⟨.broken, s⟩
  | brokeInserting {s u rest} :
      Winds i (.broke (.indexer i)) ⟨.inserting u rest, s⟩ [] ⟨.broken, s⟩

/-- Events of a worker that are counted, and how many of them the state of a worker allows. -/
structure Countdown where
  counts : Event → Bool
  discoverer : Discovering → Nat
  cloner : Cloning → Nat
  indexer : Indexing → Nat

namespace Countdown

/-- What a rank of states leaves to the worker in a seat. -/
def leftIn {α : Type} (rank : α → Nat) (seats : List (Seat α)) (i : Nat) : Nat :=
  (seats[i]?.map fun a => rank a.state).getD 0

def left (c : Countdown) (p : Pipeline) : WorkerId → Nat
  | .discoverer i => leftIn c.discoverer p.discoverers i
  | .cloner i => leftIn c.cloner p.cloners i
  | .indexer i => leftIn c.indexer p.indexers i

/-- What a worker does is counted off from what is left to it. -/
structure Fair (c : Countdown) : Prop where
  discoverer : ∀ {i e a notes b}, Discovering.Winds i e a notes b →
    (c.counts e).toNat + c.discoverer b.state ≤ c.discoverer a.state
  cloner : ∀ {i e a notes b}, Cloning.Winds i e a notes b →
    (c.counts e).toNat + c.cloner b.state ≤ c.cloner a.state
  indexer : ∀ {i e a notes b}, Indexing.Winds i e a notes b →
    (c.counts e).toNat + c.indexer b.state ≤ c.indexer a.state

/-- The steps of a worker until it is done. -/
def steps : Countdown where
  counts _ := true
  discoverer
    | .ready => 1
    | .producing => 3
    | .sending _ _ => 1
    | .pausing _ => 2
    | .stopped => 0
    | .broken => 0
  cloner
    | .receiving => 1
    | .cloning _ => 2
    | .handing _ => 1
    | .stopped => 0
    | .broken => 0
  indexer
    | .receiving => 1
    | .indexing _ => 3
    | .storing _ => 2
    | .parsing _ _ => 4
    | .inserting _ _ => 3
    | .stopped => 0
    | .broken => 0

/-- The calls of discoverers, cloners and indexers that return. -/
def answers : Countdown where
  counts := Event.isAnswer
  discoverer
    | .producing => 1
    | _ => 0
  cloner
    | .cloning _ => 1
    | _ => 0
  indexer
    | .indexing _ => 1
    | _ => 0

/-- The units that are given to the database. -/
def units : Countdown where
  counts := Event.isStore
  discoverer _ := 0
  cloner _ := 0
  indexer
    | .parsing _ _ => 1
    | _ => 0

theorem leftIn_eq {α : Type} {rank : α → Nat} {seats : List (Seat α)} {i : Nat} {a : Seat α}
    (found : seats[i]? = some a) : leftIn rank seats i = rank a.state := by
  rw [leftIn, found]
  rfl

theorem leftIn_set_ne {α : Type} {rank : α → Nat} {seats : List (Seat α)} {i j : Nat} {b : Seat α}
    (other : i ≠ j) : leftIn rank (seats.set i b) j = leftIn rank seats j := by
  rw [leftIn, List.getElem?_set_ne other, leftIn]

theorem leftIn_set_le {α : Type} {rank : α → Nat} {seats : List (Seat α)} {i n : Nat} {a b : Seat α}
    (found : seats[i]? = some a) (less : n + rank b.state ≤ rank a.state) :
    n + leftIn rank (seats.set i b) i ≤ leftIn rank seats i := by
  rwa [leftIn_eq found, leftIn_eq (List.getElem?_set_self (List.getElem?_eq_some_iff.1 found).1)]

theorem exists_of_leftIn {α : Type} {rank : α → Nat} {seats : List (Seat α)} {i : Nat}
    (some_left : leftIn rank seats i ≠ 0) : ∃ a, seats[i]? = some a ∧ rank a.state ≠ 0 := by
  cases found : seats[i]? with
  | none => simp [leftIn, found] at some_left
  | some a => exact ⟨a, rfl, fun none => some_left ((leftIn_eq found).trans none)⟩

private theorem leftIn_le {α : Type} {rank : α → Nat} {n : Nat} (small : ∀ a, rank a ≤ n)
    (seats : List (Seat α)) (i : Nat) : leftIn rank seats i ≤ n := by
  cases found : seats[i]? with
  | none => simp [leftIn, found]
  | some a => exact leftIn_eq found ▸ small a.state

theorem left_le {c : Countdown} {n : Nat} (discoverer : ∀ a, c.discoverer a ≤ n)
    (cloner : ∀ a, c.cloner a ≤ n) (indexer : ∀ a, c.indexer a ≤ n) (p : Pipeline) (w : WorkerId) :
    c.left p w ≤ n := by
  cases w with
  | discoverer i => exact leftIn_le discoverer _ i
  | cloner i => exact leftIn_le cloner _ i
  | indexer i => exact leftIn_le indexer _ i

theorem steps_left_le (p : Pipeline) (w : WorkerId) : steps.left p w ≤ 4 :=
  left_le (fun a => by cases a <;> simp [steps]) (fun a => by cases a <;> simp [steps])
    (fun a => by cases a <;> simp [steps]) p w

theorem answers_left_le (p : Pipeline) (w : WorkerId) : answers.left p w ≤ 1 :=
  left_le (fun a => by cases a <;> simp [answers]) (fun a => by cases a <;> simp [answers])
    (fun a => by cases a <;> simp [answers]) p w

theorem units_left_le (p : Pipeline) (w : WorkerId) : units.left p w ≤ 1 :=
  left_le (fun _ => Nat.zero_le _) (fun _ => Nat.zero_le _)
    (fun a => by cases a <;> simp [units]) p w

private theorem steps_discoverer_take (result : Produced) : steps.discoverer (.take result)
    ≤ 2 := by
  rcases result with e | none | ds
  · cases e <;> simp only [Discovering.take] <;> (try split) <;> decide
  · decide
  · cases ds <;> simp [Discovering.take, Discovering.sendAll, steps]

theorem isCalling_take (result : Produced) : (Discovering.take result).isCalling = false := by
  rcases result with e | none | ds
  · cases e <;> simp only [Discovering.take] <;> (try split) <;> rfl
  · rfl
  · cases ds <;> rfl

private theorem answers_discoverer (state : Discovering) :
    answers.discoverer state = state.isCalling.toNat := by
  cases state <;> rfl

theorem steps_fair : steps.Fair where
  discoverer winds := by
    cases winds with
    | answer result => exact Nat.add_le_add_left (steps_discoverer_take result) 1
    | _ => simp [steps]
  cloner winds := by cases winds <;> simp [steps]
  indexer winds := by cases winds <;> simp [steps]

theorem answers_fair : answers.Fair where
  discoverer winds := by
    cases winds with
    | answer result =>
      rw [answers_discoverer, isCalling_take]
      exact Nat.le_refl _
    | _ => simp [answers, Event.isAnswer]
  cloner winds := by cases winds <;> simp [answers, Event.isAnswer]
  indexer winds := by cases winds <;> simp [answers, Event.isAnswer]

theorem units_fair : units.Fair where
  discoverer winds := by cases winds <;> exact Nat.le_refl _
  cloner winds := by cases winds <;> exact Nat.le_refl _
  indexer winds := by cases winds <;> simp [units, Event.isStore]

end Countdown

end Provenance
