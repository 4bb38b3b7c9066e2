import Provenance.Proofs.Pipeline.Seats

namespace Provenance

/-- What a parser did to a unit: the symbols that it filled in, and how it ended. -/
abbrev Parsed := Symbols × Except ParseError Unit

/-- A unit as it is given to the database. -/
def settled (u : CodeUnit) (parsed : Parsed) : CodeUnit :=
  { u with symbols := if parsed.2.isOk then parsed.1 else ∅ }

def indexAnswers (es : List Event) : List (Except IndexError IndexReport) :=
  es.filterMap fun
    | .indexed _ result => some result
    | _ => none

def parses (es : List Event) : List Parsed :=
  es.filterMap fun
    | .parsed _ symbols result => some (symbols, result)
    | _ => none

def inserts (es : List Event) : List (Except StoreError Unit) :=
  es.filterMap fun
    | .inserted _ result => some result
    | _ => none

/-- The counts of a worker after a report, the parser and the database have answered. -/
def counted (s : HarvestStats) (report : IndexReport) (es : List Event) : HarvestStats :=
  { s with
    filesSkipped := s.filesSkipped + report.skipped
    parseFailures := s.parseFailures + (parses es).countP (!·.2.isOk)
    unitsInserted := s.unitsInserted + (inserts es).countP (·.isOk)
    insertFailures := s.insertFailures + (inserts es).countP (!·.isOk) }

namespace Pipeline

/-- A run during one call of the `i`-th indexer worker for a clone: the events that are steps of the
worker, and what happens in these. -/
inductive Stint (i : Nat) (p : Pipeline) : List Event → List Happening → Pipeline → Prop where
  | start : Stint i p [] [] p
  | works {es log q e w taken notes w' r} : Stint i p es log q → q.indexers[i]? = some w →
      w.state ≠ .receiving → q.Indexes i e w taken notes w' → q.step e = some r →
      Stint i p (es ++ [e]) (log ++ notes) r
  | quits {es log q e w notes w' r} : Stint i p es log q → q.indexers[i]? = some w →
      w.state ≠ .receiving → q.QuitsIndexing i e w notes w' → q.step e = some r →
      Stint i p (es ++ [e]) (log ++ notes) r
  | other {es log q e r} : Stint i p es log q → e.worker? ≠ some (.indexer i) →
      q.step e = some r → Stint i p es log r

/-- A report has come, and so many units have been parsed and inserted since. -/
structure Amid (report : IndexReport) (es : List Event) (stored : List CodeUnit)
    (parsed inserted steps : Nat) : Prop where
  answers : indexAnswers es = [.ok report]
  stored : stored = List.zipWith settled report.units (parses es)
  parsed : (parses es).length = parsed
  inserted : (inserts es).length = inserted
  steps : es.length = steps

/-- Where the worker stands after some of its steps, with what it has given to the database. -/
inductive Standing (s : HarvestStats) (c : HeldClone) (cancelled : Bool) :
    List Event → List CodeUnit → Seat Indexing → Prop where
  | calling : Standing s c cancelled [] [] ⟨.indexing c, s⟩
  | crashed {i} : Standing s c cancelled [.broke (.indexer i)] [] ⟨.broken, s⟩
  | failed {i e} : Standing s c cancelled [.indexed i (.error e)] []
      ⟨.receiving,
        if e.isCancellation then s else { s with indexFailures := s.indexFailures + 1 }⟩
  | storing {report es stored n units} : Amid report es stored n n (3 * n + 1) →
      report.units.drop n = units → n ≤ report.units.length →
      Standing s c cancelled es stored ⟨.storing units, counted s report es⟩
  | parsing {report es stored n u rest} : Amid report es stored n n (3 * n + 2) →
      report.units.drop n = u :: rest →
      Standing s c cancelled es stored ⟨.parsing u rest, counted s report es⟩
  | inserting {report es stored n u v rest} : Amid report es stored (n + 1) n (3 * n + 3) →
      report.units.drop n = u :: rest →
      Standing s c cancelled es stored ⟨.inserting v rest, counted s report es⟩
  | broken {report es stored m n k} : Amid report es stored m n k → n ≤ m →
      m ≤ report.units.length → k ≤ 3 * report.units.length + 1 →
      Standing s c cancelled es stored ⟨.broken, counted s report es⟩
  | completed {report es stored n} : Amid report es stored n n (3 * n + 2) →
      n = report.units.length →
      Standing s c cancelled es stored ⟨.receiving, { counted s report es with
        repositoriesIndexed := s.repositoriesIndexed + 1 }⟩
  | discarded {report es stored n} : Amid report es stored n n (3 * n + 2) →
      n < report.units.length → cancelled = true →
      Standing s c cancelled es stored ⟨.receiving, counted s report es⟩

section Answers

variable (es es' : List Event)

theorem indexAnswers_append : indexAnswers (es ++ es') = indexAnswers es ++ indexAnswers es' :=
  List.filterMap_append

theorem parses_append : parses (es ++ es') = parses es ++ parses es' := List.filterMap_append

theorem inserts_append : inserts (es ++ es') = inserts es ++ inserts es' := List.filterMap_append

variable {es} (i : Nat) (s : HarvestStats) (report : IndexReport)

theorem counted_quiet (e : Event) (parse : parses [e] = []) (insert : inserts [e] = []) :
    counted s report (es ++ [e]) = counted s report es := by
  simp only [counted, parses_append, inserts_append, parse, insert, List.append_nil]

private theorem counted_parsed (u : CodeUnit) (symbols : Symbols) (result : Except ParseError Unit)
    :
    counted s report (es ++ [.parsed i symbols result]) =
      (Indexing.annotate u symbols (counted s report es) result).2 := by
  cases result <;>
    simp [counted, parses, inserts, Indexing.annotate, List.countP_append, Except.isOk,
      Except.toBool, Nat.add_assoc]

private theorem counted_inserted (result : Except StoreError Unit) :
    counted s report (es ++ [.inserted i result]) =
      Indexing.countInsert (counted s report es) result := by
  cases result <;>
    simp [counted, parses, inserts, Indexing.countInsert, List.countP_append, Except.isOk,
      Except.toBool, Nat.add_assoc]

end Answers

private theorem annotate_eq_settled (u : CodeUnit) (symbols : Symbols) (s : HarvestStats)
    (result : Except ParseError Unit) :
    (Indexing.annotate u symbols s result).1 = settled u (symbols, result) := by
  cases result <;> rfl

/-- One more element on the shorter side. -/
theorem zipWith_concat {α β γ : Type} {f : α → β → γ} {xs rest : List α} {ys : List β} {a : α}
    (b : β) (next : xs.drop ys.length = a :: rest) :
    List.zipWith f xs (ys ++ [b]) = List.zipWith f xs ys ++ [f a b] := by
  induction ys generalizing xs with
  | nil =>
    obtain rfl : xs = a :: rest := next
    simp
  | cons y ys ih =>
    cases xs with
    | nil => cases next
    | cons x xs => rw [List.cons_append, List.zipWith_cons_cons, ih next]; rfl

theorem lt_length_of_drop {α : Type} {xs rest : List α} {a : α} {n : Nat}
    (next : xs.drop n = a :: rest) : n < xs.length :=
  Nat.lt_of_not_le fun none => by simp [List.drop_eq_nil_iff.2 none] at next

section Amid

variable {report : IndexReport} {es : List Event} {stored : List CodeUnit} {m n k i : Nat}
  {e : Event}

private theorem amid_of_report : Amid report [.indexed i (.ok report)] [] 0 0 1 :=
  ⟨rfl, List.zipWith_nil_right.symm, rfl, rfl, rfl⟩

theorem Amid.quiet (amid : Amid report es stored m n k) (answer : indexAnswers [e] = [])
    (parse : parses [e] = []) (insert : inserts [e] = []) :
    Amid report (es ++ [e]) stored m n (k + 1) where
  answers := by rw [indexAnswers_append, answer, amid.answers, List.append_nil]
  stored := by rw [parses_append, parse, amid.stored, List.append_nil]
  parsed := by rw [parses_append, parse, List.append_nil, amid.parsed]
  inserted := by rw [inserts_append, insert, List.append_nil, amid.inserted]
  steps := by rw [List.length_append, amid.steps, List.length_singleton]

private theorem Amid.parse (amid : Amid report es stored m n k) {u : CodeUnit}
    {rest : List CodeUnit}
    (next : report.units.drop m = u :: rest) (symbols : Symbols) (result : Except ParseError Unit) :
    Amid report (es ++ [.parsed i symbols result]) (stored ++ [settled u (symbols, result)])
      (m + 1) n (k + 1) where
  answers := by rw [indexAnswers_append, amid.answers]; rfl
  stored := by
    rw [← amid.parsed] at next
    rw [parses_append, amid.stored]
    exact (zipWith_concat (symbols, result) next).symm
  parsed := by rw [parses_append, List.length_append, amid.parsed]; rfl
  inserted := by rw [inserts_append, List.length_append, amid.inserted]; rfl
  steps := by rw [List.length_append, amid.steps, List.length_singleton]

private theorem Amid.insert (amid : Amid report es stored m n k) (result : Except StoreError Unit) :
    Amid report (es ++ [.inserted i result]) stored m (n + 1) (k + 1) where
  answers := by rw [indexAnswers_append, amid.answers]; rfl
  stored := by rw [parses_append, amid.stored]; exact congrArg _ (List.append_nil _).symm
  parsed := by rw [parses_append, List.length_append, amid.parsed]; rfl
  inserted := by rw [inserts_append, List.length_append, amid.inserted]; rfl
  steps := by rw [List.length_append, amid.steps, List.length_singleton]

end Amid

section Standing

variable {s : HarvestStats} {c : HeldClone} {cancelled cancelled' : Bool} {es : List Event}
  {log : List Happening} {stored : List CodeUnit} {w w' : Seat Indexing} {p : Pipeline} {i : Nat}
  {e : Event} {taken : List HeldClone} {notes : List Happening}

theorem Standing.mono (standing : Standing s c cancelled es stored w)
    (kept : cancelled = true → cancelled' = true) : Standing s c cancelled' es stored w := by
  cases standing with
  | calling => exact .calling
  | crashed => exact .crashed
  | failed => exact .failed
  | storing amid next size => exact .storing amid next size
  | parsing amid next => exact .parsing amid next
  | inserting amid next => exact .inserting amid next
  | broken amid order size steps => exact .broken amid order size steps
  | completed amid all => exact .completed amid all
  | discarded amid some_left token => exact .discarded amid some_left (kept token)

private theorem Standing.works (standing : Standing s c p.cancelled es stored w)
    (busy : w.state ≠ .receiving) (works : p.Indexes i e w taken notes w') :
    Standing s c p.cancelled (es ++ [e]) (stored ++ notes.flatMap Happening.stored) w' := by
  cases works with
  | receive => exact absurd rfl busy
  | drained => exact absurd rfl busy
  | report report =>
    cases standing with
    | calling => exact .storing amid_of_report (n := 0) rfl (Nat.zero_le _)
  | fail e kind =>
    cases standing with
    | calling =>
      have failed : Standing s c p.cancelled [.indexed i (.error e)] [] _ := .failed
      rwa [if_neg (Bool.eq_false_iff.1 kind)] at failed
  | finish =>
    cases standing with
    | @storing report _ _ n _ amid next size =>
      have all : n = report.units.length := Nat.le_antisymm size (List.drop_eq_nil_iff.1 next)
      rw [List.flatMap_nil, List.append_nil,
        ← counted_quiet s report (.advance (.indexer i)) rfl rfl]
      exact .completed (amid.quiet rfl rfl rfl) all
  | next token =>
    cases standing with
    | @storing report _ _ n _ amid next size =>
      rw [List.flatMap_nil, List.append_nil,
        ← counted_quiet s report (.advance (.indexer i)) rfl rfl]
      exact .parsing (amid.quiet rfl rfl rfl) next
  | parse symbols result =>
    cases standing with
    | @parsing report _ _ n u rest amid next =>
      rw [annotate_eq_settled, ← counted_parsed i]
      exact .inserting (amid.parse next symbols result) next
  | insert result =>
    cases standing with
    | @inserting report _ _ n u _ _ amid next =>
      rw [List.flatMap_nil, List.append_nil, ← counted_inserted i]
      refine .storing (amid.insert result) ?_ (lt_length_of_drop next)
      rw [← List.tail_drop, next]
      rfl

private theorem Standing.quits (standing : Standing s c p.cancelled es stored w)
    (busy : w.state ≠ .receiving) (quits : p.QuitsIndexing i e w notes w') :
    Standing s c p.cancelled (es ++ [e]) (stored ++ notes.flatMap Happening.stored) w' := by
  cases quits with
  | cancelled => exact absurd rfl busy
  | interrupted e kind =>
    cases standing with
    | calling =>
      have failed : Standing s c p.cancelled [.indexed i (.error e)] [] _ := .failed
      rwa [if_pos kind] at failed
  | discard token =>
    cases standing with
    | @storing report _ _ n _ amid next size =>
      rw [List.flatMap_nil, List.append_nil,
        ← counted_quiet s report (.advance (.indexer i)) rfl rfl]
      exact .discarded (amid.quiet rfl rfl rfl) (lt_length_of_drop next) token
  | brokeIndexing =>
    cases standing with
    | calling => exact .crashed
  | brokeParsing =>
    cases standing with
    | @parsing report _ _ n u rest amid next =>
      have some_left := lt_length_of_drop next
      rw [List.flatMap_nil, List.append_nil,
        ← counted_quiet s report (.broke (.indexer i)) rfl rfl]
      exact .broken (amid.quiet rfl rfl rfl) (Nat.le_refl n) (by omega) (by omega)
  | brokeInserting =>
    cases standing with
    | @inserting report _ _ n u v rest amid next =>
      have some_left := lt_length_of_drop next
      rw [List.flatMap_nil, List.append_nil,
        ← counted_quiet s report (.broke (.indexer i)) rfl rfl]
      exact .broken (amid.quiet rfl rfl rfl) (Nat.le_succ n) some_left (by omega)

/-- Every call goes that way. -/
theorem Stint.standing {q : Pipeline} (stint : p.Stint i es log q)
    (start : p.indexers[i]? = some ⟨.indexing c, s⟩) :
    ∃ w, q.indexers[i]? = some w ∧
      Standing s c q.cancelled es (log.flatMap Happening.stored) w := by
  induction stint with
  | start => exact ⟨_, start, .calling⟩
  | @works es log q e w taken notes w' r _ found busy works stepped ih =>
    obtain ⟨w, found', standing⟩ := ih
    cases found.symm.trans found'
    have next := (standing.works busy works).mono (cancelled_of_step stepped)
    obtain rfl := Option.some.inj ((works.step_eq found).symm.trans stepped)
    exact ⟨w', indexer_of_set found rfl, by rwa [List.flatMap_append]⟩
  | @quits es log q e w notes w' r _ found busy quits stepped ih =>
    obtain ⟨w, found', standing⟩ := ih
    cases found.symm.trans found'
    have next := (standing.quits busy quits).mono (cancelled_of_step stepped)
    obtain rfl := Option.some.inj ((quits.step_eq found).symm.trans stepped)
    exact ⟨w', indexer_of_set found rfl, by rwa [List.flatMap_append]⟩
  | other _ other stepped ih =>
    obtain ⟨w, found, standing⟩ := ih
    exact ⟨w, (indexer_of_other stepped other).trans found,
      standing.mono (cancelled_of_step stepped)⟩

/-- Unless it is waiting for another clone or broke down, the worker can go on. -/
theorem Standing.canGoOn (standing : Standing s c p.cancelled es stored w)
    (found : p.indexers[i]? = some w) (busy : w.state ≠ .receiving) (whole : w.state ≠ .broken) :
    p.CanGoOn (.indexer i) := by
  cases standing with
  | calling => exact .indexes found
  | storing => exact .stores found
  | parsing => exact .parses found
  | inserting => exact .inserts found
  | crashed => exact absurd rfl whole
  | broken => exact absurd rfl whole
  | failed => exact absurd rfl busy
  | completed => exact absurd rfl busy
  | discarded => exact absurd rfl busy

private theorem Stint.go {q : Pipeline} (stint : p.Stint i es log q)
    (found : q.indexers[i]? = some w)
    (live : q.cancelled = false) (busy : w.state ≠ .receiving)
    (works : q.Indexes i e w taken notes w') :
    ∃ r, p.Stint i (es ++ [e]) (log ++ notes) r ∧ r.indexers[i]? = some w' ∧
      r.cancelled = false :=
  ⟨_, stint.works found busy works (works.step_eq found), indexer_of_set found rfl,
    (cancelled_reap _).trans live⟩

/-- Every step during a call belongs to it. -/
theorem Stint.exists_step {q r : Pipeline} (stint : p.Stint i es log q)
    (found : q.indexers[i]? = some w) (busy : w.state ≠ .receiving) (stepped : q.step e = some r) :
    ∃ es' log', p.Stint i (es ++ es') (log ++ log') r := by
  rcases indexer_of_step stepped with ⟨w, taken, notes, w', found', works⟩ |
    ⟨w, notes, w', found', quits⟩ | ⟨other, -⟩
  · cases found.symm.trans found'
    exact ⟨_, _, stint.works found busy works stepped⟩
  · cases found.symm.trans found'
    exact ⟨_, _, stint.quits found busy quits stepped⟩
  · exact ⟨[], [], by simpa only [List.append_nil] using stint.other other stepped⟩

/-- What can be said of a call once there is a report. -/
structure Reported (report : IndexReport) (s : HarvestStats) (cancelled : Bool) (es : List Event)
    (stored : List CodeUnit) (w : Seat Indexing) : Prop where
  stored : stored = List.zipWith settled report.units (parses es)
  tried : (parses es).length ≤ report.units.length
  steps : es.length ≤ 3 * report.units.length + 2
  ended : w.state = .receiving → (inserts es).length = (parses es).length ∧
    (cancelled = false → (parses es).length = report.units.length) ∧
    w.stats = { counted s report es with
      repositoriesIndexed := s.repositoriesIndexed +
        if (parses es).length = report.units.length then 1 else 0 }

private theorem Amid.reported {report : IndexReport} {m n k : Nat}
    (amid : Amid report es stored m n k)
    (tried : m ≤ report.units.length) (steps : k ≤ 3 * report.units.length + 2)
    (unfinished : w.state ≠ .receiving) : Reported report s cancelled es stored w :=
  ⟨amid.stored, amid.parsed ▸ tried, amid.steps ▸ steps, fun ended => absurd ended unfinished⟩

private theorem Standing.outcome (standing : Standing s c cancelled es stored w) :
    (indexAnswers es = [] ∧ stored = [] ∧ w.stats = s ∧ w.state ≠ .receiving) ∨
    (∃ e, indexAnswers es = [.error e] ∧ stored = [] ∧ w = ⟨.receiving,
      if e.isCancellation then s else { s with indexFailures := s.indexFailures + 1 }⟩) ∨
    ∃ report, indexAnswers es = [.ok report] ∧ Reported report s cancelled es stored w := by
  cases standing with
  | calling => exact .inl ⟨rfl, rfl, rfl, nofun⟩
  | crashed => exact .inl ⟨rfl, rfl, rfl, nofun⟩
  | @failed i e => exact .inr (.inl ⟨e, rfl, rfl, rfl⟩)
  | storing amid next size =>
    exact .inr (.inr ⟨_, amid.answers, amid.reported size (by omega) nofun⟩)
  | parsing amid next =>
    have some_left := lt_length_of_drop next
    exact .inr (.inr ⟨_, amid.answers, amid.reported (by omega) (by omega) nofun⟩)
  | inserting amid next =>
    have some_left := lt_length_of_drop next
    exact .inr (.inr ⟨_, amid.answers, amid.reported (by omega) (by omega) nofun⟩)
  | broken amid order size steps =>
    exact .inr (.inr ⟨_, amid.answers, amid.reported size (by omega) nofun⟩)
  | @completed report _ _ n amid all =>
    refine .inr (.inr ⟨report, amid.answers, amid.stored, ?_, ?_, fun _ => ⟨?_, fun _ => ?_, ?_⟩⟩)
    · rw [amid.parsed, all]
    · rw [amid.steps, all]
    · rw [amid.inserted, amid.parsed]
    · rw [amid.parsed, all]
    · rw [if_pos (amid.parsed.trans all)]
  | @discarded report _ _ n amid some_left token =>
    refine .inr (.inr ⟨report, amid.answers, amid.stored, ?_, ?_, fun _ => ⟨?_, fun live => ?_, ?_⟩⟩)
    · rw [amid.parsed]
      omega
    · rw [amid.steps]
      omega
    · rw [amid.inserted, amid.parsed]
    · cases live.symm.trans token
    · rw [if_neg (by rw [amid.parsed]; omega)]
      rfl

end Standing

variable {p q : Pipeline} {i : Nat} {c : HeldClone} {s : HarvestStats} {es : List Event}
  {log : List Happening}

/-- Whatever happens during a call for a clone, and whichever answers come: every step belongs to the
call until it returns. Before the index call has ended nothing is stored or counted. If it fails
nothing is stored, and the failure is counted unless it is a cancellation. If there is a report, the
database is given the first units of the report, in order and once each, with the symbols that the
parser found, or with none where the parser failed. The call takes at most three steps a unit and two
more, and the worker can always go on unless it breaks down. In the end every unit that was parsed was
inserted, these are all units unless the token is cancelled, and the counts have grown by the skipped
files, the failed parses, the inserts that succeeded and those that failed, and by one repository if
all units were reached. -/
theorem stores_each_unit_once (start : p.indexers[i]? = some ⟨.indexing c, s⟩)
    (stint : p.Stint i es log q) :
    let stored := log.flatMap Happening.stored
    ∃ w, q.indexers[i]? = some w ∧
      (w.state ≠ .receiving → ∀ e r, q.step e = some r →
        ∃ es' log', p.Stint i (es ++ es') (log ++ log') r) ∧
      (w.state ≠ .receiving → w.state ≠ .broken → q.CanGoOn (.indexer i)) ∧
      ((indexAnswers es = [] ∧ stored = [] ∧ w.stats = s ∧ w.state ≠ .receiving) ∨
      (∃ e, indexAnswers es = [.error e] ∧ stored = [] ∧ w = ⟨.receiving,
        if e.isCancellation then s else { s with indexFailures := s.indexFailures + 1 }⟩) ∨
      ∃ report, indexAnswers es = [.ok report] ∧
        stored = List.zipWith settled report.units (parses es) ∧
        (parses es).length ≤ report.units.length ∧ es.length ≤ 3 * report.units.length + 2 ∧
        (w.state = .receiving → (inserts es).length = (parses es).length ∧
          (q.cancelled = false → (parses es).length = report.units.length) ∧
          w.stats = { s with
            filesSkipped := s.filesSkipped + report.skipped
            parseFailures := s.parseFailures + (parses es).countP (!·.2.isOk)
            unitsInserted := s.unitsInserted + (inserts es).countP (·.isOk)
            insertFailures := s.insertFailures + (inserts es).countP (!·.isOk)
            repositoriesIndexed := s.repositoriesIndexed +
              if (parses es).length = report.units.length then 1 else 0 })) := by
  intro stored
  obtain ⟨w, found, standing⟩ := stint.standing start
  refine ⟨w, found, fun busy e r stepped => ?_, standing.canGoOn found, ?_⟩
  · exact stint.exists_step found busy stepped
  rcases standing.outcome with waiting | failed | ⟨report, answers, reported⟩
  · exact .inl waiting
  · exact .inr (.inl failed)
  · exact .inr (.inr ⟨report, answers, reported.stored, reported.tried, reported.steps,
      reported.ended⟩)

/-- Of two units the parser fails on the first, and the database on the second. -/
theorem stores_each_unit_once_pair : ∃ (p q : Pipeline) (c : HeldClone) (u v : CodeUnit)
    (symbols : Symbols) (es : List Event) (log : List Happening),
    p.indexers[0]? = some ⟨.indexing c, {}⟩ ∧ p.Stint 0 es log q ∧
      indexAnswers es = [.ok ⟨[u, v], 3⟩] ∧
      log.flatMap Happening.stored = [{ u with symbols := ∅ }, { v with symbols }] ∧
      ∃ w, q.indexers[0]? = some w ∧ w.state = .receiving ∧
        w.stats = { repositoriesIndexed := 1, unitsInserted := 1, insertFailures := 1
                    filesSkipped := 3, parseFailures := 1 } := by
  obtain ⟨c⟩ : Nonempty HeldClone := ⟨0, .announce "https://github.com/a/b" "a/b" .github 1, ["c"]⟩
  obtain ⟨u⟩ : Nonempty CodeUnit := ⟨"a", "text", "a", [], none, default, default, 1, ∅⟩
  obtain ⟨v⟩ : Nonempty CodeUnit := ⟨"b", "text", "b", [], none, default, default, 1, ∅⟩
  obtain ⟨symbols⟩ : Nonempty Symbols := ⟨(∅ : Symbols).insert "function" []⟩
  let p : Pipeline := { idle 0 0 1 1 1 with indexers := [⟨.indexing c, {}⟩] }
  have start : p.indexers[0]? = some ⟨.indexing c, {}⟩ := rfl
  obtain ⟨_, stint, found, live⟩ := Stint.start.go start rfl nofun (.report ⟨[u, v], 3⟩)
  obtain ⟨_, stint, found, live⟩ := stint.go found live nofun (.next live)
  obtain ⟨_, stint, found, live⟩ :=
    stint.go found live nofun (.parse symbols (.error (.invalidContent "text")))
  obtain ⟨_, stint, found, live⟩ := stint.go found live nofun (.insert (.ok ()))
  obtain ⟨_, stint, found, live⟩ := stint.go found live nofun (.next live)
  obtain ⟨_, stint, found, live⟩ := stint.go found live nofun (.parse symbols (.ok ()))
  obtain ⟨_, stint, found, live⟩ :=
    stint.go found live nofun (.insert (.error (.unencodable "text")))
  obtain ⟨q, stint, found, live⟩ := stint.go found live nofun .finish
  obtain ⟨w, found', -, -, outcome⟩ := stores_each_unit_once start stint
  cases found.symm.trans found'
  obtain ⟨answers, -⟩ | ⟨e, answers, -⟩ | ⟨report, answers, stored, -, -, counts⟩ := outcome
  · cases answers
  · cases answers
  · cases answers
    exact ⟨p, q, c, u, v, symbols, _, _, start, stint, rfl, stored, _, found, rfl, (counts rfl).2.2⟩

end Pipeline

end Provenance
