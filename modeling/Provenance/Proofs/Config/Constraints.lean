import Provenance.CommandLine.Basic
import Provenance.Discovery.Bitbucket
import Provenance.Discovery.GitHub
import Provenance.Proofs.Discovery.Ranks

namespace Provenance

open Decimal

namespace Config

/-- A demand on one setting, and the violation that is reported if it does not hold. -/
structure Demand where
  field : String
  violation : Violation
  holds : Prop

/-- The demands in the order in which they are checked; `base` is what the bases are asked for. -/
def demands (base : Float → Prop) (c : Config) : List Demand :=
  [⟨"clone_queue_capacity", .zero, 1 ≤ c.cloneQueueCapacity⟩,
    ⟨"index_queue_capacity", .zero, 1 ≤ c.indexQueueCapacity⟩,
    ⟨"cloners", .zero, 1 ≤ c.cloners⟩,
    ⟨"indexers", .zero, 1 ≤ c.indexers⟩,
    ⟨"clone_timeout_secs", .zero, 1 ≤ c.cloneTimeoutSecs⟩,
    ⟨"github.popularity_batch_size", .zero, 1 ≤ c.github.popularityBatchSize⟩,
    ⟨"bitbucket.popularity_concurrency", .zero, 1 ≤ c.bitbucket.popularityConcurrency⟩,
    ⟨"default_rank", .outsideUnit c.defaultRank, InUnit c.defaultRank⟩,
    ⟨"github.rank_base", .baseTooSmall c.github.rankBase, base c.github.rankBase⟩,
    ⟨"bitbucket.rank_base", .baseTooSmall c.bitbucket.rankBase, base c.bitbucket.rankBase⟩]

/-- What is documented of a base. -/
def Exceeds (x : Float) : Prop := 1.0 < x

/-- What a base is tested for. -/
def Passes (x : Float) : Prop := Exceeds x ∨ x.isNaN = true

def Meets (base : Float → Prop) (c : Config) : Prop := ∀ d ∈ c.demands base, d.holds

/-- The first demand that does not hold. -/
def FirstViolated (base : Float → Prop) (c : Config) (d : Demand) : Prop :=
  ∃ before after, c.demands base = before ++ d :: after ∧ (∀ b ∈ before, b.holds) ∧ ¬ d.holds

/-- A candidate is accepted as it is if it meets the demands, and else refused for the first that it
violates. -/
structure Judged (base : Float → Prop) (c : Config) (result : Except ConfigError Config) :
    Prop where
  accepted : ∀ c', result = .ok c' ↔ c' = c ∧ c.Meets base
  refused : ∀ e, result = .error e ↔ ∃ d, c.FirstViolated base d ∧ e = .invalid d.field d.violation

/-- A check is about a demand if it has the demand's field, and fails with its violation exactly if
the demand does not hold. -/
def Checks (check : String × Option Violation) (d : Demand) : Prop :=
  check.1 = d.field ∧ (d.holds ∧ check.2 = none ∨ ¬ d.holds ∧ check.2 = some d.violation)

private theorem checks_ite {field : String} {v : Violation} {P : Prop} {c : Prop} [Decidable c]
    (same : c ↔ ¬ P) : Checks (field, if c then some v else none) ⟨field, v, P⟩ := by
  constructor
  · rfl
  · by_cases violated : c
    · exact Or.inr ⟨same.1 violated, if_pos violated⟩
    · exact Or.inl ⟨by_contra fun fails => violated (same.2 fails), if_neg violated⟩

/-- Only a number above 1 and what is no number are not at most 1. -/
theorem passes_iff {x : Float} : Passes x ↔ ¬ x ≤ 1.0 := by
  have one : (1.0 : Float).isNaN = false := by decide +kernel
  unfold Passes Exceeds
  constructor
  · intro passes small
    rcases passes with above | none
    · exact Double.not_lt_of_le small above
    · have number := (Double.isNaN_of_le small).1
      rw [none] at number
      cases number
  · intro large
    cases number : x.isNaN with
    | true => exact Or.inr rfl
    | false => exact Or.inl (Double.lt_of_not_le number one large)

private theorem forall₂_violations (c : Config) :
    List.Forall₂ Checks c.violations (c.demands Passes) := by
  have positive (field : String) (n : Nat) : Checks
      (field, if n = 0 then some .zero else none) ⟨field, .zero, 1 ≤ n⟩ := by
    apply checks_ite
    omega
  have base (field : String) (x : Float) : Checks
      (field, if x ≤ 1.0 then some (.baseTooSmall x) else none)
      ⟨field, .baseTooSmall x, Passes x⟩ := by
    apply checks_ite
    rw [passes_iff, not_not]
  have unit : Checks ("default_rank", if 0.0 ≤ c.defaultRank ∧ c.defaultRank ≤ 1.0 then none
      else some (.outsideUnit c.defaultRank))
      ⟨"default_rank", .outsideUnit c.defaultRank, InUnit c.defaultRank⟩ := by
    rw [← ite_not]
    exact checks_ite Iff.rfl
  exact .cons (positive _ _) <| .cons (positive _ _) <| .cons (positive _ _) <|
    .cons (positive _ _) <| .cons (positive _ _) <| .cons (positive _ _) <|
    .cons (positive _ _) <| .cons unit <| .cons (base _ _) <| .cons (base _ _) .nil

/-- Checks find nothing if every demand holds, and else the first demand that does not. -/
theorem findSome?_checks {checks : List (String × Option Violation)} {demands : List Demand}
    (about : List.Forall₂ Checks checks demands) :
    ((∀ d ∈ demands, d.holds) ∧ checks.findSome? (fun (field, v) => v.map (field, ·)) = none) ∨
    ∃ before d after, demands = before ++ d :: after ∧ (∀ b ∈ before, b.holds) ∧ ¬ d.holds ∧
      checks.findSome? (fun (field, v) => v.map (field, ·)) = some (d.field, d.violation) := by
  induction about with
  | nil => simp
  | @cons check d checks demands first rest ih =>
    obtain ⟨field, ⟨holds, none⟩ | ⟨fails, violation⟩⟩ := first
    · rcases ih with ⟨all, found⟩ | ⟨before, d', after, split, earlier, fails, found⟩
      · left
        constructor
        · simpa using ⟨holds, all⟩
        · simpa [none] using found
      · right
        refine ⟨d :: before, d', after, ?_, ?_, fails, ?_⟩
        · rw [split, List.cons_append]
        · simpa using ⟨holds, earlier⟩
        · simpa [none] using found
    · right
      refine ⟨[], d, demands, rfl, by simp, fails, ?_⟩
      simp [violation, field]

private theorem FirstViolated.not_meets {base : Float → Prop} {c : Config} {d : Demand}
    (violated : c.FirstViolated base d) : ¬ c.Meets base := by
  obtain ⟨before, after, split, -, fails⟩ := violated
  intro meets
  exact fails (meets d (by rw [split]; simp))

/-- There is one first violation only. -/
theorem FirstViolated.unique {base : Float → Prop} {c : Config} {d d' : Demand}
    (violated : c.FirstViolated base d) (violated' : c.FirstViolated base d') : d = d' := by
  obtain ⟨before, after, split, earlier, fails⟩ := violated
  obtain ⟨before', after', split', earlier', fails'⟩ := violated'
  rw [split] at split'
  rcases List.append_eq_append_iff.1 split' with ⟨more, longer, rest⟩ | ⟨more, longer, rest⟩
  · cases more with
    | nil => exact (List.cons.inj rest).1
    | cons x more =>
      cases (List.cons.inj rest).1
      exact absurd (earlier' d (by rw [longer]; simp)) fails
  · cases more with
    | nil => exact (List.cons.inj rest).1.symm
    | cons x more =>
      cases (List.cons.inj rest).1
      exact absurd (earlier d' (by rw [longer]; simp)) fails'

theorem judged_validate (c : Config) : c.Judged Passes c.validate := by
  have checked := findSome?_checks c.forall₂_violations
  unfold validate
  rcases checked with ⟨meets, found⟩ | ⟨before, d, after, split, earlier, fails, found⟩
  · rw [found]
    constructor
    · intro c'
      simp only [Except.ok.injEq, eq_comm (a := c), and_iff_left (show c.Meets Passes from meets)]
    · intro e
      simp only [reduceCtorEq, false_iff, not_exists, not_and]
      intro d violated
      exact absurd meets violated.not_meets
  · rw [found]
    have violated : c.FirstViolated Passes d := ⟨before, after, split, earlier, fails⟩
    constructor
    · intro c'
      simp only [reduceCtorEq, false_iff, not_and]
      intro _
      exact violated.not_meets
    · intro e
      simp only [Except.error.injEq]
      constructor
      · intro same
        exact ⟨d, violated, same.symm⟩
      · intro refusal
        obtain ⟨d', violated', same⟩ := refusal
        rw [same, violated.unique violated']

/-- The demands differ in what they ask of the bases only. -/
theorem meets_iff {base : Float → Prop} {c : Config} : c.Meets base ↔
    c.Meets (fun _ => True) ∧ base c.github.rankBase ∧ base c.bitbucket.rankBase := by
  simp only [Meets, demands, List.forall_mem_cons, List.not_mem_nil, false_implies, implies_true,
    and_true]
  tauto

theorem exceeds_iff {x : Float} (passes : Passes x) : Exceeds x ↔ x.isNaN = false := by
  constructor
  · intro above
    exact (Double.isNaN_of_le (Double.le_of_lt above)).2
  · intro number
    rcases passes with above | none
    · exact above
    · rw [number] at none
      cases none

/-- The policies by which the two platforms rank. -/
def policies (c : Config) : List RankPolicy :=
  [(GitHub.Source.ofConfig c.github c.defaultRank).ranks,
    (Bitbucket.Source.ofConfig c.bitbucket c.defaultRank).ranks]

private theorem Meets.of_mem_policies {c : Config} {p : RankPolicy} {base : Float → Prop}
    (meets : c.Meets base) (mem : p ∈ c.policies) : base p.base ∧ InUnit p.default := by
  have bases := (meets_iff.1 meets).2
  have default : InUnit c.defaultRank :=
    meets ⟨"default_rank", .outsideUnit c.defaultRank, InUnit c.defaultRank⟩ (by simp [demands])
  simp only [policies, List.mem_cons, List.not_mem_nil, or_false] at mem
  rcases mem with rfl | rfl
  · exact ⟨bases.1, default⟩
  · exact ⟨bases.2, default⟩

private theorem meets_exceeds_iff {c : Config} (meets : c.Meets Passes) :
    c.Meets Exceeds ↔ ∀ p ∈ c.policies, p.base.isNaN = false := by
  obtain ⟨others, github, bitbucket⟩ := meets_iff.1 meets
  rw [meets_iff, exceeds_iff github, exceeds_iff bitbucket]
  simp only [policies, List.forall_mem_cons, List.not_mem_nil, false_implies, implies_true,
    and_true, others, true_and]
  exact Iff.rfl

/-- A policy of tested settings gives numbers from 0 to 1 only, or its base is no number. -/
theorem inUnit_ranks_iff {ln : Float → Float} (log : IsLog ln) {p : RankPolicy}
    (base : Passes p.base) (default : InUnit p.default) :
    (∀ signal, RankPolicy.IsSignal signal → InUnit (p.rankBy ln signal)) ↔
      p.base.isNaN = false := by
  constructor
  · intro ranks
    cases none : p.base.isNaN with
    | false => rfl
    | true =>
      have number := (ranks (some 1) (by simp [RankPolicy.IsSignal])).isNaN_eq_false
      rw [RankPolicy.isNaN_rankBy log none] at number
      cases number
  · intro number signal small
    exact RankPolicy.inUnit_rankBy log ((exceeds_iff base).2 number) default small

def decoded? (text : String) : Option Config :=
  (Toml.parse? text).bind fun entries => ofToml? (.table entries)

theorem judged_ofText (text : String) :
    decoded? text = none ∧ ofText text = .error .malformed ∨
    ∃ c, decoded? text = some c ∧ c.Judged Passes (ofText text) := by
  have result : ofText text = (decoded? text).elim (.error .malformed) validate := by
    unfold ofText decoded?
    cases (Toml.parse? text).bind fun entries => ofToml? (.table entries) <;> rfl
  rw [result]
  cases decoded? text with
  | none => exact Or.inl ⟨rfl, rfl⟩
  | some c => exact Or.inr ⟨c, rfl, judged_validate c⟩

end Config

namespace Arguments

open Config

variable {a : Arguments} {read : String → Except IoError ByteArray} {token : Option String}

def loaded (a : Arguments) (read : String → Except IoError ByteArray) :
    Except ConfigError Config :=
  match a.config with
  | none => .ok {}
  | some path => ofFile path (read path)

def merged (a : Arguments) (read : String → Except IoError ByteArray) (token : Option String) :
    Except ConfigError Config :=
  (a.loaded read).map fun c => addToken (a.override c) token

private theorem configure_eq (a : Arguments) (read : String → Except IoError ByteArray)
    (token : Option String) : a.configure read token = (a.merged read token).bind validate := by
  have steps : a.configure read token =
      (a.loaded read).bind fun c => (addToken (a.override c) token).validate := by
    unfold configure loaded
    cases a.config <;> rfl
  rw [steps, merged]
  cases a.loaded read <;> rfl

theorem judged_configure (a : Arguments) (read : String → Except IoError ByteArray)
    (token : Option String) :
    (∃ path e, a.config = some path ∧ ofFile path (read path) = .error e ∧
      a.configure read token = .error e) ∨
    ∃ c, a.merged read token = .ok c ∧ c.Judged Passes (a.configure read token) := by
  rw [configure_eq]
  cases file : a.loaded read with
  | ok c =>
    have candidate : a.merged read token = .ok (addToken (a.override c) token) := by
      rw [merged, file]
      rfl
    right
    refine ⟨_, candidate, ?_⟩
    rw [candidate]
    exact judged_validate _
  | error e =>
    have candidate : a.merged read token = .error e := by
      rw [merged, file]
      rfl
    left
    unfold loaded at file
    split at file
    · cases file
    · rename_i path named
      refine ⟨path, e, named, file, ?_⟩
      rw [candidate]
      rfl

end Arguments

namespace Config

/-- Accepted as a text, or for a run. -/
def Accepted (c : Config) : Prop :=
  (∃ text, ofText text = .ok c) ∨
    ∃ (a : Arguments) (read : String → Except IoError ByteArray) (token : Option String),
      a.configure read token = .ok c

private theorem Accepted.meets {c : Config} (accepted : c.Accepted) : c.Meets Passes := by
  rcases accepted with ⟨text, ok⟩ | ⟨a, read, token, ok⟩
  · rcases judged_ofText text with ⟨-, malformed⟩ | ⟨c', -, judged⟩
    · rw [malformed] at ok
      cases ok
    · obtain ⟨rfl, meets⟩ := (judged.accepted c).1 ok
      exact meets
  · rcases Arguments.judged_configure a read token with ⟨path, e, -, -, refused⟩ | ⟨c', -, judged⟩
    · rw [refused] at ok
      cases ok
    · obtain ⟨rfl, meets⟩ := (judged.accepted c).1 ok
      exact meets

/-- Every accepted configuration meets the tested demands. It meets the documented ones if and only
if the bases of both policies are numbers, and a policy ranks every signal and the lack of one from
0 to 1 if and only if its base is a number. The settings of a text are accepted if they meet the
tested demands, and so are those of a run after merging; else the first demand that they violate is
named. Ranks are taken by any logarithm here, and the policies use that of the machine. -/
theorem accepted_meets_demands_iff {ln : Float → Float} (log : IsLog ln) :
    (∀ c : Config, c.Accepted → c.Meets Passes ∧
      (c.Meets Exceeds ↔ ∀ p ∈ c.policies, p.base.isNaN = false) ∧
      ∀ p ∈ c.policies, (∀ signal, RankPolicy.IsSignal signal → InUnit (p.rankBy ln signal)) ↔
        p.base.isNaN = false) ∧
    (∀ text, decoded? text = none ∧ ofText text = .error .malformed ∨
      ∃ c, decoded? text = some c ∧ c.Judged Passes (ofText text)) ∧
    (∀ (a : Arguments) (read : String → Except IoError ByteArray) (token : Option String),
      (∃ path e, a.config = some path ∧ ofFile path (read path) = .error e ∧
        a.configure read token = .error e) ∨
      ∃ c, a.merged read token = .ok c ∧ c.Judged Passes (a.configure read token)) ∧
    ∀ (p : RankPolicy) (signal : Option Nat), p.rank signal = p.rankBy Float.log signal := by
  refine ⟨?_, judged_ofText, Arguments.judged_configure, RankPolicy.rank_eq_rankBy⟩
  intro c accepted
  have meets := accepted.meets
  refine ⟨meets, meets_exceeds_iff meets, ?_⟩
  intro p mem
  obtain ⟨base, default⟩ := meets.of_mem_policies mem
  exact inUnit_ranks_iff log base default

/-- A function that grows as a natural logarithm does, and is one at 1 and 5000. -/
def steppedLog (x : Float) : Float :=
  if x.isNaN then x else if x ≤ 1.0 then 0.0 else 8.517193191416238

private theorem isLog_steppedLog : IsLog steppedLog := by
  have values {x : Float} (number : x.isNaN = false) :
      steppedLog x = 0.0 ∧ x ≤ 1.0 ∨ steppedLog x = 8.517193191416238 ∧ ¬ x ≤ 1.0 := by
    unfold steppedLog
    rw [if_neg (Bool.eq_false_iff.1 number)]
    split_ifs with small
    · exact Or.inl ⟨rfl, small⟩
    · exact Or.inr ⟨rfl, small⟩
  constructor
  · decide +kernel
  · intro x y large order
    obtain ⟨first, second⟩ := Double.isNaN_of_le order
    rcases values first with ⟨low, -⟩ | ⟨high, above⟩
    · rcases values second with ⟨low', -⟩ | ⟨high', -⟩
      · rw [low, low']
        decide +kernel
      · rw [low, high']
        decide +kernel
    · rcases values second with ⟨-, small⟩ | ⟨high', -⟩
      · exact absurd (Double.le_trans order small) above
      · rw [high, high']
        decide +kernel
  · intro x above
    rcases values (Double.isNaN_of_le (Double.le_of_lt above)).2 with ⟨-, small⟩ | ⟨high, -⟩
    · exact absurd above (Double.not_lt_of_le small)
    · rw [high]
      decide +kernel
  · intro x large _
    rcases values (Double.isNaN_of_le large).2 with ⟨low, -⟩ | ⟨high, -⟩
    · rw [low]
      decide +kernel
    · rw [high]
      decide +kernel
  · intro x none
    rw [steppedLog, if_pos none]
    exact none

/-- What a text evaluates to tells that it is accepted, and whether the base of its second policy is
a number. -/
theorem exists_accepted (text : String) (none : Bool)
    (eval : (ofText text).toOption.map (fun c => (c.github.rankBase.isNaN,
      c.bitbucket.rankBase.isNaN)) = some (false, none)) :
    ∃ c, ofText text = .ok c ∧ c.github.rankBase.isNaN = false ∧
      c.bitbucket.rankBase.isNaN = none := by
  cases ok : ofText text with
  | error e => simp [ok, Except.toOption] at eval
  | ok c =>
    simp only [ok, Except.toOption, Option.map_some, Option.some.injEq, Prod.mk.injEq] at eval
    exact ⟨c, rfl, eval⟩

/-- Both platforms with a base of 5000, and the signals whose logarithms are known. -/
theorem accepted_meets_demands_equal_bases :
    ∃ c, ofText "[bitbucket]\nrank_base = 5000" = .ok c ∧ c.Meets Exceeds ∧
      ∀ p ∈ c.policies, ∀ signal ∈ [none, some 0, some 1, some 5000],
        InUnit (p.rankBy steppedLog signal) := by
  obtain ⟨c, ok, github, bitbucket⟩ := exists_accepted "[bitbucket]\nrank_base = 5000" false
    (by decide +kernel)
  have law := (accepted_meets_demands_iff isLog_steppedLog).1 c (Or.inl ⟨_, ok⟩)
  have numbers : ∀ p ∈ c.policies, p.base.isNaN = false := by
    simp only [policies, List.forall_mem_cons, List.not_mem_nil, false_implies, implies_true,
      and_true]
    exact ⟨github, bitbucket⟩
  have small : ∀ signal ∈ [none, some 0, some 1, some 5000], RankPolicy.IsSignal signal := by
    simp [RankPolicy.IsSignal]
  refine ⟨c, ok, law.2.1.2 numbers, ?_⟩
  intro p mem signal known
  exact (law.2.2 p mem).2 (numbers p mem) signal (small signal known)

/-- A base that is no number is accepted, and every signal has a rank that is none. -/
theorem nan_base_accepted :
    ∃ c, ofText "[bitbucket]\nrank_base = nan" = .ok c ∧ ¬ c.Meets Exceeds ∧
      ∀ ln, IsLog ln → ∃ p ∈ c.policies, ∀ n, (p.rankBy ln (some n)).isNaN = true := by
  obtain ⟨c, ok, -, bitbucket⟩ := exists_accepted "[bitbucket]\nrank_base = nan" true
    (by decide +kernel)
  refine ⟨c, ok, ?_, ?_⟩
  · intro meets
    have number := (Double.isNaN_of_le (Double.le_of_lt (meets_iff.1 meets).2.2)).2
    rw [bitbucket] at number
    cases number
  · intro ln log
    obtain ⟨p, mem, base⟩ : ∃ p ∈ c.policies, p.base = c.bitbucket.rankBase :=
      ⟨_, List.mem_cons_of_mem _ List.mem_cons_self, rfl⟩
    rw [← base] at bitbucket
    refine ⟨p, mem, ?_⟩
    intro n
    exact RankPolicy.isNaN_rankBy log bitbucket n

end Config

end Provenance
