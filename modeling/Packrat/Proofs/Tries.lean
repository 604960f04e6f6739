import Packrat.Proofs.Unwinding

/-!
# Rules that are tried

Matching a rule tries the rules that its test calls, whether they match or not and whether what they
took is kept or given back, and these try others in turn. `Tries` says it in terms of parsing
expressions alone: which rule is tried where, under how many negations, and how the try ends.

The attempts that a verdict lists are exactly these tries (`finalVerdict_lists`).
-/

namespace Packrat

variable {P : Type}

/-! ## Tries and attempts -/

/-- A rule that is tried. -/
structure Try where
  /-- The rule. -/
  id : RuleId
  /-- The position it is tried at. -/
  origin : Nat
  /-- How many negations are open. -/
  negations : Nat
  /-- Whether its test succeeds often enough. -/
  matched : Bool
deriving DecidableEq, Repr

namespace Attempt

mutual
/-- The tries in an attempt that is made under a number of negations, in the order in which they
end. -/
def tries (negations : Nat) : Attempt → List Try
  | rule id origin matched inside => triesAll negations inside ++ [⟨id, origin, negations, matched⟩]
  | negation inside => triesAll (negations + 1) inside

/-- The tries in several attempts. -/
def triesAll (negations : Nat) : List Attempt → List Try
  | [] => []
  | attempt :: later => tries negations attempt ++ triesAll negations later
end

/-- The tries in attempts one after the other are those of the first and those of the others. -/
theorem triesAll_append (negations : Nat) (earlier later : List Attempt) :
    triesAll negations (earlier ++ later) =
      triesAll negations earlier ++ triesAll negations later := by
  induction earlier with
  | nil => rfl
  | cons first rest ih => rw [List.cons_append, triesAll, triesAll, ih, List.append_assoc]

/-- The tries in a single attempt. -/
theorem triesAll_singleton (negations : Nat) (attempt : Attempt) :
    triesAll negations [attempt] = tries negations attempt := by
  rw [triesAll, triesAll, List.append_nil]

end Attempt

/-! ## Calls -/

/-- Of several parts, up to the first that matches, one is called at a cursor. -/
inductive FirstCalls (grammar : Grammar P) : List RuleId → Scanner → RuleId → Scanner → Prop
  /-- The first part is called. -/
  | here {id : RuleId} {parts : List RuleId} {here : Scanner} :
      FirstCalls grammar (id :: parts) here id here
  /-- After a part that fails the others are called. -/
  | later {id part : RuleId} {parts : List RuleId} {here there : Scanner}
      (rule : RuleParse grammar id here none) (later : FirstCalls grammar parts here part there) :
      FirstCalls grammar (id :: parts) here part there

/-- A test at a cursor calls a part at a cursor. A sequence keeps all the calls it makes. -/
def TestCalls (grammar : Grammar P) : Test P → Scanner → RuleId → Scanner → Prop
  | .terminal _, _, _, _ => False
  | .reference target, here, part, there => part = target ∧ there = here
  | .group inner, here, part, there => part = inner ∧ there = here
  | .procedure _, _, _, _ => False
  | .sequence parts, here, part, there => AllKeeps grammar parts here part there
  | .choice parts, here, part, there => FirstCalls grammar parts here part there

/-- Repetition after a number of successes calls a part at a cursor. -/
inductive RepeatCalls (grammar : Grammar P) (rule : Occurrence P) :
    Nat → Scanner → RuleId → Scanner → Prop
  /-- An iteration calls what the test calls. -/
  | now {count : Nat} {here there : Scanner} {part : RuleId} (room : HasRoom rule count)
      (test : TestCalls grammar (grammar.testOf rule) here part there) :
      RepeatCalls grammar rule count here part there
  /-- The iterations after one that moves the cursor call what they call. -/
  | later {count : Nat} {here next there : Scanner} {part : RuleId} (room : HasRoom rule count)
      (once : OnceParse grammar rule here (some next)) (moved : next.position ≠ here.position)
      (later : RepeatCalls grammar rule (count + 1) next part there) :
      RepeatCalls grammar rule count here part there

/-- How many negations are open inside a rule. -/
def Occurrence.negationsInside (rule : Occurrence P) (negations : Nat) : Nat :=
  if rule.behaviour.negate then negations + 1 else negations

/-- Matching a rule at a cursor under a number of negations tries a rule. -/
inductive Tries (grammar : Grammar P) : RuleId → Scanner → Nat → Try → Prop
  /-- The rule itself is tried. -/
  | itself {id : RuleId} {here : Scanner} {negations : Nat} {answer : Option Scanner}
      (repeated : RepeatParse grammar (grammar.rule id) 0 here answer) :
      Tries grammar id here negations ⟨id, here.position, negations, answer.isSome⟩
  /-- What the parts try that it calls is tried. -/
  | inside {id part : RuleId} {here there : Scanner} {negations : Nat} {attempt : Try}
      (called : RepeatCalls grammar (grammar.rule id) 0 here part there)
      (tried : Tries grammar part there ((grammar.rule id).negationsInside negations) attempt) :
      Tries grammar id here negations attempt

section Calling

variable {grammar : Grammar P} {id part : RuleId} {parts : List RuleId} {rule : Occurrence P}
  {count : Nat} {here next there : Scanner}

/-! ## Calls, piece by piece -/

/-- If the first part fails, a sequence calls nothing else. -/
theorem allKeeps_cons_iff_of_none (first : RuleParse grammar id here none) :
    AllKeeps grammar (id :: parts) here part there ↔ part = id ∧ there = here := by
  constructor
  · intro keeps
    cases keeps with
    | here => exact ⟨rfl, rfl⟩
    | later rule => cases rule.unique first
  · rintro ⟨rfl, rfl⟩
    exact .here

/-- If the first part matches, a choice calls nothing else. -/
theorem firstCalls_cons_iff_of_some (first : RuleParse grammar id here (some next)) :
    FirstCalls grammar (id :: parts) here part there ↔ part = id ∧ there = here := by
  constructor
  · intro calls
    cases calls with
    | here => exact ⟨rfl, rfl⟩
    | later rule => cases rule.unique first
  · rintro ⟨rfl, rfl⟩
    exact .here

/-- If the first part fails, a choice calls it and what the others call. -/
theorem firstCalls_cons_iff_of_none (first : RuleParse grammar id here none) :
    FirstCalls grammar (id :: parts) here part there ↔
      (part = id ∧ there = here) ∨ FirstCalls grammar parts here part there := by
  constructor
  · intro calls
    cases calls with
    | here => exact .inl ⟨rfl, rfl⟩
    | later _ later => exact .inr later
  · rintro (⟨rfl, rfl⟩ | later)
    · exact .here
    · exact .later first later

/-- At the greatest number nothing more is called. -/
theorem not_repeatCalls_full (bounded : rule.behaviour.cardinality.maximum = some count) :
    ¬ RepeatCalls grammar rule count here part there := by
  intro calls
  cases calls with
  | now room => exact Nat.lt_irrefl _ (room count bounded)
  | later room => exact Nat.lt_irrefl _ (room count bounded)

/-- An iteration that does not move the cursor forward is the last that calls anything. -/
theorem repeatCalls_iff_of_last (room : HasRoom rule count)
    (last : ∀ next, OnceParse grammar rule here (some next) → next.position = here.position) :
    RepeatCalls grammar rule count here part there ↔
      TestCalls grammar (grammar.testOf rule) here part there := by
  constructor
  · intro calls
    cases calls with
    | now _ test => exact test
    | later _ once moved => exact absurd (last _ once) moved
  · exact .now room

/-- After an iteration that moves the cursor what the others call is called too. -/
theorem repeatCalls_iff_of_further (room : HasRoom rule count)
    (once : OnceParse grammar rule here (some next)) (moved : next.position ≠ here.position) :
    RepeatCalls grammar rule count here part there ↔
      TestCalls grammar (grammar.testOf rule) here part there ∨
        RepeatCalls grammar rule (count + 1) next part there := by
  constructor
  · intro calls
    cases calls with
    | now _ test => exact .inl test
    | later _ other _ later =>
      obtain rfl := Option.some.inj (other.unique once)
      exact .inr later
  · rintro (test | later)
    · exact .now room test
    · exact .later room once moved later

/-- A choice calls its parts at the cursor. -/
theorem FirstCalls.place_eq (calls : FirstCalls grammar parts here part there) : there = here := by
  induction calls with
  | here => rfl
  | later _ _ ih => exact ih

/-- A test calls parts at the cursor or behind it. -/
theorem TestCalls.reaches {test : Test P} (calls : TestCalls grammar test here part there) :
    here.Reaches there := by
  cases test with
  | terminal terminal => exact calls.elim
  | reference target => exact calls.2 ▸ .refl _
  | group inner => exact calls.2 ▸ .refl _
  | procedure steps => exact calls.elim
  | sequence parts => exact (AllKeeps.called calls).2
  | choice parts => exact FirstCalls.place_eq calls ▸ .refl _

/-- Repetition calls parts at the cursor or behind it. -/
theorem RepeatCalls.reaches (calls : RepeatCalls grammar rule count here part there) :
    here.Reaches there := by
  induction calls with
  | now _ test => exact test.reaches
  | later _ once _ _ ih => exact once.reaches.trans ih

/-! ## Genuine tries -/

/-- A rule is tried at a cursor or behind it, and comes to what the try says. -/
def Try.IsGenuine (grammar : Grammar P) (here : Scanner) (attempt : Try) : Prop :=
  ∃ there answer, here.Reaches there ∧ there.position = attempt.origin ∧
    RepeatParse grammar (grammar.rule attempt.id) 0 there answer ∧
    answer.isSome = attempt.matched

/-- A try behind a cursor is behind any cursor before it. -/
theorem Try.IsGenuine.mono {attempt : Try} (genuine : attempt.IsGenuine grammar next)
    (reached : here.Reaches next) : attempt.IsGenuine grammar here := by
  obtain ⟨there, answer, further, rest⟩ := genuine
  exact ⟨there, answer, reached.trans further, rest⟩

/-- What matching a rule tries is tried at the cursor or behind it, and comes to what the try
says. -/
theorem Tries.isGenuine {negations : Nat} {attempt : Try}
    (tries : Tries grammar id here negations attempt) : attempt.IsGenuine grammar here := by
  induction tries with
  | itself repeated => exact ⟨_, _, .refl _, rfl, repeated, rfl⟩
  | inside called _ ih => exact ih.mono called.reaches

end Calling

/-! ## The attempts of trials -/

/-- The attempts made in a trial, the last one first. -/
def Trial.journal? : Trial → Option (List Attempt)
  | .diverged => none
  | .failed journal => some journal
  | .matched progress => some progress.journal

/-- The verdicts of an oracle list the tries that matching the rules makes. -/
structure Oracle.Lists (grammar : Grammar P) (oracle : Oracle) : Prop where
  /-- The verdicts are answers by the rules. -/
  parses : oracle.Parses grammar
  /-- The tries in the attempts are those that matching the rules makes. -/
  exact : ∀ id here result, oracle id here = some result → ∀ negations attempt,
    attempt ∈ Attempt.triesAll negations
        (result.reply grammar (grammar.rule id) here.position).attempts ↔
      Tries grammar id here negations attempt

namespace Trial

open Attempt (triesAll triesAll_append triesAll_singleton)

variable {grammar : Grammar P} {oracle : Oracle} {progress : Progress} {journal : List Attempt}
  {negations : Nat} {attempt : Try}

/-- Taking a reply adds its attempts, whether the rule around goes on or not. -/
theorem journal?_take (progress : Progress) (reply : Reply) :
    (progress.take reply).journal? = some (reply.attempts.reverse ++ progress.journal) := by
  unfold Progress.take
  cases reply.matched <;> rfl

/-- A part that is called adds what matching it tries. -/
theorem call_lists (lists : oracle.Lists grammar) {id : RuleId}
    (ended : (call grammar oracle id progress).journal? = some journal) :
    attempt ∈ triesAll negations journal.reverse ↔
      attempt ∈ triesAll negations progress.journal.reverse ∨
        Tries grammar id progress.scanner negations attempt := by
  unfold call at ended
  split at ended
  · rename_i result known
    rw [journal?_take] at ended
    obtain rfl := Option.some.inj ended
    rw [List.reverse_append, List.reverse_reverse, triesAll_append, List.mem_append,
      lists.exact id progress.scanner result known]
  · contradiction

/-- Parts in order add what matching those tries that are called. -/
theorem all_lists (lists : oracle.Lists grammar) {parts : List RuleId}
    (ended : (all grammar oracle parts progress).journal? = some journal) :
    attempt ∈ triesAll negations journal.reverse ↔
      attempt ∈ triesAll negations progress.journal.reverse ∨
        ∃ part there, AllKeeps grammar parts progress.scanner part there ∧
          Tries grammar part there negations attempt := by
  induction parts generalizing progress with
  | nil =>
    obtain rfl := Option.some.inj ended
    constructor
    · exact .inl
    · rintro (noted | ⟨part, there, ⟨⟩, _⟩)
      exact noted
  | cons id later ih =>
    unfold Trial.all at ended
    split at ended
    · rename_i next called
      have first := call_parses lists.parses (congrArg Trial.answer called)
      rw [ih ended, call_lists lists (congrArg Trial.journal? called), or_assoc]
      simp only [allKeeps_cons_iff first, or_and_right, exists_or, and_assoc, exists_and_left,
        exists_eq_left]
    · rename_i failure called
      have first := call_parses lists.parses (congrArg Trial.answer called)
      obtain rfl := Option.some.inj ended
      rw [call_lists lists (congrArg Trial.journal? called)]
      simp only [allKeeps_cons_iff_of_none first, and_assoc, exists_and_left, exists_eq_left]
    · contradiction

/-- Parts up to the first that matches add what matching them tries. -/
theorem first_lists (lists : oracle.Lists grammar) {parts : List RuleId}
    (ended : (first grammar oracle parts progress).journal? = some journal) :
    attempt ∈ triesAll negations journal.reverse ↔
      attempt ∈ triesAll negations progress.journal.reverse ∨
        ∃ part there, FirstCalls grammar parts progress.scanner part there ∧
          Tries grammar part there negations attempt := by
  induction parts generalizing progress with
  | nil =>
    obtain rfl := Option.some.inj ended
    constructor
    · exact .inl
    · rintro (noted | ⟨part, there, ⟨⟩, _⟩)
      exact noted
  | cons id later ih =>
    unfold Trial.first at ended
    split at ended
    · rename_i next called
      have tried := call_parses lists.parses (congrArg Trial.answer called)
      obtain rfl := Option.some.inj ended
      rw [call_lists lists (congrArg Trial.journal? called)]
      simp only [firstCalls_cons_iff_of_some tried, and_assoc, exists_and_left, exists_eq_left]
    · rename_i failure called
      have tried := call_parses lists.parses (congrArg Trial.answer called)
      rw [ih ended, call_lists lists (congrArg Trial.journal? called), or_assoc]
      simp only [firstCalls_cons_iff_of_none tried, or_and_right, exists_or, and_assoc,
        exists_and_left, exists_eq_left]
    · contradiction

/-- A test adds what matching those parts tries that it calls. -/
theorem test_lists (lists : oracle.Lists grammar) {subject : Test P}
    (ended : (test grammar oracle subject progress).journal? = some journal) :
    attempt ∈ triesAll negations journal.reverse ↔
      attempt ∈ triesAll negations progress.journal.reverse ∨
        ∃ part there, TestCalls grammar subject progress.scanner part there ∧
          Tries grammar part there negations attempt := by
  cases subject with
  | terminal terminal =>
    simp only [Trial.test] at ended
    split at ended
    · obtain rfl := Option.some.inj ended
      simp [TestCalls]
    · obtain rfl := Option.some.inj ended
      simp [TestCalls]
  | reference target =>
    rw [call_lists lists ended]
    simp only [TestCalls, and_assoc, exists_and_left, exists_eq_left]
  | group inner =>
    rw [call_lists lists ended]
    simp only [TestCalls, and_assoc, exists_and_left, exists_eq_left]
  | procedure steps => contradiction
  | sequence parts => exact all_lists lists ended
  | choice parts => exact first_lists lists ended

/-- A test that is evaluated to see it fail leaves its attempts under a negation, however it ends.
-/
theorem journal?_refute {rule : Occurrence P}
    (ended : (refute grammar oracle rule progress).journal? = some journal) :
    ∃ inside, (test grammar oracle (grammar.testOf rule)
        { progress with journal := [] }).journal? = some inside ∧
      journal = .negation inside.reverse :: progress.journal := by
  unfold refute at ended
  split at ended
  · rename_i tested found
    exact ⟨_, congrArg journal? found, (Option.some.inj ended).symm⟩
  · rename_i inside found
    refine ⟨inside, congrArg journal? found, ?_⟩
    simp only at ended
    split at ended
    · exact (Option.some.inj ended).symm
    · split at ended
      · exact (Option.some.inj ended).symm
      · exact (Option.some.inj ended).symm
  · contradiction

/-- An iteration adds what matching those parts tries that its test calls, under one more negation
if it is negated. -/
theorem once_lists (lists : oracle.Lists grammar) {rule : Occurrence P}
    (ended : (once grammar oracle rule progress).journal? = some journal) :
    attempt ∈ triesAll negations journal.reverse ↔
      attempt ∈ triesAll negations progress.journal.reverse ∨
        ∃ part there, TestCalls grammar (grammar.testOf rule) progress.scanner part there ∧
          Tries grammar part there (rule.negationsInside negations) attempt := by
  unfold Trial.once at ended
  split at ended
  · rename_i negated
    obtain ⟨inside, tested, rfl⟩ := journal?_refute ended
    have deeper : rule.negationsInside negations = negations + 1 := if_pos negated
    rw [List.reverse_cons, triesAll_append, List.mem_append, triesAll_singleton, Attempt.tries,
      test_lists lists tested, deeper]
    simp [triesAll]
  · rename_i plain
    have same : rule.negationsInside negations = negations := if_neg plain
    rw [test_lists lists ended, same]

/-- How repetition is settled makes no difference to the attempts. -/
theorem journal?_settle (rule : Occurrence P) (count : Nat) (progress : Progress) :
    (settle rule count progress).journal? = some progress.journal := by
  unfold settle
  split <;> rfl

/-- Repetition adds what matching those parts tries that it calls. -/
theorem rounds_lists (lists : oracle.Lists grammar) {rule : Occurrence P} {budget count : Nat}
    (budgeted : ∀ bound, rule.behaviour.cardinality.maximum = some bound → bound = count + budget)
    (ended : (rounds grammar oracle rule budget count progress).journal? = some journal) :
    attempt ∈ triesAll negations journal.reverse ↔
      attempt ∈ triesAll negations progress.journal.reverse ∨
        ∃ part there, RepeatCalls grammar rule count progress.scanner part there ∧
          Tries grammar part there (rule.negationsInside negations) attempt := by
  induction budget generalizing count progress with
  | zero =>
    unfold Trial.rounds at ended
    split at ended
    · rename_i bound bounded
      obtain rfl := budgeted bound bounded
      rw [journal?_settle] at ended
      obtain rfl := Option.some.inj ended
      simp [not_repeatCalls_full bounded]
    · contradiction
  | succ budget ih =>
    have room : HasRoom rule count :=
      fun bound bounded => by have := budgeted bound bounded; omega
    unfold Trial.rounds at ended
    split at ended
    · rename_i middle iterated
      have iteration := once_parses lists.parses (congrArg Trial.answer iterated)
      have noted := congrArg Trial.journal? iterated
      split at ended
      · rename_i still
        have last : ∀ next, OnceParse grammar rule progress.scanner (some next) →
            next.position = progress.scanner.position := by
          intro next once
          obtain rfl := Option.some.inj (once.unique iteration)
          exact still
        rw [journal?_settle] at ended
        obtain rfl := Option.some.inj ended
        rw [once_lists lists noted]
        simp only [repeatCalls_iff_of_last room last]
      · rename_i moved
        have left : ∀ bound, rule.behaviour.cardinality.maximum = some bound →
            bound = count + 1 + budget :=
          fun bound bounded => by have := budgeted bound bounded; omega
        rw [ih left ended, once_lists lists noted, or_assoc, ← exists_or]
        simp only [repeatCalls_iff_of_further room iteration moved, or_and_right, exists_or]
    · rename_i failure iterated
      have iteration := once_parses lists.parses (congrArg Trial.answer iterated)
      have last : ∀ next, OnceParse grammar rule progress.scanner (some next) →
          next.position = progress.scanner.position := by
        intro next once
        cases once.unique iteration
      rw [journal?_settle] at ended
      obtain rfl := Option.some.inj ended
      rw [once_lists lists (congrArg Trial.journal? iterated)]
      simp only [repeatCalls_iff_of_last room last]
    · contradiction

/-- A test evaluated as often as its rule asks leaves what matching those parts tries that it
calls. -/
theorem repeated_lists (lists : oracle.Lists grammar) {rule : Occurrence P} {here : Scanner}
    (ended : (repeated grammar oracle rule (.start here)).journal? = some journal) :
    attempt ∈ triesAll negations journal.reverse ↔
      ∃ part there, RepeatCalls grammar rule 0 here part there ∧
        Tries grammar part there (rule.negationsInside negations) attempt := by
  rw [rounds_lists lists (maximum_eq_budget rule _) ended]
  simp [Progress.start, triesAll]

end Trial

/-! ## The attempts of verdicts -/

section Verdicts

variable {grammar : Grammar P} {id : RuleId} {here : Scanner} {negations : Nat} {attempt : Try}

/-- Matching a rule whose test comes to an answer tries the rule with that answer, and what the
parts try that it calls. -/
theorem tries_iff {answer : Option Scanner}
    (repeated : RepeatParse grammar (grammar.rule id) 0 here answer) :
    Tries grammar id here negations attempt ↔
      (∃ part there, RepeatCalls grammar (grammar.rule id) 0 here part there ∧
        Tries grammar part there ((grammar.rule id).negationsInside negations) attempt) ∨
      attempt = ⟨id, here.position, negations, answer.isSome⟩ := by
  constructor
  · intro tries
    cases tries with
    | itself again => exact .inr (again.unique repeated ▸ rfl)
    | inside called tried => exact .inl ⟨_, _, called, tried⟩
  · rintro (⟨part, there, called, tried⟩ | rfl)
    · exact .inside called tried
    · exact .itself repeated

/-- If the verdicts on parts list the tries that matching them makes, so do the verdicts that follow
from them. -/
theorem Oracle.Lists.step {oracle : Oracle} (lists : oracle.Lists grammar) :
    (oracle.step grammar).Lists grammar := by
  refine ⟨lists.parses.step, fun id here result known negations attempt => ?_⟩
  unfold Oracle.step at known
  generalize ended : Trial.repeated grammar oracle (grammar.rule id) (.start here) = trial at known
  have listed : ∀ journal matched, trial.journal? = some journal →
      (attempt ∈ Attempt.triesAll negations [.rule id here.position matched journal.reverse] ↔
        (∃ part there, RepeatCalls grammar (grammar.rule id) 0 here part there ∧
          Tries grammar part there ((grammar.rule id).negationsInside negations) attempt) ∨
        attempt = ⟨id, here.position, negations, matched⟩) := by
    intro journal matched noted
    rw [Attempt.triesAll_singleton, Attempt.tries, List.mem_append, List.mem_singleton,
      Trial.repeated_lists lists (ended ▸ noted)]
  cases trial with
  | diverged => contradiction
  | failed journal =>
    have failed := Trial.repeated_parses lists.parses (congrArg Trial.answer ended)
    obtain rfl := Option.some.inj known
    rw [tries_iff failed]
    exact listed journal false rfl
  | matched progress =>
    have matched := Trial.repeated_parses lists.parses (congrArg Trial.answer ended)
    obtain rfl := Option.some.inj known
    rw [tries_iff matched]
    exact listed progress.journal true rfl

/-- Verdicts list the tries that matching the rules makes. -/
theorem verdict_lists (grammar : Grammar P) (depth : Nat) :
    (verdict grammar depth).Lists grammar := by
  induction depth with
  | zero =>
    exact ⟨verdict_parses grammar 0, fun id here result known negations attempt => by contradiction⟩
  | succ depth ih => exact ih.step

/-- Final verdicts list the tries that matching the rules makes. -/
theorem finalVerdict_lists {result : MatchResult}
    (known : finalVerdict grammar id here = some result) :
    attempt ∈ Attempt.triesAll negations
        (result.reply grammar (grammar.rule id) here.position).attempts ↔
      Tries grammar id here negations attempt :=
  (verdict_lists grammar _).exact id here result known negations attempt

end Verdicts

end Packrat
