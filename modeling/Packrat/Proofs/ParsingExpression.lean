import Packrat.Proofs.Simulation

/-!
# Rules as parsing expressions

What a rule comes to at a cursor, as far as the cursor goes, is given by the rules of parsing
expressions alone: `RuleParse` and its companions say it with no state, no nodes and no cache. The
answer of an evaluation is the cursor it ends at, or nothing if it fails. An evaluation has at most
one answer, and none at all if it never ends.

The final verdicts are exactly the answers of these rules (`ruleParse_iff_finalVerdict`), and
matching a rule gives its answer from every state, with the same nodes and diagnostics added
(`Contributes`).
-/

namespace Packrat

variable {P : Type}

/-- How repetition ends after a number of successes: well if the least number is reached. -/
def tally (rule : Occurrence P) (count : Nat) (here : Scanner) : Option Scanner :=
  if rule.behaviour.cardinality.minimum ≤ count then some here else none

/-- Whether the test of a rule may be evaluated again after a number of successes. -/
def HasRoom (rule : Occurrence P) (count : Nat) : Prop :=
  ∀ bound, rule.behaviour.cardinality.maximum = some bound → count < bound

mutual
/-- What a rule comes to at a cursor. -/
inductive RuleParse (grammar : Grammar P) : RuleId → Scanner → Option Scanner → Prop
  /-- A rule matches if its test succeeds often enough; if it looks ahead, it ends where it
  started. -/
  | matched {id : RuleId} {origin stop : Scanner}
      (repeated : RepeatParse grammar (grammar.rule id) 0 origin (some stop)) :
      RuleParse grammar id origin
        (some (if (grammar.rule id).behaviour.lookahead then origin else stop))
  /-- A pinned rule that fails counts as matched where it started. -/
  | recovered {id : RuleId} {origin : Scanner}
      (repeated : RepeatParse grammar (grammar.rule id) 0 origin none)
      (pinned : (grammar.rule id).annotations.pinned = true) :
      RuleParse grammar id origin (some origin)
  /-- Every other rule fails if its test does not succeed often enough. -/
  | failed {id : RuleId} {origin : Scanner}
      (repeated : RepeatParse grammar (grammar.rule id) 0 origin none)
      (unpinned : (grammar.rule id).annotations.pinned = false) :
      RuleParse grammar id origin none

/-- What repetition comes to at a cursor after a number of successes. -/
inductive RepeatParse (grammar : Grammar P) : Occurrence P → Nat → Scanner → Option Scanner → Prop
  /-- Repetition ends at the greatest number. -/
  | full {rule : Occurrence P} {count : Nat} {here : Scanner}
      (bounded : rule.behaviour.cardinality.maximum = some count) :
      RepeatParse grammar rule count here (tally rule count here)
  /-- Repetition ends at the first failure. -/
  | failure {rule : Occurrence P} {count : Nat} {here : Scanner} (room : HasRoom rule count)
      (once : OnceParse grammar rule here none) :
      RepeatParse grammar rule count here (tally rule count here)
  /-- Repetition ends after the first success that takes nothing. -/
  | standing {rule : Occurrence P} {count : Nat} {here next : Scanner} (room : HasRoom rule count)
      (once : OnceParse grammar rule here (some next)) (still : next.position = here.position) :
      RepeatParse grammar rule count here (tally rule (count + 1) next)
  /-- Repetition goes on after every other success. -/
  | further {rule : Occurrence P} {count : Nat} {here next : Scanner} {answer : Option Scanner}
      (room : HasRoom rule count) (once : OnceParse grammar rule here (some next))
      (moved : next.position ≠ here.position)
      (later : RepeatParse grammar rule (count + 1) next answer) :
      RepeatParse grammar rule count here answer

/-- What one iteration of a rule comes to at a cursor. -/
inductive OnceParse (grammar : Grammar P) : Occurrence P → Scanner → Option Scanner → Prop
  /-- An iteration that is not negated is the test. -/
  | plain {rule : Occurrence P} {here : Scanner} {answer : Option Scanner}
      (plain : rule.behaviour.negate = false)
      (test : TestParse grammar (grammar.testOf rule) here answer) :
      OnceParse grammar rule here answer
  /-- A negated iteration fails where the test matches. -/
  | refuted {rule : Occurrence P} {here next : Scanner} (negated : rule.behaviour.negate = true)
      (test : TestParse grammar (grammar.testOf rule) here (some next)) :
      OnceParse grammar rule here none
  /-- A negated iteration that looks ahead takes nothing where the test fails. -/
  | ahead {rule : Occurrence P} {here : Scanner} (negated : rule.behaviour.negate = true)
      (lookahead : rule.behaviour.lookahead = true)
      (test : TestParse grammar (grammar.testOf rule) here none) :
      OnceParse grammar rule here (some here)
  /-- Every other negated iteration takes one character where the test fails, if one is left. -/
  | taken {rule : Occurrence P} {here : Scanner} (negated : rule.behaviour.negate = true)
      (taking : rule.behaviour.lookahead = false)
      (test : TestParse grammar (grammar.testOf rule) here none) :
      OnceParse grammar rule here (here.consume.map Prod.snd)

/-- What a test comes to at a cursor. -/
inductive TestParse (grammar : Grammar P) : Test P → Scanner → Option Scanner → Prop
  /-- A terminal takes what it describes. -/
  | terminal {terminal : Terminal} {here : Scanner} :
      TestParse grammar (.terminal terminal) here (terminal.scan here)
  /-- A reference is the rule it refers to. -/
  | reference {target : RuleId} {here : Scanner} {answer : Option Scanner}
      (rule : RuleParse grammar target here answer) :
      TestParse grammar (.reference target) here answer
  /-- A group is the rule inside it. -/
  | group {inner : RuleId} {here : Scanner} {answer : Option Scanner}
      (rule : RuleParse grammar inner here answer) :
      TestParse grammar (.group inner) here answer
  /-- A sequence is its parts, one after the other. -/
  | sequence {parts : List RuleId} {here : Scanner} {answer : Option Scanner}
      (all : AllParse grammar parts here answer) :
      TestParse grammar (.sequence parts) here answer
  /-- A choice is the first of its parts that succeeds. -/
  | choice {parts : List RuleId} {here : Scanner} {answer : Option Scanner}
      (first : FirstParse grammar parts here answer) :
      TestParse grammar (.choice parts) here answer

/-- What parts, one after the other, come to at a cursor. -/
inductive AllParse (grammar : Grammar P) : List RuleId → Scanner → Option Scanner → Prop
  /-- No parts match. -/
  | nil {here : Scanner} : AllParse grammar [] here (some here)
  /-- After a part that matched the others start where it ended. -/
  | step {id : RuleId} {parts : List RuleId} {here next : Scanner} {answer : Option Scanner}
      (rule : RuleParse grammar id here (some next)) (later : AllParse grammar parts next answer) :
      AllParse grammar (id :: parts) here answer
  /-- The first part that fails ends it. -/
  | failure {id : RuleId} {parts : List RuleId} {here : Scanner}
      (rule : RuleParse grammar id here none) : AllParse grammar (id :: parts) here none

/-- What the first of several parts that succeeds comes to at a cursor. -/
inductive FirstParse (grammar : Grammar P) : List RuleId → Scanner → Option Scanner → Prop
  /-- No parts fail. -/
  | nil {here : Scanner} : FirstParse grammar [] here none
  /-- The first part that succeeds ends it. -/
  | success {id : RuleId} {parts : List RuleId} {here next : Scanner}
      (rule : RuleParse grammar id here (some next)) :
      FirstParse grammar (id :: parts) here (some next)
  /-- After a part that failed the others start at the same cursor. -/
  | other {id : RuleId} {parts : List RuleId} {here : Scanner} {answer : Option Scanner}
      (rule : RuleParse grammar id here none) (later : FirstParse grammar parts here answer) :
      FirstParse grammar (id :: parts) here answer
end

/-! ## Trials answer by the rules -/

/-- The cursor that a reply at a cursor leads to, if the rule around goes on. -/
def Reply.answer (reply : Reply) (here : Scanner) : Option Scanner :=
  if reply.matched then some (here.moveTo reply.stop) else none

/-- The cursor that a trial leads to, if it has an end and matches. -/
def Trial.answer : Trial → Option (Option Scanner)
  | .diverged => none
  | .failed _ => some none
  | .matched progress => some (some progress.scanner)

/-- The verdicts of an oracle are answers by the rules. -/
def Oracle.Parses (grammar : Grammar P) (oracle : Oracle) : Prop :=
  ∀ id here result, oracle id here = some result →
    RuleParse grammar id here ((result.reply grammar (grammar.rule id) here.position).answer here)

namespace Trial

variable {grammar : Grammar P} {oracle : Oracle} {progress : Progress} {answer : Option Scanner}

/-- Taking a reply leads where the reply does. -/
theorem answer_take (progress : Progress) (reply : Reply) :
    (progress.take reply).answer = some (reply.answer progress.scanner) := by
  unfold Progress.take Reply.answer
  cases reply.matched <;> rfl

/-- A part that is matched as verdicts say has the answer of its rule. -/
theorem call_parses (parses : oracle.Parses grammar) {id : RuleId}
    (answered : (call grammar oracle id progress).answer = some answer) :
    RuleParse grammar id progress.scanner answer := by
  unfold call at answered
  split at answered
  · rename_i result known
    rw [answer_take] at answered
    obtain rfl := Option.some.inj answered
    exact parses id progress.scanner result known
  · contradiction

/-- Parts in order that are matched as verdicts say have the answer of a sequence. -/
theorem all_parses (parses : oracle.Parses grammar) {parts : List RuleId}
    (answered : (all grammar oracle parts progress).answer = some answer) :
    AllParse grammar parts progress.scanner answer := by
  induction parts generalizing progress with
  | nil =>
    obtain rfl := Option.some.inj answered
    exact .nil
  | cons id later ih =>
    unfold all at answered
    split at answered
    · rename_i next called
      exact .step (call_parses parses (congrArg Trial.answer called)) (ih answered)
    · rename_i journal called
      obtain rfl := Option.some.inj answered
      exact .failure (call_parses parses (congrArg Trial.answer called))
    · contradiction

/-- The first part that succeeds, matched as verdicts say, has the answer of a choice. -/
theorem first_parses (parses : oracle.Parses grammar) {parts : List RuleId}
    (answered : (first grammar oracle parts progress).answer = some answer) :
    FirstParse grammar parts progress.scanner answer := by
  induction parts generalizing progress with
  | nil =>
    obtain rfl := Option.some.inj answered
    exact .nil
  | cons id later ih =>
    unfold first at answered
    split at answered
    · rename_i next called
      obtain rfl := Option.some.inj answered
      exact .success (call_parses parses (congrArg Trial.answer called))
    · rename_i journal called
      have rest := ih answered
      exact .other (call_parses parses (congrArg Trial.answer called)) rest
    · contradiction

/-- A test evaluated as verdicts say has the answer of the test. -/
theorem test_parses (parses : oracle.Parses grammar) {subject : Test P}
    (answered : (test grammar oracle subject progress).answer = some answer) :
    TestParse grammar subject progress.scanner answer := by
  cases subject with
  | reference target => exact .reference (call_parses parses answered)
  | group inner => exact .group (call_parses parses answered)
  | procedure steps => contradiction
  | sequence parts => exact .sequence (all_parses parses answered)
  | choice parts => exact .choice (first_parses parses answered)
  | terminal terminal =>
    obtain rfl : terminal.scan progress.scanner = answer := by
      simp only [test] at answered
      split at answered
      · rename_i scanner found
        exact found.trans (Option.some.inj answered)
      · rename_i found
        exact found.trans (Option.some.inj answered)
    exact .terminal

/-- An iteration evaluated as verdicts say has the answer of the iteration. -/
theorem once_parses (parses : oracle.Parses grammar) {rule : Occurrence P}
    (answered : (once grammar oracle rule progress).answer = some answer) :
    OnceParse grammar rule progress.scanner answer := by
  unfold once at answered
  split at answered
  · rename_i negated
    unfold refute at answered
    split at answered
    · rename_i tested found
      obtain rfl := Option.some.inj answered
      have subject := test_parses parses (congrArg Trial.answer found)
      exact .refuted negated subject
    · rename_i journal found
      have subject := test_parses parses (congrArg Trial.answer found)
      simp only at answered subject
      split at answered
      · rename_i lookahead
        obtain rfl := Option.some.inj answered
        exact .ahead negated lookahead subject
      · rename_i taking
        obtain rfl : progress.scanner.consume.map Prod.snd = answer := by
          split at answered
          · rename_i c scanner consumed
            rw [consumed]
            exact Option.some.inj answered
          · rename_i consumed
            rw [consumed]
            exact Option.some.inj answered
        exact .taken negated (Bool.not_eq_true _ ▸ taking) subject
    · contradiction
  · rename_i plain
    exact .plain (Bool.not_eq_true _ ▸ plain) (test_parses parses answered)

/-- Repetition that has not gone past the greatest number ends as the rules say. -/
theorem answer_settle {rule : Occurrence P} {count : Nat}
    (within : ∀ bound, rule.behaviour.cardinality.maximum = some bound → count ≤ bound)
    (progress : Progress) :
    (settle rule count progress).answer = some (tally rule count progress.scanner) := by
  have accepted : rule.behaviour.cardinality.accepts count =
      decide (rule.behaviour.cardinality.minimum ≤ count) := by
    unfold Cardinality.accepts
    cases bounded : rule.behaviour.cardinality.maximum with
    | none => simp
    | some bound => simp [within bound bounded]
  unfold settle tally
  rw [accepted]
  by_cases enough : rule.behaviour.cardinality.minimum ≤ count
  · simp [enough, answer]
  · simp [enough, answer]

/-- Repetition evaluated as verdicts say has the answer of repetition. -/
theorem rounds_parses (parses : oracle.Parses grammar) {rule : Occurrence P} {budget count : Nat}
    (budgeted : ∀ bound, rule.behaviour.cardinality.maximum = some bound → bound = count + budget)
    (answered : (rounds grammar oracle rule budget count progress).answer = some answer) :
    RepeatParse grammar rule count progress.scanner answer := by
  have within : ∀ bound, rule.behaviour.cardinality.maximum = some bound → count ≤ bound :=
    fun bound bounded => by have := budgeted bound bounded; omega
  induction budget generalizing count progress with
  | zero =>
    unfold rounds at answered
    split at answered
    · rename_i bound bounded
      rw [answer_settle within] at answered
      obtain rfl := Option.some.inj answered
      exact .full (bounded.trans (congrArg some (budgeted bound bounded)))
    · contradiction
  | succ budget ih =>
    have room : HasRoom rule count :=
      fun bound bounded => by have := budgeted bound bounded; omega
    unfold rounds at answered
    split at answered
    · rename_i next iterated
      have iteration := once_parses parses (congrArg Trial.answer iterated)
      split at answered
      · rename_i still
        rw [answer_settle room] at answered
        obtain rfl := Option.some.inj answered
        exact .standing room iteration still
      · rename_i moved
        refine .further room iteration moved (ih ?_ answered room)
        intro bound bounded
        have := budgeted bound bounded
        omega
    · rename_i journal iterated
      rw [answer_settle within] at answered
      obtain rfl := Option.some.inj answered
      exact .failure room (once_parses parses (congrArg Trial.answer iterated))
    · contradiction

/-- The budget that repetition starts with is the greatest number. -/
theorem maximum_eq_budget (rule : Occurrence P) (spare bound : Nat)
    (bounded : rule.behaviour.cardinality.maximum = some bound) :
    bound = 0 + rule.behaviour.cardinality.maximum.getD spare := by
  rw [bounded, Option.getD_some, Nat.zero_add]

/-- A test evaluated as often as its rule asks has the answer of repetition. -/
theorem repeated_parses (parses : oracle.Parses grammar) {rule : Occurrence P} {here : Scanner}
    (answered : (repeated grammar oracle rule (.start here)).answer = some answer) :
    RepeatParse grammar rule 0 here answer :=
  rounds_parses parses (maximum_eq_budget rule _) answered

end Trial

/-- Where the rule around goes on after a failure: at the same cursor if the rule is pinned. -/
theorem answer_failure (grammar : Grammar P) (rule : Occurrence P) (here : Scanner)
    (attempts : List Attempt) :
    (MatchResult.reply grammar rule here.position (.failure attempts)).answer here =
      if rule.annotations.pinned then some here else none := by
  unfold Reply.answer MatchResult.reply
  rw [Scanner.moveTo_position rfl]

/-- Where the rule around goes on after a match: where the match ended, or at the same cursor if the
rule looks ahead. -/
theorem answer_remembered (grammar : Grammar P) (id : RuleId) {here : Scanner} {ended : Progress}
    (source : ended.scanner.source = here.source) :
    (MatchResult.reply grammar (grammar.rule id) here.position
      (.success (Trial.remembered grammar id here.position ended))).answer here =
      some (if (grammar.rule id).behaviour.lookahead then here else ended.scanner) := by
  change some (here.moveTo (if (grammar.rule id).behaviour.lookahead then here.position
    else ended.scanner.position)) = _
  cases (grammar.rule id).behaviour.lookahead with
  | true => exact congrArg some (Scanner.moveTo_position rfl)
  | false => exact congrArg some (Scanner.moveTo_position source.symm)

/-- If verdicts on parts are answers by the rules, so are the verdicts that follow from them. -/
theorem Oracle.Parses.step {grammar : Grammar P} {oracle : Oracle}
    (parses : oracle.Parses grammar) : (oracle.step grammar).Parses grammar := by
  intro id origin result known
  unfold Oracle.step at known
  generalize ended : Trial.repeated grammar oracle (grammar.rule id) (.start origin) = trial
    at known
  have repeated : ∀ answer, trial.answer = some answer →
      RepeatParse grammar (grammar.rule id) 0 origin answer := by
    intro answer answered
    subst ended
    exact Trial.repeated_parses parses answered
  cases trial with
  | diverged => contradiction
  | failed journal =>
    obtain rfl := Option.some.inj known
    rw [answer_failure]
    cases pinned : (grammar.rule id).annotations.pinned with
    | true => exact .recovered (repeated none rfl) pinned
    | false => exact .failed (repeated none rfl) pinned
  | matched progress =>
    obtain rfl := Option.some.inj known
    have source : progress.scanner.source = origin.source :=
      (Trial.keeps_source grammar oracle origin.source).rounds rfl ended
    rw [answer_remembered grammar id source]
    exact .matched (repeated (some progress.scanner) rfl)

/-- Verdicts are answers by the rules. -/
theorem verdict_parses (grammar : Grammar P) (depth : Nat) :
    (verdict grammar depth).Parses grammar := by
  induction depth with
  | zero => exact fun id here result known => by contradiction
  | succ depth ih => exact ih.step

/-! ## Answers by the rules are verdicts -/

/-- A budget that does not cut repetition short after a number of successes. -/
def Affords (rule : Occurrence P) (count budget : Nat) (here : Scanner) : Prop :=
  match rule.behaviour.cardinality.maximum with
  | some bound => bound = count + budget
  | none => here.source.length - here.position < budget

namespace Affords

variable {rule : Occurrence P} {count budget : Nat} {here next : Scanner}

/-- The budget that repetition starts with does not cut it short. -/
theorem start (rule : Occurrence P) (here : Scanner) :
    Affords rule 0 (rule.behaviour.cardinality.maximum.getD (here.source.length + 2)) here := by
  unfold Affords
  split
  · rename_i bound bounded
    rw [bounded, Option.getD_some, Nat.zero_add]
  · rename_i unbounded
    rw [unbounded, Option.getD_none]
    omega

/-- While there is room the budget is not used up. -/
theorem exists_succ (affords : Affords rule count budget here) (room : HasRoom rule count) :
    ∃ rest, budget = rest + 1 := by
  refine ⟨budget - 1, ?_⟩
  unfold Affords at affords
  split at affords
  · rename_i bound bounded
    have below := room bound bounded
    omega
  · omega

/-- A success that moves the cursor leaves enough of the budget. -/
theorem further (affords : Affords rule count (budget + 1) here) (reached : here.Reaches next)
    (moved : next.position ≠ here.position) : Affords rule (count + 1) budget next := by
  have ahead := reached.forward
  have inside := next.inside
  unfold Affords at affords ⊢
  split at affords
  · omega
  · rw [reached.source] at inside ⊢
    omega

end Affords

namespace Trial

/-- A trial that fails has come to attempts. -/
theorem exists_of_answer_none {trial : Trial} (answered : trial.answer = some none) :
    ∃ journal, trial = .failed journal := by
  cases trial with
  | diverged => contradiction
  | failed journal => exact ⟨journal, rfl⟩
  | matched progress => simp [answer] at answered

/-- A trial that matches has come to some progress, at the cursor of the answer. -/
theorem exists_of_answer_some {trial : Trial} {stop : Scanner}
    (answered : trial.answer = some (some stop)) :
    ∃ progress, trial = .matched progress ∧ progress.scanner = stop := by
  cases trial with
  | diverged => contradiction
  | failed journal => simp [answer] at answered
  | matched progress => exact ⟨progress, rfl, Option.some.inj (Option.some.inj answered)⟩

end Trial

section Completeness

variable {grammar : Grammar P}

/-- A rule whose test does not succeed often enough counts as matched only if it is pinned. -/
theorem answer_call_failed {id : RuleId} (progress : Progress)
    (answered : (Trial.repeated grammar (finalVerdict grammar) (grammar.rule id)
      (.start progress.scanner)).answer =
      some none) :
    (Trial.call grammar (finalVerdict grammar) id progress).answer =
      some (if (grammar.rule id).annotations.pinned then some progress.scanner else none) := by
  obtain ⟨journal, failed⟩ := Trial.exists_of_answer_none answered
  have known := congrFun (congrFun (finalVerdict_eq_step grammar) id) progress.scanner
  rw [Oracle.step, failed, Trial.conclude] at known
  unfold Trial.call
  rw [← known]
  simp only
  rw [Trial.answer_take, answer_failure]

/-- A rule whose test succeeds often enough matches, where it started if it looks ahead. -/
theorem answer_call_matched {id : RuleId} {stop : Scanner} (progress : Progress)
    (answered : (Trial.repeated grammar (finalVerdict grammar) (grammar.rule id)
      (.start progress.scanner)).answer =
      some (some stop)) :
    (Trial.call grammar (finalVerdict grammar) id progress).answer =
      some (some (if (grammar.rule id).behaviour.lookahead then progress.scanner else stop)) := by
  obtain ⟨ended, matched, rfl⟩ := Trial.exists_of_answer_some answered
  have inSource : (Progress.start progress.scanner).scanner.source = progress.scanner.source := rfl
  have source := (Trial.keeps_source grammar (finalVerdict grammar) _).rounds inSource matched
  have known := congrFun (congrFun (finalVerdict_eq_step grammar) id) progress.scanner
  rw [Oracle.step, matched, Trial.conclude] at known
  unfold Trial.call
  rw [← known]
  simp only
  rw [Trial.answer_take, answer_remembered grammar id source]

mutual
/-- A rule with an answer has it under the final verdicts. -/
theorem RuleParse.answers {id : RuleId} {here : Scanner} {answer : Option Scanner} :
    RuleParse grammar id here answer → ∀ progress : Progress, progress.scanner = here →
      (Trial.call grammar (finalVerdict grammar) id progress).answer = some answer
  | .matched repeated, progress, standing => by
    have answered := repeated.answers (.start here) rfl _ (.start _ here)
    subst standing
    exact answer_call_matched progress answered
  | .recovered repeated pinned, progress, standing => by
    have answered := repeated.answers (.start here) rfl _ (.start _ here)
    subst standing
    rw [answer_call_failed progress answered, pinned]
    rfl
  | .failed repeated unpinned, progress, standing => by
    have answered := repeated.answers (.start here) rfl _ (.start _ here)
    subst standing
    rw [answer_call_failed progress answered, unpinned]
    rfl

/-- Repetition with an answer has it under the final verdicts, if the budget does not cut it short.
-/
theorem RepeatParse.answers {rule : Occurrence P} {count : Nat} {here : Scanner}
    {answer : Option Scanner} : RepeatParse grammar rule count here answer →
    ∀ progress : Progress, progress.scanner = here → ∀ budget, Affords rule count budget here →
      (Trial.rounds grammar (finalVerdict grammar) rule budget count progress).answer = some answer
  | .full bounded, progress, standing, budget, affords => by
    have used : count = count + budget := by
      unfold Affords at affords
      rwa [bounded] at affords
    obtain rfl : budget = 0 := by omega
    unfold Trial.rounds
    rw [bounded, ← standing]
    refine Trial.answer_settle (fun bound same => ?_) progress
    exact Nat.le_of_eq (Option.some.inj (bounded.symm.trans same))
  | .failure room once, progress, standing, budget, affords => by
    obtain ⟨rest, rfl⟩ := affords.exists_succ room
    obtain ⟨journal, failed⟩ := Trial.exists_of_answer_none (once.answers progress standing)
    unfold Trial.rounds
    rw [failed, ← standing]
    exact Trial.answer_settle (fun bound bounded => Nat.le_of_lt (room bound bounded)) _
  | .standing room once still, progress, standing, budget, affords => by
    obtain ⟨rest, rfl⟩ := affords.exists_succ room
    obtain ⟨ended, matched, rfl⟩ := Trial.exists_of_answer_some (once.answers progress standing)
    unfold Trial.rounds
    rw [matched]
    simp only [standing, still, if_true]
    exact Trial.answer_settle room ended
  | .further room once moved later, progress, standing, budget, affords => by
    obtain ⟨rest, rfl⟩ := affords.exists_succ room
    obtain ⟨ended, matched, stopped⟩ := Trial.exists_of_answer_some (once.answers progress standing)
    have forward := finalVerdict_forward grammar
    have reached := (Trial.keeps_reaches forward progress.scanner).once (.refl _) matched
    rw [standing, stopped] at reached
    have answered := later.answers ended stopped rest (affords.further reached moved)
    unfold Trial.rounds
    rw [matched]
    simp only [standing, stopped, moved, if_false]
    exact answered

/-- An iteration with an answer has it under the final verdicts. -/
theorem OnceParse.answers {rule : Occurrence P} {here : Scanner} {answer : Option Scanner} :
    OnceParse grammar rule here answer → ∀ progress : Progress, progress.scanner = here →
      (Trial.once grammar (finalVerdict grammar) rule progress).answer = some answer
  | .plain plain test, progress, standing => by
    have answered := test.answers progress standing
    unfold Trial.once
    rw [plain]
    exact answered
  | .refuted negated test, progress, standing => by
    obtain ⟨ended, matched, _⟩ :=
      Trial.exists_of_answer_some (test.answers { progress with journal := [] } standing)
    unfold Trial.once Trial.refute
    rw [negated, matched]
    rfl
  | .ahead negated lookahead test, progress, standing => by
    obtain ⟨journal, failed⟩ :=
      Trial.exists_of_answer_none (test.answers { progress with journal := [] } standing)
    unfold Trial.once Trial.refute
    rw [negated, failed, lookahead, ← standing]
    rfl
  | .taken negated taking test, progress, standing => by
    obtain ⟨journal, failed⟩ :=
      Trial.exists_of_answer_none (test.answers { progress with journal := [] } standing)
    unfold Trial.once Trial.refute
    rw [negated, failed, taking, ← standing]
    cases consumed : progress.scanner.consume with
    | none => rfl
    | some taken => rfl

/-- A test with an answer has it under the final verdicts. -/
theorem TestParse.answers {test : Test P} {here : Scanner} {answer : Option Scanner} :
    TestParse grammar test here answer → ∀ progress : Progress, progress.scanner = here →
      (Trial.test grammar (finalVerdict grammar) test progress).answer = some answer
  | .reference rule, progress, standing => rule.answers progress standing
  | .group rule, progress, standing => rule.answers progress standing
  | .sequence all, progress, standing => all.answers progress standing
  | .choice first, progress, standing => first.answers progress standing
  | @TestParse.terminal _ _ terminal _, progress, standing => by
    simp only [Trial.test, ← standing]
    cases terminal.scan progress.scanner with
    | none => rfl
    | some scanner => rfl

/-- A sequence with an answer has it under the final verdicts. -/
theorem AllParse.answers {parts : List RuleId} {here : Scanner} {answer : Option Scanner} :
    AllParse grammar parts here answer → ∀ progress : Progress, progress.scanner = here →
      (Trial.all grammar (finalVerdict grammar) parts progress).answer = some answer
  | .nil, progress, standing => congrArg (fun scanner => some (some scanner)) standing
  | .step rule later, progress, standing => by
    obtain ⟨next, matched, stopped⟩ :=
      Trial.exists_of_answer_some (rule.answers progress standing)
    have answered := later.answers next stopped
    unfold Trial.all
    rw [matched]
    exact answered
  | .failure rule, progress, standing => by
    obtain ⟨journal, failed⟩ := Trial.exists_of_answer_none (rule.answers progress standing)
    unfold Trial.all
    rw [failed]
    rfl

/-- A choice with an answer has it under the final verdicts. -/
theorem FirstParse.answers {parts : List RuleId} {here : Scanner} {answer : Option Scanner} :
    FirstParse grammar parts here answer → ∀ progress : Progress, progress.scanner = here →
      (Trial.first grammar (finalVerdict grammar) parts progress).answer = some answer
  | .nil, progress, standing => rfl
  | .success rule, progress, standing => by
    obtain ⟨next, matched, rfl⟩ := Trial.exists_of_answer_some (rule.answers progress standing)
    unfold Trial.first
    rw [matched]
    rfl
  | .other rule later, progress, standing => by
    obtain ⟨journal, failed⟩ := Trial.exists_of_answer_none (rule.answers progress standing)
    have answered := later.answers { progress with journal } standing
    unfold Trial.first
    rw [failed]
    exact answered
end

end Completeness

/-- The answers by the rules are those of the final verdicts. -/
theorem ruleParse_iff_finalVerdict {grammar : Grammar P} {id : RuleId} {here : Scanner}
    {answer : Option Scanner} :
    RuleParse grammar id here answer ↔ ∃ result, finalVerdict grammar id here = some result ∧
      (result.reply grammar (grammar.rule id) here.position).answer here = answer := by
  constructor
  · intro parse
    have answered := parse.answers (.start here) rfl
    unfold Trial.call at answered
    split at answered
    · rename_i result known
      rw [Trial.answer_take] at answered
      exact ⟨result, known, Option.some.inj answered⟩
    · contradiction
  · rintro ⟨result, known, rfl⟩
    exact verdict_parses grammar _ id here result known

/-! ## Matching is free of context -/

/-- A result that has an answer at the cursor of a state, and adds nodes and diagnostics to the
state. -/
structure Contributes (answer : Option Scanner) (nodes : List Node) (diagnostics : List Diagnostic)
    (before : State NodeStack) (result : Outcome × State NodeStack) : Prop where
  /-- The rule matched if the answer is a cursor. -/
  outcome : result.1 = if answer.isSome then .matched else .failed .mismatch
  /-- The cursor stands where the answer says, or where it stood if the rule failed. -/
  scanner : result.2.scanner = answer.getD before.scanner
  /-- The innermost frame holds the nodes after those it held. -/
  builder : result.2.builder = before.builder.adding nodes
  /-- The diagnostics were recorded after those there were. -/
  errors : result.2.errors = before.errors ++ diagnostics

/-- A rule that answers contributes what its verdict says. -/
theorem Answers.contributes {grammar : Grammar P} {oracle : Oracle} {rule : Occurrence P}
    {before : State NodeStack} {result : Outcome × State NodeStack} {verdict : MatchResult}
    (answers : Answers NodeStack.ledger grammar oracle (verdict.reply grammar rule before.position)
      before result) :
    Contributes ((verdict.reply grammar rule before.position).answer before.scanner)
      (verdict.reply grammar rule before.position).nodes
      (verdict.reply grammar rule before.position).diagnostics before result := by
  refine ⟨?_, ?_, answers.builder, answers.errors⟩
  · rw [answers.outcome]
    unfold Reply.answer
    split <;> rfl
  · rw [answers.scanner]
    cases verdict with
    | success remembered => rfl
    | failure attempts =>
      have back : before.scanner.moveTo before.position = before.scanner :=
        Scanner.moveTo_position rfl
      rw [State.position, answer_failure]
      change before.scanner.moveTo before.position = _
      rw [back]
      split <;> rfl

/-- A state without a cache and without a call limit is sound. -/
theorem State.Sound.of_plain {grammar : Grammar P} {state : State NodeStack}
    (plain : state.cache = none ∧ state.callLimit = none) : state.Sound grammar := by
  refine ⟨plain.2, fun slot stored => ?_⟩
  unfold State.memory at stored
  simp [plain.1] at stored

variable [Procedures P]

/-- Matching a rule of a procedure-free grammar, without a cache and without a call limit, depends
on the cursor alone: from any two states at one cursor it has the same answer, the one by the rules
of parsing expressions, and adds the same nodes to the innermost frame and the same diagnostics. If
it never ends from one state it does not from the other, and the rules give no answer. -/
theorem matchRule_context_free (grammar : Grammar P) (free : grammar.isProcedureFree = true)
    (id : RuleId) (left right : State NodeStack) (scanner : left.scanner = right.scanner)
    (leftPlain : left.cache = none ∧ left.callLimit = none)
    (rightPlain : right.cache = none ∧ right.callLimit = none) :
    (∃ answer nodes diagnostics,
      Contributes answer nodes diagnostics left (matchRule grammar id left) ∧
      Contributes answer nodes diagnostics right (matchRule grammar id right) ∧
      ∀ other, RuleParse grammar id left.scanner other ↔ other = answer) ∨
    ((matchRule grammar id left).1 = .failed .divergence ∧
      (matchRule grammar id right).1 = .failed .divergence ∧
      ∀ other, ¬ RuleParse grammar id left.scanner other) := by
  rcases matchRule_pair NodeStack.ledger free id scanner (.of_plain leftPlain)
    (.of_plain rightPlain) with
    ⟨result, known, leftAnswers, rightAnswers⟩ | ⟨unknown, leftDiverged, rightDiverged⟩
  · left
    have position : left.position = right.position := congrArg Scanner.position scanner
    have leftContributes := leftAnswers.contributes
    rw [position] at rightAnswers leftContributes
    have rightContributes := rightAnswers.contributes
    rw [scanner] at leftContributes
    refine ⟨_, _, _, leftContributes, rightContributes, fun other => ?_⟩
    rw [ruleParse_iff_finalVerdict, known]
    constructor
    · rintro ⟨_, same, rfl⟩
      obtain rfl := Option.some.inj same
      rw [scanner]
      rfl
    · rintro rfl
      exact ⟨result, rfl, by rw [scanner]; rfl⟩
  · right
    refine ⟨leftDiverged, rightDiverged, fun other parse => ?_⟩
    obtain ⟨result, known, _⟩ := ruleParse_iff_finalVerdict.mp parse
    rw [unknown] at known
    contradiction

/-- A shout is matched the same at the start of a build and under a negation, in a rule that has
collected a node, with a diagnostic recorded. -/
theorem matchRule_context_free_shouts :
    let left : State NodeStack := .initial ⟨['a', ' ', '!']⟩ .default .initial
    let right : State NodeStack :=
      { left with
        builder := ⟨[⟨[.leaf .error (.point 0) .empty]⟩], .empty⟩
        errors := [⟨.point 0, "expected letter"⟩]
        mark := some (.start 0)
        negations := 1 }
    (matchRule .shouts 2 left).1 = .matched ∧
      ∃ answer nodes diagnostics,
        Contributes answer nodes diagnostics left (matchRule .shouts 2 left) ∧
        Contributes answer nodes diagnostics right (matchRule .shouts 2 right) ∧
        ∀ other, RuleParse .shouts 2 left.scanner other ↔ other = answer := by
  intro left right
  have matched : (matchRule .shouts 2 left).1 = .matched := by
    decide +kernel
  refine ⟨matched, ?_⟩
  rcases matchRule_context_free .shouts Grammar.isProcedureFree_shouts 2 left right rfl ⟨rfl, rfl⟩
    ⟨rfl, rfl⟩ with contributed | ⟨diverged, _⟩
  · exact contributed
  · rw [matched] at diverged
    contradiction

end Packrat
