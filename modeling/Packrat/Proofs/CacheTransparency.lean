import Packrat.Proofs.Coupling
import Packrat.Proofs.Simulation

/-!
# Cache transparency

A build with a match cache gives what a build without one gives: the same tree, or the same error
with the same causes, and the same diagnostics. Two states that differ only in what they remember
(`Twins`) stay so from pass to pass, because every pass does in both what the final verdict on the
root says.
-/

namespace Packrat

variable {P : Type}

/-- Two states that differ at most in what they remember, in the attempts of the last pass, and in
what matching tells about itself. -/
structure Twins (grammar : Grammar P) (left right : State NodeStack) : Prop where
  /-- The cursor is the same. -/
  scanner : left.scanner = right.scanner
  /-- The node stack is the same. -/
  builder : left.builder = right.builder
  /-- The diagnostics are the same. -/
  errors : left.errors = right.errors
  /-- As many negations are open. -/
  negations : left.negations = right.negations
  /-- The first state is sound. -/
  leftSound : left.Sound grammar
  /-- The second state is sound. -/
  rightSound : right.Sound grammar

variable {grammar : Grammar P}

variable {left right : State NodeStack} [Procedures P]

omit [Procedures P] in
/-- Twins in which a rule answered the same are twins. -/
theorem Twins.answered {reply : Reply} {leftResult rightResult : Outcome × State NodeStack}
    (twins : Twins grammar left right)
    (leftAnswers :
      Answers NodeStack.ledger grammar (finalVerdict grammar) reply left leftResult)
    (rightAnswers :
      Answers NodeStack.ledger grammar (finalVerdict grammar) reply right rightResult) :
    Twins grammar leftResult.2 rightResult.2 where
  scanner := by rw [leftAnswers.scanner, rightAnswers.scanner, twins.scanner]
  builder := by rw [leftAnswers.builder, rightAnswers.builder, twins.builder]
  errors := by rw [leftAnswers.errors, rightAnswers.errors, twins.errors]
  negations := by rw [leftAnswers.negations, rightAnswers.negations, twins.negations]
  leftSound := twins.leftSound.answered leftAnswers
  rightSound := twins.rightSound.answered rightAnswers

/-- Matching a rule in either of two twins ends the same way, and leaves twins with the same
attempts unless it never ends. -/
theorem Twins.matchRule (free : grammar.isProcedureFree = true) (twins : Twins grammar left right)
    (attempts : left.attempts = right.attempts) (id : RuleId) :
    ((matchRule grammar id left).1 = .failed .divergence ∧
      (matchRule grammar id right).1 = .failed .divergence) ∨
    ((matchRule grammar id left).1 = (matchRule grammar id right).1 ∧
      (matchRule grammar id left).2.attempts = (matchRule grammar id right).2.attempts ∧
      Twins grammar (matchRule grammar id left).2 (matchRule grammar id right).2) := by
  rcases matchRule_pair NodeStack.ledger free id twins.scanner twins.leftSound twins.rightSound with
    ⟨result, _, leftAnswers, rightAnswers⟩ | ⟨_, leftDiverged, rightDiverged⟩
  · refine .inr ⟨leftAnswers.outcome.trans rightAnswers.outcome.symm, ?_,
      twins.answered leftAnswers rightAnswers⟩
    rw [leftAnswers.attempts, rightAnswers.attempts, twins.negations, attempts]
  · exact .inl ⟨leftDiverged, rightDiverged⟩

/-- A pass from either of two twins ends the same way, and leaves twins with the same attempts
unless it never ends. -/
theorem Twins.pass (free : grammar.isProcedureFree = true) (twins : Twins grammar left right) :
    ((pass grammar left).1 = .failed .divergence ∧ (pass grammar right).1 = .failed .divergence) ∨
    ((pass grammar left).1 = (pass grammar right).1 ∧
      (pass grammar left).2.attempts = (pass grammar right).2.attempts ∧
      Twins grammar (pass grammar left).2 (pass grammar right).2) := by
  have afresh : Twins grammar { left with attempts := .none, journal := [], mark := none }
      { right with attempts := .none, journal := [], mark := none } :=
    ⟨twins.scanner, twins.builder, twins.errors, twins.negations,
      ⟨twins.leftSound.unlimited, twins.leftSound.memory⟩,
      ⟨twins.rightSound.unlimited, twins.rightSound.memory⟩⟩
  exact afresh.matchRule free rfl grammar.root

/-- Being twins couples a grammar with itself. -/
theorem Twins.coupling (free : grammar.isProcedureFree = true) :
    Coupling grammar grammar (Twins grammar) where
  scanner twins := twins.scanner
  builder twins := twins.builder
  errors twins := twins.errors
  callLimit twins := twins.leftSound.unlimited.trans twins.rightSound.unlimited.symm
  pass twins := twins.pass free

/-- Twins are parsed the same. -/
theorem Twins.parse (free : grammar.isProcedureFree = true) (twins : Twins grammar left right) :
    (parse grammar left).1 = (parse grammar right).1 ∧
      (parse grammar left).2.builder = (parse grammar right).2.builder ∧
      (parse grammar left).2.errors = (parse grammar right).2.errors :=
  (Twins.coupling free).parse twins

namespace Constructor

omit [Procedures P] in
/-- A build without a call limit starts in a sound state. -/
theorem start_sound (constructor : Constructor P) (source : Source)
    (unlimited : constructor.config.callLimit = none) :
    (constructor.start source).Sound constructor.grammar := by
  exact ⟨unlimited, Oracle.backs_initial _ source _ _⟩

/-- With a procedure-free grammar and no call limit, a build with a match cache of any bounds gives
the tree or the error that a build without a cache gives, and leaves the same diagnostics. -/
theorem build_withCache (constructor : Constructor P)
    (free : constructor.grammar.isProcedureFree = true)
    (plain : constructor.config = .default) (source : Source) (depth breadth : Nat) :
    ((constructor.withCache depth breadth).build source).1.result =
        (constructor.build source).1.result ∧
      ((constructor.withCache depth breadth).build source).2.errors =
        (constructor.build source).2.errors := by
  have unlimited : constructor.config.callLimit = none := by rw [plain, Config.default]
  have twins : Twins constructor.grammar ((constructor.withCache depth breadth).start source)
      (constructor.start source) :=
    ⟨rfl, rfl, rfl, rfl, (constructor.withCache depth breadth).start_sound source unlimited,
      constructor.start_sound source unlimited⟩
  obtain ⟨failure, builder, errors⟩ := twins.parse free
  have generated : ((constructor.withCache depth breadth).construct source).result =
      (constructor.construct source).result ∧
      ((constructor.withCache depth breadth).construct source).errors =
      (constructor.construct source).errors := by
    rw [← Prod.mk.injEq, construct_generates, construct_generates, ← failure, ← builder, ← errors]
    rfl
  exact generated

/-- A word and a shout are built the same with room for one outcome in the cache. -/
theorem build_withCache_shouts :
    ((((make .shouts .default).withCache 1 1).build ⟨['a', ' ', 'b', '!']⟩).1.result =
        ((make .shouts .default).build ⟨['a', ' ', 'b', '!']⟩).1.result ∧
      (((make .shouts .default).withCache 1 1).build ⟨['a', ' ', 'b', '!']⟩).2.errors =
        ((make .shouts .default).build ⟨['a', ' ', 'b', '!']⟩).2.errors) ∧
    ((make .shouts .default).build ⟨['a', ' ', 'b', '!']⟩).1.result.isOk = true :=
  ⟨build_withCache (make .shouts .default) Grammar.isProcedureFree_shouts rfl _ 1 1,
    by decide +kernel⟩

end Constructor

end Packrat
