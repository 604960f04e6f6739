import Packrat.Engine.Matching
import Packrat.Proofs.GrammarClass
import Packrat.Proofs.Scanning

/-!
# Conduct of evaluations

Whatever a rule's test does is put together from a few pieces: parts are matched one after the
other, the cursor goes forward, a checkpoint is come back to, a negation is opened and closed, and
repetition runs out of its budget. A conduct is a property of evaluations that these pieces keep. It
holds of the evaluation of a test as often as its rule asks if it holds of matching the parts
(`Conduct.repeatTest`).
-/

namespace Packrat

variable {P : Type}

/-- Whether everything stops with an outcome. -/
def Outcome.stops : Outcome → Bool
  | .matched => false
  | .failed .mismatch => false
  | .failed _ => true

/-- The rules that the evaluation of a test may match, apart from those that a procedure names. -/
def Test.callees : Test P → List RuleId
  | .terminal _ => []
  | .reference target => [target]
  | .group inner => [inner]
  | .procedure _ => []
  | .sequence parts => parts
  | .choice parts => parts

variable {β : Type} [Builder β]

/-- The state in which the test of a negated rule is evaluated. -/
def State.refuting (state : State β) : State β :=
  { state with negations := state.negations + 1, journal := [] }

/-- The state after the test of a negated rule was evaluated and everything was given back. -/
def State.refuted (state tested : State β) : State β :=
  { tested.restore state.checkpoint with
    negations := state.negations
    journal := .negation tested.journal.reverse :: state.journal }

/-- How a test that was evaluated to see it fail ends. -/
def refutation (rule : Occurrence P) : Outcome → Action β
  | .matched, back => (.failed .mismatch, back)
  | .failed .mismatch, back =>
    if rule.behaviour.lookahead then (.matched, back) else consumeMany 1 back
  | .failed reason, back => (.failed reason, back)

/-- Refuting a test evaluates it, gives everything back, and turns the outcome around. -/
theorem refute_eq [Procedures P] (grammar : Grammar P) (call : RuleId → Action β)
    (rule : Occurrence P) (state : State β) :
    refute grammar call rule state =
      refutation rule (runTest grammar call (grammar.testOf rule) state.refuting).1
        (state.refuted (runTest grammar call (grammar.testOf rule) state.refuting).2) := by
  unfold refute State.refuting
  simp only
  generalize runTest grammar call (grammar.testOf rule)
    { state with negations := state.negations + 1, journal := [] } = result
  obtain ⟨outcome, tested⟩ := result
  match outcome with
  | .matched => rfl
  | .failed .mismatch => rfl
  | .failed .callLimit => rfl
  | .failed .divergence => rfl

/-- A property of evaluations, with one law for every piece of which they are made. -/
structure Conduct (β : Type) [Builder β] where
  /-- What an evaluation that starts in a state may come to. -/
  Does : State β → Outcome × State β → Prop
  /-- A budget is enough for repetition from a state on. -/
  Room : Nat → State β → Prop
  /-- Doing nothing is allowed. -/
  stays : ∀ state, Does state (.matched, state)
  /-- Whether a test succeeded or failed makes no difference, as long as nothing has to stop. -/
  turns : ∀ {state next outcome other}, outcome.stops = false → other.stops = false →
    Does state (outcome, next) → Does state (other, next)
  /-- One evaluation may follow another. -/
  follows : ∀ {state next outcome result}, outcome.stops = false → Does state (outcome, next) →
    Does next result → Does state result
  /-- The cursor may go forward. -/
  moves : ∀ {state : State β} {scanner}, state.scanner.Reaches scanner →
    Does state (.matched, { state with scanner })
  /-- What was taken may be given back. -/
  restores : ∀ {state next outcome}, Does state (outcome, next) →
    Does state (outcome, next.restore state.checkpoint)
  /-- A test may be evaluated under a negation. -/
  refutes : ∀ {state next outcome}, Does state.refuting (outcome, next) →
    Does state (outcome, state.refuted next)
  /-- There is room for repetition at its start. -/
  starts : ∀ state, Room state.loopBound state
  /-- An iteration that moves the cursor needs one place of the budget. -/
  spends : ∀ {state next : State β} {budget}, Does state (.matched, next) →
    next.position ≠ state.position → Room (budget + 1) state → Room budget next
  /-- Repetition may run out of its budget if there was room for no more. -/
  exhausts : ∀ {state}, Room 0 state → Does state (.failed .divergence, state)

namespace Conduct

variable (conduct : Conduct β) {grammar : Grammar P} {call : RuleId → Action β}
  {rule : Occurrence P}

/-- A scan that leads forward is allowed. -/
theorem scanWith {scan : Scanner → Option Scanner}
    (forward : ∀ {scanner next}, scan scanner = some next → scanner.Reaches next)
    (state : State β) : conduct.Does state (Packrat.scanWith scan state) := by
  unfold Packrat.scanWith
  split
  · rename_i scanner found
    exact conduct.moves (forward found)
  · exact conduct.turns rfl rfl (conduct.stays state)

/-- Taking characters is allowed. -/
theorem consumeMany (count : Nat) (state : State β) :
    conduct.Does state (Packrat.consumeMany count state) := by
  induction count generalizing state with
  | zero => exact conduct.stays state
  | succ count ih =>
    unfold Packrat.consumeMany
    split
    · rename_i c scanner found
      exact conduct.follows rfl (conduct.moves (Scanner.consume_reaches found)) (ih _)
    · exact conduct.turns rfl rfl (conduct.stays state)

/-- Matching parts one after the other is allowed if matching each of them is. -/
theorem matchAll {parts : List RuleId}
    (called : ∀ id ∈ parts, ∀ state, conduct.Does state (call id state)) (state : State β) :
    conduct.Does state (Packrat.matchAll call parts state) := by
  induction parts generalizing state with
  | nil => exact conduct.stays state
  | cons id later ih =>
    have first := called id List.mem_cons_self state
    have rest := ih fun part member => called part (List.mem_cons_of_mem id member)
    unfold Packrat.matchAll
    match call id state, first with
    | (.matched, next), first => exact conduct.follows rfl first (rest next)
    | (.failed reason, next), first => exact first

/-- Matching the first part that succeeds is allowed if matching each of them is. -/
theorem matchFirst {parts : List RuleId}
    (called : ∀ id ∈ parts, ∀ state, conduct.Does state (call id state)) (state : State β) :
    conduct.Does state (Packrat.matchFirst call parts state) := by
  induction parts generalizing state with
  | nil => exact conduct.turns rfl rfl (conduct.stays state)
  | cons id later ih =>
    have first := called id List.mem_cons_self state
    have rest := ih fun part member => called part (List.mem_cons_of_mem id member)
    unfold Packrat.matchFirst
    match call id state, first with
    | (.matched, next), first => exact first
    | (.failed .mismatch, next), first => exact conduct.follows rfl first (rest next)
    | (.failed .callLimit, next), first => exact first
    | (.failed .divergence, next), first => exact first

/-- Counting successes is allowed. -/
theorem settle {state next : State β} {outcome : Outcome} (ordinary : outcome.stops = false)
    (done : conduct.Does state (outcome, next)) (count : Nat) :
    conduct.Does state (Packrat.settle rule count next) := by
  unfold Packrat.settle
  split <;> exact conduct.turns ordinary rfl done

variable [Procedures P]

/-- Evaluating a test that is no procedure is allowed if matching its parts is. -/
theorem runTest {test : Test P}
    (called : ∀ id ∈ test.callees, ∀ state, conduct.Does state (call id state))
    (noProcedure : test.isNoProcedure = true) (state : State β) :
    conduct.Does state (Packrat.runTest grammar call test state) := by
  cases test with
  | terminal terminal => exact conduct.scanWith Terminal.scan_reaches state
  | reference target => exact called target (List.mem_singleton_self target) state
  | group inner => exact called inner (List.mem_singleton_self inner) state
  | procedure steps => simp [Test.isNoProcedure] at noProcedure
  | sequence parts => exact conduct.matchAll called state
  | choice parts => exact conduct.matchFirst called state

/-- An iteration is allowed if evaluating the test is. -/
theorem iterate (tested : ∀ state,
      conduct.Does state (Packrat.runTest grammar call (grammar.testOf rule) state))
    (state : State β) : conduct.Does state (Packrat.iterate grammar call rule state) := by
  unfold Packrat.iterate
  split
  · have evaluated := tested state.refuting
    rw [refute_eq]
    generalize Packrat.runTest grammar call (grammar.testOf rule) state.refuting = result
      at evaluated
    obtain ⟨outcome, next⟩ := result
    have back := conduct.refutes evaluated
    match outcome with
    | .matched => exact conduct.turns rfl rfl back
    | .failed .callLimit => exact back
    | .failed .divergence => exact back
    | .failed .mismatch =>
      simp only [refutation]
      split
      · exact conduct.turns rfl rfl back
      · exact conduct.follows rfl back (conduct.consumeMany 1 _)
  · exact tested state

/-- Repetition is allowed if evaluating the test is and there is room for it. -/
theorem repeatFrom (tested : ∀ state,
      conduct.Does state (Packrat.runTest grammar call (grammar.testOf rule) state))
    (budget count : Nat) (state : State β)
    (room : rule.behaviour.cardinality.maximum = none → conduct.Room budget state) :
    conduct.Does state (Packrat.repeatFrom grammar call rule budget count state) := by
  induction budget generalizing count state with
  | zero =>
    unfold Packrat.repeatFrom
    split
    · exact conduct.settle rfl (conduct.stays state) count
    · rename_i unbounded
      exact conduct.exhausts (room unbounded)
  | succ budget ih =>
    have iterated := conduct.iterate tested state
    unfold Packrat.repeatFrom
    match Packrat.iterate grammar call rule state, iterated with
    | (.matched, next), iterated =>
      simp only
      split
      · exact conduct.settle rfl iterated (count + 1)
      · rename_i moved
        exact conduct.follows rfl iterated
          (ih (count + 1) next fun unbounded => conduct.spends iterated moved (room unbounded))
    | (.failed .mismatch, next), iterated =>
      exact conduct.settle rfl (conduct.restores iterated) count
    | (.failed .callLimit, next), iterated => exact iterated
    | (.failed .divergence, next), iterated => exact iterated

/-- Evaluating a test as often as its rule asks is allowed if matching its parts is. -/
theorem repeatTest
    (called : ∀ id ∈ (grammar.testOf rule).callees, ∀ state, conduct.Does state (call id state))
    (noProcedure : (grammar.testOf rule).isNoProcedure = true) (state : State β) :
    conduct.Does state (Packrat.repeatTest grammar call rule state) := by
  refine conduct.repeatFrom (conduct.runTest called noProcedure) _ 0 state fun unbounded => ?_
  rw [unbounded]
  exact conduct.starts state

end Conduct

end Packrat
