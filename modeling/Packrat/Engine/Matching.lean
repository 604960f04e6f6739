import Packrat.Engine.Procedures

/-!
# Matching

Matching a rule evaluates its test as often as its cardinality asks, backtracking where the test
fails, and tells the builder how it ended. A pinned rule that fails is recovered from. Matches are
taken from the cache where it has them and put into it where not.

Every evaluation below a rule is written over a function that matches the rule's parts, so the only
recursion is that of `descend`, on the depth to which rules may still call each other.
-/

namespace Packrat

variable {P β : Type} [Builder β]

/-! ## Tests -/

/-- Matches rules one after the other, up to the first that fails. -/
def matchAll (call : RuleId → Action β) : List RuleId → Action β
  | [], state => (.matched, state)
  | id :: later, state =>
    match call id state with
    | (.matched, next) => matchAll call later next
    | (.failed reason, next) => (.failed reason, next)

/-- Matches the first rule that succeeds. -/
def matchFirst (call : RuleId → Action β) : List RuleId → Action β
  | [], state => (.failed .mismatch, state)
  | id :: later, state =>
    match call id state with
    | (.matched, next) => (.matched, next)
    | (.failed .mismatch, next) => matchFirst call later next
    | (.failed reason, next) => (.failed reason, next)

/-- How repetition ends after a number of successes. -/
def settle (rule : Occurrence P) (count : Nat) : Action β := fun state =>
  if rule.behaviour.cardinality.accepts count then (.matched, state) else (.failed .mismatch, state)

section Tests

variable [Procedures P]

/-- Evaluates a test once. -/
def runTest (grammar : Grammar P) (call : RuleId → Action β) : Test P → Action β
  | .terminal terminal => scanWith terminal.scan
  | .reference target => call target
  | .group inner => call inner
  | .procedure procedure => Procedures.run grammar call procedure
  | .sequence parts => matchAll call parts
  | .choice parts => matchFirst call parts

/-! ## Iterations -/

/-- Evaluates a test to see it fail. Whatever it took is given back, and where it failed one
character is taken instead, unless the rule only looks ahead. -/
def refute (grammar : Grammar P) (call : RuleId → Action β) (rule : Occurrence P) : Action β :=
  fun state =>
    let inner := { state with negations := state.negations + 1, journal := [] }
    let (outcome, tested) := runTest grammar call (grammar.testOf rule) inner
    let attempts := Attempt.negation tested.journal.reverse
    let back :=
      { tested.restore state.checkpoint with
        negations := state.negations
        journal := attempts :: state.journal }
    match outcome with
    | .matched => (.failed .mismatch, back)
    | .failed .mismatch =>
      if rule.behaviour.lookahead then (.matched, back) else consumeMany 1 back
    | .failed reason => (.failed reason, back)

/-- Evaluates the test of a rule once, the way the rule asks for. -/
def iterate (grammar : Grammar P) (call : RuleId → Action β) (rule : Occurrence P) : Action β :=
  if rule.behaviour.negate then refute grammar call rule
  else runTest grammar call (grammar.testOf rule)

/-- Evaluates the test of a rule again and again after `count` successes, at most `budget` more
times: up to the first failure, or the first success that does not move the cursor. A bounded
cardinality gives the budget, so when it is used up the bound is reached. -/
def repeatFrom (grammar : Grammar P) (call : RuleId → Action β) (rule : Occurrence P) :
    (budget count : Nat) → Action β
  | 0, count, state =>
    match rule.behaviour.cardinality.maximum with
    | some _ => settle rule count state
    | none => (.failed .divergence, state)
  | budget + 1, count, state =>
    match iterate grammar call rule state with
    | (.matched, next) =>
      if next.position = state.position then settle rule (count + 1) next
      else repeatFrom grammar call rule budget (count + 1) next
    | (.failed .mismatch, next) => settle rule count (next.restore state.checkpoint)
    | (.failed reason, next) => (.failed reason, next)

/-- Evaluates the test of a rule as often as its cardinality asks. -/
def repeatTest (grammar : Grammar P) (call : RuleId → Action β) (rule : Occurrence P) : Action β :=
  fun state =>
    repeatFrom grammar call rule
      (rule.behaviour.cardinality.maximum.getD state.loopBound) 0 state

end Tests

/-! ## Ends of rules -/

/-- What a match of a rule leaves for the rule around it. -/
def production (rule : Occurrence P) (span : Span) : Production :=
  match rule.shape, rule.token with
  | .node, some token => .node token rule.annotations span
  | .discarded, _ => .discarded
  | _, _ => .transparent

/-- The mark of a rule after a part of it matched. -/
def reportTo (grammar : Grammar P) (rule : Occurrence P) (start stop : Nat) (content : Option Span)
    (mark : Mark) : Mark :=
  if rule.behaviour.isSkipping then mark.skipped start stop
  else if grammar.isTransparent rule then mark.absorb start stop content
  else mark.consumed

/-- The state after a match of a rule is reported to the rule around it. -/
def report (grammar : Grammar P) (rule : Occurrence P) (start stop : Nat) (content : Option Span)
    (state : State β) : State β :=
  { state with mark := state.mark.map (reportTo grammar rule start stop content) }

/-- The state after the builder and the rule around are told of a match. A rule that only looks
ahead gives back what it took and leaves nothing. -/
def succeed (grammar : Grammar P) (rule : Occurrence P) (origin : Nat) (mark : Mark)
    (state : State β) : State β :=
  if rule.behaviour.lookahead then (state.moveTo origin).close (Builder.produced .discarded)
  else
    let stop := state.position
    report grammar rule origin stop (mark.summary stop)
      (state.close (Builder.produced (production rule (mark.content stop))))

/-- The message of a rule that recovers. -/
def recoveryMessage (grammar : Grammar P) (rule : Occurrence P) : String :=
  rule.annotations.error.getD ("expected " ++ grammar.expected rule)

/-- Ends a rule that did not match. A pinned rule leaves an error node and a diagnostic, and counts
as matched without taking anything. -/
def recover (grammar : Grammar P) (rule : Occurrence P) (origin : Nat) : Action β := fun state =>
  if rule.annotations.pinned then
    let message := recoveryMessage grammar rule
    let annotations := rule.annotations.insert .error (.text message)
    let told :=
      ((state.remark (.recovering rule.label origin message)).notify
        (Builder.opened (some .error))).close
        (Builder.produced (.node .error annotations (.point origin)))
    (.matched, { told with mark := told.mark.map Mark.consumed }.record ⟨.point origin, message⟩)
  else (.failed .mismatch, state)

/-- The state in which the test of a rule is evaluated: the builder knows of the rule, and the mark
and the journal are the rule's own. -/
def openRule (rule : Occurrence P) (state : State β) : State β :=
  { state.notify (Builder.opened rule.token) with
    mark := some (.start state.position)
    journal := [] }

/-- The state after a rule that was entered in another state has been tried, with the attempt added
to the journal of the rule around it. A rule was tried in vain if it failed or, under a negation, if
it matched. -/
def logAttempt (grammar : Grammar P) (id : RuleId) (matched : Bool) (inside : List Attempt)
    (entered state : State β) : State β :=
  let origin := entered.position
  let negated := decide (0 < state.negations)
  { state with
    attempts :=
      if matched == negated then
        state.attempts.track (grammar.rule id) origin (entered.attempts.mark origin) negated
      else state.attempts
    journal := .rule id origin matched inside :: entered.journal }

/-- Ends a rule whose test succeeded as often as it should, and remembers the match. -/
def endMatched (grammar : Grammar P) (id : RuleId) (entered ended : State β) : State β :=
  let rule := grammar.rule id
  let origin := entered.position
  let mark := ended.mark.getD (.start origin)
  let inside := ended.journal.reverse
  let told := succeed grammar rule origin mark { ended with mark := entered.mark }
  let logged := logAttempt grammar id true inside entered told
  match Builder.contributed (Builder.collected entered.builder) logged.builder with
  | some nodes =>
    logged.remember id origin (.success
      { stop := logged.position
        content := mark.summary ended.position
        nodes := nodes
        diagnostics := logged.errors.drop entered.errors.length
        attempts := [.rule id origin true inside] })
  | none => logged

/-- Ends a rule whose test did not succeed as often as it should: gives back what was taken, and
remembers the failure. -/
def endMismatched (grammar : Grammar P) (id : RuleId) (entered ended : State β) : State β :=
  let origin := entered.position
  let inside := ended.journal.reverse
  let closed :=
    { (ended.close Builder.failed).moveTo origin with
      errors := ended.errors.take entered.errors.length
      mark := entered.mark }
  (logAttempt grammar id false inside entered closed).remember id origin
    (.failure [.rule id origin false inside])

/-- Ends a rule in which everything had to stop. The attempts made inside it stay in the journal. -/
def endStopped (entered ended : State β) : State β :=
  { (ended.close Builder.failed).moveTo entered.position with
    mark := entered.mark
    journal := ended.journal ++ entered.journal }

/-! ## Rules -/

/-- Ends a rule as a cached match says. -/
def replay (grammar : Grammar P) (rule : Occurrence P) (origin : Nat) (result : MatchResult) :
    Action β := fun state =>
  let started := state.notify (Builder.opened rule.token)
  match result with
  | .success remembered =>
    let moved := (started.close (Builder.restored remembered.nodes)).moveTo remembered.stop
    let retraced :=
      { moved with
        errors := moved.errors ++ remembered.diagnostics
        attempts := moved.attempts.retraceAll grammar moved.negations remembered.attempts
        journal := remembered.attempts.reverse ++ moved.journal }
    if rule.behaviour.lookahead then (.matched, retraced)
    else (.matched, report grammar rule origin remembered.stop remembered.content retraced)
  | .failure attempts =>
    let ended := started.close Builder.failed
    recover grammar rule origin
      { ended with
        attempts := ended.attempts.retraceAll grammar ended.negations attempts
        journal := attempts.reverse ++ ended.journal }

section Rules

variable [Procedures P]

/-- Matches a rule that the cache knows nothing about. -/
def matchAfresh (grammar : Grammar P) (call : RuleId → Action β) (id : RuleId) : Action β :=
  fun state =>
    let rule := grammar.rule id
    match repeatTest grammar call rule (openRule rule state) with
    | (.matched, ended) => (.matched, endMatched grammar id state ended)
    | (.failed .mismatch, ended) =>
      recover grammar rule state.position (endMismatched grammar id state ended)
    | (.failed reason, ended) => (.failed reason, endStopped state ended)

/-- Matches a rule, its parts being matched by a given function. -/
def callRule (grammar : Grammar P) (call : RuleId → Action β) (id : RuleId) : Action β :=
  fun state =>
    if state.limitReached then (.failed .callLimit, state)
    else
      let rule := grammar.rule id
      match ({ state with calls := state.calls + 1 }).lookup id with
      | (some result, called) =>
        replay grammar rule called.position result
          (called.remark (.reusing rule.label called.position))
      | (none, called) =>
        matchAfresh grammar call id (called.remark (.matching rule.label called.position))

/-- Matches a rule that may call others to a given depth. -/
def descend (grammar : Grammar P) : Nat → RuleId → Action β
  | 0, _, state => (.failed .divergence, state)
  | depth + 1, id, state => callRule grammar (descend grammar depth) id state

/-- Matches a rule at the cursor. -/
def matchRule (grammar : Grammar P) (id : RuleId) : Action β := fun state =>
  descend grammar (state.depthBound grammar) id state

end Rules

end Packrat
