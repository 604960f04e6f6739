import Packrat.Engine.State

/-!
# Running procedures

A procedure gets the grammar and the state, and a function with which it can match the rules of the
grammar. What it does with them is up to it: it may look at anything in the state, and the state it
ends with is its own choice. Nothing is given back when it fails.

Programs are procedures; running one runs its steps.
-/

namespace Packrat

/-- Procedures can be run: each is a function of the grammar, of the function that matches its
rules, and of the state, whatever the builder is. What a procedure keeps for itself from one run to
the next it keeps with the notes of the state. -/
class Procedures (P : Type) where
  /-- Runs a procedure. -/
  run {β : Type} [Builder β] (grammar : Grammar P) (call : RuleId → Action β) (procedure : P) :
    Action β

variable {P β : Type} [Builder β]

/-- Runs a scan, leaving the cursor where it is if the scan finds nothing. -/
def scanWith (scan : Scanner → Option Scanner) : Action β := fun state =>
  match scan state.scanner with
  | some scanner => (.matched, { state with scanner })
  | none => (.failed .mismatch, state)

/-- Takes a number of characters; those taken before the end of the source stay taken. -/
def consumeMany : Nat → Action β
  | 0, state => (.matched, state)
  | count + 1, state =>
    match state.scanner.consume with
    | some (_, scanner) => consumeMany count { state with scanner }
    | none => (.failed .mismatch, state)

/-- Matches the rule defined under a name; a name without definition never matches. -/
def matchNamed (grammar : Grammar P) (call : RuleId → Action β) (name : String) : Action β :=
  fun state =>
    match grammar.named? name with
    | some id => call id state
    | none => (.failed .mismatch, state.remark (.unknownName name))

mutual
/-- Runs a step of a program. -/
def runStep (grammar : Grammar P) (call : RuleId → Action β) : Step → Action β
  | .named name, state => matchNamed grammar call name state
  | .root, state => call grammar.root state
  | .literal text, state => scanWith (·.scanLiteral text) state
  | .insensitive text, state => scanWith (·.scanInsensitive text) state
  | .set members, state => scanWith (·.scanWhere members.contains) state
  | .regex compiled, state => scanWith (·.scanRegex compiled) state
  | .refuse _, state => (.failed .mismatch, state)
  | .consume count, state => consumeMany count state
  | .peek expected, state =>
    if state.scanner.peek = expected then (.matched, state) else (.failed .mismatch, state)
  | .moveTo position, state => (.matched, state.moveTo position)
  | .attempt steps, state =>
    match runSteps grammar call steps state with
    | (.failed .mismatch, next) => (.matched, next)
    | result => result
  | .either programs, state => runEither grammar call programs state
  | .fail, state => (.failed .mismatch, state)
  | .abort, state => (.failed .callLimit, state)
  | .openRule token, state => (.matched, state.notify (Builder.opened token))
  | .closeRule, state => (.matched, state.close Builder.failed)
  | .node token span, state =>
    (.matched, (state.notify (Builder.opened (some token))).close
      (Builder.produced (.node token .empty span)))
  | .restore nodes, state =>
    (.matched, (state.notify (Builder.opened none)).close (Builder.restored nodes))
  | .probe label, state => (.matched, state.probe label)

/-- Runs the steps of a program, up to the first that fails. -/
def runSteps (grammar : Grammar P) (call : RuleId → Action β) : List Step → Action β
  | [], state => (.matched, state)
  | step :: later, state =>
    match runStep grammar call step state with
    | (.matched, next) => runSteps grammar call later next
    | (.failed reason, next) => (.failed reason, next)

/-- Runs programs until one matches, giving nothing back in between. -/
def runEither (grammar : Grammar P) (call : RuleId → Action β) : List (List Step) → Action β
  | [], state => (.failed .mismatch, state)
  | steps :: later, state =>
    match runSteps grammar call steps state with
    | (.failed .mismatch, next) => runEither grammar call later next
    | result => result
end

instance : Procedures Program :=
  ⟨runSteps⟩

end Packrat
