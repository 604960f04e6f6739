import Packrat.Engine.Matching

/-!
# Passes

A source is matched in passes: each matches the root rule once, where the pass before it ended,
until the source is used up. A pass that fails, or that takes nothing, ends it with a diagnostic.
-/

namespace Packrat

variable {P β : Type}

/-- The span of one character at a position, or of none at the end of the source. -/
def State.spanAt (state : State β) (position : Nat) : Span :=
  ⟨position, if position < state.source.length then position + 1 else position⟩

/-- What there is to say about a failure: for a mismatch, the rules tried in vain at the furthest
position. Of rules that call each other without end there is nothing to say, as matching them never
returns; the text for them only marks a match that stands for one that never returns. -/
def State.diagnose (state : State β) : Failure → Diagnostic
  | .callLimit => ⟨.point state.position, "call limit reached"⟩
  | .divergence => ⟨.point state.position, "unbounded recursion"⟩
  | .mismatch =>
    let position := max state.attempts.position state.position
    ⟨state.spanAt position, state.attempts.message⟩

variable [Builder β] [Procedures P]

/-- Matches the root rule once at the cursor, with no attempts left from before. -/
def pass (grammar : Grammar P) : Action β := fun state =>
  matchRule grammar grammar.root { state with attempts := .none, journal := [], mark := none }

/-- Runs passes, at most `budget` of them, until the source is used up. Nothing is kept of a pass in
which rules called each other without end: a run that comes to such a pass never returns, and its
result here only marks that. -/
def runPasses (grammar : Grammar P) : Nat → State β → Option Diagnostic × State β
  | budget, state =>
    if state.scanner.atEnd then (none, state)
    else
      match budget with
      | 0 => (some (state.diagnose .divergence), state)
      | budget + 1 =>
        match pass grammar state with
        | (.failed .divergence, _) => (some (state.diagnose .divergence), state)
        | (.failed reason, next) =>
          let diagnostic := next.diagnose reason
          (some diagnostic, next.remark (.passFailed state.position diagnostic.message))
        | (.matched, next) =>
          if next.position = state.position then
            (some (next.diagnose .mismatch), next.remark (.passStalled state.position))
          else runPasses grammar budget next

/-- Runs passes until the source is used up, or one of them fails or takes nothing. -/
def parse (grammar : Grammar P) (state : State β) : Option Diagnostic × State β :=
  runPasses grammar state.loopBound state

end Packrat
