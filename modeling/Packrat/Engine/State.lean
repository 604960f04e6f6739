import Packrat.Builder.Basic
import Packrat.Engine.Mark
import Packrat.MatchCache
import Packrat.Scanner

/-!
# The state of matching

Everything that matching a source changes: the cursor, the builder, the diagnostics of rules that
recovered, the trimming mark of the innermost open rule, the attempts made, the match cache, and
what matching has to tell about itself.
-/

namespace Packrat

/-- Why a rule did not match. -/
inductive Failure where
  /-- The source does not fit; something else may be tried. -/
  | mismatch
  /-- The limit on rule calls was reached; everything stops. -/
  | callLimit
  /-- Rules called each other without end: this stands for a match that never returns. -/
  | divergence
deriving DecidableEq, Repr

/-- How an evaluation ended. -/
inductive Outcome where
  /-- It matched. -/
  | matched
  /-- It did not. -/
  | failed (reason : Failure)
deriving DecidableEq, Repr

/-- What a procedure noted about the state. -/
structure Probe where
  /-- What the procedure calls the note. -/
  label : String
  /-- The position of the cursor. -/
  position : Nat
  /-- The character at the cursor. -/
  next : Option Char
  /-- The text from the cursor on. -/
  remaining : String
  /-- How many diagnostics there are. -/
  errorCount : Nat
  /-- Whether the limit on rule calls has been reached. -/
  limitReached : Bool
  /-- How much the innermost open rule has collected. -/
  collected : Nat
  /-- The match cache, if there is one. -/
  cache : Option MatchCache

/-- The state of matching a source with a builder. -/
structure State (β : Type) where
  /-- The cursor. -/
  scanner : Scanner
  /-- The builder. -/
  builder : β
  /-- The diagnostics, in the order in which they arose. -/
  errors : List Diagnostic
  /-- The trimming mark of the innermost open rule. -/
  mark : Option Mark
  /-- The attempts that a failure of this pass would report. -/
  attempts : Attempts
  /-- The attempts made inside the innermost open rule, the last one first. -/
  journal : List Attempt
  /-- How many negations are open. -/
  negations : Nat
  /-- How many rules have been called. -/
  calls : Nat
  /-- The greatest number of rule calls, if there is one. -/
  callLimit : Option Nat
  /-- The match cache, if there is one. -/
  cache : Option MatchCache
  /-- The remarks made so far, the last one first. -/
  remarks : List Remark
  /-- The notes made by procedures so far, the last one first. -/
  probes : List Probe

/-- An evaluation: it changes the state and says how it ended. -/
abbrev Action (β : Type) := State β → Outcome × State β

/-- What is kept to come back to. -/
structure Checkpoint where
  /-- The position of the cursor. -/
  position : Nat
  /-- How much the innermost open rule had collected. -/
  collected : Nat
  /-- How many diagnostics there were. -/
  errorCount : Nat
  /-- The trimming mark of the innermost open rule. -/
  mark : Option Mark
deriving DecidableEq, Repr

namespace State

variable {β : Type}

/-- The state at the start of a source. -/
def initial (source : Source) (config : Config) (builder : β) : State β where
  scanner := .start source
  builder := builder
  errors := []
  mark := none
  attempts := .none
  journal := []
  negations := 0
  calls := 0
  callLimit := config.callLimit
  cache := config.cache.map .empty
  remarks := []
  probes := []

/-- The position of the cursor. -/
def position (state : State β) : Nat :=
  state.scanner.position

/-- The source being matched. -/
def source (state : State β) : Source :=
  state.scanner.source

/-- The state with the cursor moved. -/
def moveTo (state : State β) (position : Nat) : State β :=
  { state with scanner := state.scanner.moveTo position }

/-- The state with one more remark. -/
def remark (state : State β) (remark : Remark) : State β :=
  { state with remarks := remark :: state.remarks }

/-- The state with one more diagnostic. -/
def record (state : State β) (diagnostic : Diagnostic) : State β :=
  { state with errors := state.errors ++ [diagnostic] }

/-- Whether the limit on rule calls has been reached. -/
def limitReached (state : State β) : Bool :=
  state.callLimit.any (· ≤ state.calls)

/-- How often a test without an upper bound can succeed in a row: every success moves the cursor,
and coming back to a position without a rule call in between would mean never to stop. -/
def loopBound (state : State β) : Nat :=
  (state.source.length + 2) * (state.callLimit.getD 0 + 1)

/-- How deep rules can call each other: coming back to a rule at one position would mean never to
stop, short of the call limit. -/
def depthBound {P : Type} (state : State β) (grammar : Grammar P) : Nat :=
  (grammar.size + 1) * (state.source.length + 2) + state.callLimit.getD 0

/-- Looks a match up in the cache, if there is one. -/
def lookup (state : State β) (id : RuleId) : Option MatchResult × State β :=
  match state.cache with
  | none => (none, state)
  | some cache =>
    let (result, cache) := cache.get state.position id
    (result, { state with cache := some cache })

/-- The state with a match remembered in the cache, if there is one. -/
def remember (state : State β) (id : RuleId) (origin : Nat) (result : MatchResult) : State β :=
  match state.cache with
  | none => state
  | some cache =>
    { state with
      cache := some (cache.insert origin id result)
      remarks := (cache.evictions origin id).reverse ++ state.remarks }

variable [Builder β]

/-- The state with its builder notified of something that ends no rule. -/
def notify (state : State β) (change : β → β) : State β :=
  { state with builder := change state.builder }

/-- The state with its builder notified of the end of a rule. -/
def close (state : State β) (change : β → β) : State β :=
  { state with
    builder := change state.builder
    remarks := (Builder.complaint state.builder).toList ++ state.remarks }

/-- What is kept to come back to. -/
def checkpoint (state : State β) : Checkpoint where
  position := state.position
  collected := Builder.collected state.builder
  errorCount := state.errors.length
  mark := state.mark

/-- The state with everything given back that was taken since a checkpoint. -/
def restore (state : State β) (checkpoint : Checkpoint) : State β :=
  { state with
    scanner := state.scanner.moveTo checkpoint.position
    builder := Builder.cutBack checkpoint.collected state.builder
    errors := state.errors.take checkpoint.errorCount
    mark := checkpoint.mark }

/-- The state with a note of what it looks like. -/
def probe (state : State β) (label : String) : State β :=
  let probe : Probe :=
    { label := label
      position := state.position
      next := state.scanner.peek
      remaining := String.ofList state.scanner.remaining
      errorCount := state.errors.length
      limitReached := state.limitReached
      collected := Builder.collected state.builder
      cache := state.cache }
  { state with probes := probe :: state.probes }

end State

end Packrat
