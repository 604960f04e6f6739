import Packrat.Proofs.Streaming
import Packrat.Proofs.Termination
import Packrat.Proofs.Unwinding

/-!
# Logs of attempts

The attempts made inside a rule form a tree. Written down as they are made, they are a flat log in
which a rule is entered and left (`Attempt.logAll`); the log of a match that is remembered counts
negations from the match on (`State.loggedSince`), so that it can be read at any depth of negations.
Reading a log again with a stack of the rules that are open (`Retracing.run`) makes the attempts of
the tree again and logs what was logged (`Retracing.run_logAll`). So a log changes the attempts as
matching the rule again would, and logs itself (`matchRule_retraces`).
-/

namespace Packrat

variable {P : Type}

/-! ## Flat logs -/

/-- An entry of a log of attempts. -/
inductive LogEntry where
  /-- A rule was entered at a position. -/
  | enter (origin : Nat)
  /-- The rule entered last was left under a number of negations, and matched or not. -/
  | leave (id : RuleId) (negations : Nat) (matched : Bool)
deriving DecidableEq, Repr

/-- The entry with its negations counted from a depth on. -/
def LogEntry.rebased (depth : Nat) : LogEntry → LogEntry
  | .enter origin => .enter origin
  | .leave id negations matched => .leave id (negations - depth) matched

namespace Attempt

mutual
/-- The log of an attempt made under a number of negations. -/
def log (negations : Nat) : Attempt → List LogEntry
  | .rule id origin matched inside =>
    .enter origin :: (logAll negations inside ++ [.leave id negations matched])
  | .negation inside => logAll (negations + 1) inside

/-- The log of several attempts made under a number of negations. -/
def logAll (negations : Nat) : List Attempt → List LogEntry
  | [] => []
  | attempt :: later => attempt.log negations ++ logAll negations later
end

mutual
/-- A log with its negations counted from a depth on is a log made at the depth that is left. -/
theorem rebased_log (depth negations : Nat) :
    ∀ attempt : Attempt,
      (attempt.log (depth + negations)).map (.rebased depth) = attempt.log negations
  | .rule id origin matched inside => by
    rw [log, log, List.map_cons, List.map_append, rebased_logAll depth negations inside,
      List.map_singleton, LogEntry.rebased, LogEntry.rebased, Nat.add_sub_cancel_left]
  | .negation inside => by
    rw [log, log, Nat.add_assoc]
    exact rebased_logAll depth (negations + 1) inside

/-- A log of several attempts with its negations counted from a depth on is a log made at the depth
that is left. -/
theorem rebased_logAll (depth negations : Nat) :
    ∀ attempts : List Attempt,
      (logAll (depth + negations) attempts).map (.rebased depth) = logAll negations attempts
  | [] => rfl
  | attempt :: later => by
    rw [logAll, logAll, List.map_append, rebased_log depth negations attempt,
      rebased_logAll depth negations later]
end

end Attempt

/-! ## Reading a log again -/

/-- What reading a log again has come to. -/
structure Retracing where
  /-- The rules that are open, the innermost first: where each was entered, and how many attempts
  had been noted then. -/
  opened : List (Nat × AttemptsMark)
  /-- The attempts made. -/
  attempts : Attempts
  /-- What was logged on the way. -/
  logged : List LogEntry

namespace Retracing

/-- Reads one entry under a number of negations, to which those of the entry are added. -/
def step (grammar : Grammar P) (negations : Nat) (retracing : Retracing) : LogEntry → Retracing
  | .enter origin =>
    { opened := (origin, retracing.attempts.mark origin) :: retracing.opened
      attempts := retracing.attempts
      logged := retracing.logged ++ [.enter origin] }
  | .leave id inner matched =>
    let negated := decide (0 < negations + inner)
    { opened := retracing.opened.tail
      attempts :=
        match retracing.opened.head? with
        | some (origin, mark) =>
          if matched == negated then
            retracing.attempts.track (grammar.rule id) origin mark negated
          else retracing.attempts
        | none => retracing.attempts
      logged := retracing.logged ++ [.leave id (negations + inner) matched] }

/-- Reads a log under a number of negations. -/
def run (grammar : Grammar P) (negations : Nat) (log : List LogEntry) (retracing : Retracing) :
    Retracing :=
  log.foldl (step grammar negations) retracing

/-- A log in two parts is read in two goes. -/
theorem run_append (grammar : Grammar P) (negations : Nat) (earlier later : List LogEntry)
    (retracing : Retracing) :
    retracing.run grammar negations (earlier ++ later) =
      (retracing.run grammar negations earlier).run grammar negations later :=
  List.foldl_append

mutual
/-- Reading the log of an attempt makes the attempt again, whatever is open, and logs it. -/
theorem run_log (grammar : Grammar P) (negations inner : Nat) :
    ∀ (attempt : Attempt) (retracing : Retracing),
      retracing.run grammar negations (attempt.log inner) =
        ⟨retracing.opened, retracing.attempts.retrace grammar (negations + inner) attempt,
          retracing.logged ++ attempt.log (negations + inner)⟩
  | .rule id origin matched inside, retracing => by
    rw [Attempt.log, ← List.singleton_append, run_append, run_append,
      run_logAll grammar negations inner inside, Attempts.retrace, Attempt.log]
    simp [run, step]
  | .negation inside, retracing => by
    rw [Attempt.log, Attempts.retrace, Attempt.log, Nat.add_assoc]
    exact run_logAll grammar negations (inner + 1) inside retracing

/-- Reading the log of several attempts makes them again, whatever is open, and logs them. -/
theorem run_logAll (grammar : Grammar P) (negations inner : Nat) :
    ∀ (attempts : List Attempt) (retracing : Retracing),
      retracing.run grammar negations (Attempt.logAll inner attempts) =
        ⟨retracing.opened, retracing.attempts.retraceAll grammar (negations + inner) attempts,
          retracing.logged ++ Attempt.logAll (negations + inner) attempts⟩
  | [], retracing => by
    rw [Attempts.retraceAll, Attempt.logAll, Attempt.logAll, List.append_nil]
    rfl
  | attempt :: later, retracing => by
    rw [Attempt.logAll, run_append, run_log grammar negations inner attempt,
      run_logAll grammar negations inner later, Attempts.retraceAll, Attempt.logAll,
      List.append_assoc]
end

end Retracing

/-! ## Logs of matches -/

namespace MatchResult

/-- The attempts that a result remembers. -/
def attempts : MatchResult → List Attempt
  | .success remembered => remembered.attempts
  | .failure attempts => attempts

/-- The log that a result remembers, with negations counted from the match on. -/
def log (result : MatchResult) : List LogEntry :=
  Attempt.logAll 0 result.attempts

/-- The reply of a result makes the attempts that the result remembers. -/
theorem attempts_reply (grammar : Grammar P) (rule : Occurrence P) (origin : Nat)
    (result : MatchResult) : (result.reply grammar rule origin).attempts = result.attempts := by
  cases result with
  | success remembered => rfl
  | failure attempts => rfl

end MatchResult

variable {β : Type}

namespace State

variable {state entered : State β} {made : List Attempt}

/-- The part of the journal of a state that was written since another state. -/
def journalSince (state entered : State β) : List LogEntry :=
  Attempt.logAll state.negations
    (state.journal.take (state.journal.length - entered.journal.length)).reverse

/-- The log of what was written into the journal since another state, with negations counted from
there on. -/
def loggedSince (state entered : State β) : List LogEntry :=
  (state.journalSince entered).map (.rebased state.negations)

/-- The journal tells the attempts that were added to it. -/
theorem journalSince_eq (added : state.journal = made.reverse ++ entered.journal) :
    state.journalSince entered = Attempt.logAll state.negations made := by
  unfold journalSince
  rw [added, List.length_append, Nat.add_sub_cancel, List.take_left, List.reverse_reverse]

/-- What was logged are the attempts that were added to the journal, at whatever depth. -/
theorem loggedSince_eq (added : state.journal = made.reverse ++ entered.journal) :
    state.loggedSince entered = Attempt.logAll 0 made := by
  unfold loggedSince
  rw [journalSince_eq added]
  exact Attempt.rebased_logAll state.negations 0 made

end State

variable [Builder β]

/-- An evaluation that answers as a result says changes the attempts as reading the log of the
result does, and writes into the journal what is logged on the way: the log again. -/
theorem Answers.retraces {ledger : Ledger β} {grammar : Grammar P} {oracle : Oracle}
    {rule : Occurrence P} {origin : Nat} {result : MatchResult} {before : State β}
    {ended : Outcome × State β}
    (answers : Answers ledger grammar oracle (result.reply grammar rule origin) before ended) :
    let retraced := Retracing.run grammar before.negations result.log ⟨[], before.attempts, []⟩
    retraced.attempts = ended.2.attempts ∧ retraced.logged = ended.2.journalSince before ∧
      ended.2.loggedSince before = result.log ∧
      retraced.logged.map (.rebased before.negations) = result.log := by
  intro retraced
  have read : retraced =
      ⟨[], before.attempts.retraceAll grammar before.negations result.attempts,
        Attempt.logAll before.negations result.attempts⟩ :=
    Retracing.run_logAll grammar before.negations 0 result.attempts _
  have attempts := answers.attempts
  have journal := answers.journal
  rw [MatchResult.attempts_reply] at attempts journal
  rw [read, attempts, State.journalSince_eq journal, State.loggedSince_eq journal,
    answers.negations]
  exact ⟨rfl, rfl, rfl, Attempt.rebased_logAll before.negations 0 result.attempts⟩

variable [Procedures P]

/-- A rule that is not stopped answers as the final verdict on it says. -/
theorem matchRule_answered (ledger : Ledger β) {grammar : Grammar P}
    (free : grammar.isProcedureFree = true) {id : RuleId} {state : State β}
    (memory : (finalVerdict grammar).Backs state.source state.memory)
    (ended : (matchRule grammar id state).1.stops = false) :
    ∃ result, finalVerdict grammar id state.scanner = some result ∧
      Answers ledger grammar (finalVerdict grammar)
        (result.reply grammar (grammar.rule id) state.position) state
        (matchRule grammar id state) := by
  have obeys := descend_obeys ledger free (state.depthBound grammar) id state memory
  change Obeys ledger grammar _ _ id state (matchRule grammar id state) at obeys
  generalize matchRule grammar id state = made at obeys ended
  cases obeys with
  | answered verdict known answers => exact ⟨verdict, known, answers⟩
  | limited limit => contradiction
  | diverged unknown => contradiction

/-- A rule with a final verdict is stopped by nothing but the call limit. -/
theorem matchRule_stops_eq_false (ledger : Ledger β) {grammar : Grammar P}
    (free : grammar.isProcedureFree = true) {id : RuleId} {state : State β}
    (memory : (finalVerdict grammar).Backs state.source state.memory) {result : MatchResult}
    (known : finalVerdict grammar id state.scanner = some result)
    (unlimited : (matchRule grammar id state).1 ≠ .failed .callLimit) :
    (matchRule grammar id state).1.stops = false := by
  have parse := ruleParse_iff_finalVerdict.mpr ⟨result, known, rfl⟩
  have finite := parse.matchRule_ne_divergence ledger free memory
  match ended : (matchRule grammar id state).1 with
  | .matched => rfl
  | .failed .mismatch => rfl
  | .failed .callLimit => exact absurd ended unlimited
  | .failed .divergence => exact absurd ended finite

/-- Whatever a rule of a procedure-free grammar logged where it was matched or not, in a reachable
state and at whatever depth of negations, is the log of every match of the rule that is remembered
there. Reading it again in any state at that place, with any attempts made and under any number of
negations, changes the attempts exactly as matching the rule afresh does, without a cache, and logs
it again. Using a match again that remembers the log does the same. -/
theorem matchRule_retraces (ledger : Ledger β) (grammar : Grammar P)
    (free : grammar.isProcedureFree = true) (id : RuleId) (first : State β)
    (reachable : Reachable grammar first) (ended : (matchRule grammar id first).1.stops = false) :
    let log := (matchRule grammar id first).2.loggedSince first
    (∀ slot ∈ (matchRule grammar id first).2.memory, slot.position = first.position →
      ∀ result, (id, result) ∈ slot.entries → result.log = log) ∧
    ∀ second : State β, second.scanner = first.scanner → second.cache = none →
      (matchRule grammar id second).1 ≠ .failed .callLimit →
      let retraced := Retracing.run grammar second.negations log ⟨[], second.attempts, []⟩
      retraced.attempts = (matchRule grammar id second).2.attempts ∧
      retraced.logged.map (.rebased second.negations) = log ∧
      ∀ result, result.log = log →
        let used := (replay grammar (grammar.rule id) second.position result second).2
        used.attempts = retraced.attempts ∧ used.journalSince second = retraced.logged := by
  obtain ⟨verdict, known, answers⟩ :=
    matchRule_answered ledger free (reachable.backs ledger free) ended
  obtain ⟨-, -, logged, -⟩ := answers.retraces
  rw [logged]
  refine ⟨fun slot stored here result listed => ?_, fun second there uncached unlimited => ?_⟩
  · have remembered := answers.memory slot stored _ listed first.scanner rfl here.symm
    obtain rfl := Option.some.inj (known.symm.trans remembered)
    rfl
  · have backed := (finalVerdict grammar).backs_of_uncached second.source uncached
    rw [← there] at known
    obtain ⟨_, same, again⟩ := matchRule_answered ledger free backed
      (matchRule_stops_eq_false ledger free backed known unlimited)
    obtain rfl := Option.some.inj (known.symm.trans same)
    obtain ⟨attempts, -, -, rebased⟩ := again.retraces
    refine ⟨attempts, rebased, fun result remembers => ?_⟩
    have used : Answers ledger grammar (finalVerdict grammar) _ second
        (replay grammar (grammar.rule id) second.position result second) :=
      replay_answers (grammar.rule id) result backed
    obtain ⟨usedAttempts, usedJournal, -, -⟩ := used.retraces
    rw [remembers] at usedAttempts usedJournal
    exact ⟨usedAttempts.symm, usedJournal.symm⟩

/-- A word that was matched under a negation logs ten attempts, the last one at the depth of the
match. Reading them where no negation is open and another rule had failed comes to what matching the
word there comes to, and logs them again. -/
theorem matchRule_retraces_shouts :
    let first : State NodeStack :=
      { State.initial ⟨['a', '?']⟩ (Config.default.withCache 2 2) .initial with negations := 1 }
    let second : State NodeStack :=
      { first with negations := 0, cache := none, attempts := ⟨0, NameLog.empty.push "x", .empty⟩ }
    let log := (matchRule .shouts 5 first).2.loggedSince first
    let retraced := Retracing.run .shouts 0 log ⟨[], second.attempts, []⟩
    log.length = 20 ∧ log.getLast? = some (.leave 5 0 true) ∧
      retraced.attempts = (matchRule .shouts 5 second).2.attempts ∧
      retraced.logged.map (.rebased 0) = log := by
  intro first second log
  have fresh : Reachable .shouts (State.initial first.source
      (Config.default.withCache 2 2) NodeStack.initial) := .initial _ _ _
  have reachable : Reachable .shouts first := .changed fresh rfl rfl
  have ended : (matchRule .shouts 5 first).1.stops = false := by
    decide +kernel
  have unlimited : (matchRule .shouts 5 second).1 ≠ .failed .callLimit := by
    decide +kernel
  obtain ⟨-, retraces⟩ := matchRule_retraces NodeStack.ledger .shouts
    Grammar.isProcedureFree_shouts 5 first reachable ended
  obtain ⟨attempts, logged, -⟩ := retraces second rfl rfl unlimited
  exact ⟨by decide +kernel, by decide +kernel, attempts, logged⟩

end Packrat
