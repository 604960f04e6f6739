import Packrat.Proofs.Backtracking
import Packrat.Proofs.FinalVerdict

/-!
# Matching and verdicts

Matching a rule does to the state what the verdict on the rule says, whatever the state: it moves
the cursor, adds nodes and diagnostics, changes the trimming mark of the rule around, and leaves the
attempts that making the verdict's attempts again would leave (`Answers`). That holds with a cache
and without, as long as the cache remembers only what the verdicts say (`Oracle.Backs`), and it
keeps the cache so. Matching stops early only at the call limit, or where rules call each other more
deeply than allowed; at a depth where there is a verdict they do not (`descend_obeys`).
-/

namespace Packrat

variable {P β : Type}

/-- Attempts made again one after the other are made again in two goes. -/
theorem Attempts.retraceAll_append (grammar : Grammar P) (negations : Nat)
    (earlier later : List Attempt) (attempts : Attempts) :
    attempts.retraceAll grammar negations (earlier ++ later) =
      (attempts.retraceAll grammar negations earlier).retraceAll grammar negations later := by
  induction earlier generalizing attempts with
  | nil => rw [List.nil_append, retraceAll]
  | cons first rest ih => rw [List.cons_append, retraceAll, retraceAll, ih]

/-- Every match that is remembered about a source is the oracle's verdict. -/
def Oracle.Backs (oracle : Oracle) (source : Source) (slots : List CacheSlot) : Prop :=
  ∀ slot ∈ slots, ∀ entry ∈ slot.entries, ∀ scanner : Scanner, scanner.source = source →
    scanner.position = slot.position → oracle entry.1 scanner = some entry.2

/-- The cache of a fresh state is backed. -/
theorem Oracle.backs_initial (oracle : Oracle) (source : Source) (config : Config) (builder : β) :
    oracle.Backs source (State.initial source config builder).memory := by
  intro slot stored
  rw [State.memory_initial] at stored
  contradiction

/-- Remembering a verdict keeps the cache backed. -/
theorem Oracle.Backs.remember {oracle : Oracle} {source : Source} {state : State β}
    (backs : oracle.Backs source state.memory) {id : RuleId} {origin : Scanner}
    {result : MatchResult} (inSource : origin.source = source)
    (known : oracle id origin = some result) :
    oracle.Backs source (state.remember id origin.position result).memory := by
  intro slot member entry listed scanner scanned position
  rcases State.mem_memory_remember member listed with ⟨here, rfl⟩ | ⟨old, stored, same, older⟩
  · obtain rfl : scanner = origin :=
      Scanner.eq_of_position (scanned.trans inSource.symm) (position.trans here)
    exact known
  · exact backs old stored entry older scanner scanned (position.trans same.symm)

/-- Logging a rule that was tried makes the attempt of it after the attempts inside it. -/
theorem logAttempt_attempts {grammar : Grammar P} (id : RuleId) (matched : Bool)
    {entered told : State β} {inside : List Attempt}
    (negations : told.negations = entered.negations)
    (made : told.attempts = entered.attempts.retraceAll grammar entered.negations inside) :
    (logAttempt grammar id matched inside entered told).attempts =
      entered.attempts.retraceAll grammar entered.negations
        [.rule id entered.position matched inside] := by
  rw [Attempts.retraceAll, Attempts.retrace, Attempts.retraceAll, ← made, ← negations]
  rfl

variable [Builder β]

/-! ## What a rule does to the state -/

/-- A state in which the rule around has been told what a reply says. -/
structure Told (ledger : Ledger β) (reply : Reply) (before after : State β) : Prop where
  /-- The cursor stands where the reply stops. -/
  scanner : after.scanner = before.scanner.moveTo reply.stop
  /-- The nodes of the reply were collected. -/
  builder : ledger.Adds before.builder reply.nodes after.builder
  /-- The diagnostics of the reply were recorded. -/
  errors : after.errors = before.errors ++ reply.diagnostics
  /-- The trimming mark changed as the reply says. -/
  mark : after.mark = before.mark.map reply.change
  /-- As many negations are open. -/
  negations : after.negations = before.negations
  /-- The call limit is the same. -/
  callLimit : after.callLimit = before.callLimit

/-- Telling the rule around leaves the source as it is. -/
theorem Told.source_eq {ledger : Ledger β} {reply : Reply} {before after : State β}
    (told : Told ledger reply before after) : after.source = before.source := by
  rw [State.source, told.scanner]
  rfl

/-- A result that does to a state what a reply says. -/
structure Answers (ledger : Ledger β) (grammar : Grammar P) (oracle : Oracle) (reply : Reply)
    (before : State β) (result : Outcome × State β) : Prop
    extends Told ledger reply before result.2 where
  /-- The rule matched if the rule around goes on. -/
  outcome : result.1 = if reply.matched then .matched else .failed .mismatch
  /-- The attempts of the reply were made. -/
  attempts : result.2.attempts =
    before.attempts.retraceAll grammar before.negations reply.attempts
  /-- The attempts of the reply are in the journal. -/
  journal : result.2.journal = reply.attempts.reverse ++ before.journal
  /-- The cache remembers only verdicts. -/
  memory : oracle.Backs before.source result.2.memory

/-- How matching a rule relates to the verdict on it: it does what the verdict says, or it is
stopped by a call limit, or rules call each other too deeply for the verdicts that are sure. -/
inductive Obeys (ledger : Ledger β) (grammar : Grammar P) (sure oracle : Oracle) (id : RuleId)
    (before : State β) : Outcome × State β → Prop
  /-- The rule does what the verdict on it says. -/
  | answered {result : Outcome × State β} (verdict : MatchResult)
      (known : oracle id before.scanner = some verdict)
      (answers : Answers ledger grammar oracle
        (verdict.reply grammar (grammar.rule id) before.position) before result) :
      Obeys ledger grammar sure oracle id before result
  /-- The call limit was reached. -/
  | limited {after : State β} (limit : before.callLimit ≠ none) :
      Obeys ledger grammar sure oracle id before (.failed .callLimit, after)
  /-- Rules called each other too deeply. -/
  | diverged {after : State β} (unknown : sure id before.scanner = none) :
      Obeys ledger grammar sure oracle id before (.failed .divergence, after)

/-! ## What a test does to the state -/

/-- A state that has come from a base, where a rule was entered, to some progress of that rule. -/
structure Follows (ledger : Ledger β) (grammar : Grammar P) (oracle : Oracle) (base : State β)
    (progress : Progress) (now : State β) : Prop where
  /-- The progress is in the source of the base. -/
  source : progress.scanner.source = base.source
  /-- The cursor is that of the progress. -/
  scanner : now.scanner = progress.scanner
  /-- The nodes of the progress were collected. -/
  builder : ledger.Adds base.builder progress.nodes now.builder
  /-- The diagnostics of the progress were recorded. -/
  errors : now.errors = base.errors ++ progress.diagnostics
  /-- The trimming mark is that of the progress. -/
  mark : now.mark = some progress.mark
  /-- The attempts in the journal were made. -/
  attempts : now.attempts =
    base.attempts.retraceAll grammar base.negations progress.journal.reverse
  /-- The journal is that of the progress. -/
  journal : now.journal = progress.journal
  /-- As many negations are open. -/
  negations : now.negations = base.negations
  /-- The call limit is the same. -/
  callLimit : now.callLimit = base.callLimit
  /-- The cache remembers only verdicts. -/
  memory : oracle.Backs base.source now.memory

/-- A state in which the attempts in the journal were made since a base, whatever else happened. -/
structure Noted (grammar : Grammar P) (oracle : Oracle) (base now : State β) : Prop where
  /-- The attempts in the journal were made. -/
  attempts : now.attempts = base.attempts.retraceAll grammar base.negations now.journal.reverse
  /-- The cache remembers only verdicts. -/
  memory : oracle.Backs base.source now.memory

/-- How evaluating a test relates to the trial of it. -/
inductive Agrees (ledger : Ledger β) (grammar : Grammar P) (oracle : Oracle) (base : State β)
    (sure trial : Trial) : Outcome × State β → Prop
  /-- The test matched. -/
  | matched {progress : Progress} {after : State β} (same : trial = .matched progress)
      (follows : Follows ledger grammar oracle base progress after) :
      Agrees ledger grammar oracle base sure trial (.matched, after)
  /-- The test failed. -/
  | failed {after : State β} (same : trial = .failed after.journal)
      (noted : Noted grammar oracle base after) :
      Agrees ledger grammar oracle base sure trial (.failed .mismatch, after)
  /-- The call limit was reached. -/
  | limited {after : State β} (limit : base.callLimit ≠ none) :
      Agrees ledger grammar oracle base sure trial (.failed .callLimit, after)
  /-- Rules called each other too deeply. -/
  | diverged {after : State β} (unknown : sure = .diverged) :
      Agrees ledger grammar oracle base sure trial (.failed .divergence, after)

/-- A way to match parts that does what an oracle says wherever another oracle is sure, with what
has to be known of the two oracles. -/
structure Simulates (ledger : Ledger β) (grammar : Grammar P) (sure oracle : Oracle)
    (call : RuleId → Action β) : Prop where
  /-- Matching a part does what the verdict on it says. -/
  obeys : ∀ id (state : State β), oracle.Backs state.source state.memory →
    Obeys ledger grammar sure oracle id state (call id state)
  /-- A part that does not match leaves everything as it was. -/
  atomic : ∀ id, Atomic ledger (call id)
  /-- What is sure is what the oracle says. -/
  refines : ∀ source, sure.Refines source oracle
  /-- What is sure leads forward. -/
  sureForward : sure.Forward
  /-- What the oracle says leads forward. -/
  forward : oracle.Forward
  /-- What the oracle says follows from what it says about parts. -/
  fixed : oracle.step grammar = oracle

section Tests

variable {ledger : Ledger β} {grammar : Grammar P} {sure oracle : Oracle} {base state : State β}
  {progress : Progress} {call : RuleId → Action β}

/-- A test that agrees with a trial agrees with it if less is sure. -/
theorem Agrees.weaken {less more trial : Trial} {result : Outcome × State β}
    (agrees : Agrees ledger grammar oracle base more trial result)
    (implied : more = .diverged → less = .diverged) :
    Agrees ledger grammar oracle base less trial result := by
  cases agrees with
  | matched same follows => exact .matched same follows
  | failed same noted => exact .failed same noted
  | limited limit => exact .limited limit
  | diverged unknown => exact .diverged (implied unknown)

/-- The attempts in the journal of a state that follows some progress were made. -/
theorem Follows.noted (follows : Follows ledger grammar oracle base progress state) :
    Noted grammar oracle base state :=
  ⟨follows.journal ▸ follows.attempts, follows.memory⟩

/-- The source of a state that follows some progress is that of the base. -/
theorem Follows.source_eq (follows : Follows ledger grammar oracle base progress state) :
    state.source = base.source :=
  (congrArg Scanner.source follows.scanner).trans follows.source

/-- A test that fails where it has made some progress leaves the attempts made so far. -/
theorem Follows.fails {certain : Trial}
    (follows : Follows ledger grammar oracle base progress state) :
    Agrees ledger grammar oracle base certain (.failed progress.journal)
      (.failed .mismatch, state) :=
  .failed (congrArg Trial.failed follows.journal.symm) follows.noted

/-- A cursor that moves forward in the state moves forward in the progress. -/
theorem Follows.moved {scanner : Scanner}
    (follows : Follows ledger grammar oracle base progress state)
    (reached : progress.scanner.Reaches scanner) :
    Follows ledger grammar oracle base { progress with scanner } { state with scanner } :=
  { follows with source := reached.source.trans follows.source, scanner := rfl }

/-- After backtracking the progress is what it was, up to the attempts made. -/
theorem Follows.restored {after : State β}
    (follows : Follows ledger grammar oracle base progress state)
    (restored : state.Restores ledger after) (noted : Noted grammar oracle base after) :
    Follows ledger grammar oracle base { progress with journal := after.journal } after where
  source := follows.source
  scanner := restored.scanner.trans follows.scanner
  builder := by
    have collected := ledger.append follows.builder restored.builder
    rwa [List.append_nil] at collected
  errors := restored.errors.trans follows.errors
  mark := restored.mark.trans follows.mark
  attempts := noted.attempts
  journal := rfl
  negations := restored.negations.trans follows.negations
  callLimit := restored.callLimit.trans follows.callLimit
  memory := noted.memory

/-- A part that does what the verdict on it says takes the progress where the trial does. -/
theorem Follows.call_agrees (follows : Follows ledger grammar oracle base progress state)
    {id : RuleId} {result : Outcome × State β}
    (obeys : Obeys ledger grammar sure oracle id state result) :
    Agrees ledger grammar oracle base (Trial.call grammar sure id progress)
      (Trial.call grammar oracle id progress) result := by
  have position : state.position = progress.scanner.position :=
    congrArg Scanner.position follows.scanner
  cases obeys with
  | limited limit => exact .limited (follows.callLimit ▸ limit)
  | diverged unknown =>
    rw [follows.scanner] at unknown
    exact .diverged (by rw [Trial.call, unknown])
  | answered verdict known answers =>
    rw [follows.scanner] at known
    rw [position] at answers
    have taken : Trial.call grammar oracle id progress =
        progress.take (verdict.reply grammar (grammar.rule id) progress.scanner.position) := by
      rw [Trial.call, known]
    rw [taken]
    generalize verdict.reply grammar (grammar.rule id) progress.scanner.position = reply at answers
    obtain ⟨outcome, after⟩ := result
    obtain rfl := answers.outcome
    have journal : after.journal = reply.attempts.reverse ++ progress.journal := by
      rw [answers.journal, follows.journal]
    have attempts : after.attempts =
        base.attempts.retraceAll grammar base.negations after.journal.reverse := by
      rw [answers.attempts, follows.attempts, follows.negations, journal, List.reverse_append,
        List.reverse_reverse, Attempts.retraceAll_append]
    have memory : oracle.Backs base.source after.memory := follows.source_eq ▸ answers.memory
    unfold Progress.take
    cases reply.matched with
    | false => exact .failed (congrArg Trial.failed journal.symm) ⟨attempts, memory⟩
    | true =>
      refine .matched rfl ⟨follows.source, ?_, ?_, ?_, ?_, journal ▸ attempts, journal,
        answers.negations.trans follows.negations, answers.callLimit.trans follows.callLimit,
        memory⟩
      · rw [answers.scanner, follows.scanner]
      · exact ledger.append follows.builder answers.builder
      · rw [answers.errors, follows.errors, List.append_assoc]
      · rw [answers.mark, follows.mark, Option.map_some]

/-- Under a negation a journal of its own starts, on top of the attempts made so far. -/
theorem Follows.refuting (follows : Follows ledger grammar oracle base progress state) :
    Follows ledger grammar oracle
      { base with attempts := state.attempts, negations := base.negations + 1 }
      { progress with journal := [] }
      { state with negations := state.negations + 1, journal := [] } :=
  { follows with
    attempts := rfl
    journal := rfl
    negations := congrArg (· + 1) follows.negations }

/-- Attempts made under a negation are noted as one, and giving back what was taken keeps that. -/
theorem Follows.noted_refuted (follows : Follows ledger grammar oracle base progress state)
    {tested : State β}
    (noted : Noted grammar oracle
      { base with attempts := state.attempts, negations := base.negations + 1 } tested) :
    Noted grammar oracle base { tested.restore state.checkpoint with
      negations := state.negations
      journal := .negation tested.journal.reverse :: state.journal } := by
  refine ⟨?_, noted.memory⟩
  calc
    tested.attempts =
        state.attempts.retraceAll grammar (base.negations + 1) tested.journal.reverse :=
      noted.attempts
    _ = state.attempts.retraceAll grammar base.negations
        [.negation tested.journal.reverse] := by
      rw [Attempts.retraceAll, Attempts.retrace, Attempts.retraceAll]
    _ = base.attempts.retraceAll grammar base.negations
        (.negation tested.journal.reverse :: state.journal).reverse := by
      rw [List.reverse_cons, Attempts.retraceAll_append, follows.attempts, follows.journal]

/-- Taking one character agrees with the trial of it. -/
theorem Follows.consume_agrees (certain : Trial)
    (follows : Follows ledger grammar oracle base progress state) :
    Agrees ledger grammar oracle base certain
      (match progress.scanner.consume with
        | some (_, scanner) => .matched { progress with scanner }
        | none => .failed progress.journal)
      (consumeMany 1 state) := by
  simp only [consumeMany, follows.scanner]
  cases found : progress.scanner.consume with
  | none => exact follows.fails
  | some taken =>
    exact .matched rfl (follows.moved (Scanner.consume_reaches found))

/-- Counting successes agrees with the trial of it. -/
theorem Follows.settle_agrees (rule : Occurrence P) (count : Nat)
    (follows : Follows ledger grammar oracle base progress state) :
    Agrees ledger grammar oracle base (Trial.settle rule count progress)
      (Trial.settle rule count progress) (settle rule count state) := by
  unfold Trial.settle settle
  split
  · exact .matched rfl follows
  · exact follows.fails

variable [Procedures P]

/-- Evaluating a test that is no procedure only adds. -/
theorem Simulates.test_frames (simulates : Simulates ledger grammar sure oracle call)
    {test : Test P}
    (noProcedure : test.isNoProcedure = true) : Frames ledger (runTest grammar call test) :=
  runTest_frames grammar (fun id state => (simulates.atomic id state).adds) noProcedure

omit [Procedures P] in
/-- A part agrees with the trial of it. -/
theorem Simulates.call_agrees (simulates : Simulates ledger grammar sure oracle call)
    (follows : Follows ledger grammar oracle base progress state) (id : RuleId) :
    Agrees ledger grammar oracle base (Trial.call grammar sure id progress)
      (Trial.call grammar oracle id progress) (call id state) :=
  follows.call_agrees (simulates.obeys id state (follows.source_eq ▸ follows.memory))

omit [Procedures P] in
/-- Matching parts one after the other agrees with the trial of them. -/
theorem Simulates.all_agrees (simulates : Simulates ledger grammar sure oracle call)
    (parts : List RuleId) (follows : Follows ledger grammar oracle base progress state) :
    Agrees ledger grammar oracle base (Trial.all grammar sure parts progress)
      (Trial.all grammar oracle parts progress) (matchAll call parts state) := by
  induction parts generalizing progress state with
  | nil => exact .matched rfl follows
  | cons id later ih =>
    have agrees := simulates.call_agrees follows id
    have refined := Trial.call_refines grammar (simulates.refines base.source) id follows.source
    unfold matchAll Trial.all
    generalize call id state = result at agrees
    cases agrees with
    | matched same next =>
      rw [same] at refined ⊢
      rcases refined with diverged | equal
      · exact (ih next).weaken fun _ => by rw [diverged]
      · rw [equal]
        exact ih next
    | failed same noted =>
      rw [same]
      exact .failed rfl noted
    | limited limit => exact .limited limit
    | diverged unknown =>
      rw [unknown]
      exact .diverged rfl

omit [Procedures P] in
/-- Matching the first part that succeeds agrees with the trial of it. -/
theorem Simulates.first_agrees (simulates : Simulates ledger grammar sure oracle call)
    (parts : List RuleId) (follows : Follows ledger grammar oracle base progress state) :
    Agrees ledger grammar oracle base (Trial.first grammar sure parts progress)
      (Trial.first grammar oracle parts progress) (matchFirst call parts state) := by
  induction parts generalizing progress state with
  | nil => exact follows.fails
  | cons id later ih =>
    have agrees := simulates.call_agrees follows id
    have restored := (simulates.atomic id state).restores
    have refined := Trial.call_refines grammar (simulates.refines base.source) id follows.source
    unfold matchFirst Trial.first
    generalize call id state = result at agrees restored
    cases agrees with
    | matched same next =>
      rw [same]
      exact .matched rfl next
    | failed same noted =>
      have back := ih (follows.restored (restored rfl) noted)
      rw [same] at refined ⊢
      rcases refined with diverged | equal
      · exact back.weaken fun _ => by rw [diverged]
      · rw [equal]
        exact back
    | limited limit => exact .limited limit
    | diverged unknown =>
      rw [unknown]
      exact .diverged rfl

/-- Evaluating a test that is no procedure agrees with the trial of it. -/
theorem Simulates.test_agrees (simulates : Simulates ledger grammar sure oracle call)
    {test : Test P} (noProcedure : test.isNoProcedure = true)
    (follows : Follows ledger grammar oracle base progress state) :
    Agrees ledger grammar oracle base (Trial.test grammar sure test progress)
      (Trial.test grammar oracle test progress) (runTest grammar call test state) := by
  cases test with
  | procedure steps => simp [Test.isNoProcedure] at noProcedure
  | reference target => exact simulates.call_agrees follows target
  | group inner => exact simulates.call_agrees follows inner
  | sequence parts => exact simulates.all_agrees parts follows
  | choice parts => exact simulates.first_agrees parts follows
  | terminal terminal =>
    simp only [runTest, scanWith, Trial.test, follows.scanner]
    cases found : terminal.scan progress.scanner with
    | none => exact follows.fails
    | some scanner =>
      exact .matched rfl (follows.moved (Terminal.scan_reaches found))

/-- Evaluating a test to see it fail agrees with the trial of it. -/
theorem Simulates.refute_agrees (simulates : Simulates ledger grammar sure oracle call)
    {rule : Occurrence P} (noProcedure : (grammar.testOf rule).isNoProcedure = true)
    (follows : Follows ledger grammar oracle base progress state) :
    Agrees ledger grammar oracle base (Trial.refute grammar sure rule progress)
      (Trial.refute grammar oracle rule progress) (refute grammar call rule state) := by
  have agrees := simulates.test_agrees noProcedure follows.refuting
  have extended := simulates.test_frames noProcedure
    { state with negations := state.negations + 1, journal := [] }
  have divergence : Trial.test grammar sure (grammar.testOf rule) { progress with journal := [] } =
      .diverged → Trial.refute grammar sure rule progress = .diverged := by
    intro unknown
    rw [Trial.refute, unknown]
  generalize Trial.refute grammar sure rule progress = certain at divergence
  unfold refute Trial.refute
  simp only
  generalize runTest grammar call (grammar.testOf rule)
    { state with negations := state.negations + 1, journal := [] } = result at agrees extended
  cases agrees with
  | limited limit => exact .limited limit
  | diverged unknown => exact .diverged (divergence unknown)
  | matched same next =>
    rw [same]
    refine .failed ?_ (follows.noted_refuted next.noted)
    rw [follows.journal, next.journal]
  | failed same noted =>
    rename_i tested
    have back := follows.restored
      (refuted_restores (.negation tested.journal.reverse :: state.journal) extended)
      (follows.noted_refuted noted)
    rw [same]
    simp only [follows.journal] at back ⊢
    cases rule.behaviour.lookahead with
    | true => exact .matched rfl back
    | false => exact back.consume_agrees certain

/-- An iteration agrees with the trial of it. -/
theorem Simulates.once_agrees (simulates : Simulates ledger grammar sure oracle call)
    {rule : Occurrence P} (noProcedure : (grammar.testOf rule).isNoProcedure = true)
    (follows : Follows ledger grammar oracle base progress state) :
    Agrees ledger grammar oracle base (Trial.once grammar sure rule progress)
      (Trial.once grammar oracle rule progress) (iterate grammar call rule state) := by
  unfold iterate Trial.once
  split
  · exact simulates.refute_agrees noProcedure follows
  · exact simulates.test_agrees noProcedure follows

/-- Repetition agrees with the trial of it. -/
theorem Simulates.rounds_agrees (simulates : Simulates ledger grammar sure oracle call)
    {rule : Occurrence P} (noProcedure : (grammar.testOf rule).isNoProcedure = true)
    (budget count : Nat) (follows : Follows ledger grammar oracle base progress state) :
    Agrees ledger grammar oracle base (Trial.rounds grammar sure rule budget count progress)
      (Trial.rounds grammar oracle rule budget count progress)
      (repeatFrom grammar call rule budget count state) := by
  have tests := simulates.test_frames noProcedure
  induction budget generalizing count progress state with
  | zero =>
    unfold repeatFrom Trial.rounds
    cases rule.behaviour.cardinality.maximum with
    | some bound => exact follows.settle_agrees rule count
    | none => exact .diverged rfl
  | succ budget ih =>
    have agrees := simulates.once_agrees noProcedure follows
    have extended := iterate_frames tests state
    have refined := Trial.once_refines grammar (simulates.refines base.source) rule follows.source
    unfold repeatFrom Trial.rounds
    generalize iterate grammar call rule state = result at agrees extended
    cases agrees with
    | limited limit => exact .limited limit
    | diverged unknown =>
      rw [unknown]
      exact .diverged rfl
    | failed same noted =>
      have restored := follows.restored extended.restore ⟨noted.attempts, noted.memory⟩
      have back := restored.settle_agrees rule count
      rw [same] at refined ⊢
      rcases refined with diverged | equal
      · exact back.weaken fun _ => by rw [diverged]
      · rw [equal]
        exact back
    | matched same next =>
      rename_i reached after
      have standing : after.position = state.position ↔
          reached.scanner.position = progress.scanner.position := by
        rw [State.position, State.position, next.scanner, follows.scanner]
      rw [same] at refined ⊢
      simp only [standing]
      rcases refined with diverged | equal
      · rw [diverged]
        simp only
        split
        · exact (next.settle_agrees rule (count + 1)).weaken fun _ => rfl
        · exact (ih (count + 1) next).weaken fun _ => rfl
      · rw [equal]
        simp only
        split
        · exact next.settle_agrees rule (count + 1)
        · exact ih (count + 1) next

/-- Evaluating a test as often as its rule asks agrees with the trial of it. -/
theorem Simulates.repeated_agrees (simulates : Simulates ledger grammar sure oracle call)
    {rule : Occurrence P} (noProcedure : (grammar.testOf rule).isNoProcedure = true)
    (follows : Follows ledger grammar oracle base progress state) :
    Agrees ledger grammar oracle base (Trial.repeated grammar sure rule progress)
      (Trial.repeated grammar oracle rule progress) (repeatTest grammar call rule state) := by
  have agrees := simulates.rounds_agrees noProcedure
    (rule.behaviour.cardinality.maximum.getD state.loopBound) 0 follows
  unfold repeatTest Trial.repeated
  cases bounded : rule.behaviour.cardinality.maximum with
  | some bound =>
    rw [bounded] at agrees
    exact agrees
  | none =>
    have enough : progress.scanner.source.length + 2 ≤ state.loopBound := by
      rw [State.loopBound, State.source, follows.scanner]
      exact Nat.le_mul_of_pos_right _ (Nat.succ_pos _)
    rw [bounded, Option.getD_none] at agrees
    rw [Option.getD_none, Option.getD_none,
      Trial.rounds_budget simulates.sureForward (by omega) (Nat.lt_of_lt_of_le (by omega) enough),
      Trial.rounds_budget simulates.forward (by omega) (Nat.lt_of_lt_of_le (by omega) enough)]
    exact agrees

end Tests

/-! ## How a rule ends -/

section Rules

variable {ledger : Ledger β} {grammar : Grammar P} {oracle : Oracle} {entered ended : State β}
  {id : RuleId}

/-- A rule that has just been entered follows the start of a trial. -/
theorem openRule_follows (grammar : Grammar P) (rule : Occurrence P)
    (memory : oracle.Backs entered.source entered.memory) :
    Follows ledger grammar oracle (openRule rule entered) (.start entered.scanner)
      (openRule rule entered) where
  source := rfl
  scanner := rfl
  builder := ledger.nothing _
  errors := (List.append_nil _).symm
  mark := rfl
  attempts := by rw [Progress.start, List.reverse_nil, Attempts.retraceAll]
  journal := rfl
  negations := rfl
  callLimit := rfl
  memory := memory

/-- A rule that answers still does if a verdict is remembered. -/
theorem Answers.remember {reply : Reply} {outcome : Outcome} {logged : State β}
    {result : MatchResult} (answers : Answers ledger grammar oracle reply entered (outcome, logged))
    (known : oracle id entered.scanner = some result) :
    Answers ledger grammar oracle reply entered
      (outcome, logged.remember id entered.position result) := by
  have alike := logged.remember_alike id entered.position result
  exact
    { outcome := answers.outcome
      scanner := alike.scanner.trans answers.scanner
      builder := alike.builder ▸ answers.builder
      errors := alike.errors.trans answers.errors
      mark := alike.mark.trans answers.mark
      negations := alike.negations.trans answers.negations
      callLimit := alike.callLimit.trans answers.callLimit
      attempts := alike.attempts.trans answers.attempts
      journal := alike.journal.trans answers.journal
      memory := answers.memory.remember rfl known }

/-- A rule that matched tells the rule around what the verdict says. -/
theorem succeed_told {progress : Progress}
    (follows : Follows ledger grammar oracle (openRule (grammar.rule id) entered) progress ended) :
    Told ledger
      (MatchResult.reply grammar (grammar.rule id) entered.position
        (.success (Trial.remembered grammar id entered.position progress))) entered
      (succeed grammar (grammar.rule id) entered.position progress.mark
        { ended with mark := entered.mark }) := by
  have source : ended.scanner.source = entered.scanner.source := follows.source_eq
  have cursor : entered.scanner.moveTo progress.scanner.position = progress.scanner :=
    Scanner.moveTo_position follows.source.symm
  unfold succeed
  simp only [MatchResult.reply, Trial.remembered]
  cases (grammar.rule id).behaviour.lookahead with
  | true =>
    refine ⟨?_, ledger.discarded follows.builder, follows.errors, ?_, follows.negations,
      follows.callLimit⟩
    · exact (Scanner.moveTo_position source).trans (Scanner.moveTo_position rfl).symm
    · exact (Option.map_id_apply).symm
  | false =>
    have position : ended.position = progress.scanner.position :=
      congrArg Scanner.position follows.scanner
    refine ⟨?_, ?_, follows.errors, ?_, follows.negations, follows.callLimit⟩
    · exact follows.scanner.trans cursor.symm
    · rw [← position]
      exact ledger.produced _ follows.builder
    · rw [← position]
      rfl

/-- Telling the rule around of a match makes no attempts and remembers nothing. -/
theorem succeed_keeps (grammar : Grammar P) (rule : Occurrence P) (origin : Nat) (mark : Mark)
    (state : State β) :
    (succeed grammar rule origin mark state).attempts = state.attempts ∧
      (succeed grammar rule origin mark state).memory = state.memory := by
  unfold succeed
  split <;> exact ⟨rfl, rfl⟩

/-- A rule that matched answers as its verdict says. -/
theorem endMatched_answers {progress : Progress} (forward : oracle.Forward)
    (follows : Follows ledger grammar oracle (openRule (grammar.rule id) entered) progress ended)
    (known : oracle id entered.scanner =
      some (.success (Trial.remembered grammar id entered.position progress))) :
    Answers ledger grammar oracle
      (MatchResult.reply grammar (grammar.rule id) entered.position
        (.success (Trial.remembered grammar id entered.position progress))) entered
      (.matched, endMatched grammar id entered ended) := by
  have told := succeed_told follows
  have kept := succeed_keeps grammar (grammar.rule id) entered.position progress.mark
    { ended with mark := entered.mark }
  have mark : ended.mark.getD (.start entered.position) = progress.mark := by
    rw [follows.mark, Option.getD_some]
  have position : ended.position = progress.scanner.position :=
    congrArg Scanner.position follows.scanner
  have inside := (forward.reply grammar known).2
  unfold endMatched
  simp only [mark]
  generalize succeed grammar (grammar.rule id) entered.position progress.mark
    { ended with mark := entered.mark } = closed at told kept
  rw [follows.journal]
  have answers : Answers ledger grammar oracle
      (MatchResult.reply grammar (grammar.rule id) entered.position
        (.success (Trial.remembered grammar id entered.position progress))) entered
      (.matched, logAttempt grammar id true progress.journal.reverse entered closed) :=
    { told with
      outcome := rfl
      attempts := logAttempt_attempts id true told.negations (kept.1.trans follows.attempts)
      journal := rfl
      memory := kept.2 ▸ follows.memory }
  generalize logAttempt grammar id true progress.journal.reverse entered closed = logged at answers
  split
  · rename_i nodes left
    have collected := ledger.contributed answers.builder left
    have stop : logged.position = (Trial.remembered grammar id entered.position progress).stop :=
      (congrArg Scanner.position answers.scanner).trans (Scanner.position_moveTo inside)
    have diagnostics : logged.errors.drop entered.errors.length = progress.diagnostics := by
      rw [answers.errors, List.drop_left]
      rfl
    rw [diagnostics, collected, stop, position]
    exact answers.remember known
  · exact answers

/-- Recovering, or not, after everything was given back answers as the verdict of a failure says. -/
theorem recover_answers {rule : Occurrence P} {attempts : List Attempt}
    (restored : entered.Restores ledger ended)
    (made : ended.attempts = entered.attempts.retraceAll grammar entered.negations attempts)
    (journal : ended.journal = attempts.reverse ++ entered.journal)
    (memory : oracle.Backs entered.source ended.memory) :
    Answers ledger grammar oracle
      (MatchResult.reply grammar rule entered.position (.failure attempts)) entered
      (recover grammar rule entered.position ended) := by
  have standing : ended.scanner = entered.scanner.moveTo entered.position :=
    restored.scanner.trans (Scanner.moveTo_position rfl).symm
  unfold recover
  simp only [MatchResult.reply]
  cases rule.annotations.pinned with
  | false =>
    exact
      { outcome := rfl
        scanner := standing
        builder := restored.builder
        errors := restored.errors.trans (List.append_nil _).symm
        mark := restored.mark.trans Option.map_id_apply.symm
        negations := restored.negations
        callLimit := restored.callLimit
        attempts := made
        journal := journal
        memory := memory }
  | true =>
    exact
      { outcome := rfl
        scanner := standing
        builder := ledger.append restored.builder (ledger.leaf _ _ _ _ _)
        errors := congrArg (· ++ _) restored.errors
        mark := congrArg (Option.map Mark.consumed) restored.mark
        negations := restored.negations
        callLimit := restored.callLimit
        attempts := made
        journal := journal
        memory := memory }

/-- Ending a rule as a verdict says that was remembered answers as the verdict says. -/
theorem replay_answers (rule : Occurrence P) (result : MatchResult)
    (memory : oracle.Backs entered.source entered.memory) :
    Answers ledger grammar oracle (result.reply grammar rule entered.position) entered
      (replay grammar rule entered.position result entered) := by
  cases result with
  | failure attempts =>
    have closed := ledger.failed (ledger.nothing (Builder.opened rule.token entered.builder))
    exact recover_answers ⟨rfl, closed, rfl, rfl, rfl, rfl⟩ rfl rfl memory
  | success remembered =>
    have brought := ledger.restored entered.builder rule.token remembered.nodes
    unfold replay
    simp only [MatchResult.reply]
    cases rule.behaviour.lookahead with
    | true =>
      exact
        { outcome := rfl
          scanner := rfl
          builder := brought
          errors := rfl
          mark := Option.map_id_apply.symm
          negations := rfl
          callLimit := rfl
          attempts := rfl
          journal := rfl
          memory := memory }
    | false =>
      exact
        { outcome := rfl
          scanner := rfl
          builder := brought
          errors := rfl
          mark := rfl
          negations := rfl
          callLimit := rfl
          attempts := rfl
          journal := rfl
          memory := memory }

/-- A rule that did not match answers as its verdict says. -/
theorem endMismatched_answers
    (extended : (openRule (grammar.rule id) entered).Extends ledger ended)
    (noted : Noted grammar oracle (openRule (grammar.rule id) entered) ended)
    (known : oracle id entered.scanner =
      some (.failure [.rule id entered.position false ended.journal.reverse])) :
    Answers ledger grammar oracle
      (MatchResult.reply grammar (grammar.rule id) entered.position
        (.failure [.rule id entered.position false ended.journal.reverse])) entered
      (recover grammar (grammar.rule id) entered.position
        (endMismatched grammar id entered ended)) := by
  have restored := endMismatched_restores extended
  unfold endMismatched at restored ⊢
  refine recover_answers restored ?_ ?_ ?_
  · exact (State.remember_alike _ _ _ _).attempts.trans
      (logAttempt_attempts id false extended.negations noted.attempts)
  · exact (State.remember_alike _ _ _ _).journal
  · refine Oracle.Backs.remember ?_ rfl known
    exact noted.memory

variable {sure : Oracle} {call : RuleId → Action β} [Procedures P]

/-- Matching a rule afresh does what the verdict on it says if matching its parts does. -/
theorem matchAfresh_obeys (free : grammar.isProcedureFree = true)
    (simulates : Simulates ledger grammar sure oracle call)
    (memory : oracle.Backs entered.source entered.memory) :
    Obeys ledger grammar (sure.step grammar) oracle id entered
      (matchAfresh grammar call id entered) := by
  have noProcedure := grammar.testOf_isNoProcedure free id
  have agrees := simulates.repeated_agrees noProcedure
    (openRule_follows grammar (grammar.rule id) memory)
  have extended := repeatTest_frames (simulates.test_frames noProcedure)
    (openRule (grammar.rule id) entered)
  have known := congrFun (congrFun simulates.fixed id) entered.scanner
  unfold Oracle.step at known
  unfold matchAfresh
  simp only
  generalize repeatTest grammar call (grammar.rule id) (openRule (grammar.rule id) entered) = result
    at agrees extended
  cases agrees with
  | limited limit => exact .limited limit
  | diverged unknown =>
    refine .diverged ?_
    rw [Oracle.step, unknown, Trial.conclude]
  | matched same follows =>
    rw [same] at known
    exact .answered _ known.symm (endMatched_answers simulates.forward follows known.symm)
  | failed same noted =>
    rw [same] at known
    exact .answered _ known.symm (endMismatched_answers extended noted known.symm)

omit [Procedures P] in
/-- What a rule does to a state it does to every state like it. -/
theorem Obeys.of_alike {called : State β} {result : Outcome × State β}
    (alike : entered.Alike called) (obeys : Obeys ledger grammar sure oracle id called result) :
    Obeys ledger grammar sure oracle id entered result := by
  have position : called.position = entered.position := congrArg Scanner.position alike.scanner
  have source : called.source = entered.source := congrArg Scanner.source alike.scanner
  cases obeys with
  | limited limit => exact .limited (alike.callLimit ▸ limit)
  | diverged unknown => exact .diverged (alike.scanner ▸ unknown)
  | answered verdict known answers =>
    rw [position] at answers
    refine .answered verdict (alike.scanner ▸ known) ?_
    exact
      { outcome := answers.outcome
        scanner := alike.scanner ▸ answers.scanner
        builder := alike.builder ▸ answers.builder
        errors := alike.errors ▸ answers.errors
        mark := alike.mark ▸ answers.mark
        negations := answers.negations.trans alike.negations
        callLimit := answers.callLimit.trans alike.callLimit
        attempts := by rw [answers.attempts, alike.attempts, alike.negations]
        journal := alike.journal ▸ answers.journal
        memory := source ▸ answers.memory }

/-- Calling a rule does what the verdict on it says if matching its parts does. -/
theorem callRule_obeys (free : grammar.isProcedureFree = true)
    (simulates : Simulates ledger grammar sure oracle call)
    (memory : oracle.Backs entered.source entered.memory) :
    Obeys ledger grammar (sure.step grammar) oracle id entered
      (callRule grammar call id entered) := by
  rcases callRule_cases grammar call id entered with
    ⟨reached, limited⟩ | ⟨called, alike, same, hit | ⟨_, _, afresh⟩⟩
  · rw [limited]
    refine .limited fun unlimited => ?_
    simp [State.limitReached, unlimited] at reached
  · obtain ⟨result, ⟨slot, stored, here, listed⟩, replayed⟩ := hit
    have known := memory slot stored (id, result) listed entered.scanner rfl here.symm
    have position : entered.position = called.position :=
      (congrArg Scanner.position alike.scanner).symm
    have source : called.source = entered.source := congrArg Scanner.source alike.scanner
    rw [replayed, position]
    refine .of_alike alike (.answered result (alike.scanner ▸ known) ?_)
    exact replay_answers (grammar.rule id) result (by rw [source, same]; exact memory)
  · have source : called.source = entered.source := congrArg Scanner.source alike.scanner
    rw [afresh]
    exact .of_alike alike (matchAfresh_obeys free simulates (by rw [source, same]; exact memory))

end Rules

variable [Procedures P]

/-- Matching rules to a depth does what the final verdicts say, with what has to be known of them,
if it obeys them. -/
theorem Simulates.of_obeys {ledger : Ledger β} {grammar : Grammar P}
    (free : grammar.isProcedureFree = true) {depth : Nat}
    (obeys : ∀ id (state : State β), (finalVerdict grammar).Backs state.source state.memory →
      Obeys ledger grammar (verdict grammar depth) (finalVerdict grammar) id state
        (descend grammar depth id state)) :
    Simulates ledger grammar (verdict grammar depth) (finalVerdict grammar)
      (descend grammar depth) where
  obeys := obeys
  atomic := descend_atomic ledger (.of_isProcedureFree free) depth
  refines source := verdict_refines_final grammar source depth
  sureForward := verdict_forward grammar depth
  forward := finalVerdict_forward grammar
  fixed := finalVerdict_eq_step grammar

/-- Matching a rule of a procedure-free grammar does what the final verdict on it says, unless it is
stopped by a call limit or has no verdict at the depth to which rules may call each other. -/
theorem descend_obeys (ledger : Ledger β) {grammar : Grammar P}
    (free : grammar.isProcedureFree = true) (depth : Nat) (id : RuleId) (state : State β)
    (memory : (finalVerdict grammar).Backs state.source state.memory) :
    Obeys ledger grammar (verdict grammar depth) (finalVerdict grammar) id state
      (descend grammar depth id state) := by
  induction depth generalizing id state with
  | zero => exact .diverged rfl
  | succ depth ih => exact callRule_obeys free (.of_obeys free ih) memory

/-- A state without a call limit whose cache remembers only verdicts. -/
structure State.Sound (grammar : Grammar P) (state : State β) : Prop where
  /-- There is no call limit. -/
  unlimited : state.callLimit = none
  /-- The cache remembers only verdicts. -/
  memory : (finalVerdict grammar).Backs state.source state.memory

omit [Procedures P] in
/-- A sound state after a rule was matched is sound. -/
theorem State.Sound.answered {ledger : Ledger β} {grammar : Grammar P} {state : State β}
    {reply : Reply} {result : Outcome × State β} (sound : state.Sound grammar)
    (answers : Answers ledger grammar (finalVerdict grammar) reply state result) :
    result.2.Sound grammar := by
  have source := answers.source_eq
  exact ⟨answers.callLimit.trans sound.unlimited, source ▸ answers.memory⟩

/-- Matching a rule in a sound state does what the final verdict on it says, or rules call each
other without end and there is no final verdict. -/
theorem matchRule_cases (ledger : Ledger β) {grammar : Grammar P}
    (free : grammar.isProcedureFree = true) (id : RuleId) {state : State β}
    (sound : state.Sound grammar) :
    (∃ result, finalVerdict grammar id state.scanner = some result ∧
      Answers ledger grammar (finalVerdict grammar)
        (result.reply grammar (grammar.rule id) state.position) state
        (matchRule grammar id state)) ∨
    (finalVerdict grammar id state.scanner = none ∧
      (matchRule grammar id state).1 = .failed .divergence) := by
  have obeys := descend_obeys ledger free (state.depthBound grammar) id state sound.memory
  have deep : finalDepth grammar state.source ≤ state.depthBound grammar := Nat.le_add_right _ _
  unfold matchRule
  generalize descend grammar (state.depthBound grammar) id state = result at obeys
  cases obeys with
  | answered verdict known answers => exact .inl ⟨verdict, known, answers⟩
  | limited limit => exact absurd sound.unlimited limit
  | diverged unknown =>
    rw [verdict_eq_final deep id state.scanner rfl] at unknown
    exact .inr ⟨unknown, rfl⟩

/-- Matching a rule in two sound states at one cursor does in both what one verdict says, or never
ends in either. -/
theorem matchRule_pair (ledger : Ledger β) {grammar : Grammar P}
    (free : grammar.isProcedureFree = true) (id : RuleId) {left right : State β}
    (scanner : left.scanner = right.scanner) (leftSound : left.Sound grammar)
    (rightSound : right.Sound grammar) :
    (∃ result, finalVerdict grammar id left.scanner = some result ∧
      Answers ledger grammar (finalVerdict grammar)
        (result.reply grammar (grammar.rule id) left.position) left (matchRule grammar id left) ∧
      Answers ledger grammar (finalVerdict grammar)
        (result.reply grammar (grammar.rule id) left.position) right (matchRule grammar id right)) ∨
    (finalVerdict grammar id left.scanner = none ∧
      (matchRule grammar id left).1 = .failed .divergence ∧
      (matchRule grammar id right).1 = .failed .divergence) := by
  have position : right.position = left.position := (congrArg Scanner.position scanner).symm
  have rightCases := matchRule_cases ledger free id rightSound
  rw [← scanner, position] at rightCases
  rcases matchRule_cases ledger free id leftSound with
    ⟨result, known, leftAnswers⟩ | ⟨unknown, leftDiverged⟩
  · rw [known] at rightCases
    obtain ⟨_, same, rightAnswers⟩ | ⟨absent, _⟩ := rightCases
    · obtain rfl := Option.some.inj same
      exact .inl ⟨result, known, leftAnswers, rightAnswers⟩
    · contradiction
  · rw [unknown] at rightCases
    obtain ⟨_, known, _⟩ | ⟨_, rightDiverged⟩ := rightCases
    · contradiction
    · exact .inr ⟨unknown, leftDiverged, rightDiverged⟩

end Packrat
