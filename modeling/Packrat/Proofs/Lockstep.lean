import Packrat.Proofs.CallCount

/-!
# Lockstep

Two runs over one source can be compared call by call, the second one with fewer means to end early:
no cache to answer from, no call limit to stop at, or less room to go deeper. As long as they go
side by side they show the same state (`State.Shares`), while what they do not show may differ in a
way that is kept (`Tandem`). They part only where the first stops at a call limit that the second
runs past, or where the second is lost in calls without end (`Tracks`). The evaluation of a test
keeps that if matching the parts does (`Paced.repeatTest`), and so does the end of a rule.
-/

namespace Packrat

variable {P β : Type}

/-! ## States side by side -/

/-- Two states that show the same: they differ at most in the calls counted and the limit on them,
in the cache, and in what matching tells about itself. -/
structure State.Shares (left right : State β) : Prop where
  /-- The cursor is the same. -/
  scanner : left.scanner = right.scanner
  /-- The builder is the same. -/
  builder : left.builder = right.builder
  /-- The diagnostics are the same. -/
  errors : left.errors = right.errors
  /-- The trimming mark is the same. -/
  mark : left.mark = right.mark
  /-- The attempts are the same. -/
  attempts : left.attempts = right.attempts
  /-- The journal is the same. -/
  journal : left.journal = right.journal
  /-- As many negations are open. -/
  negations : left.negations = right.negations

/-- States that show the same have their cursors at one position. -/
theorem State.Shares.position {left right : State β} (shares : left.Shares right) :
    left.position = right.position :=
  congrArg Scanner.position shares.scanner

/-- States that show the same show the same after a match is remembered in both. -/
theorem State.Shares.remember {first second : State β} (shares : first.Shares second)
    (id : RuleId) (origin : Nat) (result : MatchResult) :
    (first.remember id origin result).Shares (second.remember id origin result) := by
  have left := first.remember_alike id origin result
  have right := second.remember_alike id origin result
  exact ⟨left.scanner.trans (shares.scanner.trans right.scanner.symm),
    left.builder.trans (shares.builder.trans right.builder.symm),
    left.errors.trans (shares.errors.trans right.errors.symm),
    left.mark.trans (shares.mark.trans right.mark.symm),
    left.attempts.trans (shares.attempts.trans right.attempts.symm),
    left.journal.trans (shares.journal.trans right.journal.symm),
    left.negations.trans (shares.negations.trans right.negations.symm)⟩

/-- States that show the same show the same after a rule was logged that both entered alike. -/
theorem State.Shares.logAttempt {first second nextFirst nextSecond : State β}
    (entered : first.Shares second) (shares : nextFirst.Shares nextSecond) (grammar : Grammar P)
    (id : RuleId) (matched : Bool) (inside : List Attempt) :
    (logAttempt grammar id matched inside first nextFirst).Shares
      (logAttempt grammar id matched inside second nextSecond) := by
  unfold Packrat.logAttempt
  simp only [entered.position, entered.attempts, entered.journal, shares.negations, shares.attempts]
  exact { shares with attempts := rfl, journal := rfl, negations := rfl }

/-- The part of a state that matching does not show. -/
structure Account where
  /-- How many rules have been called. -/
  calls : Nat
  /-- The greatest number of rule calls. -/
  callLimit : Option Nat
  /-- The match cache. -/
  cache : Option MatchCache

/-- What matching does not show of a state. -/
def State.account (state : State β) : Account :=
  ⟨state.calls, state.callLimit, state.cache⟩

/-- A relation between what two states do not show. It hangs on nothing else, the second state has
no more room for repetition than the first, and what a builder contributed is not remembered. -/
structure Tandem [Builder β] (Side : State β → State β → Prop) : Prop where
  /-- The relation hangs on nothing that is shown but the source. -/
  keeps : ∀ {left right nextLeft nextRight}, Side left right → nextLeft.source = left.source →
    nextLeft.account = left.account → nextRight.account = right.account → Side nextLeft nextRight
  /-- The call limit leaves the second state no more room. -/
  room : ∀ {left right}, Side left right → right.callLimit.getD 0 ≤ left.callLimit.getD 0
  /-- No match is remembered with what a builder contributed. -/
  keepable : ∀ {left right}, Side left right →
    Keepable (Discreet β) left ∧ Keepable (Discreet β) right

/-- Two states that show the same and are related in what they do not show. -/
structure InStep (Side : State β → State β → Prop) (left right : State β) : Prop
    extends State.Shares left right where
  /-- What is not shown is related. -/
  side : Side left right

/-- A rule that answers stops nothing. -/
theorem Answers.ordinary [Builder β] {ledger : Ledger β} {grammar : Grammar P} {oracle : Oracle}
    {reply : Reply} {state : State β} {result : Outcome × State β}
    (answers : Answers ledger grammar oracle reply state result) : result.1.stops = false := by
  rw [answers.outcome]
  split <;> rfl

/-- How two runs compare under a call limit of the first. -/
inductive Tracks (Rel : State β → State β → Prop) (limit : Option Nat) :
    Outcome × State β → Outcome × State β → Prop
  /-- Both matched. -/
  | matched {left right : State β} (related : Rel left right) :
      Tracks Rel limit (.matched, left) (.matched, right)
  /-- Both failed. -/
  | mismatched {left right : State β} (related : Rel left right) :
      Tracks Rel limit (.failed .mismatch, left) (.failed .mismatch, right)
  /-- The first stopped at the call limit, which the second ran past. -/
  | curbed {left right : State β} {outcome : Outcome}
      (past : limit.any (· < right.calls) = true) :
      Tracks Rel limit (.failed .callLimit, left) (outcome, right)
  /-- The second is lost in calls without end. -/
  | lost {result : Outcome × State β} {right : State β} :
      Tracks Rel limit result (.failed .divergence, right)

/-- A run that is past a call limit stays past it. -/
theorem Tracks.past {Rel : State β → State β → Prop} {limit : Option Nat} {left right : State β}
    {result : Outcome × State β} (past : limit.any (· < right.calls) = true)
    (more : right.calls ≤ result.2.calls) : Tracks Rel limit (.failed .callLimit, left) result := by
  obtain ⟨outcome, last⟩ := result
  refine .curbed ?_
  obtain ⟨most, limited, beyond⟩ := Option.any_eq_true _ _ |>.mp past
  rw [limited, Option.any_some]
  exact decide_eq_true (Nat.lt_of_lt_of_le (of_decide_eq_true beyond) more)

/-- Two runs go side by side in another relation that holds of the states they end in, unless
everything had to stop. -/
theorem Tracks.imp {Rel Other : State β → State β → Prop} {limit : Option Nat}
    {left right : Outcome × State β}
    (follows : left.1.stops = false → Rel left.2 right.2 → Other left.2 right.2)
    (tracks : Tracks Rel limit left right) : Tracks Other limit left right := by
  cases tracks with
  | matched related => exact .matched (follows rfl related)
  | mismatched related => exact .mismatched (follows rfl related)
  | curbed past => exact .curbed past
  | lost => exact .lost

/-- Two runs that end the same way in related states go side by side, if nothing had to stop. -/
theorem Tracks.of_same {Rel : State β → State β → Prop} {limit : Option Nat}
    {left right : Outcome × State β} (ordinary : left.1.stops = false) (same : left.1 = right.1)
    (related : Rel left.2 right.2) : Tracks Rel limit left right := by
  obtain ⟨outcome, leftNext⟩ := left
  obtain ⟨_, rightNext⟩ := right
  obtain rfl : outcome = _ := same
  match outcome with
  | .matched => exact .matched related
  | .failed .mismatch => exact .mismatched related

/-- That calls are added, if anything, is a conduct. -/
def growing [Builder β] : Conduct β where
  Does state result := state.calls ≤ result.2.calls
  Room _ _ := True
  stays _ := Nat.le_refl _
  turns _ _ more := more
  follows _ := Nat.le_trans
  moves _ := Nat.le_refl _
  restores more := more
  refutes more := more
  starts _ := trivial
  spends _ _ _ := trivial
  exhausts _ := Nat.le_refl _

/-- Two ways to match parts that go side by side, the second of which only adds calls. -/
structure Paced (Side : State β → State β → Prop) (limit : Option Nat)
    (left right : RuleId → Action β) : Prop where
  /-- Parts are matched side by side. -/
  tracks : ∀ id {first second : State β}, InStep Side first second →
    Tracks (InStep Side) limit (left id first) (right id second)
  /-- The second way only adds calls. -/
  grows : ∀ id (state : State β), state.calls ≤ (right id state).2.calls

variable [Builder β] {Side : State β → State β → Prop}

section States

variable {first second nextFirst nextSecond : State β}

/-- States side by side stay so when the cursor moves. -/
theorem Tandem.moved (tandem : Tandem Side) (inStep : InStep Side first second) {scanner : Scanner}
    (reached : first.scanner.Reaches scanner) :
    InStep Side { first with scanner } { second with scanner } :=
  { inStep with
    scanner := rfl
    side := tandem.keeps inStep.side reached.source rfl rfl }

/-- States side by side stay so when both come back to where they were side by side before. -/
theorem Tandem.restore (tandem : Tandem Side) (inStep : InStep Side first second)
    (nextInStep : InStep Side nextFirst nextSecond) :
    InStep Side (nextFirst.restore first.checkpoint) (nextSecond.restore second.checkpoint) :=
  { nextInStep with
    scanner := congrArg₂ Scanner.moveTo nextInStep.scanner inStep.position
    builder :=
      congrArg₂ Builder.cutBack (congrArg Builder.collected inStep.builder) nextInStep.builder
    errors := congrArg₂ List.take (congrArg List.length inStep.errors) nextInStep.errors
    mark := inStep.mark
    side := tandem.keeps nextInStep.side rfl rfl rfl }

/-- States side by side stay so when a negation is opened. -/
theorem Tandem.refuting (tandem : Tandem Side) (inStep : InStep Side first second) :
    InStep Side first.refuting second.refuting :=
  { inStep with
    negations := congrArg (· + 1) inStep.negations
    journal := rfl
    side := tandem.keeps inStep.side rfl rfl rfl }

/-- States side by side stay so when a negation is closed. -/
theorem Tandem.refuted (tandem : Tandem Side) (inStep : InStep Side first second)
    (nextInStep : InStep Side nextFirst nextSecond) :
    InStep Side (first.refuted nextFirst) (second.refuted nextSecond) :=
  { tandem.restore inStep nextInStep with
    negations := inStep.negations
    journal := congrArg₂ List.cons
      (congrArg (fun journal => Attempt.negation journal.reverse) nextInStep.journal) inStep.journal
    side := tandem.keeps nextInStep.side rfl rfl rfl }

/-- States side by side stay so when a pass starts. -/
theorem Tandem.restarted (tandem : Tandem Side) (inStep : InStep Side first second) :
    InStep Side { first with attempts := .none, journal := [], mark := none }
      { second with attempts := .none, journal := [], mark := none } :=
  { inStep with
    attempts := rfl
    journal := rfl
    mark := rfl
    side := tandem.keeps inStep.side rfl rfl rfl }

/-- States side by side stay so when a rule is entered. -/
theorem Tandem.openRule (tandem : Tandem Side) (inStep : InStep Side first second)
    (rule : Occurrence P) : InStep Side (openRule rule first) (openRule rule second) :=
  { inStep with
    builder := congrArg (Builder.opened rule.token) inStep.builder
    mark := congrArg (fun position => some (Mark.start position)) inStep.position
    journal := rfl
    side := tandem.keeps inStep.side rfl rfl rfl }

end States

/-! ## Tests side by side -/

namespace Paced

variable {limit : Option Nat} {grammar : Grammar P} {left right : RuleId → Action β}
  {rule : Occurrence P} {first second : State β} (paced : Paced Side limit left right)
  (tandem : Tandem Side)

/-- A scan goes side by side. -/
theorem scanWith (tandem : Tandem Side) {scan : Scanner → Option Scanner}
    (forward : ∀ {scanner next}, scan scanner = some next → scanner.Reaches next)
    (inStep : InStep Side first second) :
    Tracks (InStep Side) limit (Packrat.scanWith scan first) (Packrat.scanWith scan second) := by
  unfold Packrat.scanWith
  rw [← inStep.scanner]
  split
  · rename_i scanner found
    exact .matched (tandem.moved inStep (forward found))
  · exact .mismatched inStep

/-- Taking characters goes side by side. -/
theorem consumeMany (tandem : Tandem Side) (count : Nat) (inStep : InStep Side first second) :
    Tracks (InStep Side) limit (Packrat.consumeMany count first)
      (Packrat.consumeMany count second) := by
  induction count generalizing first second with
  | zero => exact .matched inStep
  | succ count ih =>
    unfold Packrat.consumeMany
    rw [← inStep.scanner]
    split
    · rename_i c scanner found
      exact ih (tandem.moved inStep (Scanner.consume_reaches found))
    · exact .mismatched inStep

include paced

/-- Matching parts one after the other goes side by side. -/
theorem matchAll (parts : List RuleId) (inStep : InStep Side first second) :
    Tracks (InStep Side) limit (Packrat.matchAll left parts first)
      (Packrat.matchAll right parts second) := by
  induction parts generalizing first second with
  | nil => exact .matched inStep
  | cons id later ih =>
    have called := paced.tracks id inStep
    unfold Packrat.matchAll
    generalize left id first = leftResult at called
    generalize right id second = rightResult at called
    cases called with
    | matched related => exact ih related
    | mismatched related => exact .mismatched related
    | lost => exact .lost
    | @curbed _ next outcome past =>
      refine .past past ?_
      cases outcome with
      | matched => exact growing.matchAll (fun part _ => paced.grows part) next
      | failed reason => exact Nat.le_refl _

/-- Matching the first part that succeeds goes side by side. -/
theorem matchFirst (parts : List RuleId) (inStep : InStep Side first second) :
    Tracks (InStep Side) limit (Packrat.matchFirst left parts first)
      (Packrat.matchFirst right parts second) := by
  induction parts generalizing first second with
  | nil => exact .mismatched inStep
  | cons id later ih =>
    have called := paced.tracks id inStep
    unfold Packrat.matchFirst
    generalize left id first = leftResult at called
    generalize right id second = rightResult at called
    cases called with
    | matched related => exact .matched related
    | mismatched related => exact ih related
    | lost => exact .lost
    | @curbed _ next outcome past =>
      refine .past past ?_
      cases outcome with
      | matched => exact Nat.le_refl _
      | failed reason =>
        cases reason with
        | mismatch => exact growing.matchFirst (fun part _ => paced.grows part) next
        | callLimit => exact Nat.le_refl _
        | divergence => exact Nat.le_refl _

include tandem

variable [Procedures P]

/-- Evaluating a test that is no procedure goes side by side. -/
theorem runTest {test : Test P} (noProcedure : test.isNoProcedure = true)
    (inStep : InStep Side first second) :
    Tracks (InStep Side) limit (Packrat.runTest grammar left test first)
      (Packrat.runTest grammar right test second) := by
  cases test with
  | terminal terminal => exact scanWith tandem Terminal.scan_reaches inStep
  | reference target => exact paced.tracks target inStep
  | group inner => exact paced.tracks inner inStep
  | procedure steps => simp [Test.isNoProcedure] at noProcedure
  | sequence parts => exact paced.matchAll parts inStep
  | choice parts => exact paced.matchFirst parts inStep

/-- An iteration goes side by side. -/
theorem iterate (noProcedure : (grammar.testOf rule).isNoProcedure = true)
    (inStep : InStep Side first second) :
    Tracks (InStep Side) limit (Packrat.iterate grammar left rule first)
      (Packrat.iterate grammar right rule second) := by
  unfold Packrat.iterate
  split
  · have tested : Tracks (InStep Side) limit
        (Packrat.runTest grammar left (grammar.testOf rule) first.refuting)
        (Packrat.runTest grammar right (grammar.testOf rule) second.refuting) :=
      paced.runTest tandem noProcedure (tandem.refuting inStep)
    rw [refute_eq, refute_eq]
    generalize Packrat.runTest grammar left (grammar.testOf rule) first.refuting = leftResult
      at tested
    generalize Packrat.runTest grammar right (grammar.testOf rule) second.refuting = rightResult
      at tested
    cases tested with
    | matched related => exact .mismatched (tandem.refuted inStep related)
    | lost => exact .lost
    | mismatched related =>
      have back := tandem.refuted inStep related
      simp only [refutation]
      split
      · exact .matched back
      · exact consumeMany tandem 1 back
    | @curbed _ next outcome past =>
      refine .past past ?_
      cases outcome with
      | matched => exact Nat.le_refl _
      | failed reason =>
        cases reason with
        | callLimit => exact Nat.le_refl _
        | divergence => exact Nat.le_refl _
        | mismatch =>
          simp only [refutation]
          split
          · exact Nat.le_refl _
          · exact growing.consumeMany 1 (second.refuted next)
  · exact paced.runTest tandem noProcedure inStep

omit paced tandem [Builder β] in
omit [Procedures P] in
/-- Counting successes goes side by side. -/
theorem settle (count : Nat) (inStep : InStep Side first second) :
    Tracks (InStep Side) limit (Packrat.settle rule count first)
      (Packrat.settle rule count second) := by
  unfold Packrat.settle
  split
  · exact .matched inStep
  · exact .mismatched inStep

/-- Repetition goes side by side, if the first run has at least the budget of the second, and
exactly that where the number of iterations is bounded. -/
theorem repeatFrom (noProcedure : (grammar.testOf rule).isNoProcedure = true)
    (budget spare count : Nat)
    (bounded : rule.behaviour.cardinality.maximum ≠ none → spare = 0)
    (inStep : InStep Side first second) :
    Tracks (InStep Side) limit (Packrat.repeatFrom grammar left rule (budget + spare) count first)
      (Packrat.repeatFrom grammar right rule budget count second) := by
  induction budget generalizing count first second with
  | zero =>
    cases maximum : rule.behaviour.cardinality.maximum with
    | none =>
      have lost : Packrat.repeatFrom grammar right rule 0 count second =
          (.failed .divergence, second) := by
        rw [Packrat.repeatFrom, maximum]
      rw [lost]
      exact .lost
    | some most =>
      obtain rfl := bounded (by rw [maximum]; nofun)
      unfold Packrat.repeatFrom
      rw [maximum]
      exact settle count inStep
  | succ budget ih =>
    have iterated := paced.iterate tandem noProcedure inStep
    rw [Nat.succ_add]
    unfold Packrat.repeatFrom
    generalize Packrat.iterate grammar left rule first = leftResult at iterated
    generalize Packrat.iterate grammar right rule second = rightResult at iterated
    cases iterated with
    | lost => exact .lost
    | mismatched related => exact settle count (tandem.restore inStep related)
    | matched related =>
      simp only [related.position, inStep.position]
      split
      · exact settle (count + 1) related
      · exact ih (count + 1) related
    | @curbed _ next outcome past =>
      refine .past past ?_
      match outcome with
      | .failed .callLimit => exact Nat.le_refl _
      | .failed .divergence => exact Nat.le_refl _
      | .failed .mismatch =>
        change next.calls ≤ (Packrat.settle rule count (next.restore second.checkpoint)).2.calls
        rw [settle_snd]
        exact Nat.le_refl _
      | .matched =>
        simp only
        split
        · exact growing.settle rfl (growing.stays next) (count + 1)
        · have called := fun part (_ : part ∈ (grammar.testOf rule).callees) => paced.grows part
          exact growing.repeatFrom (growing.runTest called noProcedure) budget (count + 1) next
            fun _ => trivial

/-- Evaluating a test as often as its rule asks goes side by side. -/
theorem repeatTest (noProcedure : (grammar.testOf rule).isNoProcedure = true)
    (inStep : InStep Side first second) :
    Tracks (InStep Side) limit (Packrat.repeatTest grammar left rule first)
      (Packrat.repeatTest grammar right rule second) := by
  have room : second.loopBound ≤ first.loopBound := by
    unfold State.loopBound State.source
    rw [inStep.scanner]
    exact Nat.mul_le_mul_left _ (Nat.succ_le_succ (tandem.room inStep.side))
  unfold Packrat.repeatTest
  cases maximum : rule.behaviour.cardinality.maximum with
  | some most => exact paced.repeatFrom tandem noProcedure most 0 0 (fun _ => rfl) inStep
  | none =>
    obtain ⟨spare, more⟩ := Nat.exists_eq_add_of_le room
    rw [Option.getD_none, Option.getD_none, more]
    exact paced.repeatFrom tandem noProcedure _ spare 0 (fun bounded => absurd maximum bounded)
      inStep

end Paced

/-! ## Ends of rules side by side -/

section Rules

variable {limit : Option Nat} {grammar : Grammar P} {left right : RuleId → Action β}
  {rule : Occurrence P} {first second nextFirst nextSecond : State β}

/-- States that show the same show the same after the rule around is told of a match. -/
theorem State.Shares.succeed (shares : first.Shares second) (grammar : Grammar P)
    (rule : Occurrence P) (origin : Nat) (mark : Mark) :
    (succeed grammar rule origin mark first).Shares (succeed grammar rule origin mark second) := by
  unfold Packrat.succeed
  split
  · exact
      { shares with
        scanner := congrArg (·.moveTo origin) shares.scanner
        builder := congrArg (Builder.produced .discarded) shares.builder }
  · simp only [shares.position]
    exact
      { shares with
        builder := congrArg (Builder.produced _) shares.builder
        mark := congrArg (Option.map _) shares.mark }

/-- States that show the same show the same after a rule that matched, if no match is remembered. -/
theorem State.Shares.endMatched (entered : first.Shares second)
    (shares : nextFirst.Shares nextSecond) (leftKeepable : Keepable (Discreet β) nextFirst)
    (rightKeepable : Keepable (Discreet β) nextSecond) (id : RuleId) :
    (endMatched grammar id first nextFirst).Shares (endMatched grammar id second nextSecond) := by
  have outer : State.Shares { nextFirst with mark := first.mark }
      { nextSecond with mark := second.mark } :=
    { shares with mark := entered.mark }
  have told := entered.logAttempt (outer.succeed grammar (grammar.rule id) first.position
    (nextFirst.mark.getD (.start first.position))) grammar id true nextFirst.journal.reverse
  have same : Packrat.endMatched grammar id second nextSecond =
      Packrat.logAttempt grammar id true nextFirst.journal.reverse second
        (Packrat.succeed grammar (grammar.rule id) first.position
          (nextFirst.mark.getD (.start first.position))
          { nextSecond with mark := second.mark }) := by
    rw [endMatched_of_keepable rightKeepable, shares.journal, shares.mark, entered.position]
  rw [endMatched_of_keepable leftKeepable, same]
  exact told

/-- States that show the same show the same after a rule that did not match. -/
theorem State.Shares.endMismatched (entered : first.Shares second)
    (shares : nextFirst.Shares nextSecond) (id : RuleId) :
    (endMismatched grammar id first nextFirst).Shares
      (endMismatched grammar id second nextSecond) := by
  have closed : State.Shares
      { (nextFirst.close Builder.failed).moveTo first.position with
        errors := nextFirst.errors.take first.errors.length
        mark := first.mark }
      { (nextSecond.close Builder.failed).moveTo second.position with
        errors := nextSecond.errors.take second.errors.length
        mark := second.mark } :=
    { shares with
      scanner := congrArg₂ Scanner.moveTo shares.scanner entered.position
      builder := congrArg Builder.failed shares.builder
      errors := congrArg₂ List.take (congrArg List.length entered.errors) shares.errors
      mark := entered.mark }
  unfold Packrat.endMismatched
  simp only [shares.journal, entered.position] at closed ⊢
  exact (entered.logAttempt closed grammar id false _).remember id _ _

/-- States that show the same show the same after a rule recovered or not. -/
theorem State.Shares.recover (shares : first.Shares second) (origin : Nat) :
    Tracks State.Shares limit (recover grammar rule origin first)
      (recover grammar rule origin second) := by
  unfold Packrat.recover
  split
  · refine .matched
      { shares with
        builder := ?_
        mark := congrArg (Option.map _) shares.mark
        errors := congrArg (· ++ _) shares.errors }
    exact congrArg (fun builder => Builder.produced _ (Builder.opened (some .error) builder))
      shares.builder
  · exact .mismatched shares

/-- Two states behind the ends of two rules: they show the same, and what they do not show was
related before the ends. -/
structure Closing (Side : State β → State β → Prop) (first second left right : State β) : Prop
    extends State.Shares left right where
  /-- The rules ended in states that were related in what they do not show. -/
  closes : ∃ endedLeft endedRight, Side endedLeft endedRight ∧
    State.Closes first endedLeft left ∧ State.Closes second endedRight right

variable [Procedures P]

/-- Matching a rule afresh goes side by side up to its end, if matching its parts does. -/
theorem Paced.matchAfresh (paced : Paced Side limit left right) (tandem : Tandem Side)
    (free : grammar.isProcedureFree = true) (inStep : InStep Side first second) (id : RuleId) :
    Tracks (Closing Side first second) limit (matchAfresh grammar left id first)
      (matchAfresh grammar right id second) := by
  have tested := paced.repeatTest tandem (grammar.testOf_isNoProcedure free id)
    (tandem.openRule inStep (grammar.rule id))
  have more := (matchAfresh_closes grammar right id second).1.calls.ge
  unfold Packrat.matchAfresh at more ⊢
  simp only at more ⊢
  generalize Packrat.repeatTest grammar left (grammar.rule id)
    (Packrat.openRule (grammar.rule id) first) = leftResult at tested
  generalize Packrat.repeatTest grammar right (grammar.rule id)
    (Packrat.openRule (grammar.rule id) second) = rightResult at tested more
  cases tested with
  | lost => exact .lost
  | curbed past => exact .past past more
  | matched related =>
    obtain ⟨leftKeepable, rightKeepable⟩ := tandem.keepable related.side
    exact .matched
      { inStep.endMatched related.toShares leftKeepable rightKeepable id with
        closes := ⟨_, _, related.side, endMatched_closes id, endMatched_closes id⟩ }
  | mismatched related =>
    simp only [inStep.position]
    refine ((inStep.endMismatched related.toShares id).recover _).imp fun _ shares => ?_
    exact
      { shares with
        closes := ⟨_, _, related.side, recover_closes (endMismatched_closes id),
          recover_closes (endMismatched_closes id)⟩ }

end Rules

end Packrat
