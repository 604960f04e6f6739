import Packrat.Proofs.CacheTransparency
import Packrat.Proofs.Emission
import Packrat.Proofs.Lockstep

/-!
# Cache transparency of streams

A stream with a match cache gives what a stream without one gives: the same nodes one by one, with
the same diagnostics and at the same positions in between (`TokenStream.reports_withCache`). An
emitter does not tell what a rule contributed, so the cache of a stream remembers only failures.
Recalling a failure tells the emitter of a rule that starts and fails at once, where matching again
tells it of everything inside the rule as well. Both leave the same emitter
(`Emitter.Keeps.failed`): what is emitted inside a rule that fails is taken back, and everything
inside a rule leaves alone what was emitted outside of it.
-/

namespace Packrat

variable {P : Type}

/-! ## Emitters -/

namespace Emitter

/-- The emissions that are inside fewer rules than a number. -/
def outside (level : Nat) (emissions : List Emission) : List Emission :=
  emissions.filter fun emission => emission.around < level

/-- What is outside a level is found in two lists one after the other. -/
theorem outside_append (level : Nat) (earlier later : List Emission) :
    outside level (earlier ++ later) = outside level earlier ++ outside level later :=
  List.filter_append earlier later

/-- What is outside a level is outside a deeper one as well. -/
theorem outside_succ (level : Nat) (emissions : List Emission) :
    outside level (outside (level + 1) emissions) = outside level emissions := by
  unfold outside
  rw [List.filter_filter]
  refine List.filter_congr fun emission _ => ?_
  by_cases shallow : emission.around < level
  · simp [shallow, Nat.lt_succ_of_lt shallow]
  · simp [shallow]

/-- Taking back keeps what is outside the rules that start now. -/
theorem takeBack_eq (emitter : Emitter) :
    emitter.takeBack =
      { emitter with pending := outside (emitter.structural.length + 1) emitter.pending } := by
  unfold takeBack outside
  congr 1
  exact List.filter_congr fun emission _ => decide_eq_decide.mpr Nat.lt_succ_iff.symm

/-- An emitter after another in whose open rules something went on: no rule was ended, and what was
emitted outside of them stays, before whatever was emitted since. -/
structure Keeps (before after : Emitter) : Prop where
  /-- As many structural rules are open. -/
  depth : after.depth = before.depth
  /-- The same rules are open. -/
  structural : after.structural = before.structural
  /-- Emissions from outside the open rules stay, and none are added. -/
  pending : ∃ kept emitted, after.pending = kept ++ emitted ∧ kept.Sublist before.pending ∧
    outside before.structural.length kept = outside before.structural.length before.pending ∧
    outside before.structural.length emitted = []

namespace Keeps

variable {before middle after : Emitter} {token : Option Token}

/-- Nothing went on. -/
theorem refl (emitter : Emitter) : emitter.Keeps emitter :=
  ⟨rfl, rfl, emitter.pending, [], (List.append_nil _).symm, .refl _, rfl, rfl⟩

/-- Something went on after something else. -/
theorem trans (first : before.Keeps middle) (second : middle.Keeps after) :
    before.Keeps after := by
  obtain ⟨kept, emitted, pending, sublist, stays, inside⟩ := first.pending
  obtain ⟨laterKept, laterEmitted, laterPending, laterSublist, laterStays, laterInside⟩ :=
    second.pending
  rw [first.structural] at laterStays laterInside
  rw [pending] at laterSublist
  obtain ⟨old, new, rfl, oldSublist, newSublist⟩ := List.sublist_append_iff.mp laterSublist
  have newInside : outside before.structural.length new = [] :=
    List.sublist_nil.mp (inside ▸ newSublist.filter _)
  refine ⟨second.depth.trans first.depth, second.structural.trans first.structural, old,
    new ++ laterEmitted, by rw [laterPending, List.append_assoc], oldSublist.trans sublist, ?_, ?_⟩
  · rw [pending, outside_append, outside_append, newInside, inside, List.append_nil,
      List.append_nil, stays] at laterStays
    exact laterStays
  · rw [outside_append, newInside, laterInside, List.append_nil]

/-- The end of a rule leaves the rule around with what was emitted inside. -/
theorem leave (inside : Keeps (Builder.opened token before) after) :
    after.leave = { before with pending := after.pending } := by
  obtain ⟨depth, structural, pending⟩ := after
  obtain rfl : depth = _ := inside.depth
  obtain rfl : structural = _ := inside.structural
  exact leave_opened token before pending

/-- What goes on inside a rule goes on inside the rules around it. -/
theorem closed (inside : Keeps (Builder.opened token before) after) :
    before.Keeps { before with pending := after.pending } := by
  obtain ⟨kept, emitted, pending, sublist, stays, deep⟩ := inside.pending
  refine ⟨rfl, rfl, kept, emitted, pending, sublist, ?_, ?_⟩
  · have shallow := congrArg (outside before.structural.length) stays
    change outside _ (outside (before.structural.length + 1) kept) =
      outside _ (outside (before.structural.length + 1) before.pending) at shallow
    rwa [outside_succ, outside_succ] at shallow
  · have shallow := congrArg (outside before.structural.length) deep
    change outside _ (outside (before.structural.length + 1) emitted) = [] at shallow
    rwa [outside_succ] at shallow

/-- A rule that fails takes back whatever went on inside it, and no more than if nothing did. -/
theorem failed (inside : Keeps (Builder.opened token before) after) :
    Builder.failed after = before.takeBack := by
  obtain ⟨kept, emitted, pending, -, stays, deep⟩ := inside.pending
  change after.leave.takeBack = _
  rw [inside.leave, takeBack_eq, takeBack_eq]
  change outside (before.structural.length + 1) kept =
    outside (before.structural.length + 1) before.pending at stays
  change outside (before.structural.length + 1) emitted = [] at deep
  simp only [pending, outside_append, stays, deep, List.append_nil]

/-- Emitting adds nothing outside the open rules. -/
theorem emit (emitter : Emitter) (nodes : List Node) : emitter.Keeps (emitter.emit nodes) := by
  unfold Emitter.emit
  split
  · refine ⟨rfl, rfl, emitter.pending, _, rfl, .refl _, rfl, ?_⟩
    refine List.filter_eq_nil_iff.mpr fun emission member => ?_
    obtain ⟨node, -, rfl⟩ := List.mem_map.mp member
    simp
  · exact refl emitter

/-- Taking back keeps what is outside the open rules. -/
theorem takeBack (emitter : Emitter) : emitter.Keeps emitter.takeBack := by
  rw [takeBack_eq]
  exact ⟨rfl, rfl, _, [], (List.append_nil _).symm, List.filter_sublist, outside_succ _ _, rfl⟩

/-- What was collected may be given back. -/
theorem cutBack (keeps : before.Keeps after) :
    before.Keeps (Builder.cutBack (Builder.collected before) after) := by
  obtain ⟨kept, emitted, pending, sublist, stays, inside⟩ := keeps.pending
  have taken : after.pending.take before.pending.length =
      kept ++ emitted.take (before.pending.length - kept.length) := by
    rw [pending, List.take_append, List.take_of_length_le sublist.length_le]
  refine ⟨keeps.depth, keeps.structural, kept, _, taken, sublist, stays, ?_⟩
  exact List.sublist_nil.mp (inside ▸ (List.take_sublist _ emitted).filter _)

/-- A match keeps what is outside the rules around it. -/
theorem produced (inside : Keeps (Builder.opened token before) after) (production : Production) :
    before.Keeps (Builder.produced production after) := by
  have left : before.Keeps after.leave := by
    rw [inside.leave]
    exact inside.closed
  cases production with
  | node token annotations span => exact left.trans (emit _ _)
  | transparent => exact left
  | discarded => exact left

end Keeps

end Emitter

/-- What a builder is told of a rule that failed hangs only on what the failure leaves of it. -/
theorem giveUp_congr {β : Type} [Builder β] {first second : β} (grammar : Grammar P)
    (rule : Occurrence P) (origin : Nat) (same : Builder.failed first = Builder.failed second) :
    giveUp grammar rule origin first = giveUp grammar rule origin second := by
  unfold giveUp
  rw [same]

/-- A failure, recovered from or not, keeps what is outside the rules around it. -/
theorem Emitter.Keeps.giveUp {before after : Emitter} {token : Option Token}
    (inside : Keeps (Builder.opened token before) after) (grammar : Grammar P) (rule : Occurrence P)
    (origin : Nat) : before.Keeps (giveUp grammar rule origin after) := by
  have failed : before.Keeps (Builder.failed after) := by
    rw [inside.failed]
    exact takeBack before
  unfold Packrat.giveUp
  split
  · exact failed.trans ((refl _).produced _)
  · exact failed

/-- An emitter keeps what is outside the open rules while attempts are made. -/
def keepingChronicle (grammar : Grammar P) : Chronicle Emitter grammar where
  Spans before _ after := before.Keeps after
  nothing := .refl
  append := .trans
  matched _ _ _ inside := inside.produced _
  failed _ _ inside := inside.giveUp grammar _ _
  recalled _ _ _ _ := (Emitter.Keeps.refl _).giveUp grammar _ _
  cutBack := .cutBack
  negation := .cutBack

/-! ## Failures that are recalled -/

section Rules

variable {β : Type} [Builder β] {grammar : Grammar P} {rule : Occurrence P} {state : State β}

/-- Recovering, or not, tells the builder what there is to tell of a rule that failed. -/
theorem builder_recover {last : β} (told : state.builder = Builder.failed last) (origin : Nat) :
    (recover grammar rule origin state).2.builder = giveUp grammar rule origin last := by
  unfold recover giveUp
  rw [← told]
  split <;> rfl

/-- A failure that is recalled puts its attempts into the journal, tells the builder of a rule that
failed at once, and stops nothing. -/
theorem replay_failure (grammar : Grammar P) (rule : Occurrence P) (origin : Nat)
    (attempts : List Attempt) (state : State β) :
    (replay grammar rule origin (.failure attempts) state).1.stops = false ∧
      (replay grammar rule origin (.failure attempts) state).2.journal =
        attempts.reverse ++ state.journal ∧
      (replay grammar rule origin (.failure attempts) state).2.builder =
        giveUp grammar rule origin (Builder.opened rule.token state.builder) := by
  refine ⟨replay_ordinary grammar rule origin _ state, ?_, builder_recover rfl origin⟩
  unfold replay recover
  simp only
  split <;> rfl

variable [Procedures P]

/-- A rule that is matched afresh and fails leaves the builder as if it had failed at once, if a
failure takes back whatever went on inside. -/
theorem builder_matchAfresh_failed {chronicle : Chronicle β grammar} (quiet : Discreet β)
    (free : grammar.isProcedureFree = true) {call : RuleId → Action β}
    (calls : ∀ id, Recording chronicle (call id)) {id : RuleId}
    (forgets : ∀ {before after : β} {inside},
      chronicle.Spans (Builder.opened (grammar.rule id).token before) inside after →
        Builder.failed after =
          Builder.failed (Builder.opened (grammar.rule id).token before))
    (recalls : state.RecallsFailures)
    (ordinary : (matchAfresh grammar call id state).1.stops = false) {inside : List Attempt}
    (journal : (matchAfresh grammar call id state).2.journal =
      .rule id state.position false inside :: state.journal) :
    (matchAfresh grammar call id state).2.builder =
      giveUp grammar (grammar.rule id) state.position
        (Builder.opened (grammar.rule id).token state.builder) := by
  have repeated : Records chronicle (openRule (grammar.rule id) state)
      (repeatTest grammar call (grammar.rule id) (openRule (grammar.rule id) state)) :=
    repeatFrom_recording (runTest_recording calls (Grammar.testOf_isNoProcedure free id)) _ 0 _
      recalls
  unfold matchAfresh at ordinary journal ⊢
  simp only at ordinary journal ⊢
  generalize repeatTest grammar call (grammar.rule id) (openRule (grammar.rule id) state) = tested
    at repeated ordinary journal ⊢
  cases repeated with
  | limited => contradiction
  | diverged => contradiction
  | @matched ended inner =>
    change (endMatched grammar id state ended).journal = _ at journal
    rw [endMatched_of_keepable (.inr quiet)] at journal
    have bothEndings := (List.cons.inj journal).1
    injection bothEndings
    contradiction
  | @mismatched ended inner =>
    change (recover grammar (grammar.rule id) state.position
      (endMismatched grammar id state ended)).2.builder = _
    rw [builder_recover (State.remember_alike _ _ _ _).builder]
    exact giveUp_congr grammar _ _ (forgets inner.inside)

end Rules

/-- What two states do not show if the first has a cache that remembers failures and the second has
none. -/
structure Recalling (grammar : Grammar P) (left right : State Emitter) : Prop where
  /-- The first state has no call limit. -/
  leftLimit : left.callLimit = none
  /-- The second state has no call limit. -/
  rightLimit : right.callLimit = none
  /-- The second state has no cache. -/
  rightCache : right.cache = none
  /-- The cache of the first state remembers only verdicts. -/
  memory : (finalVerdict grammar).Backs left.source left.memory
  /-- The cache of the first state remembers only failures. -/
  recalls : left.RecallsFailures

section Streams

variable {grammar : Grammar P} {left right : State Emitter}

/-- A state without a cache remembers only failures. -/
theorem State.recallsFailures_of_uncached {β : Type} {state : State β}
    (absent : state.cache = none) : state.RecallsFailures := by
  intro slot stored
  rw [State.memory_of_uncached absent] at stored
  exact absurd stored List.not_mem_nil

/-- A cache of one of two runs is kept along with them. -/
theorem tandem_recalling (grammar : Grammar P) : Tandem (Recalling grammar) where
  keeps {left right nextLeft nextRight} recalling source leftSame rightSame := by
    have memory : nextLeft.memory = left.memory := by
      unfold State.memory
      rw [show nextLeft.cache = left.cache from congrArg Account.cache leftSame]
    exact
      { leftLimit := (congrArg Account.callLimit leftSame).trans recalling.leftLimit
        rightLimit := (congrArg Account.callLimit rightSame).trans recalling.rightLimit
        rightCache := (congrArg Account.cache rightSame).trans recalling.rightCache
        memory := by
          rw [source, memory]
          exact recalling.memory
        recalls := fun slot stored => recalling.recalls slot (memory ▸ stored) }
  room recalling := by
    rw [recalling.rightLimit]
    exact Nat.zero_le _
  keepable recalling := ⟨.inr Emitter.discreet, .inl recalling.rightCache⟩

/-- The first of two states is sound. -/
theorem Recalling.leftSound (recalling : Recalling grammar left right) : left.Sound grammar :=
  ⟨recalling.leftLimit, recalling.memory⟩

/-- The second of two states is sound. -/
theorem Recalling.rightSound (recalling : Recalling grammar left right) : right.Sound grammar :=
  ⟨recalling.rightLimit, Oracle.backs_of_uncached _ _ recalling.rightCache⟩

variable [Procedures P]

/-- Matching a rule keeps a cache that remembers failures, unless everything had to stop. -/
theorem Recalling.descend (free : grammar.isProcedureFree = true)
    (recalling : Recalling grammar left right) (depth : Nat) (id : RuleId)
    (ordinary : (descend grammar depth id left).1.stops = false) :
    Recalling grammar (descend grammar depth id left).2 (descend grammar depth id right).2 := by
  have counted := Counted.descend free depth id right
  have obeys := descend_obeys Emitter.discreet.ledger free depth id left recalling.memory
  have records := descend_recording (keepingChronicle grammar) Emitter.discreet free depth id left
    recalling.recalls
  have rightLimit := counted.callLimit.trans recalling.rightLimit
  have rightCache := (State.uncached_iff counted.present).mpr recalling.rightCache
  generalize Packrat.descend grammar depth id left = result at ordinary obeys records ⊢
  have recalls : result.2.RecallsFailures := by
    cases records with
    | matched recorded => exact recorded.recalls
    | mismatched recorded => exact recorded.recalls
    | limited => contradiction
    | diverged => contradiction
  cases obeys with
  | limited _ => contradiction
  | diverged _ => contradiction
  | answered verdict known answers =>
    have source := answers.source_eq
    exact ⟨answers.callLimit.trans recalling.leftLimit, rightLimit, rightCache,
      source ▸ answers.memory, recalls⟩

omit [Procedures P] in
/-- States that show the same show the same after a rule that answered alike in both, if it left the
same builder. -/
theorem State.Shares.answered {β : Type} [Builder β] {ledger : Ledger β} {oracle : Oracle}
    {reply : Reply} {left right : State β} {leftResult rightResult : Outcome × State β}
    (shares : left.Shares right) (leftAnswers : Answers ledger grammar oracle reply left leftResult)
    (rightAnswers : Answers ledger grammar oracle reply right rightResult)
    (builder : leftResult.2.builder = rightResult.2.builder) :
    leftResult.2.Shares rightResult.2 where
  scanner := by rw [leftAnswers.scanner, rightAnswers.scanner, shares.scanner]
  builder := builder
  errors := by rw [leftAnswers.errors, rightAnswers.errors, shares.errors]
  mark := by rw [leftAnswers.mark, rightAnswers.mark, shares.mark]
  attempts := by
    rw [leftAnswers.attempts, rightAnswers.attempts, shares.attempts, shares.negations]
  journal := by rw [leftAnswers.journal, rightAnswers.journal, shares.journal]
  negations := by rw [leftAnswers.negations, rightAnswers.negations, shares.negations]

/-- A rule that fails where nothing is remembered leaves the emitter as if it had failed at once. -/
theorem builder_descend_failed (free : grammar.isProcedureFree = true) {state : State Emitter}
    (absent : state.cache = none) (unlimited : state.callLimit = none) (depth : Nat) (id : RuleId)
    (inside : List Attempt)
    (ordinary : (descend grammar (depth + 1) id state).1.stops = false)
    (journal : (descend grammar (depth + 1) id state).2.journal =
      .rule id state.position false inside :: state.journal) :
    (descend grammar (depth + 1) id state).2.builder =
      giveUp grammar (grammar.rule id) state.position
        (Builder.opened (grammar.rule id).token state.builder) := by
  have room := State.limitReached_of_unlimited unlimited
  have afresh : descend grammar (depth + 1) id state =
      matchAfresh grammar (descend grammar depth) id (state.called grammar id) :=
    callRule_of_uncached absent room
  have recalls : (state.called grammar id).RecallsFailures :=
    State.recallsFailures_of_uncached absent
  rw [afresh] at ordinary journal ⊢
  refine builder_matchAfresh_failed Emitter.discreet free
    (descend_recording (keepingChronicle grammar) Emitter.discreet free depth)
    (fun spans => ?_) recalls ordinary journal
  rw [Emitter.Keeps.failed spans, Emitter.Keeps.failed (.refl _)]

/-- A failure that is recalled in one run goes side by side with the rule that fails again in the
other, unless matching it again has no end. -/
theorem Recalling.replay (free : grammar.isProcedureFree = true)
    (inStep : InStep (Recalling grammar) left right) (depth : Nat) {id : RuleId}
    {called : State Emitter} (alike : left.Alike called) {inside : List Attempt}
    (replayed : Packrat.descend grammar (depth + 1) id left =
      Packrat.replay grammar (grammar.rule id) left.position
        (.failure [.rule id left.position false inside]) called) :
    Tracks State.Shares none (Packrat.descend grammar (depth + 1) id left)
      (Packrat.descend grammar (depth + 1) id right) := by
  have leftObeys := descend_obeys Emitter.discreet.ledger free (depth + 1) id left
    inStep.side.memory
  have rightObeys := descend_obeys Emitter.discreet.ledger free (depth + 1) id right
    inStep.side.rightSound.memory
  obtain ⟨leftOrdinary, leftJournal, leftBuilder⟩ := replay_failure grammar (grammar.rule id)
    left.position [.rule id left.position false inside] called
  rw [← replayed] at leftOrdinary leftJournal leftBuilder
  rw [alike.journal, inStep.journal, inStep.position] at leftJournal
  rw [alike.builder, inStep.builder, inStep.position] at leftBuilder
  have rightBuilder := builder_descend_failed free inStep.side.rightCache inStep.side.rightLimit
    depth id inside
  generalize Packrat.descend grammar (depth + 1) id left = leftResult
    at leftObeys leftOrdinary leftJournal leftBuilder ⊢
  generalize Packrat.descend grammar (depth + 1) id right = rightResult at rightObeys rightBuilder ⊢
  cases rightObeys with
  | diverged _ => exact .lost
  | limited limit => exact absurd inStep.side.rightLimit limit
  | answered verdict known rightAnswers =>
    cases leftObeys with
    | limited _ => contradiction
    | diverged _ => contradiction
    | answered other otherKnown leftAnswers =>
      rw [inStep.scanner, known] at otherKnown
      obtain rfl := Option.some.inj otherKnown
      rw [inStep.position] at leftAnswers
      have sameJournal : rightResult.2.journal = leftResult.2.journal := by
        rw [rightAnswers.journal, leftAnswers.journal, inStep.journal]
      have rightJournal : rightResult.2.journal =
          .rule id right.position false inside :: right.journal := sameJournal.trans leftJournal
      have builder := leftBuilder.trans (rightBuilder rightAnswers.ordinary rightJournal).symm
      exact .of_same leftOrdinary (leftAnswers.outcome.trans rightAnswers.outcome.symm)
        (inStep.answered leftAnswers rightAnswers builder)

omit [Procedures P] in
/-- States side by side stay so when a rule is called in both and the cache of the first is asked.
-/
theorem Recalling.called (inStep : InStep (Recalling grammar) left right) {asked : State Emitter}
    (alike : left.Alike asked) (memory : asked.memory = left.memory) (id : RuleId) :
    InStep (Recalling grammar) asked (right.called grammar id) := by
  have source : asked.source = left.source := congrArg Scanner.source alike.scanner
  exact
    { scanner := alike.scanner.trans inStep.scanner
      builder := alike.builder.trans inStep.builder
      errors := alike.errors.trans inStep.errors
      mark := alike.mark.trans inStep.mark
      attempts := alike.attempts.trans inStep.attempts
      journal := alike.journal.trans inStep.journal
      negations := alike.negations.trans inStep.negations
      side :=
        { inStep.side with
          leftLimit := alike.callLimit.trans inStep.side.leftLimit
          memory := by
            rw [source, memory]
            exact inStep.side.memory
          recalls := fun slot stored => inStep.side.recalls slot (memory ▸ stored) } }

/-- Matching a rule with and without a cache goes side by side, unless matching it without a cache
has no end. -/
theorem descend_recalling (free : grammar.isProcedureFree = true) (depth : Nat) (id : RuleId)
    (inStep : InStep (Recalling grammar) left right) :
    Tracks (InStep (Recalling grammar)) none (descend grammar depth id left)
      (descend grammar depth id right) := by
  induction depth generalizing id left right with
  | zero => exact .lost
  | succ depth ih =>
    suffices shared : Tracks State.Shares none (descend grammar (depth + 1) id left)
        (descend grammar (depth + 1) id right) from
      shared.imp fun ordinary shares =>
        { shares with side := inStep.side.descend free (depth + 1) id ordinary }
    rcases callRule_cases grammar (descend grammar depth) id left with
      ⟨reached, -⟩ |
      ⟨called, alike, memory, ⟨result, ⟨slot, stored, here, listed⟩, replayed⟩ | ⟨-, -, afresh⟩⟩
    · rw [State.limitReached, inStep.side.leftLimit] at reached
      contradiction
    · obtain ⟨inside, rfl⟩ : ∃ inside, result = .failure [.rule id left.position false inside] :=
        here ▸ inStep.side.recalls slot stored (id, result) listed
      exact Recalling.replay free inStep depth alike replayed
    · have room := State.limitReached_of_unlimited inStep.side.rightLimit
      have entered := Recalling.called inStep alike memory id
      have paced : Paced (Recalling grammar) none (descend grammar depth) (descend grammar depth) :=
        { tracks := fun part _ _ inStep => ih part inStep
          grows := fun part state => (Counted.descend free depth part state).more }
      change Tracks _ _ (callRule grammar (descend grammar depth) id left)
        (callRule grammar (descend grammar depth) id right)
      rw [afresh, callRule_of_uncached inStep.side.rightCache room]
      exact (paced.matchAfresh (tandem_recalling grammar) free entered id).imp
        fun _ => Closing.toShares

/-- Passes with and without a cache end the same way in states side by side, or both never end. -/
theorem pass_recalling (free : grammar.isProcedureFree = true)
    (inStep : InStep (Recalling grammar) left right) :
    ((pass grammar left).1 = .failed .divergence ∧ (pass grammar right).1 = .failed .divergence) ∨
    ∃ outcome leftNext rightNext, pass grammar left = (outcome, leftNext) ∧
      pass grammar right = (outcome, rightNext) ∧ outcome.stops = false ∧
      InStep (Recalling grammar) leftNext rightNext := by
  have depth : State.depthBound { left with attempts := .none, journal := [], mark := none }
      grammar = State.depthBound { right with attempts := .none, journal := [], mark := none }
        grammar := by
    simp only [State.depthBound, State.source, inStep.scanner, inStep.side.leftLimit,
      inStep.side.rightLimit]
  have tracks : Tracks (InStep (Recalling grammar)) none (pass grammar left)
      (pass grammar right) := by
    unfold pass matchRule
    rw [depth]
    exact descend_recalling free _ _ ((tandem_recalling grammar).restarted inStep)
  rcases pass_pair Emitter.discreet.ledger Emitter.discreet.ledger free inStep.scanner
      inStep.side.leftSound inStep.side.rightSound with ⟨result, -, -, answers⟩ | diverged
  · have ordinary := answers.ordinary
    generalize pass grammar left = leftResult at tracks
    generalize pass grammar right = rightResult at tracks ordinary
    cases tracks with
    | matched related => exact .inr ⟨_, _, _, rfl, rfl, rfl, related⟩
    | mismatched related => exact .inr ⟨_, _, _, rfl, rfl, rfl, related⟩
    | curbed past => contradiction
    | lost => contradiction
  · exact .inl diverged

end Streams

/-! ## Streams -/

namespace TokenStream

/-- Two streams over a procedure-free grammar that go side by side, the first with a cache. -/
structure Alongside (left right : TokenStream P) : Prop where
  /-- No rule runs a procedure. -/
  free : left.grammar.isProcedureFree = true
  /-- The grammar is the same. -/
  grammar : left.grammar = right.grammar
  /-- The states are side by side. -/
  inStep : InStep (Recalling left.grammar) left.state right.state
  /-- The nodes that are there are the same. -/
  buffered : left.buffered = right.buffered
  /-- Both are stopped or neither is. -/
  stopped : left.stopped = right.stopped

variable {left right : TokenStream P}

namespace Alongside

/-- Streams side by side are so after a diagnostic that ends both. -/
theorem stopWith (alongside : Alongside left right) {diagnostic other : Diagnostic}
    (same : diagnostic = other) (remark otherRemark : Remark) :
    Alongside (left.stopWith diagnostic remark) (right.stopWith other otherRemark) :=
  { alongside with
    inStep :=
      { alongside.inStep with
        errors := congrArg₂ (· ++ [·]) alongside.inStep.errors same
        side := (tandem_recalling left.grammar).keeps alongside.inStep.side rfl rfl rfl }
    stopped := rfl }

/-- Streams side by side start their next pass side by side. -/
theorem fresh (alongside : Alongside left right) :
    InStep (Recalling left.grammar) left.fresh right.fresh :=
  { alongside.inStep with
    builder := rfl
    side := (tandem_recalling left.grammar).keeps alongside.inStep.side rfl rfl rfl }

/-- Streams side by side are so after passes that end side by side. -/
theorem moved (alongside : Alongside left right) {leftNext rightNext : State Emitter}
    (related : InStep (Recalling left.grammar) leftNext rightNext) :
    Alongside (left.moved leftNext) (right.moved rightNext) :=
  { alongside with
    inStep :=
      { related with
        builder := congrArg (fun emitter => { Builder.finish emitter with pending := [] })
          related.builder
        side := (tandem_recalling left.grammar).keeps related.side rfl rfl rfl }
    buffered := congrArg Emitter.nodes related.builder }

variable [Procedures P]

/-- Streams side by side are so after one more pass. -/
theorem advance (alongside : Alongside left right) : Alongside left.advance right.advance := by
  have position := alongside.inStep.position
  rcases pass_recalling alongside.free alongside.fresh with
    ⟨leftDiverged, rightDiverged⟩ |
    ⟨outcome, leftNext, rightNext, leftPassed, rightPassed, ordinary, related⟩
  · rw [alongside.grammar] at rightDiverged
    rw [advance_of_diverged (Prod.ext leftDiverged rfl),
      advance_of_diverged (Prod.ext rightDiverged rfl)]
    exact alongside.stopWith
      (diagnose_eq alongside.inStep.scanner alongside.inStep.attempts .divergence) _ _
  · have diagnosed := diagnose_eq related.scanner related.attempts .mismatch
    rw [alongside.grammar] at rightPassed
    match outcome with
    | .failed .mismatch =>
      rw [advance_of_failed leftPassed nofun, advance_of_failed rightPassed nofun]
      have failed : Alongside { left with state := leftNext } { right with state := rightNext } :=
        { alongside with inStep := related }
      exact failed.stopWith diagnosed _ _
    | .matched =>
      by_cases still : leftNext.position = left.position
      · have rightStill : rightNext.position = right.position :=
          related.position.symm.trans (still.trans position)
        rw [advance_of_stalled leftPassed still, advance_of_stalled rightPassed rightStill]
        exact (alongside.moved related).stopWith diagnosed _ _
      · have rightOnward : rightNext.position ≠ right.position := fun same =>
          still (related.position.trans (same.trans position.symm))
        rw [advance_of_matched leftPassed still, advance_of_matched rightPassed rightOnward]
        exact alongside.moved related

/-- Streams side by side give the same node and are side by side behind it, after at most so many
passes. -/
theorem nextWithin (alongside : Alongside left right) (budget : Nat) :
    (nextWithin budget left).1 = (nextWithin budget right).1 ∧
      Alongside (nextWithin budget left).2 (nextWithin budget right).2 := by
  induction budget generalizing left right with
  | zero =>
    unfold TokenStream.nextWithin
    rw [alongside.buffered, alongside.stopped, alongside.inStep.scanner]
    split
    · exact ⟨rfl, { alongside with buffered := rfl, stopped := rfl }⟩
    · split
      · exact ⟨rfl, alongside⟩
      · exact ⟨rfl, { alongside with buffered := rfl, stopped := rfl }⟩
  | succ budget ih =>
    unfold TokenStream.nextWithin
    rw [alongside.buffered, alongside.stopped, alongside.inStep.scanner]
    split
    · exact ⟨rfl, { alongside with buffered := rfl, stopped := rfl }⟩
    · split
      · exact ⟨rfl, alongside⟩
      · exact ih alongside.advance

/-- Streams side by side give the same node and are side by side behind it. -/
theorem next (alongside : Alongside left right) :
    left.next.1 = right.next.1 ∧ Alongside left.next.2 right.next.2 := by
  have bound : left.state.loopBound = right.state.loopBound := by
    simp only [State.loopBound, State.source, alongside.inStep.scanner,
      alongside.inStep.side.leftLimit, alongside.inStep.side.rightLimit]
  unfold TokenStream.next
  rw [bound]
  exact alongside.nextWithin right.state.loopBound

end Alongside

/-- What is seen when a stream is asked for its next node. -/
structure Report where
  /-- The node, if there is one. -/
  node : Option Node
  /-- The diagnostics so far. -/
  errors : List Diagnostic
  /-- The position of the cursor. -/
  position : Nat
  /-- Whether the whole source was used up without a diagnostic. -/
  reachedEnd : Bool

variable [Procedures P]

/-- What is seen when a stream is asked for its next node a number of times. -/
def reports : Nat → TokenStream P → List Report
  | 0, _ => []
  | count + 1, stream =>
    let (node, rest) := stream.next
    ⟨node, rest.errors, rest.position, rest.reachedEnd⟩ :: reports count rest

/-- Streams side by side are seen to do the same. -/
theorem Alongside.reports (alongside : Alongside left right) (count : Nat) :
    reports count left = reports count right := by
  induction count generalizing left right with
  | zero => rfl
  | succ count ih =>
    obtain ⟨node, later⟩ := alongside.next
    have reachedEnd : left.next.2.reachedEnd = right.next.2.reachedEnd := by
      unfold TokenStream.reachedEnd TokenStream.errors
      rw [later.inStep.scanner, later.inStep.errors]
    change _ :: TokenStream.reports count left.next.2 = _ :: TokenStream.reports count right.next.2
    rw [ih later]
    congr 2
    · exact later.inStep.errors
    · exact later.inStep.position

/-- With a procedure-free grammar and no call limit, a stream with a match cache of any bounds is
seen to do what a stream without a cache does: however often it is asked, it gives the same nodes,
and after each of them it has the same diagnostics, stands at the same position and has or has not
reached the end of the source. -/
theorem reports_withCache {grammar : Grammar P} (free : grammar.isProcedureFree = true)
    (source : Source) (depth breadth count : Nat) :
    reports count (start grammar (Config.default.withCache depth breadth) source) =
      reports count (start grammar .default source) := by
  have recalls : State.RecallsFailures
      (.initial source (Config.default.withCache depth breadth) Emitter.initial) := by
    intro slot stored
    rw [State.memory_initial] at stored
    exact absurd stored List.not_mem_nil
  have alongside : Alongside (start grammar (Config.default.withCache depth breadth) source)
      (start grammar .default source) :=
    { free := free
      grammar := rfl
      inStep :=
        { scanner := rfl, builder := rfl, errors := rfl, mark := rfl, attempts := rfl
          journal := rfl, negations := rfl
          side := ⟨rfl, rfl, rfl, Oracle.backs_initial _ source _ _, recalls⟩ }
      buffered := rfl
      stopped := rfl }
  exact alongside.reports count

/-- A word before a digit is given the same with room for two rules at two positions, although a
letter that failed at the digit is recalled. -/
theorem reports_withCache_shouts :
    reports 3 (start .shouts (Config.default.withCache 2 2) ⟨['a', ' ', '1']⟩) =
      reports 3 (start .shouts .default ⟨['a', ' ', '1']⟩) ∧
    (reports 3 (start .shouts .default ⟨['a', ' ', '1']⟩)).map
        (fun report => (report.node.isSome, report.errors.length, report.position)) =
      [(true, 0, 2), (false, 1, 2), (false, 1, 2)] ∧
    (start .shouts (Config.default.withCache 2 2) ⟨['a', ' ', '1']⟩).next.2.next.2.state.cache.map
        MatchCache.hits =
      some 1 :=
  ⟨reports_withCache Grammar.isProcedureFree_shouts _ 2 2 3, by decide +kernel, by decide +kernel⟩

end TokenStream

end Packrat
