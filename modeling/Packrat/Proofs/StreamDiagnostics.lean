import Packrat.Proofs.CacheTransparency
import Packrat.Proofs.Streaming
import Packrat.Proofs.TreeShape

/-!
# Diagnostics of streams and builds

A stream and a build match with different builders, but their passes go side by side: each ends the
same way, at the same position, with the same diagnostics (`Abreast.pass`). Without a call limit
that is so because both do what the final verdict says, whatever their caches remember. Without a
cache it is so because matching never looks into its builder, so that both come to the call limit at
the same call. With both a cache and a call limit it need not be so: a node stack tells what a match
contributed and an emitter does not, so the cache of a build saves calls that a stream makes. Where
rules call each other without end, both come to it in the same pass, and neither run returns.
-/

namespace Packrat

variable {P β γ : Type}

/-- What a state is apart from its builder and what matching tells about itself. -/
def State.bare (state : State β) : State Unit :=
  state.seenAs (fun _ => ()) [] []

/-- Two states that go side by side, with different builders. -/
inductive Abreast (grammar : Grammar P) (left : State β) (right : State γ) : Prop
  /-- There is no call limit, and caches remember only verdicts. -/
  | unlimited (scanner : left.scanner = right.scanner) (errors : left.errors = right.errors)
      (negations : left.negations = right.negations) (leftSound : left.Sound grammar)
      (rightSound : right.Sound grammar) : Abreast grammar left right
  /-- There is no cache, and nothing but the builders differs. -/
  | uncached (absent : left.cache = none) (same : left.bare = right.bare) :
      Abreast grammar left right

namespace Abreast

variable {grammar : Grammar P} {left : State β} {right : State γ}

/-- States side by side have the same cursor. -/
theorem scanner (abreast : Abreast grammar left right) : left.scanner = right.scanner := by
  cases abreast with
  | unlimited scanner => exact scanner
  | uncached absent same => exact congrArg State.scanner same

/-- States side by side have the same diagnostics. -/
theorem errors (abreast : Abreast grammar left right) : left.errors = right.errors := by
  cases abreast with
  | unlimited scanner errors => exact errors
  | uncached absent same => exact congrArg State.errors same

/-- The cache of the first of two states side by side remembers only verdicts. -/
theorem leftMemory (abreast : Abreast grammar left right) :
    (finalVerdict grammar).Backs left.source left.memory := by
  cases abreast with
  | unlimited _ _ _ leftSound _ => exact leftSound.memory
  | uncached absent _ => exact (finalVerdict grammar).backs_of_uncached _ absent

/-- The cache of the second of two states side by side remembers only verdicts. -/
theorem rightMemory (abreast : Abreast grammar left right) :
    (finalVerdict grammar).Backs right.source right.memory := by
  cases abreast with
  | unlimited _ _ _ _ rightSound => exact rightSound.memory
  | uncached absent same =>
    exact (finalVerdict grammar).backs_of_uncached _ ((congrArg State.cache same).symm.trans absent)

/-- A change of the builder alone leaves states side by side. -/
theorem notify (abreast : Abreast grammar left right) (change : γ → γ) :
    Abreast grammar left (right.notify change) := by
  cases abreast with
  | unlimited scanner errors negations leftSound rightSound =>
    exact .unlimited scanner errors negations leftSound ⟨rightSound.unlimited, rightSound.memory⟩
  | uncached absent same => exact .uncached absent same

variable [Builder β] [Builder γ] [Procedures P]

/-- A pass without a cache is the pass without a builder. -/
theorem pass_bare (free : grammar.isProcedureFree = true) (absent : left.cache = none) :
    (Packrat.pass grammar left).1 = (Packrat.pass grammar left.bare).1 ∧
      (Packrat.pass grammar left).2.bare = (Packrat.pass grammar left.bare).2.bare ∧
      (Packrat.pass grammar left).2.cache = none := by
  have seen : Seen (fun _ : β => ()) left left.bare := ⟨[], [], rfl⟩
  have keepable : left.cache = none ∨ False := .inl absent
  have passed := isView_unit.pass (fun never => never.elim) free seen keepable
  generalize Packrat.pass grammar left = leftResult at passed
  generalize Packrat.pass grammar left.bare = bareResult at passed
  obtain ⟨outcome, seen, keepable⟩ := passed
  obtain ⟨_, _, rfl⟩ := seen
  exact ⟨rfl, rfl, keepable.resolve_right id⟩

/-- Passes from states side by side end the same way, and leave states side by side with the same
attempts unless they never end. -/
theorem pass (leftLedger : Ledger β) (rightLedger : Ledger γ)
    (free : grammar.isProcedureFree = true) (abreast : Abreast grammar left right) :
    ((Packrat.pass grammar left).1 = .failed .divergence ∧
      (Packrat.pass grammar right).1 = .failed .divergence) ∨
    ((Packrat.pass grammar left).1 = (Packrat.pass grammar right).1 ∧
      (Packrat.pass grammar left).2.attempts = (Packrat.pass grammar right).2.attempts ∧
      Abreast grammar (Packrat.pass grammar left).2 (Packrat.pass grammar right).2) := by
  cases abreast with
  | uncached absent same =>
    obtain ⟨leftOutcome, leftBare, leftAbsent⟩ := pass_bare free absent
    have rightAbsent : right.cache = none := (congrArg State.cache same).symm.trans absent
    obtain ⟨rightOutcome, rightBare, _⟩ := pass_bare free rightAbsent
    have bare : (Packrat.pass grammar left).2.bare = (Packrat.pass grammar right).2.bare := by
      rw [leftBare, rightBare, same]
    refine .inr ⟨?_, congrArg State.attempts bare, .uncached leftAbsent bare⟩
    rw [leftOutcome, rightOutcome, same]
  | unlimited scanner errors negations leftSound rightSound =>
    rcases pass_pair leftLedger rightLedger free scanner leftSound rightSound with
      ⟨result, _, leftAnswers, rightAnswers⟩ | diverged
    · refine .inr ⟨leftAnswers.outcome.trans rightAnswers.outcome.symm, ?_, .unlimited ?_ ?_ ?_
        (leftSound.restarted.answered leftAnswers) (rightSound.restarted.answered rightAnswers)⟩
      · rw [leftAnswers.attempts, rightAnswers.attempts, negations]
      · rw [leftAnswers.scanner, rightAnswers.scanner, scanner]
      · rw [leftAnswers.errors, rightAnswers.errors, errors]
      · rw [leftAnswers.negations, rightAnswers.negations, negations]
    · exact .inl diverged

end Abreast

/-! ## Runs -/

/-- What there is to say about a pass that never ends depends only on the cursor. -/
theorem diagnose_divergence {left : State β} {right : State γ}
    (scanner : left.scanner = right.scanner) :
    left.diagnose .divergence = right.diagnose .divergence := by
  simp only [State.diagnose, State.position, scanner]

variable [Procedures P]

/-- Passes of a build and a run of a stream that start side by side end at the same position, and
the run records last the diagnostic that the passes end with. -/
theorem yields_of_abreast {grammar : Grammar P} (free : grammar.isProcedureFree = true)
    (budget : Nat)
    {state : State NodeStack} {stream : TokenStream P}
    (abreast : Abreast grammar state stream.state) (same : stream.grammar = grammar)
    (empty : stream.buffered = []) (running : stream.stopped = false)
    (enough : state.source.length - state.position < budget) :
    ∃ nodes last, stream.Yields nodes last ∧
      last.position = (runPasses grammar budget state).2.position ∧
      last.errors =
        (runPasses grammar budget state).2.errors ++ (runPasses grammar budget state).1.toList := by
  induction budget generalizing state stream with
  | zero => omega
  | succ budget ih =>
    subst same
    have steady : stream.Steady := ⟨free, abreast.rightMemory⟩
    have position : stream.position = state.position :=
      (congrArg Scanner.position abreast.scanner).symm
    cases unfinished : state.scanner.atEnd with
    | true =>
      rw [runPasses_of_ended unfinished]
      have done : (stream.stopped || stream.state.scanner.atEnd) = true := by
        rw [← abreast.scanner, unfinished, Bool.or_true]
      refine ⟨[], stream, TokenStream.yields_nil empty done, position, ?_⟩
      exact abreast.errors.symm.trans (List.append_nil _).symm
    | false =>
    have goesOn : stream.state.scanner.atEnd = false := abreast.scanner ▸ unfinished
    have stops : stream.advance.stopped = true →
        stream.Yields stream.advance.buffered { stream.advance with buffered := [] } :=
      fun stopped => .advance steady empty running goesOn (TokenStream.yields_stopped stopped)
    have afresh : Abreast stream.grammar state stream.fresh := abreast.notify _
    have passed := afresh.pass NodeStack.ledger Emitter.discreet.ledger free
    match leftEnd : pass stream.grammar state, rightEnd : pass stream.grammar stream.fresh with
    | (leftOutcome, next), (rightOutcome, ended) =>
    rw [leftEnd, rightEnd] at passed
    obtain rfl : leftOutcome = rightOutcome :=
      passed.elim (fun diverged => diverged.1.trans diverged.2.symm) fun alike => alike.1
    by_cases diverged : leftOutcome = .failed .divergence
    · subst diverged
      have advanced := TokenStream.advance_of_diverged rightEnd
      rw [runPasses_of_diverged unfinished leftEnd]
      refine ⟨_, _, stops (by rw [advanced]; rfl), by rw [advanced]; exact position, ?_⟩
      rw [advanced]
      exact congrArg₂ (· ++ [·]) abreast.errors.symm (diagnose_divergence abreast.scanner).symm
    · obtain ⟨attempts, abreastNext⟩ := (passed.resolve_left fun both => diverged both.1).2
      have stopped : ended.position = next.position :=
        (congrArg Scanner.position abreastNext.scanner).symm
      have recorded := fun reason =>
        congrArg₂ (· ++ [·]) abreastNext.errors.symm
          (diagnose_eq abreastNext.scanner attempts reason).symm
      cases leftOutcome with
      | failed reason =>
        have finite : reason ≠ .divergence := fun same => diverged (congrArg Outcome.failed same)
        have advanced := TokenStream.advance_of_failed rightEnd finite
        rw [runPasses_of_failed unfinished leftEnd finite]
        refine ⟨_, _, stops (by rw [advanced]; rfl), by rw [advanced]; exact stopped, ?_⟩
        rw [advanced]
        exact recorded reason
      | matched =>
        by_cases still : next.position = state.position
        · have advanced :=
            TokenStream.advance_of_stalled rightEnd (by rw [stopped, still, position])
          rw [runPasses_of_stalled unfinished leftEnd still]
          refine ⟨_, _, stops (by rw [advanced]; rfl), by rw [advanced]; exact stopped, ?_⟩
          rw [advanced]
          exact recorded .mismatch
        · have taken : ended.position ≠ stream.position := by
            rw [stopped, position]
            exact still
          rw [runPasses_of_matched unfinished leftEnd still]
          obtain ⟨reached, -, -⟩ := pass_forward NodeStack.ledger free abreast.leftMemory leftEnd
          have less : next.source.length - next.position < budget :=
            Nat.lt_of_lt_of_le (reached.remaining_lt still) (Nat.le_of_lt_succ enough)
          have onward : Abreast stream.grammar next (stream.moved ended).state :=
            abreastNext.notify fun emitter => { Builder.finish emitter with pending := [] }
          obtain ⟨nodes, last, yields, ends⟩ :=
            @ih next { stream.moved ended with buffered := [] } onward rfl rfl running less
          exact ⟨_, last, yields.moved steady empty running goesOn rightEnd taken, ends⟩

/-! ## Builds -/

/-- Passes leave no rule open, however they end. -/
theorem inner_runPasses {grammar : Grammar P} (passive : grammar.IsPassive NodeStack)
    (budget : Nat)
    {state : State NodeStack} (closed : state.builder.inner = []) :
    (runPasses grammar budget state).2.builder.inner = [] := by
  have passClosed : ∀ {state : State NodeStack}, state.builder.inner = [] →
      (pass grammar state).2.builder.inner = [] := by
    intro state closed
    obtain ⟨nodes, added⟩ := (descend_atomic NodeStack.ledger passive
      (State.depthBound { state with attempts := .none, journal := [], mark := none } grammar)
      grammar.root { state with attempts := .none, journal := [], mark := none }).adds.builder
    change (pass grammar state).2.builder = state.builder.adding nodes at added
    rw [added, NodeStack.adding_root closed]
  induction budget generalizing state with
  | zero =>
    unfold runPasses
    split <;> exact closed
  | succ budget ih =>
    have nextClosed := passClosed closed
    unfold runPasses
    split
    · exact closed
    · simp only
      split
      · exact closed
      · rename_i reason next _ passed
        rw [passed] at nextClosed
        exact nextClosed
      · rename_i next passed
        rw [passed] at nextClosed
        split
        · exact nextClosed
        · exact ih nextClosed

/-- The diagnostic that a build adds last to those of its passes if no node was made. -/
def Construction.shortfall (construction : Construction) : List Diagnostic :=
  match construction.result with
  | .error (.parsingFailed _) => [⟨.point 0, "No nodes created"⟩]
  | _ => []

/-- The diagnostics of a build are those of its passes, the one that they end with, and the one that
says that no node was made. -/
theorem Constructor.construct_errors (constructor : Constructor P)
    (passive : constructor.grammar.IsPassive NodeStack) (source : Source) :
    (constructor.construct source).errors =
      (parse constructor.grammar (constructor.start source)).2.errors ++
        (parse constructor.grammar (constructor.start source)).1.toList ++
        (constructor.construct source).shortfall := by
  have closed : (parse constructor.grammar (constructor.start source)).2.builder.inner = [] :=
    inner_runPasses passive _ rfl
  have generated := constructor.construct_generates source
  generalize parse constructor.grammar (constructor.start source) = ended at closed generated
  have depth : ¬ ended.2.builder.depth ≠ 1 := by
    rw [NodeStack.depth, closed]
    exact not_not_intro rfl
  unfold generate at generated
  rw [if_neg depth] at generated
  unfold Construction.shortfall
  cases gathered : Node.gather ended.2.builder.top.nodes with
  | none =>
    simp only [gathered] at generated
    obtain ⟨result, errors⟩ := Prod.mk.inj generated
    rw [result, errors]
  | some tree =>
    cases failure : ended.1 with
    | none =>
      simp only [gathered, failure, Option.isSome_none] at generated
      obtain ⟨result, errors⟩ := Prod.mk.inj generated
      rw [result, errors]
      exact (List.append_nil _).symm
    | some diagnostic =>
      simp only [gathered, failure, Option.isSome_some, if_true] at generated
      obtain ⟨result, errors⟩ := Prod.mk.inj generated
      rw [result, errors]
      exact (List.append_nil _).symm

omit [Procedures P] in
/-- A build and a stream over one source start side by side if there is no cache or no call limit.
-/
theorem abreast_start (grammar : Grammar P) {config : Config}
    (single : config.cache = none ∨ config.callLimit = none) (source : Source) :
    Abreast grammar ((Constructor.make grammar config).start source)
      (TokenStream.start grammar config source).state := by
  rcases single with absent | unlimited
  · refine .uncached ?_ rfl
    change config.cache.map MatchCache.empty = none
    rw [absent, Option.map_none]
  · refine .unlimited rfl rfl rfl
      ((Constructor.make grammar config).start_sound source unlimited) ⟨unlimited, ?_⟩
    exact Oracle.backs_initial _ source config Emitter.initial

/-- With a procedure-free grammar, and a cache or a call limit or neither, a run of a stream over a
source comes to an end, and leaves the stream where the passes of a build over the source end, with
the diagnostics of the build but for the last one if it says that no node was made. Runs with a pass
that never returns are stopped there on both sides; of these nothing is said. -/
theorem TokenStream.yields_diagnostics (grammar : Grammar P) (free : grammar.isProcedureFree = true)
    (config : Config) (single : config.cache = none ∨ config.callLimit = none) (source : Source) :
    (∃ nodes last, (TokenStream.start grammar config source).Yields nodes last) ∧
    ∀ nodes last, (TokenStream.start grammar config source).Yields nodes last →
      ((Constructor.make grammar config).build source).2.errors =
          last.errors ++ ((Constructor.make grammar config).build source).1.shortfall ∧
        last.position = (parse grammar ((Constructor.make grammar config).start source)).2.position
    := by
  obtain ⟨nodes, last, yields, position, errors⟩ := yields_of_abreast free
    ((Constructor.make grammar config).start source).loopBound
    (abreast_start grammar single source) rfl rfl rfl (by
      have room := ((Constructor.make grammar config).start source).length_lt_loopBound
      omega)
  refine ⟨⟨nodes, last, yields⟩, fun others otherLast alsoYields => ?_⟩
  obtain ⟨-, rfl⟩ := yields.unique alsoYields
  refine ⟨?_, position⟩
  rw [errors]
  exact (Constructor.make grammar config).construct_errors
    (Grammar.IsPassive.of_isProcedureFree free) source

/-- A stream over a word and a stray mark, under a call limit, reports what a build reports. -/
theorem TokenStream.yields_diagnostics_shouts :
    ((∃ nodes last, (TokenStream.start .shouts ⟨none, some 40⟩ ⟨['a', ' ', '!', '?']⟩).Yields
        nodes last) ∧
      ∀ nodes last, (TokenStream.start .shouts ⟨none, some 40⟩ ⟨['a', ' ', '!', '?']⟩).Yields
          nodes last →
        ((Constructor.make .shouts ⟨none, some 40⟩).build ⟨['a', ' ', '!', '?']⟩).2.errors =
            last.errors ++
              ((Constructor.make .shouts ⟨none, some 40⟩).build
                ⟨['a', ' ', '!', '?']⟩).1.shortfall ∧
          last.position =
            (parse .shouts
              ((Constructor.make .shouts ⟨none, some 40⟩).start
                ⟨['a', ' ', '!', '?']⟩)).2.position) ∧
    ((Constructor.make .shouts ⟨none, some 40⟩).build ⟨['a', ' ', '!', '?']⟩).2.errors ≠ [] :=
  ⟨yields_diagnostics .shouts Grammar.isProcedureFree_shouts ⟨none, some 40⟩ (.inl rfl) _,
    by decide +kernel⟩

end Packrat
