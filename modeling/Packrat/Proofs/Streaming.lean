import Packrat.Proofs.BuilderView
import Packrat.Proofs.Simulation
import Packrat.TokenStream

/-!
# Runs of token streams

A run of a stream asks for nodes until there is none (`TokenStream.Yields`). Every pass of a run
moves the cursor forward or stops the stream, so a run comes to an end, and the number of passes
that one question may cost never matters (`TokenStream.nextWithin_budget`). What a run yields is
therefore told pass by pass: the nodes of a pass come out in order (`TokenStream.Yields.buffered`),
and a stream with nothing to give yields what it yields after one more pass
(`TokenStream.Yields.advance`).
-/

namespace Packrat

variable {P : Type}

/-! ## Passes go forward -/

section Passes

variable {β : Type} {grammar : Grammar P} {state next : State β}

/-- Nothing is remembered where there is no cache. -/
theorem State.memory_of_uncached (uncached : state.cache = none) : state.memory = [] := by
  unfold memory
  rw [uncached]
  rfl

/-- Where nothing is remembered, only verdicts are. -/
theorem Oracle.backs_of_uncached (oracle : Oracle) (source : Source)
    (uncached : state.cache = none) : oracle.Backs source state.memory := by
  rw [State.memory_of_uncached uncached]
  exact fun slot stored => absurd stored List.not_mem_nil

/-- The bound on successes in a row exceeds the number of characters by more than one. -/
theorem State.length_lt_loopBound (state : State β) :
    state.source.length + 1 < state.loopBound := by
  have factor :
      state.source.length + 2 ≤ (state.source.length + 2) * (state.callLimit.getD 0 + 1) :=
    Nat.le_mul_of_pos_right _ (Nat.succ_pos _)
  exact factor

/-- A sound state in which a pass starts is sound. -/
theorem State.Sound.restarted (sound : state.Sound grammar) :
    State.Sound grammar { state with attempts := .none, journal := [], mark := none } :=
  ⟨sound.unlimited, sound.memory⟩

variable [Builder β] [Procedures P]

/-- A pass that matches does what the final verdict on the root says, whatever the settings. -/
theorem pass_answered (ledger : Ledger β) (free : grammar.isProcedureFree = true)
    (memory : (finalVerdict grammar).Backs state.source state.memory)
    (passed : pass grammar state = (.matched, next)) :
    ∃ result, finalVerdict grammar grammar.root state.scanner = some result ∧
      Answers ledger grammar (finalVerdict grammar)
        (result.reply grammar (grammar.rule grammar.root) state.position)
        { state with attempts := .none, journal := [], mark := none } (.matched, next) := by
  have obeys := descend_obeys ledger free
    ({ state with attempts := .none, journal := [], mark := none }.depthBound grammar) grammar.root
    { state with attempts := .none, journal := [], mark := none } memory
  change Obeys ledger grammar _ _ _ _ (pass grammar state) at obeys
  rw [passed] at obeys
  cases obeys with
  | answered verdict known answers => exact ⟨verdict, known, answers⟩

/-- A pass that matches goes forward in the source, if anywhere, and keeps the cache and the call
limit as they have to be. -/
theorem pass_forward (ledger : Ledger β) (free : grammar.isProcedureFree = true)
    (memory : (finalVerdict grammar).Backs state.source state.memory)
    (passed : pass grammar state = (.matched, next)) :
    state.scanner.Reaches next.scanner ∧ next.callLimit = state.callLimit ∧
      (finalVerdict grammar).Backs next.source next.memory := by
  obtain ⟨verdict, known, answers⟩ := pass_answered ledger free memory passed
  obtain ⟨behind, inside⟩ := (finalVerdict_forward grammar).reply grammar known
  have source : next.source = state.source := answers.source_eq
  have stopped : next.position =
      (verdict.reply grammar (grammar.rule grammar.root) state.position).stop :=
    (congrArg Scanner.position answers.scanner).trans (Scanner.position_moveTo inside)
  exact ⟨⟨source, behind.trans stopped.ge⟩, answers.callLimit, by
    rw [source]
    exact answers.memory⟩

/-- No pass is run at the end of the source. -/
theorem runPasses_of_ended (ended : state.scanner.atEnd = true) (budget : Nat) :
    runPasses grammar budget state = (none, state) := by
  unfold runPasses
  rw [if_pos ended]

/-- Passes end where one of them takes nothing. -/
theorem runPasses_of_stalled (goesOn : state.scanner.atEnd = false)
    (passed : pass grammar state = (.matched, next)) (still : next.position = state.position)
    (budget : Nat) :
    runPasses grammar (budget + 1) state =
      (some (next.diagnose .mismatch), next.remark (.passStalled state.position)) := by
  unfold runPasses
  simp [goesOn, passed, still]

/-- Passes go on behind one that takes something. -/
theorem runPasses_of_matched (goesOn : state.scanner.atEnd = false)
    (passed : pass grammar state = (.matched, next)) (onward : next.position ≠ state.position)
    (budget : Nat) :
    runPasses grammar (budget + 1) state = runPasses grammar budget next := by
  rw [runPasses]
  simp [goesOn, passed, onward]

/-- Passes end before one that never ends. -/
theorem runPasses_of_diverged (goesOn : state.scanner.atEnd = false)
    (passed : pass grammar state = (.failed .divergence, next)) (budget : Nat) :
    runPasses grammar (budget + 1) state = (some (state.diagnose .divergence), state) := by
  unfold runPasses
  simp [goesOn, passed]

/-- Passes end where one of them fails. -/
theorem runPasses_of_failed {reason : Failure} (goesOn : state.scanner.atEnd = false)
    (passed : pass grammar state = (.failed reason, next)) (finite : reason ≠ .divergence)
    (budget : Nat) :
    runPasses grammar (budget + 1) state =
      (some (next.diagnose reason),
        next.remark (.passFailed state.position (next.diagnose reason).message)) := by
  unfold runPasses
  cases reason with
  | divergence => contradiction
  | mismatch => simp [goesOn, passed]
  | callLimit => simp [goesOn, passed]

/-- Passes that use up the source are at its end, or start with one that takes something. -/
theorem runPasses_done {budget : Nat} (done : (runPasses grammar budget state).1 = none) :
    (state.scanner.atEnd = true ∧ runPasses grammar budget state = (none, state)) ∨
    (state.scanner.atEnd = false ∧ ∃ rest next, budget = rest + 1 ∧
      pass grammar state = (.matched, next) ∧ next.position ≠ state.position ∧
      runPasses grammar budget state = runPasses grammar rest next) := by
  cases unfinished : state.scanner.atEnd with
  | true => exact .inl ⟨rfl, runPasses_of_ended unfinished budget⟩
  | false =>
    refine .inr ⟨rfl, ?_⟩
    cases budget with
    | zero =>
      unfold runPasses at done
      simp [unfinished] at done
    | succ rest =>
      match passed : pass grammar state with
      | (.failed reason, next) =>
        by_cases diverged : reason = .divergence
        · rw [diverged] at passed
          rw [runPasses_of_diverged unfinished passed] at done
          contradiction
        · rw [runPasses_of_failed unfinished passed diverged] at done
          contradiction
      | (.matched, next) =>
        by_cases still : next.position = state.position
        · rw [runPasses_of_stalled unfinished passed still] at done
          contradiction
        · exact ⟨rest, next, rfl, rfl, still, runPasses_of_matched unfinished passed still rest⟩

/-- A pass leads to another: it starts before the end of the source, matches and takes something. -/
structure Leads (grammar : Grammar P) (state next : State β) : Prop where
  /-- The source is not used up. -/
  unfinished : state.scanner.atEnd = false
  /-- The pass matches. -/
  matched : pass grammar state = (.matched, next)
  /-- The pass takes something. -/
  onward : next.position ≠ state.position

/-- Passes that use up the source keep what every pass that matches keeps. -/
theorem runPasses_keeps {kept : State β → Prop}
    (step : ∀ state next, kept state → pass grammar state = (.matched, next) → kept next)
    {budget : Nat} (held : kept state) (done : (runPasses grammar budget state).1 = none) :
    kept (runPasses grammar budget state).2 := by
  induction budget generalizing state with
  | zero =>
    rcases runPasses_done done with ⟨-, same⟩ | ⟨-, rest, next, room, -⟩
    · rw [same]
      exact held
    · contradiction
  | succ budget ih =>
    rcases runPasses_done done with ⟨-, same⟩ | ⟨-, rest, next, room, passed, -, same⟩
    · rw [same]
      exact held
    · obtain rfl : budget = rest := Nat.succ.inj room
      rw [same] at done ⊢
      exact ih (step state next held passed) done

/-- A pass from a sound state does what the final verdict on the root says, or never ends where
there is none. -/
theorem pass_cases (ledger : Ledger β) (free : grammar.isProcedureFree = true)
    (sound : state.Sound grammar) :
    (∃ result, finalVerdict grammar grammar.root state.scanner = some result ∧
      Answers ledger grammar (finalVerdict grammar)
        (result.reply grammar (grammar.rule grammar.root) state.position)
        { state with attempts := .none, journal := [], mark := none } (pass grammar state)) ∨
    (finalVerdict grammar grammar.root state.scanner = none ∧
      (pass grammar state).1 = .failed .divergence) :=
  matchRule_cases ledger free grammar.root sound.restarted

variable {γ : Type} [Builder γ]

/-- Passes from two sound states at one cursor, with whatever builders, both do what one verdict
says or never end. -/
theorem pass_pair (ledger : Ledger β) (otherLedger : Ledger γ)
    (free : grammar.isProcedureFree = true) {other : State γ}
    (scanner : state.scanner = other.scanner) (sound : state.Sound grammar)
    (otherSound : other.Sound grammar) :
    (∃ result, finalVerdict grammar grammar.root state.scanner = some result ∧
      Answers ledger grammar (finalVerdict grammar)
        (result.reply grammar (grammar.rule grammar.root) state.position)
        { state with attempts := .none, journal := [], mark := none } (pass grammar state) ∧
      Answers otherLedger grammar (finalVerdict grammar)
        (result.reply grammar (grammar.rule grammar.root) state.position)
        { other with attempts := .none, journal := [], mark := none } (pass grammar other)) ∨
    ((pass grammar state).1 = .failed .divergence ∧
      (pass grammar other).1 = .failed .divergence) := by
  have position : other.position = state.position := (congrArg Scanner.position scanner).symm
  rcases pass_cases ledger free sound with ⟨result, known, answers⟩ | ⟨unknown, diverged⟩
  · rcases pass_cases otherLedger free otherSound with ⟨_, same, otherAnswers⟩ | ⟨absent, _⟩
    · rw [← scanner, known] at same
      obtain rfl := Option.some.inj same
      rw [position] at otherAnswers
      exact .inl ⟨result, known, answers, otherAnswers⟩
    · rw [← scanner, known] at absent
      contradiction
  · rcases pass_cases otherLedger free otherSound with ⟨_, found, _⟩ | ⟨_, otherDiverged⟩
    · rw [← scanner, unknown] at found
      contradiction
    · exact .inr ⟨diverged, otherDiverged⟩

end Passes

/-- The ledger that says nothing, for a builder that never tells what a rule contributed. -/
def Discreet.ledger {β : Type} [Builder β] (discreet : Discreet β) : Ledger β where
  Adds _ _ _ := True
  nothing _ := trivial
  append _ _ := trivial
  node _ _ _ _ := trivial
  transparent _ := trivial
  discarded _ := trivial
  failed _ := trivial
  restored _ _ _ := trivial
  cutBack _ := trivial
  contributed _ told := absurd ((discreet _ _).symm.trans told) nofun

/-- An emitter never tells what a rule contributed. -/
theorem Emitter.discreet : Discreet Emitter :=
  fun _ _ => rfl

namespace TokenStream

variable {stream last : TokenStream P} {nodes : List Node}

/-! ## Runs -/

variable [Procedures P]

/-- A stream gives some nodes, one after the other, and then none; another stream is left. -/
inductive Yields : TokenStream P → List Node → TokenStream P → Prop
  /-- There is no node. -/
  | ended {stream last : TokenStream P} (none : stream.next = (none, last)) : Yields stream [] last
  /-- There is a node before the others. -/
  | more {stream rest last : TokenStream P} {node : Node} {nodes : List Node}
      (some : stream.next = (some node, rest)) (later : Yields rest nodes last) :
      Yields stream (node :: nodes) last

/-- A stream without a next node yields nothing. -/
theorem Yields.of_none (none : stream.next.1.isNone = true) : Yields stream [] stream.next.2 :=
  .ended (Prod.ext (Option.isNone_iff_eq_none.mp none) rfl)

/-- A stream with a next node yields it first. -/
theorem Yields.of_some (some : stream.next.1.isSome = true)
    (later : Yields stream.next.2 nodes last) :
    Yields stream (stream.next.1.get some :: nodes) last :=
  .more (Prod.ext (Option.some_get some).symm rfl) later

/-- The state from which the next pass of a stream starts. -/
def fresh (stream : TokenStream P) : State Emitter :=
  stream.state.notify fun emitter => Builder.begin stream.state.source (Builder.reset emitter)

/-- The stream after a pass that took something. -/
def moved (stream : TokenStream P) (ended : State Emitter) : TokenStream P :=
  { stream with
    state := ended.notify fun emitter => { Builder.finish emitter with pending := [] }
    buffered := ended.builder.nodes }

/-- A pass that takes something leaves its nodes to be asked for. -/
theorem advance_of_matched {ended : State Emitter}
    (passed : pass stream.grammar stream.fresh = (.matched, ended))
    (onward : ended.position ≠ stream.position) : stream.advance = stream.moved ended := by
  unfold advance
  simp only
  rw [← fresh, passed]
  exact if_neg onward

/-- A pass that takes nothing leaves its nodes to be asked for and stops the stream. -/
theorem advance_of_stalled {ended : State Emitter}
    (passed : pass stream.grammar stream.fresh = (.matched, ended))
    (still : ended.position = stream.position) :
    stream.advance =
      (stream.moved ended).stopWith (ended.diagnose .mismatch)
        (.streamStalled stream.position) := by
  unfold advance
  simp only
  rw [← fresh, passed]
  exact if_pos still

/-- A pass that never ends stops the stream where it is. -/
theorem advance_of_diverged {ended : State Emitter}
    (passed : pass stream.grammar stream.fresh = (.failed .divergence, ended)) :
    stream.advance =
      stream.stopWith (stream.state.diagnose .divergence)
        (.streamFailed stream.position (stream.state.diagnose .divergence).message) := by
  unfold advance
  simp only
  rw [← fresh, passed]

/-- A pass that fails stops the stream where the pass stands. -/
theorem advance_of_failed {reason : Failure} {ended : State Emitter}
    (passed : pass stream.grammar stream.fresh = (.failed reason, ended))
    (finite : reason ≠ .divergence) :
    stream.advance =
      { stream with state := ended }.stopWith (ended.diagnose reason)
        (.streamFailed stream.position (ended.diagnose reason).message) := by
  unfold advance
  simp only
  rw [← fresh, passed]
  cases reason with
  | divergence => contradiction
  | mismatch => rfl
  | callLimit => rfl

/-- A pass stops the stream, or matches and takes something. -/
theorem advance_cases (stream : TokenStream P) :
    stream.advance.stopped = true ∨
      ∃ ended, pass stream.grammar stream.fresh = (.matched, ended) ∧
        ended.position ≠ stream.position := by
  match passed : pass stream.grammar stream.fresh with
  | (.failed reason, ended) =>
    by_cases diverged : reason = .divergence
    · rw [diverged] at passed
      rw [advance_of_diverged passed]
      exact .inl rfl
    · rw [advance_of_failed passed diverged]
      exact .inl rfl
  | (.matched, ended) =>
    by_cases still : ended.position = stream.position
    · rw [advance_of_stalled passed still]
      exact .inl rfl
    · exact .inr ⟨ended, rfl, still⟩

/-- A stream over a procedure-free grammar whose cache remembers only verdicts. -/
structure Steady (stream : TokenStream P) : Prop where
  /-- No rule runs a procedure. -/
  free : stream.grammar.isProcedureFree = true
  /-- The cache remembers only verdicts. -/
  memory : (finalVerdict stream.grammar).Backs stream.state.source stream.state.memory

/-- How many characters of the source lie before the cursor. -/
def remaining (stream : TokenStream P) : Nat :=
  stream.state.source.length - stream.position

/-- A pass that does not stop the stream takes something, and changes nothing that the number of
passes hangs on. -/
theorem Steady.advance (steady : stream.Steady) (running : stream.advance.stopped = false) :
    stream.advance.Steady ∧ stream.advance.remaining < stream.remaining ∧
      stream.advance.state.loopBound = stream.state.loopBound := by
  rcases stream.advance_cases with stopped | ⟨ended, passed, onward⟩
  · rw [running] at stopped
    contradiction
  · have backed : (finalVerdict stream.grammar).Backs stream.fresh.source stream.fresh.memory :=
      steady.memory
    obtain ⟨reached, callLimit, memory⟩ :=
      pass_forward Emitter.discreet.ledger steady.free backed passed
    have source : ended.source = stream.state.source := reached.source
    rw [advance_of_matched passed onward]
    refine ⟨⟨steady.free, memory⟩, reached.remaining_lt onward, ?_⟩
    · change (ended.source.length + 2) * (ended.callLimit.getD 0 + 1) = _
      rw [source, callLimit]
      rfl

/-- A stopped stream runs no pass. -/
theorem nextWithin_stopped (stopped : stream.stopped = true) (budget other : Nat) :
    nextWithin budget stream = nextWithin other stream := by
  unfold nextWithin
  rw [stopped]
  cases stream.buffered with
  | nil => rfl
  | cons node later => rfl

/-- How many passes one question may cost never matters, if there are more of them than characters
left: every pass but the last takes one. -/
theorem nextWithin_budget {budget other : Nat} (steady : stream.Steady)
    (enough : stream.remaining < budget) (otherEnough : stream.remaining < other) :
    nextWithin budget stream = nextWithin other stream := by
  induction budget generalizing other stream with
  | zero => omega
  | succ budget ih =>
    obtain ⟨spare, rfl⟩ : ∃ spare, other = spare + 1 := ⟨other - 1, by omega⟩
    unfold nextWithin
    split
    · rfl
    · split
      · rfl
      · simp only
        cases running : stream.advance.stopped with
        | true => exact nextWithin_stopped running _ _
        | false =>
          obtain ⟨steadyNext, less, _⟩ := steady.advance running
          exact ih steadyNext (by omega) (by omega)

/-- A stream with nothing to give gives what it gives after one more pass. -/
theorem Steady.next_advance (steady : stream.Steady) (empty : stream.buffered = [])
    (running : stream.stopped = false) (unfinished : stream.state.scanner.atEnd = false) :
    stream.next = stream.advance.next := by
  have room := stream.state.length_lt_loopBound
  obtain ⟨budget, bound⟩ : ∃ budget, stream.state.loopBound = budget + 1 :=
    ⟨stream.state.loopBound - 1, by omega⟩
  have passed : stream.next = nextWithin budget stream.advance := by
    unfold next
    rw [bound, nextWithin, empty, running, unfinished]
    rfl
  rw [passed, next]
  cases stopped : stream.advance.stopped with
  | true => exact nextWithin_stopped stopped _ _
  | false =>
    obtain ⟨steadyNext, less, same⟩ := steady.advance stopped
    have most : stream.remaining ≤ stream.state.source.length := Nat.sub_le _ _
    exact nextWithin_budget steadyNext (by omega) (by omega)

/-- The nodes of a stream that are there come before all others. -/
theorem Yields.buffered (later : Yields { stream with buffered := [] } nodes last) :
    Yields stream (stream.buffered ++ nodes) last := by
  obtain ⟨grammar, state, buffered, stopped⟩ := stream
  induction buffered with
  | nil => exact later
  | cons node rest ih =>
    refine .more ?_ (ih later)
    unfold next nextWithin
    rfl

/-- A stream with nothing to give yields what it yields after one more pass. -/
theorem Yields.advance (steady : stream.Steady) (empty : stream.buffered = [])
    (running : stream.stopped = false) (unfinished : stream.state.scanner.atEnd = false)
    (later : Yields stream.advance nodes last) : Yields stream nodes last := by
  have same := steady.next_advance empty running unfinished
  cases later with
  | ended none => exact .ended (same.trans none)
  | more some rest => exact .more (same.trans some) rest

/-- A stream with nothing to give yields the nodes of a pass that takes something before those of
the passes behind it. -/
theorem Yields.moved {ended : State Emitter} (steady : stream.Steady) (empty : stream.buffered = [])
    (running : stream.stopped = false) (unfinished : stream.state.scanner.atEnd = false)
    (passed : pass stream.grammar stream.fresh = (.matched, ended))
    (onward : ended.position ≠ stream.position)
    (later : Yields { stream.moved ended with buffered := [] } nodes last) :
    Yields stream (ended.builder.nodes ++ nodes) last := by
  refine .advance steady empty running unfinished ?_
  rw [advance_of_matched passed onward]
  exact later.buffered

/-- A stream yields one list of nodes and leaves one stream. -/
theorem Yields.unique {others : List Node} {otherLast : TokenStream P}
    (yields : Yields stream nodes last) (alsoYields : Yields stream others otherLast) :
    nodes = others ∧ last = otherLast := by
  induction yields generalizing others with
  | ended none =>
    cases alsoYields with
    | ended alsoNone => exact ⟨rfl, congrArg Prod.snd (none.symm.trans alsoNone)⟩
    | more some later => simp [none] at some
  | more some later ih =>
    cases alsoYields with
    | ended none => simp [some] at none
    | more alsoSome alsoLater =>
      rw [some] at alsoSome
      obtain ⟨sameNode, rfl⟩ := Prod.mk.inj alsoSome
      obtain rfl := Option.some.inj sameNode
      obtain ⟨rfl, sameLast⟩ := ih alsoLater
      exact ⟨rfl, sameLast⟩

/-- A stream with nothing to give that runs no further pass yields nothing. -/
theorem yields_nil (empty : stream.buffered = [])
    (done : (stream.stopped || stream.state.scanner.atEnd) = true) : Yields stream [] stream := by
  refine .ended ?_
  unfold next nextWithin
  rw [empty, done]
  rfl

/-- A stopped stream yields the nodes that are there. -/
theorem yields_stopped (stopped : stream.stopped = true) :
    Yields stream stream.buffered { stream with buffered := [] } := by
  have rest : Yields { stream with buffered := [] } [] { stream with buffered := [] } :=
    yields_nil rfl (by rw [stopped, Bool.true_or])
  simpa only [List.append_nil] using rest.buffered

end TokenStream

end Packrat
