import Packrat.Proofs.Streaming
import Packrat.Proofs.Termination
import Packrat.Proofs.Unwinding

/-!
# Streams advance, end and stay ended

A question to a stream runs passes until there is a node to give or the stream is at its end
(`TokenStream.Gives`), and questions are asked one after the other (`TokenStream.Serves`). A pass
takes something, which moves the cursor forward, or it stops the stream (`TokenStream.Headway`), so
that the passes of all questions together are bounded by the source. A stream that has given no node
is at its end, and nothing changes there any more (`TokenStream.AtEnd.serves`).
-/

namespace Packrat

variable {P : Type}

/-- By the rules of parsing expressions, the root of a grammar has an answer wherever a pass over a
source may start. -/
def Grammar.HaltsOn (grammar : Grammar P) (source : Source) : Prop :=
  ∀ here : Scanner, here.source = source → ∃ answer, RuleParse grammar grammar.root here answer

variable [Procedures P]

/-- A pass leads forward, however it ends, and remembers only verdicts. -/
theorem pass_unwinds {β : Type} [Builder β] (ledger : Ledger β) {grammar : Grammar P}
    {state : State β} (free : grammar.isProcedureFree = true)
    (memory : (finalVerdict grammar).Backs state.source state.memory) :
    state.scanner.Reaches (pass grammar state).2.scanner ∧
      (finalVerdict grammar).Backs (pass grammar state).2.source (pass grammar state).2.memory := by
  have unwinds := descend_unwinds ledger free
    ({ state with attempts := .none, journal := [], mark := none }.depthBound grammar) grammar.root
    { state with attempts := .none, journal := [], mark := none } memory
  exact ⟨unwinds.forward, unwinds.source_eq ▸ unwinds.memory⟩

/-- A pass from where the root has an answer comes to an end. -/
theorem RuleParse.pass_ne_divergence {β : Type} [Builder β] (ledger : Ledger β)
    {grammar : Grammar P} {state : State β} (free : grammar.isProcedureFree = true)
    (memory : (finalVerdict grammar).Backs state.source state.memory) {answer : Option Scanner}
    (parse : RuleParse grammar grammar.root state.scanner answer) :
    (pass grammar state).1 ≠ .failed .divergence := by
  unfold pass
  exact parse.matchRule_ne_divergence ledger free memory

namespace TokenStream

variable {stream middle last : TokenStream P} {passes more : List (TokenStream P)}
  {answers : List (Option Node)} {answer : Option Node}

/-! ## Questions and their passes -/

/-- Whether the next pass of a stream matches and takes something. -/
def takes (stream : TokenStream P) : Bool :=
  match pass stream.grammar stream.fresh with
  | (.matched, ended) => stream.position < ended.position
  | (.failed _, _) => false

/-- A stream that is asked for a node runs passes, each of which comes to an end, until it has one
to give or is at its end; another stream is left. A pass is told by the stream before it. -/
inductive Gives : TokenStream P → List (TokenStream P) → Option Node → TokenStream P → Prop
  /-- A node is there already. -/
  | given {stream : TokenStream P} {node : Node} {later : List Node}
      (there : stream.buffered = node :: later) :
      Gives stream [] (some node) { stream with buffered := later }
  /-- There is no node, and no pass to run. -/
  | ended {stream : TokenStream P} (empty : stream.buffered = [])
      (done : (stream.stopped || stream.state.scanner.atEnd) = true) : Gives stream [] none stream
  /-- There is no node until one more pass is run. -/
  | passed {stream last : TokenStream P} {passes : List (TokenStream P)} {answer : Option Node}
      (empty : stream.buffered = []) (running : stream.stopped = false)
      (unfinished : stream.state.scanner.atEnd = false)
      (finite : (pass stream.grammar stream.fresh).1 ≠ .failed .divergence)
      (later : Gives stream.advance passes answer last) :
      Gives stream (stream :: passes) answer last

/-- A stream that is asked for nodes, one after the other, runs some passes for it and gives some
answers; another stream is left. -/
inductive Serves : TokenStream P → List (TokenStream P) → List (Option Node) → TokenStream P → Prop
  /-- Nothing is asked. -/
  | unasked {stream : TokenStream P} : Serves stream [] [] stream
  /-- One more node is asked for. -/
  | asked {stream middle : TokenStream P} {passes more : List (TokenStream P)}
      {answers : List (Option Node)} (served : Serves stream passes answers middle)
      (gives : Gives middle more middle.next.1 middle.next.2) :
      Serves stream (passes ++ more) (answers ++ [middle.next.1]) middle.next.2

/-- A stream that has a node to give, or no pass to run, answers without a pass. -/
theorem Gives.of_idle
    (idle : stream.buffered ≠ [] ∨ (stream.stopped || stream.state.scanner.atEnd) = true) :
    Gives stream [] stream.next.1 stream.next.2 := by
  match there : stream.buffered with
  | node :: later =>
    have answered : stream.next = (some node, { stream with buffered := later }) := by
      unfold next nextWithin
      rw [there]
    rw [answered]
    exact .given there
  | [] =>
    have done := idle.resolve_left (not_not_intro there)
    have answered : stream.next = (none, stream) := by
      unfold next nextWithin
      rw [there, done]
      rfl
    rw [answered]
    exact .ended there done

/-! ## One pass -/

/-- A pass of a steady stream leaves a steady stream of the same grammar whose cursor is not further
back. -/
theorem Steady.advance_reaches (steady : stream.Steady) :
    stream.advance.Steady ∧ stream.advance.grammar = stream.grammar ∧
      stream.state.scanner.Reaches stream.advance.state.scanner := by
  have backed : (finalVerdict stream.grammar).Backs stream.fresh.source stream.fresh.memory :=
    steady.memory
  obtain ⟨reached, memory⟩ := pass_unwinds Emitter.discreet.ledger steady.free backed
  match passed : pass stream.grammar stream.fresh with
  | (.failed reason, ended) =>
    by_cases diverged : reason = .divergence
    · rw [diverged] at passed
      rw [advance_of_diverged passed]
      exact ⟨⟨steady.free, steady.memory⟩, rfl, .refl _⟩
    · rw [passed] at reached memory
      rw [advance_of_failed passed diverged]
      exact ⟨⟨steady.free, memory⟩, rfl, reached⟩
  | (.matched, ended) =>
    rw [passed] at reached memory
    by_cases still : ended.position = stream.position
    · rw [advance_of_stalled passed still]
      exact ⟨⟨steady.free, memory⟩, rfl, reached⟩
    · rw [advance_of_matched passed still]
      exact ⟨⟨steady.free, memory⟩, rfl, reached⟩

/-- A pass that matches and takes something leaves the cursor further on. -/
theorem lt_position_advance (takes : stream.takes = true) :
    stream.position < stream.advance.position := by
  unfold TokenStream.takes at takes
  split at takes
  · rename_i ended passed
    have onward := of_decide_eq_true takes
    rw [advance_of_matched passed onward.ne']
    exact onward
  · contradiction

/-- Any other pass of a steady stream stops it. -/
theorem Steady.stopped_advance (steady : stream.Steady) (takes : stream.takes = false) :
    stream.advance.stopped = true := by
  rcases stream.advance_cases with stopped | ⟨ended, passed, onward⟩
  · exact stopped
  · have backed : (finalVerdict stream.grammar).Backs stream.fresh.source stream.fresh.memory :=
      steady.memory
    obtain ⟨reached, -⟩ := pass_unwinds Emitter.discreet.ledger steady.free backed
    rw [passed] at reached
    have further : stream.position < ended.position :=
      Nat.lt_of_le_of_ne reached.forward onward.symm
    unfold TokenStream.takes at takes
    rw [passed] at takes
    exact absurd further (of_decide_eq_false takes)

/-! ## What passes add up to -/

/-- A pass over a source that ends, if it matches, at or after its start and within the source. -/
def RunsForward (source : Source) (stream : TokenStream P) : Prop :=
  ∀ ended, pass stream.grammar stream.fresh = (.matched, ended) →
    ended.source = source ∧ stream.position ≤ ended.position ∧ ended.position ≤ source.length

/-- A stream over a source that has come where it is by some passes: each that took something moved
the cursor, and any other stopped the stream. -/
structure Headway (grammar : Grammar P) (source : Source) (passes : List (TokenStream P))
    (stream : TokenStream P) : Prop where
  /-- The grammar is the one of the start. -/
  grammar_eq : stream.grammar = grammar
  /-- The source is the one of the start. -/
  source_eq : stream.state.source = source
  /-- The cache remembers only verdicts. -/
  steady : stream.Steady
  /-- The passes ran forward. -/
  forward : ∀ before ∈ passes, RunsForward source before
  /-- Every pass that took something moved the cursor. -/
  taking : passes.countP takes ≤ stream.position
  /-- At most one pass took nothing, and the stream is stopped after it. -/
  others : passes.countP (!takes ·) ≤ stream.stopped.toNat

namespace Headway

variable {grammar : Grammar P} {source : Source}

/-- A stream at the start of a source has come where it is by no passes. -/
theorem start (free : grammar.isProcedureFree = true) (config : Config) (source : Source) :
    Headway grammar source [] (start grammar config source) where
  grammar_eq := rfl
  source_eq := rfl
  steady := ⟨free, Oracle.backs_initial _ _ config Emitter.initial⟩
  forward := nofun
  taking := Nat.zero_le _
  others := Nat.zero_le _

/-- One more pass of a stream that is not stopped adds to the passes it has come by. -/
theorem advance (headway : Headway grammar source passes stream)
    (running : stream.stopped = false) :
    Headway grammar source (passes ++ [stream]) stream.advance := by
  obtain ⟨steady, sameGrammar, reached⟩ := headway.steady.advance_reaches
  refine ⟨sameGrammar.trans headway.grammar_eq, reached.source.trans headway.source_eq, steady,
    ?_, ?_, ?_⟩
  · intro before member
    rcases List.mem_append.mp member with old | new
    · exact headway.forward before old
    · obtain rfl := List.mem_singleton.mp new
      intro ended passed
      obtain ⟨forward, -⟩ := pass_unwinds Emitter.discreet.ledger headway.steady.free
        (show (finalVerdict before.grammar).Backs before.fresh.source before.fresh.memory from
          headway.steady.memory)
      rw [passed] at forward
      have same : ended.source = source := forward.source.trans headway.source_eq
      exact ⟨same, forward.forward, same ▸ ended.scanner.inside⟩
  · have taken := headway.taking
    rw [List.countP_append, List.countP_singleton]
    split
    · rename_i takes
      have onward := lt_position_advance takes
      omega
    · exact taken.trans reached.forward
  · have others := headway.others
    rw [running, Bool.toNat_false] at others
    rw [List.countP_append, List.countP_singleton]
    split
    · rename_i takesNone
      rw [headway.steady.stopped_advance (by simpa using takesNone), Bool.toNat_true]
      omega
    · omega

/-- Answering a question adds the passes run for it. -/
theorem gives (headway : Headway grammar source passes stream)
    (gives : Gives stream more answer last) :
    Headway grammar source (passes ++ more) last := by
  induction gives generalizing passes with
  | given there =>
    rw [List.append_nil]
    exact { headway with steady := ⟨headway.steady.free, headway.steady.memory⟩ }
  | ended empty done =>
    rw [List.append_nil]
    exact headway
  | passed empty running unfinished finite later ih =>
    have advanced := ih (headway.advance running)
    rwa [List.append_assoc] at advanced

/-- Answering questions adds the passes run for them. -/
theorem serves (headway : Headway grammar source [] stream)
    (served : Serves stream passes answers last) : Headway grammar source passes last := by
  induction served with
  | unasked => exact headway
  | asked _ gives ih => exact ih.gives gives

/-- Where the grammar halts, every question is answered after some passes that come to an end. -/
theorem exists_gives (headway : Headway grammar source passes stream)
    (halts : grammar.HaltsOn source) :
    ∃ more, Gives stream more stream.next.1 stream.next.2 := by
  induction remains : stream.remaining using Nat.strong_induction_on
    generalizing passes stream with
  | _ left ih =>
  subst remains
  by_cases idle : stream.buffered ≠ [] ∨ (stream.stopped || stream.state.scanner.atEnd) = true
  · exact ⟨[], .of_idle idle⟩
  obtain ⟨nothing, goesOn⟩ := not_or.mp idle
  have empty := not_not.mp nothing
  obtain ⟨running, unfinished⟩ := Bool.or_eq_false_iff.mp (Bool.eq_false_of_not_eq_true goesOn)
  obtain ⟨found, parse⟩ := halts stream.state.scanner headway.source_eq
  have parses : RuleParse stream.grammar stream.grammar.root stream.fresh.scanner found :=
    headway.grammar_eq ▸ parse
  have finite : (pass stream.grammar stream.fresh).1 ≠ .failed .divergence :=
    parses.pass_ne_divergence Emitter.discreet.ledger headway.steady.free headway.steady.memory
  obtain ⟨more, gives⟩ :
      ∃ more, Gives stream.advance more stream.advance.next.1 stream.advance.next.2 := by
    cases stopped : stream.advance.stopped with
    | true => exact ⟨[], .of_idle (.inr (by rw [stopped, Bool.true_or]))⟩
    | false => exact ih _ (headway.steady.advance stopped).2.1 (headway.advance running) rfl
  rw [headway.steady.next_advance empty running unfinished]
  exact ⟨_, .passed empty running unfinished finite gives⟩

/-- Where the grammar halts, any number of questions is answered. -/
theorem exists_serves (headway : Headway grammar source [] stream)
    (halts : grammar.HaltsOn source) (count : Nat) :
    ∃ passes answers last, answers.length = count ∧ Serves stream passes answers last := by
  induction count with
  | zero => exact ⟨[], [], stream, rfl, .unasked⟩
  | succ count ih =>
    obtain ⟨passes, answers, middle, length, served⟩ := ih
    obtain ⟨more, gives⟩ := (headway.serves served).exists_gives halts
    refine ⟨_, _, _, ?_, .asked served gives⟩
    rw [List.length_append, length, List.length_singleton]

end Headway

/-! ## The end -/

/-- A stream at its end has nothing to give and no pass to run. -/
structure AtEnd (stream : TokenStream P) : Prop where
  /-- There is no node. -/
  empty : stream.buffered = []
  /-- The stream is stopped, or the source is used up. -/
  done : (stream.stopped || stream.state.scanner.atEnd) = true

/-- A stream at its end gives nothing and stays what it is. -/
theorem AtEnd.next_eq (atEnd : stream.AtEnd) : stream.next = (none, stream) := by
  unfold next nextWithin
  rw [atEnd.empty, atEnd.done]
  rfl

/-- A stream at its end runs no pass. -/
theorem AtEnd.passes_eq (atEnd : stream.AtEnd) (gives : Gives stream passes answer last) :
    passes = [] := by
  cases gives with
  | given _ => rfl
  | ended _ _ => rfl
  | passed _ running unfinished _ _ =>
    have done := atEnd.done
    rw [running, unfinished] at done
    contradiction

/-- A stream that has given no node is at its end. -/
theorem Gives.atEnd (gives : Gives stream passes answer last) (missing : answer = none) :
    last.AtEnd := by
  induction gives with
  | given _ => contradiction
  | ended empty done => exact ⟨empty, done⟩
  | passed _ _ _ _ _ ih => exact ih missing

/-- A stream that has once given no node is at its end. -/
theorem Serves.atEnd (served : Serves stream passes answers last) (missing : none ∈ answers) :
    last.AtEnd := by
  induction served with
  | unasked => contradiction
  | asked _ gives ih =>
    rcases List.mem_append.mp missing with earlier | now
    · rw [(ih earlier).next_eq]
      exact ih earlier
    · exact gives.atEnd (List.mem_singleton.mp now).symm

/-- A stream at its end, however often it is asked, runs no pass, gives no node and stays what it
is. -/
theorem AtEnd.serves (atEnd : stream.AtEnd) (served : Serves stream passes answers last) :
    passes = [] ∧ (∀ answer ∈ answers, answer = none) ∧ last = stream := by
  induction served with
  | unasked => exact ⟨rfl, nofun, rfl⟩
  | asked _ gives ih =>
    obtain ⟨rfl, missing, rfl⟩ := ih
    rw [atEnd.passes_eq gives, atEnd.next_eq]
    refine ⟨rfl, fun answer member => ?_, rfl⟩
    rcases List.mem_append.mp member with earlier | now
    · exact missing answer earlier
    · exact List.mem_singleton.mp now

/-- A stream over a procedure-free grammar that halts on the source, with whatever settings, answers
any number of questions. Each pass that it runs for them and that matches ends at or after its start
and within the source; at most as many passes take something as the source has characters, and at
most one does not. Once it has given no node it is asked in vain: it runs no pass, and neither the
position nor the diagnostics change. -/
theorem start_serves (grammar : Grammar P) (free : grammar.isProcedureFree = true) (config : Config)
    (source : Source) (halts : grammar.HaltsOn source) :
    (∀ count, ∃ passes answers stream, answers.length = count ∧
      Serves (start grammar config source) passes answers stream) ∧
    ∀ passes answers stream, Serves (start grammar config source) passes answers stream →
      (∀ before ∈ passes, RunsForward source before) ∧
      passes.countP takes ≤ source.length ∧ passes.countP (!takes ·) ≤ 1 ∧
      (none ∈ answers → ∀ more later last, Serves stream more later last →
        more = [] ∧ (∀ answer ∈ later, answer = none) ∧
          last.position = stream.position ∧ last.errors = stream.errors) := by
  have begun := Headway.start free config source
  refine ⟨begun.exists_serves halts, fun passes answers stream served => ?_⟩
  have headway := begun.serves served
  have inside : stream.position ≤ source.length :=
    headway.source_eq ▸ stream.state.scanner.inside
  refine ⟨headway.forward, headway.taking.trans inside, headway.others.trans (Bool.toNat_le _),
    fun missing more later last further => ?_⟩
  obtain ⟨idle, inVain, rfl⟩ := (served.atEnd missing).serves further
  exact ⟨idle, inVain, rfl, rfl⟩

/-- Three questions to the stream of a word and a shout, with a cache and a call limit, are answered
by at most four passes. -/
theorem start_serves_shouts :
    let source : Source := ⟨['a', ' ', 'b', '!']⟩
    let config := (Config.default.withCache 2 2).withCallLimit 20
    Grammar.shouts.HaltsOn source ∧
      ∃ passes answers stream, answers.length = 3 ∧
        Serves (start .shouts config source) passes answers stream ∧
        passes.countP takes ≤ 4 ∧ passes.countP (!takes ·) ≤ 1 := by
  intro source config
  have verdicts : ∀ place : Fin (source.length + 1),
      (finalVerdict .shouts 5 (source.scannerAt place)).isSome = true := by
    decide +kernel
  have halts : Grammar.shouts.HaltsOn source := by
    intro here inSource
    obtain ⟨place, rfl⟩ := Scanner.exists_place inSource
    obtain ⟨result, known⟩ := Option.isSome_iff_exists.mp (verdicts place)
    exact ⟨_, ruleParse_iff_finalVerdict.mpr ⟨result, known, rfl⟩⟩
  obtain ⟨answered, bounded⟩ :=
    start_serves .shouts Grammar.isProcedureFree_shouts config source halts
  obtain ⟨passes, answers, stream, length, served⟩ := answered 3
  obtain ⟨-, taking, others, -⟩ := bounded passes answers stream served
  exact ⟨halts, passes, answers, stream, length, served, taking, others⟩

end TokenStream

end Packrat
