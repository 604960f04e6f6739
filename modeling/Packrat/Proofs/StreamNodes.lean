import Packrat.Proofs.Emission
import Packrat.Proofs.StreamDiagnostics

/-!
# Nodes of streams and builds

A build that succeeds leaves its nodes in the root frame of a node stack, and a stream over the same
source yields nodes without children. Where the attempts of every pass are orderly, the stream loses
none of the nodes of the build (`TokenStream.rootNodes_sublist_yields`), and where besides no rule
hides a node that was left inside it, the stream yields no other
(`TokenStream.yields_sublist_rootNodes`). Neither holds of all grammars: a rule that fails takes
back nodes left before it started at a deeper level (`TokenStream.entries_yields_nothing`), and
nothing takes back what was left inside a rule that is skipped (`TokenStream.veiled_yields_both`).

Both results follow from one step: in a pass the node stack collects, and the emitter emits, what
the emission chronicle says of the attempts of the final verdict on the root (`Paired.pass`).
-/

namespace Packrat

variable {P : Type} {grammar : Grammar P}

/-! ## Passes -/

/-- A build and a stream over one source between passes, at the same position, without a call limit.
-/
structure Paired (grammar : Grammar P) (state : State NodeStack)
    (stream : TokenStream P) : Prop where
  /-- The stream has the grammar of the build. -/
  grammar_eq : stream.grammar = grammar
  /-- The cursor is the same. -/
  scanner : state.scanner = stream.state.scanner
  /-- The state of the build is sound. -/
  sound : state.Sound grammar
  /-- The state of the stream is sound. -/
  streamSound : stream.state.Sound grammar
  /-- The cache of the stream remembers only failures. -/
  recalls : stream.state.RecallsFailures
  /-- No rule of the build is open. -/
  closed : state.builder.inner = []
  /-- The stream has nothing to give. -/
  empty : stream.buffered = []
  /-- The stream has not stopped. -/
  running : stream.stopped = false

/-- A stream in which the node stack of a build is told what the emitter is told. -/
def TokenStream.freshWith (stream : TokenStream P) (stack : NodeStack) :
    State (NodeStack × Emitter) :=
  stream.fresh.seenAs (stack, ·) stream.state.remarks stream.state.probes

variable {state next : State NodeStack} {stream : TokenStream P}

/-- What the attempts of a pass say about the nodes that it leaves in a build and in a stream. -/
structure LeavesAlike (grammar : Grammar P) (attempts : List Attempt) (nodes yielded : List Node) :
    Prop where
  /-- No node is lost if every node that is left stays. -/
  complete : grammar.keepsNodes = true → Orderly (Attempt.eventsAll grammar 0 attempts) →
    (nodes.map Node.stripped).Sublist yielded
  /-- No node is added if every node that is left stays and none is hidden. -/
  sound : Orderly (Attempt.eventsAll grammar 0 attempts) →
    .hidden ∉ Attempt.eventsAll grammar 0 attempts →
    yielded.Sublist (nodes.map Node.stripped)

/-- From a fresh emitter the emission chronicle says what a pass leaves. -/
theorem Explains.leavesAlike {attempts : List Attempt} {nodes : List Node}
    {emitted : List Emission} {before after : NodeStack × Emitter} (fresh : before.2 = ⟨1, [], []⟩)
    (explains :
      Explains grammar (Attempt.eventsAll grammar 0 attempts) nodes emitted before after) :
    LeavesAlike grammar attempts nodes after.2.nodes := by
  have nodes : after.2.nodes = emitted.map Emission.node := by
    rw [Emitter.nodes, explains.emitter, fresh]
    rfl
  rw [nodes]
  refine ⟨fun keeps orderly => explains.complete keeps (by rw [fresh]) orderly,
    fun orderly shown => explains.sound orderly shown ?_⟩
  rw [fresh]
  nofun

/-- A stack without open rules collects one list of nodes. -/
theorem NodeStack.adding_inj {stack : NodeStack} (closed : stack.inner = [])
    {nodes others : List Node}
    (same : stack.adding nodes = stack.adding others) : nodes = others := by
  rw [adding_root closed, adding_root closed] at same
  exact List.append_cancel_left (congrArg (·.root.nodes) same)

/-- What is recorded of a pass with a node stack and a fresh emitter says what the pass leaves. -/
theorem Recorded.leavesAlike {before after : State (NodeStack × Emitter)} {attempts : List Attempt}
    {nodes : List Node} (recorded : Recorded (emissionChronicle grammar) before after)
    (closed : before.builder.1.inner = []) (fresh : before.builder.2 = ⟨1, [], []⟩)
    (unwritten : before.journal = []) (written : after.journal = attempts.reverse)
    (added : after.builder.1 = before.builder.1.adding nodes) :
    LeavesAlike grammar attempts nodes after.builder.2.nodes := by
  obtain ⟨made, journal, spans⟩ := recorded.spans
  obtain rfl : made = attempts := by
    rw [unwritten, List.append_nil, written] at journal
    exact (List.reverse_injective journal).symm
  obtain ⟨collected, emitted, explains⟩ := spans (by rw [fresh])
  obtain rfl : collected = nodes := NodeStack.adding_inj closed (explains.stack.symm.trans added)
  rw [fresh] at explains
  exact explains.leavesAlike fresh

variable [Procedures P]

/-- A pass of a build that takes something goes with a pass of the stream that does, and the
attempts of the final verdict on the root say what the two leave. -/
theorem Paired.pass (free : grammar.isProcedureFree = true) (paired : Paired grammar state stream)
    (passed : pass grammar state = (.matched, next)) (onward : next.position ≠ state.position) :
    ∃ remembered ended,
      finalVerdict grammar grammar.root state.scanner = some (.success remembered) ∧
      next.scanner = state.scanner.moveTo remembered.stop ∧
      next.builder.root.nodes = state.builder.root.nodes ++ remembered.nodes ∧
      pass grammar stream.fresh = (.matched, ended) ∧
      Paired grammar next { stream.moved ended with buffered := [] } ∧
      LeavesAlike grammar remembered.attempts remembered.nodes ended.builder.nodes := by
  have soundBoth : (stream.freshWith state.builder).Sound grammar :=
    ⟨paired.streamSound.unlimited, paired.streamSound.memory⟩
  have alike : Seen Prod.snd (stream.freshWith state.builder) stream.fresh :=
    ⟨stream.state.remarks, stream.state.probes, rfl⟩
  have keepable : (stream.freshWith state.builder).cache = none ∨ True := .inr trivial
  have seen := isView_second.pass (fun _ => discreet_both.candid Emitter.discreet _) free alike
    keepable
  have records := descend_recording (emissionChronicle grammar) discreet_both free
    ((stream.freshWith state.builder).depthBound grammar) grammar.root
    { stream.freshWith state.builder with attempts := .none, journal := [], mark := none }
    paired.recalls
  change Records _ _ (Packrat.pass grammar (stream.freshWith state.builder)) at records
  have scanner : state.scanner = (stream.freshWith state.builder).scanner := paired.scanner
  rcases pass_pair NodeStack.ledger NodeStack.ledger.ofFirst free scanner paired.sound
      soundBoth with
    ⟨result, known, answers, bothAnswers⟩ | ⟨diverged, _⟩
  · rw [passed] at answers
    cases result with
    | failure attempts =>
      have still : next.scanner = state.scanner := by
        rw [answers.scanner]
        exact Scanner.moveTo_position rfl
      exact absurd (congrArg Scanner.position still) onward
    | success remembered =>
      have outcome : (Packrat.pass grammar (stream.freshWith state.builder)).1 = .matched :=
        bothAnswers.outcome
      generalize Packrat.pass grammar (stream.freshWith state.builder) = both at *
      generalize streamPassed : Packrat.pass grammar stream.fresh = streamResult at seen
      obtain ⟨_, seenEnd, _⟩ := seen
      obtain rfl := outcome
      obtain ⟨_, _, rfl⟩ := seenEnd
      cases records with
      | matched recorded =>
      have root := answers.builder.trans (NodeStack.adding_root paired.closed remembered.nodes)
      refine ⟨remembered, _, known, answers.scanner, congrArg (·.root.nodes) root, rfl, ?_, ?_⟩
      · refine ⟨paired.grammar_eq, ?_, paired.sound.restarted.answered answers, ?_, ?_,
          congrArg NodeStack.inner root, rfl, paired.running⟩
        · exact answers.scanner.trans (paired.scanner ▸ bothAnswers.scanner.symm)
        · have soundNext := soundBoth.restarted.answered bothAnswers
          exact ⟨soundNext.unlimited, soundNext.memory⟩
        · exact recorded.recalls
      · exact recorded.leavesAlike paired.closed rfl rfl
          (bothAnswers.journal.trans (List.append_nil _)) bothAnswers.builder
  · rw [passed] at diverged
    contradiction

/-! ## Runs -/

/-- Whether the events of every pass from a cursor on meet a condition, as far as passes take
something and at most `budget` of them are looked at. -/
def Grammar.everyPass (grammar : Grammar P) (condition : List Event → Bool) : Nat → Scanner → Bool
  | 0, _ => true
  | budget + 1, here =>
    here.atEnd ||
      match finalVerdict grammar grammar.root here with
      | some (.success remembered) =>
        condition (Attempt.eventsAll grammar 0 remembered.attempts) &&
          everyPass grammar condition budget (here.moveTo remembered.stop)
      | _ => true

/-- If the passes of a build use up the source, a run of the stream yields, pass by pass, nodes that
relate to those of the build as the nodes of each pass do. -/
theorem Paired.yields (free : grammar.isProcedureFree = true) {condition : List Event → Bool}
    (Relates : List Node → List Node → Prop) (nothing : Relates [] [])
    (append : ∀ {nodes yielded later laterYielded}, Relates nodes yielded →
      Relates later laterYielded → Relates (nodes ++ later) (yielded ++ laterYielded))
    (each : ∀ {attempts nodes yielded}, LeavesAlike grammar attempts nodes yielded →
      condition (Attempt.eventsAll grammar 0 attempts) = true → Relates nodes yielded)
    {budget spare : Nat} (paired : Paired grammar state stream)
    (enough : state.source.length - state.position < spare)
    (met : grammar.everyPass condition spare state.scanner = true)
    (done : (runPasses grammar budget state).1 = none) :
    ∃ produced yielded last, stream.Yields yielded last ∧
      (runPasses grammar budget state).2.builder.root.nodes =
        state.builder.root.nodes ++ produced ∧ Relates produced yielded := by
  induction spare generalizing state stream budget with
  | zero => omega
  | succ spare ih =>
    rcases runPasses_done done with
      ⟨ended, same⟩ | ⟨unfinished, rest, next, rfl, passed, onward, same⟩
    · have finished : (stream.stopped || stream.state.scanner.atEnd) = true := by
        rw [← paired.scanner, ended, Bool.or_true]
      rw [same]
      exact ⟨[], [], stream, TokenStream.yields_nil paired.empty finished,
        (List.append_nil _).symm, nothing⟩
    · obtain ⟨remembered, streamNext, known, scanner, nodes, streamPassed, pairedNext, alike⟩ :=
        paired.pass free passed onward
      obtain ⟨reached, -, -⟩ := pass_forward NodeStack.ledger free paired.sound.memory passed
      have less : next.source.length - next.position < spare :=
        Nat.lt_of_lt_of_le (reached.remaining_lt onward) (Nat.le_of_lt_succ enough)
      simp only [Grammar.everyPass, unfinished, known, Bool.false_or, Bool.and_eq_true] at met
      rw [same] at done ⊢
      obtain ⟨produced, yielded, last, yields, later, related⟩ :=
        ih pairedNext less (scanner ▸ met.2) done
      refine ⟨remembered.nodes ++ produced, streamNext.builder.nodes ++ yielded, last, ?_, ?_,
        append (each alike met.1) related⟩
      · obtain rfl := paired.grammar_eq
        refine yields.moved ⟨free, paired.streamSound.memory⟩ paired.empty paired.running
          (paired.scanner ▸ unfinished) streamPassed fun still => onward ?_
        exact (congrArg Scanner.position pairedNext.scanner).trans
          (still.trans (congrArg Scanner.position paired.scanner).symm)
      · rw [later, nodes, List.append_assoc]

/-! ## Builds and streams -/

/-- The nodes that a build leaves in the root frame. -/
def Constructor.rootNodes (constructor : Constructor P) (source : Source) : List Node :=
  (parse constructor.grammar (constructor.start source)).2.builder.root.nodes

/-- The passes of a build that succeeds use up the source, and its tree is gathered from the root
frame. -/
theorem Constructor.gather_rootNodes (constructor : Constructor P)
    (free : constructor.grammar.isProcedureFree = true) {source : Source} {tree : Node}
    (built : (constructor.build source).1.result = .ok tree) :
    (parse constructor.grammar (constructor.start source)).1 = none ∧
      Node.gather (constructor.rootNodes source) = some tree := by
  have generated := congrArg Prod.fst (constructor.construct_generates source)
  obtain ⟨done, gathered⟩ := gathered_of_generate (generated.symm.trans built)
  have closed : (parse constructor.grammar (constructor.start source)).2.builder.inner = [] :=
    inner_runPasses (Grammar.IsPassive.of_isProcedureFree free) _ rfl
  refine ⟨done, ?_⟩
  rwa [NodeStack.top, closed, List.head?_nil, Option.getD_none] at gathered

omit [Procedures P] in
/-- A build and a stream over one source are paired at its start if there is no call limit. -/
theorem paired_start (grammar : Grammar P) {config : Config} (unlimited : config.callLimit = none)
    (source : Source) :
    Paired grammar ((Constructor.make grammar config).start source)
      (TokenStream.start grammar config source) := by
  refine ⟨rfl, rfl, (Constructor.make grammar config).start_sound source unlimited,
    ⟨unlimited, Oracle.backs_initial _ source config Emitter.initial⟩, fun slot stored => ?_, rfl,
    rfl, rfl⟩
  rw [TokenStream.start, State.memory_initial] at stored
  contradiction

/-- Whether in every pass over a source no rule fails at a shallower level than a node left before.
-/
def Grammar.isOrderlyOn (grammar : Grammar P) (source : Source) : Bool :=
  grammar.everyPass (fun events => decide (Orderly events)) (source.length + 1) (.start source)

/-- Whether besides in no pass over a source a rule hides a node left inside it. -/
def Grammar.isPlainOn (grammar : Grammar P) (source : Source) : Bool :=
  grammar.everyPass (fun events => decide (Orderly events ∧ .hidden ∉ events)) (source.length + 1)
    (.start source)

/-- If a build succeeds, and in no pass a rule fails at a shallower level than a node left before,
the nodes of the build's root frame are among those that a stream yields, in order and without their
children, under a procedure-free grammar in which no rule with a token is replaced by its children.
-/
theorem TokenStream.rootNodes_sublist_yields (grammar : Grammar P)
    (free : grammar.isProcedureFree = true) (keeps : grammar.keepsNodes = true) (config : Config)
    (unlimited : config.callLimit = none) (source : Source)
    (orderly : grammar.isOrderlyOn source = true) {tree : Node}
    (built : ((Constructor.make grammar config).build source).1.result = .ok tree) :
    Node.gather ((Constructor.make grammar config).rootNodes source) = some tree ∧
      ∃ yielded last, (TokenStream.start grammar config source).Yields yielded last ∧
        (((Constructor.make grammar config).rootNodes source).map Node.stripped).Sublist
          yielded := by
  obtain ⟨done, gathered⟩ := (Constructor.make grammar config).gather_rootNodes free built
  obtain ⟨produced, yielded, last, yields, nodes, related⟩ :=
    (paired_start grammar unlimited source).yields free
      (fun nodes yielded => (nodes.map Node.stripped).Sublist yielded) .slnil
      (fun first second => by rw [List.map_append]; exact first.append second)
      (fun alike met => alike.complete keeps (of_decide_eq_true met)) (Nat.lt_succ_self _) orderly
      done
  have same : (Constructor.make grammar config).rootNodes source = produced := nodes
  exact ⟨gathered, yielded, last, yields, same ▸ related⟩

/-- A word and a shout have a tree. -/
theorem Constructor.exists_tree_shouts :
    ∃ tree, ((Constructor.make .shouts (Config.default.withCache 1 1)).build
      ⟨['a', ' ', 'b', '!']⟩).1.result = .ok tree := by
  have accepted : ((Constructor.make .shouts (Config.default.withCache 1 1)).build
      ⟨['a', ' ', 'b', '!']⟩).1.result.isOk = true := by
    decide +kernel
  cases built : ((Constructor.make .shouts (Config.default.withCache 1 1)).build
      ⟨['a', ' ', 'b', '!']⟩).1.result with
  | ok tree => exact ⟨tree, rfl⟩
  | error reason =>
    rw [built] at accepted
    contradiction

/-- Every node of a word and a shout is yielded, with room for one failure in the cache. -/
theorem TokenStream.rootNodes_sublist_yields_shouts :
    ∃ tree yielded last,
      ((Constructor.make .shouts (Config.default.withCache 1 1)).build
        ⟨['a', ' ', 'b', '!']⟩).1.result = .ok tree ∧
      (TokenStream.start .shouts (Config.default.withCache 1 1) ⟨['a', ' ', 'b', '!']⟩).Yields
        yielded last ∧
      (((Constructor.make .shouts (Config.default.withCache 1 1)).rootNodes
        ⟨['a', ' ', 'b', '!']⟩).map Node.stripped).Sublist yielded := by
  obtain ⟨tree, built⟩ := Constructor.exists_tree_shouts
  obtain ⟨_, yielded, last, yields, among⟩ := rootNodes_sublist_yields .shouts
    Grammar.isProcedureFree_shouts (by decide +kernel) (Config.default.withCache 1 1) rfl
    ⟨['a', ' ', 'b', '!']⟩ (by decide +kernel) built
  exact ⟨tree, yielded, last, built, yields, among⟩

/-- Entries that are a letter and a comma, one or more of them. -/
def Grammar.entries : Grammar where
  rules :=
    #[⟨none, "a", ⟨.structural (.named "a"), .one, false, false⟩, .empty,
        .own (.terminal (.range 'a' 'a'))⟩,
      ⟨none, ",", .scanning, .empty, .own (.terminal (.range ',' ','))⟩,
      ⟨none, "(a ,)", .scanning, .empty, .own (.sequence [0, 1])⟩,
      ⟨none, "((a ,))+", ⟨.scanning, .oneOrMore, false, false⟩, .empty, .own (.group 2)⟩]
  names := []
  root := 3

/-- A build of one entry has its node, but a stream yields nothing: the second entry that is looked
for in vain fails at a shallower level than the node of the first, and takes it back. -/
theorem TokenStream.entries_yields_nothing :
    Grammar.entries.isProcedureFree = true ∧ Grammar.entries.keepsNodes = true ∧
      ((Constructor.make .entries .default).build ⟨['a', ',']⟩).1.result.isOk = true ∧
      ((Constructor.make .entries .default).rootNodes ⟨['a', ',']⟩).map Node.span = [⟨0, 1⟩] ∧
      ∃ last, (TokenStream.start .entries .default ⟨['a', ',']⟩).Yields [] last := by
  have none : (TokenStream.start .entries .default ⟨['a', ',']⟩).next.1.isNone = true := by
    decide +kernel
  exact ⟨by decide +kernel, by decide +kernel, by decide +kernel, by decide +kernel, _,
    .of_none none⟩

/-- If a build succeeds, and in no pass a rule fails at a shallower level than a node left before or
hides a node left inside it, the nodes that a stream yields are among those of the build's root
frame, in order and without their children, under a procedure-free grammar. -/
theorem TokenStream.yields_sublist_rootNodes (grammar : Grammar P)
    (free : grammar.isProcedureFree = true) (config : Config)
    (unlimited : config.callLimit = none) (source : Source)
    (plain : grammar.isPlainOn source = true) {tree : Node}
    (built : ((Constructor.make grammar config).build source).1.result = .ok tree) :
    Node.gather ((Constructor.make grammar config).rootNodes source) = some tree ∧
      ∃ yielded last, (TokenStream.start grammar config source).Yields yielded last ∧
        yielded.Sublist
          (((Constructor.make grammar config).rootNodes source).map Node.stripped) := by
  obtain ⟨done, gathered⟩ := (Constructor.make grammar config).gather_rootNodes free built
  obtain ⟨produced, yielded, last, yields, nodes, related⟩ :=
    (paired_start grammar unlimited source).yields free
      (fun nodes yielded => yielded.Sublist (nodes.map Node.stripped)) .slnil
      (fun first second => by rw [List.map_append]; exact first.append second)
      (fun alike met => alike.sound (of_decide_eq_true met).1 (of_decide_eq_true met).2)
      (Nat.lt_succ_self _) plain done
  have same : (Constructor.make grammar config).rootNodes source = produced := nodes
  exact ⟨gathered, yielded, last, yields, same ▸ related⟩

/-- A stream over a word and a shout yields no other nodes than theirs, with room for one failure in
the cache. -/
theorem TokenStream.yields_sublist_rootNodes_shouts :
    ∃ tree yielded last,
      ((Constructor.make .shouts (Config.default.withCache 1 1)).build
        ⟨['a', ' ', 'b', '!']⟩).1.result = .ok tree ∧
      (TokenStream.start .shouts (Config.default.withCache 1 1) ⟨['a', ' ', 'b', '!']⟩).Yields
        yielded last ∧
      yielded.Sublist (((Constructor.make .shouts (Config.default.withCache 1 1)).rootNodes
        ⟨['a', ' ', 'b', '!']⟩).map Node.stripped) := by
  obtain ⟨tree, built⟩ := Constructor.exists_tree_shouts
  obtain ⟨_, yielded, last, yields, among⟩ := yields_sublist_rootNodes .shouts
    Grammar.isProcedureFree_shouts (Config.default.withCache 1 1) rfl ⟨['a', ' ', 'b', '!']⟩
    (by decide +kernel) built
  exact ⟨tree, yielded, last, built, yields, among⟩

/-- A letter in a group that is skipped, and then another letter. -/
def Grammar.veiled : Grammar where
  rules :=
    #[⟨none, "a", ⟨.structural (.named "a"), .one, false, false⟩, .empty,
        .own (.terminal (.range 'a' 'a'))⟩,
      ⟨none, "-(a)", ⟨.skipping, .one, false, false⟩, .empty, .own (.group 0)⟩,
      ⟨none, "b", ⟨.structural (.named "b"), .one, false, false⟩, .empty,
        .own (.terminal (.range 'b' 'b'))⟩,
      ⟨none, "(-(a) b)", .scanning, .empty, .own (.sequence [1, 2])⟩]
  names := []
  root := 3

/-- A build leaves out the node inside the group that is skipped, but a stream yields it. -/
theorem TokenStream.veiled_yields_both :
    Grammar.veiled.isProcedureFree = true ∧
      ((Constructor.make .veiled .default).build ⟨['a', 'b']⟩).1.result.isOk = true ∧
      ((Constructor.make .veiled .default).rootNodes ⟨['a', 'b']⟩).map Node.span = [⟨1, 2⟩] ∧
      ∃ first second last,
        (TokenStream.start .veiled .default ⟨['a', 'b']⟩).Yields [first, second] last ∧
          first.span = ⟨0, 1⟩ ∧ second.span = ⟨1, 2⟩ := by
  have some : (TokenStream.start .veiled .default ⟨['a', 'b']⟩).next.1.isSome = true := by
    decide +kernel
  have more : (TokenStream.start .veiled .default ⟨['a', 'b']⟩).next.2.next.1.isSome = true := by
    decide +kernel
  have none :
      (TokenStream.start .veiled .default ⟨['a', 'b']⟩).next.2.next.2.next.1.isNone = true := by
    decide +kernel
  refine ⟨by decide +kernel, by decide +kernel, by decide +kernel, _, _, _,
    .of_some some (.of_some more (.of_none none)), ?_, ?_⟩
  · decide +kernel +revert
  · decide +kernel +revert

end Packrat
