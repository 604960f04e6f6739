import Packrat.Proofs.ErrorNodes

/-!
# Leaves and the source

The leaves of a tree, read one after the other, give back the source, if every rule that takes
characters itself leaves a node and no node is dropped (`Grammar.showsText`). What a rule takes is
then the text of the leaves it leaves (`Oracle.Tells`): a terminal and a negated rule are the leaf,
and every other rule takes what its parts take. Lookahead, backtracking and error nodes take
nothing, and passes start where the pass before them ended, so the root frame always holds the text
up to the cursor (`Transcribed`).
-/

namespace Packrat

variable {P : Type}

/-! ## The text of leaves -/

namespace Node

/-- The characters that the leaves of several trees cover, one leaf after the other. -/
def leafChars (source : Source) (nodes : List Node) : List Char :=
  ((forestDescendants nodes).filter (·.children.isEmpty)).flatMap fun leaf =>
    source.between leaf.span.start leaf.span.stop

variable (source : Source)

/-- No nodes have no text. -/
theorem leafChars_nil : leafChars source [] = [] := by
  simp [leafChars, forestDescendants]

/-- The text of several trees is that of the first and that of the others. -/
theorem leafChars_append (earlier later : List Node) :
    leafChars source (earlier ++ later) = leafChars source earlier ++ leafChars source later := by
  simp only [leafChars, forestDescendants_append, List.filter_append, List.flatMap_append]

/-- The text of a leaf is what it covers. -/
theorem leafChars_leaf (token : Token) (span : Span) (annotations : Annotations) :
    leafChars source [.mk token span annotations []] = source.between span.start span.stop := by
  simp [leafChars, forestDescendants, descendants, children, Node.span]

/-- The text of a node with children is that of the children. -/
theorem leafChars_node (token : Token) (span : Span) (annotations : Annotations)
    {nodes : List Node} (inhabited : nodes ≠ []) :
    leafChars source [.mk token span annotations nodes] = leafChars source nodes := by
  have inner : (Node.mk token span annotations nodes).children.isEmpty = false := by
    simp [children, inhabited]
  simp only [leafChars, forestDescendants, List.append_nil, descendants]
  rw [List.filter_cons_of_neg (by simp [inner])]

/-- Gathering nodes under one root keeps their text. -/
theorem leafChars_gather {nodes : List Node} {tree : Node}
    (gathered : gather nodes = some tree) : leafChars source [tree] = leafChars source nodes := by
  unfold gather at gathered
  split at gathered
  · contradiction
  · obtain rfl := Option.some.inj gathered
    rfl
  · rename_i inhabited _
    obtain rfl := Option.some.inj gathered
    exact leafChars_node source _ _ _ inhabited

/-- The leaves of a tree, joined, are its text. -/
theorem join_leaves (tree : Node) :
    String.join (tree.leaves.map fun leaf => leaf.covered source) =
      String.ofList (leafChars source [tree]) := by
  have whole : forestDescendants [tree] = tree.descendants := by
    rw [forestDescendants, forestDescendants, List.append_nil]
  rw [leafChars, whole, leaves]
  induction tree.descendants.filter (·.children.isEmpty) with
  | nil => rfl
  | cons leaf later ih =>
    rw [List.map_cons, String.join_cons, ih, List.flatMap_cons, String.ofList_append, covered,
      Source.slice, Source.within_eq]

end Node

/-! ## Grammars that show the text -/

/-- Whether a rule takes characters itself: its test is a terminal, or it takes a character where
its test fails. -/
def Grammar.takesItself (grammar : Grammar P) (rule : Occurrence P) : Bool :=
  (grammar.testOf rule).isTerminal || rule.behaviour.negate

/-- Whether a rule of a grammar shows the text that is taken: it only looks ahead, or nothing that
it leaves is dropped and, if it takes characters itself, it leaves a node. -/
def Grammar.ruleShowsText (grammar : Grammar P) (rule : Occurrence P) : Bool :=
  rule.behaviour.lookahead ||
    (rule.shape != .discarded && (!grammar.takesItself rule || rule.shape == .node))

/-- Whether every rule of a grammar shows the text that is taken. -/
def Grammar.showsText (grammar : Grammar P) : Bool :=
  grammar.rules.toList.all grammar.ruleShowsText

/-- The rules of a grammar that shows the text show it, also one outside the table. -/
theorem Grammar.showsText_rule {grammar : Grammar P} (shows : grammar.showsText = true)
    (id : RuleId) (taking : (grammar.rule id).behaviour.lookahead = false) :
    (grammar.rule id).shape ≠ .discarded ∧
      (grammar.takesItself (grammar.rule id) = true → (grammar.rule id).shape = .node) := by
  have held : grammar.ruleShowsText (grammar.rule id) = true := by
    unfold Grammar.rule
    cases found : grammar.rules[id]? with
    | none => rfl
    | some occurrence =>
      exact List.all_eq_true.mp shows occurrence (Array.mem_of_getElem? found).val
  unfold Grammar.ruleShowsText at held
  rw [taking] at held
  simp only [Bool.false_or, Bool.and_eq_true, Bool.or_eq_true, Bool.not_eq_true', bne_iff_ne,
    beq_iff_eq] at held
  obtain ⟨kept, node⟩ := held
  refine ⟨kept, fun itself => node.resolve_left ?_⟩
  rw [itself]
  decide

/-- A rule that leaves a node has a token. -/
theorem Occurrence.exists_token {rule : Occurrence P} (node : rule.shape = .node) :
    ∃ token, rule.token = some token := by
  unfold Occurrence.shape at node
  unfold Occurrence.token Behaviour.token
  split at node
  · rename_i token kind
    rw [kind]
    exact ⟨_, rfl⟩
  · contradiction
  · contradiction

/-! ## Verdicts tell the text -/

/-- Every reply of an oracle that lets the rule around go on has the text that was taken. -/
def Oracle.Tells (grammar : Grammar P) (oracle : Oracle) : Prop :=
  ∀ id here result, oracle id here = some result →
    (result.reply grammar (grammar.rule id) here.position).matched = true →
      Node.leafChars here.source (result.reply grammar (grammar.rule id) here.position).nodes =
        here.source.between here.position
          (result.reply grammar (grammar.rule id) here.position).stop

namespace Trial

variable {grammar : Grammar P} {oracle : Oracle}

/-- Trials that only match parts have collected the text up to the cursor. -/
theorem keepsParts_text (forward : oracle.Forward) (tells : oracle.Tells grammar)
    (origin : Scanner) :
    KeepsParts grammar oracle fun progress => origin.Reaches progress.scanner ∧
      Node.leafChars origin.source progress.nodes =
        origin.source.between origin.position progress.scanner.position where
  journal progress journal held := held
  call id progress next held matched := by
    obtain ⟨reached, collected⟩ := held
    have onward := (keeps_reaches forward origin).call id progress next reached matched
    obtain ⟨result, known, taken⟩ := exists_of_call matched
    obtain ⟨accepted, rfl⟩ := Progress.eq_of_take taken
    obtain ⟨behind, inside⟩ := forward.reply grammar known
    have told := tells id progress.scanner result known accepted
    rw [reached.source] at told
    refine ⟨onward, ?_⟩
    simp only [Node.leafChars_append, collected, told, Scanner.position_moveTo inside]
    exact origin.source.between_append reached.forward behind

/-- An iteration of a rule that takes characters itself collects nothing. -/
theorem once_of_takesItself {rule : Occurrence P} (itself : grammar.takesItself rule = true)
    {progress next : Progress} (matched : once grammar oracle rule progress = .matched next) :
    next.nodes = progress.nodes ∧ next.mark = progress.mark := by
  unfold once at matched
  split at matched
  · unfold refute at matched
    split at matched
    · contradiction
    · simp only at matched
      split at matched
      · obtain rfl := Trial.matched.inj matched
        exact ⟨rfl, rfl⟩
      · split at matched
        · obtain rfl := Trial.matched.inj matched
          exact ⟨rfl, rfl⟩
        · contradiction
    · contradiction
  · rename_i plain
    have terminal : (grammar.testOf rule).isTerminal = true := by
      simpa [Grammar.takesItself, plain] using itself
    cases scanned : grammar.testOf rule with
    | terminal terminal =>
      rw [scanned, test] at matched
      split at matched
      · obtain rfl := Trial.matched.inj matched
        exact ⟨rfl, rfl⟩
      · contradiction
    | _ =>
      rw [scanned] at terminal
      contradiction

/-- Repetition of a rule that takes characters itself collects nothing and trims nothing. -/
theorem rounds_of_takesItself {rule : Occurrence P} (itself : grammar.takesItself rule = true)
    {budget count : Nat} {origin : Scanner} {ended : Progress}
    (matched : rounds grammar oracle rule budget count (.start origin) = .matched ended) :
    ended.nodes = [] ∧ ended.mark = .start origin.position := by
  have kept : ∀ progress next : Progress,
      progress.nodes = [] ∧ progress.mark = .start origin.position →
      once grammar oracle rule progress = .matched next →
      next.nodes = [] ∧ next.mark = .start origin.position := by
    intro progress next held iterated
    obtain ⟨nodes, mark⟩ := once_of_takesItself itself iterated
    exact ⟨nodes.trans held.1, mark.trans held.2⟩
  exact rounds_keeps (fun _ _ held => held) kept ⟨rfl, rfl⟩ matched

/-- Repetition of a rule that does not take characters itself collects the text up to the cursor. -/
theorem rounds_of_parts (forward : oracle.Forward) (tells : oracle.Tells grammar)
    {rule : Occurrence P} (noProcedure : (grammar.testOf rule).isNoProcedure = true)
    (parts : grammar.takesItself rule = false) {budget count : Nat} {origin : Scanner}
    {ended : Progress}
    (matched : rounds grammar oracle rule budget count (.start origin) = .matched ended) :
    Node.leafChars origin.source ended.nodes =
      origin.source.between origin.position ended.scanner.position := by
  obtain ⟨noTerminal, plain⟩ : (grammar.testOf rule).isTerminal = false ∧
      rule.behaviour.negate = false := by
    simpa [Grammar.takesItself] using parts
  have through : Grammar.throughRules (grammar.testOf rule) = true := by
    cases tested : grammar.testOf rule with
    | terminal terminal => simp [tested, Test.isTerminal] at noTerminal
    | procedure steps => simp [tested, Test.isNoProcedure] at noProcedure
    | _ => rfl
  have nothing : Node.leafChars origin.source (Progress.start origin).nodes =
      origin.source.between origin.position origin.position := by
    rw [origin.source.between_of_le (Nat.le_refl _)]
    exact Node.leafChars_nil _
  exact ((keepsParts_text forward tells origin).rounds plain through ⟨.refl origin, nothing⟩
    matched).2

end Trial

/-- A node that a rule leaves around nodes with the text taken has that text: if there are no nodes
nothing was taken, and the node covers nothing. -/
theorem leafChars_around {source : Source} {origin position : Nat} {mark : Mark}
    {nodes : List Node} (laid : Laid source.length origin position mark nodes)
    (text : Node.leafChars source nodes = source.between origin position) (token : Token)
    (annotations : Annotations) :
    Node.leafChars source [.mk token (mark.content position) annotations nodes] =
      source.between origin position := by
  by_cases childless : nodes = []
  · subst childless
    obtain ⟨starts, ordered, stops, -⟩ := laid.content
    have taken : (source.between origin position).length = position - origin :=
      source.length_between laid.inside
    rw [← text, Node.leafChars_nil, List.length_nil] at taken
    rw [Node.leafChars_leaf, source.between_of_le (by omega), source.between_of_le (by omega)]
  · rw [Node.leafChars_node source _ _ _ childless, text]

/-- What a match leaves has the text that was taken, if its rule shows it. -/
theorem production_text {grammar : Grammar P} {oracle : Oracle} (lays : oracle.Lays grammar)
    (forward : oracle.Forward) (tells : oracle.Tells grammar) {id : RuleId} {here : Scanner}
    (noProcedure : (grammar.testOf (grammar.rule id)).isNoProcedure = true)
    (kept : (grammar.rule id).shape ≠ .discarded)
    (shown : grammar.takesItself (grammar.rule id) = true → (grammar.rule id).shape = .node)
    {budget : Nat} {ended : Progress}
    (matched : Trial.rounds grammar oracle (grammar.rule id) budget 0 (.start here) =
      .matched ended) :
    Node.leafChars here.source
        ((production (grammar.rule id) (ended.mark.content ended.scanner.position)).leaves
          ended.nodes) =
      here.source.between here.position ended.scanner.position := by
  have reached := (Trial.keeps_reaches forward here).rounds (.refl here) matched
  have source : ended.scanner.source = here.source := reached.source
  have laid := (Trial.keeps_laid lays here.position).rounds (Laid.start here.inside) matched
  rw [source] at laid
  cases itself : grammar.takesItself (grammar.rule id) with
  | true =>
    obtain ⟨childless, unmarked⟩ := Trial.rounds_of_takesItself itself matched
    obtain ⟨token, named⟩ := Occurrence.exists_token (shown itself)
    have span : (Mark.start here.position).content ended.scanner.position =
        ⟨here.position, ended.scanner.position⟩ := by
      have ahead := reached.forward
      simp only [Mark.content, Mark.start]
      congr 1
      omega
    rw [production, shown itself, named, childless, unmarked, span]
    exact Node.leafChars_leaf _ _ _ _
  | false =>
    have text := Trial.rounds_of_parts forward tells noProcedure itself matched
    unfold production
    split
    · exact leafChars_around laid text _ _
    · rename_i discarded
      contradiction
    · exact text

/-- If the verdicts on parts tell the text, so do those that follow from them. -/
theorem Oracle.Tells.step {grammar : Grammar P} (free : grammar.isProcedureFree = true)
    (shows : grammar.showsText = true) {oracle : Oracle} (lays : oracle.Lays grammar)
    (forward : oracle.Forward) (tells : oracle.Tells grammar) :
    (oracle.step grammar).Tells grammar := by
  intro id here result known accepted
  unfold Oracle.step Trial.conclude at known
  split at known
  · rename_i ended repeated
    obtain rfl := Option.some.inj known
    simp only [MatchResult.reply, Trial.remembered]
    cases taking : (grammar.rule id).behaviour.lookahead with
    | true =>
      change Node.leafChars here.source [] = here.source.between here.position here.position
      rw [Node.leafChars_nil, here.source.between_of_le (Nat.le_refl _)]
    | false =>
      obtain ⟨kept, shown⟩ := Grammar.showsText_rule shows id taking
      exact production_text lays forward tells (grammar.testOf_isNoProcedure free id) kept shown
        repeated
  · obtain rfl := Option.some.inj known
    simp only [MatchResult.reply] at accepted ⊢
    rw [if_pos accepted, errorNode, Node.leaf, Node.leafChars_leaf]
    rfl
  · contradiction

/-- Verdicts tell the text. -/
theorem verdict_tells {grammar : Grammar P} (free : grammar.isProcedureFree = true)
    (shows : grammar.showsText = true) (depth : Nat) : (verdict grammar depth).Tells grammar := by
  induction depth with
  | zero => exact fun id here result known => by contradiction
  | succ depth ih =>
    exact ih.step free shows (verdict_lays grammar depth) (verdict_forward grammar depth)

/-! ## Passes -/

/-- A state between passes over a source whose root frame holds the text up to the cursor. -/
structure Transcribed (grammar : Grammar P) (source : Source) (state : State NodeStack) : Prop where
  /-- The state is about the source. -/
  inSource : state.source = source
  /-- No rule is open. -/
  closed : state.builder.inner = []
  /-- The leaves in the root frame have the text up to the cursor. -/
  text : Node.leafChars source state.builder.root.nodes = source.between 0 state.position
  /-- The cache remembers only verdicts. -/
  memory : (finalVerdict grammar).Backs state.source state.memory

variable [Procedures P]

/-- A pass that matches adds to the root frame the text that it takes. -/
theorem Transcribed.pass {grammar : Grammar P} (free : grammar.isProcedureFree = true)
    (shows : grammar.showsText = true) {source : Source} {state next : State NodeStack}
    (transcribed : Transcribed grammar source state)
    (passed : pass grammar state = (.matched, next)) : Transcribed grammar source next := by
  obtain ⟨result, known, answers⟩ :=
    pass_answered NodeStack.ledger free transcribed.memory passed
  obtain ⟨behind, inside⟩ := (finalVerdict_forward grammar).reply grammar known
  have accepted : (result.reply grammar (grammar.rule grammar.root) state.position).matched =
      true := by
    have outcome := answers.outcome
    simp only at outcome
    split at outcome
    · assumption
    · contradiction
  have told := verdict_tells free shows _ grammar.root state.scanner result known accepted
  have same : state.scanner.source = source := transcribed.inSource
  have sameNext : next.source = state.source := answers.source_eq
  have stack := answers.builder.trans (NodeStack.adding_root transcribed.closed _)
  have stopped : next.position =
      (result.reply grammar (grammar.rule grammar.root) state.position).stop :=
    (congrArg Scanner.position answers.scanner).trans (Scanner.position_moveTo inside)
  refine ⟨sameNext.trans transcribed.inSource, congrArg NodeStack.inner stack, ?_,
    sameNext ▸ answers.memory⟩
  rw [same] at told
  have root := congrArg (fun stack : NodeStack => stack.root.nodes) stack
  calc
    Node.leafChars source next.builder.root.nodes =
        Node.leafChars source state.builder.root.nodes ++ Node.leafChars source _ := by
      rw [← Node.leafChars_append]
      exact congrArg (Node.leafChars source) root
    _ = source.between 0 state.position ++ source.between state.position _ :=
      congrArg₂ (· ++ ·) transcribed.text told
    _ = source.between 0 next.position := by
      rw [stopped]
      exact source.between_append (Nat.zero_le _) behind

/-- Passes that use up the source end at its end. -/
theorem atEnd_of_done {β : Type} [Builder β] {grammar : Grammar P} {budget : Nat} {state : State β}
    (done : (runPasses grammar budget state).1 = none) :
    (runPasses grammar budget state).2.scanner.atEnd = true := by
  induction budget generalizing state with
  | zero =>
    rcases runPasses_done done with ⟨ended, same⟩ | ⟨-, rest, next, room, -⟩
    · rw [same]
      exact ended
    · contradiction
  | succ budget ih =>
    rcases runPasses_done done with ⟨ended, same⟩ | ⟨-, rest, next, room, -, -, same⟩
    · rw [same]
      exact ended
    · obtain rfl : budget = rest := Nat.succ.inj room
      rw [same] at done ⊢
      exact ih done

namespace Constructor

omit [Procedures P] in
/-- A build starts with no text and no nodes. -/
theorem start_transcribed (constructor : Constructor P) (source : Source) :
    Transcribed constructor.grammar source (constructor.start source) := by
  refine ⟨rfl, rfl, ?_, Oracle.backs_initial _ source _ _⟩
  change Node.leafChars source [] = source.between 0 0
  rw [Node.leafChars_nil, source.between_of_le (Nat.le_refl _)]

/-- The leaves of a tree that is built, joined in order, are the source, if the grammar is
procedure-free and shows the text that is taken, whatever the settings. -/
theorem build_leaves_eq_source (constructor : Constructor P)
    (free : constructor.grammar.isProcedureFree = true)
    (shows : constructor.grammar.showsText = true) (source : Source) {tree : Node}
    (built : (constructor.build source).1.result = .ok tree) :
    String.join (tree.leaves.map fun leaf => leaf.covered source) = source.text := by
  have generated := congrArg Prod.fst (constructor.construct_generates source)
  obtain ⟨done, gathered⟩ := gathered_of_generate (generated.symm.trans built)
  have transcribed : Transcribed constructor.grammar source
      (parse constructor.grammar (constructor.start source)).2 :=
    runPasses_keeps (fun state next held passed => held.pass free shows passed)
      (constructor.start_transcribed source) done
  have ended := atEnd_of_done done
  change (parse constructor.grammar (constructor.start source)).2.scanner.atEnd = true at ended
  generalize (parse constructor.grammar (constructor.start source)).2 = last at *
  have position : last.position = source.length := by
    have inside := last.scanner.inside
    have beyond : last.source.length ≤ last.position := of_decide_eq_true ended
    change last.position ≤ last.source.length at inside
    rw [transcribed.inSource] at inside beyond
    omega
  have top : last.builder.top = last.builder.root := by
    rw [NodeStack.top, transcribed.closed, List.head?_nil, Option.getD_none]
  rw [top] at gathered
  rw [Node.join_leaves, Node.leafChars_gather source gathered, transcribed.text, position,
    source.between_all, Source.text]

end Constructor

/-- Words and the rest: a letter run before a mark, or a letter run before anything else, told apart
by looking ahead and by backtracking, and otherwise one character that is no letter. -/
def Grammar.excerpts : Grammar where
  rules :=
    #[⟨some "letters", "letters", ⟨.structural (.named "letters"), .oneOrMore, false, false⟩,
        .empty, .own (.terminal (.range 'a' 'z'))⟩,
      ⟨some "mark", "mark", ⟨.structural (.named "mark"), .one, false, false⟩, ⟨[(.pinned, .set)]⟩,
        .own (.terminal (.range '!' '!'))⟩,
      ⟨none, "!letters", ⟨.structural (.named "other"), .one, true, false⟩, .empty,
        .own (.reference 0)⟩,
      ⟨none, ">>mark", ⟨.scanning, .one, false, true⟩, .empty,
        .own (.terminal (.range '!' '?'))⟩,
      ⟨none, "letters >>mark mark", ⟨.structural (.named "shout"), .one, false, false⟩, .empty,
        .own (.sequence [0, 3, 1])⟩,
      ⟨none, "shout | letters | other", .scanning, .empty, .own (.choice [4, 0, 2])⟩]
  names := ["letters", "mark"]
  root := 5

namespace Constructor

/-- A shout, a blank, a shout whose mark is missing and what stands in its place are all in the
leaves, with a small cache. -/
theorem build_leaves_eq_source_excerpts :
    ∃ tree, ((make .excerpts (Config.default.withCache 2 2)).build
        ⟨['a', 'b', '!', ' ', 'c', '?']⟩).1.result = .ok tree ∧
      String.join (tree.leaves.map fun leaf => leaf.covered ⟨['a', 'b', '!', ' ', 'c', '?']⟩) =
        Source.text ⟨['a', 'b', '!', ' ', 'c', '?']⟩ := by
  have accepted : ((make .excerpts (Config.default.withCache 2 2)).build
      ⟨['a', 'b', '!', ' ', 'c', '?']⟩).1.result.isOk = true := by
    decide +kernel
  cases built : ((make .excerpts (Config.default.withCache 2 2)).build
      ⟨['a', 'b', '!', ' ', 'c', '?']⟩).1.result with
  | error reason =>
    rw [built] at accepted
    contradiction
  | ok tree =>
    exact ⟨tree, rfl, build_leaves_eq_source _ (by decide +kernel) (by decide +kernel) _ built⟩

end Constructor

end Packrat
