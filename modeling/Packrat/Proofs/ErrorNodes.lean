import Packrat.Proofs.StreamDiagnostics

/-!
# Diagnostics and error nodes

A pinned rule that fails leaves two traces: a diagnostic and an error node. The diagnostics are cut
back where something is given up, the nodes go with the frames that held them, and a cached match
brings both back from separate lists. A verdict nevertheless has exactly the diagnostics that its
nodes show (`Oracle.Shows`), if no rule drops nodes whose diagnostics it keeps and no rule makes
nodes that look like errors (`Grammar.showsErrors`). So the passes keep the diagnostics those of the
root frame, and a build reports what the error nodes of its tree say.
-/

namespace Packrat

variable {P : Type}

/-! ## Diagnostics of nodes -/

/-- An annotation that was set has its value. -/
theorem Annotations.get?_insert (annotations : Annotations) (key : AnnotationKey)
    (value : AnnotationValue) : (annotations.insert key value).get? key = some value := by
  obtain ⟨entries⟩ := annotations
  change (insertEntry key value entries).lookup key = some value
  induction entries with
  | nil => simp [insertEntry]
  | cons entry later ih =>
    obtain ⟨other, old⟩ := entry
    unfold insertEntry
    by_cases same : other = key
    · rw [if_pos same, List.lookup_cons_self]
    · rw [if_neg same]
      split
      · rw [List.lookup_cons_self]
      · rw [List.lookup_cons, beq_false_of_ne (Ne.symm same)]
        exact ih

/-- A token is the error token if it has its name. -/
theorem Token.same_error (token : Token) : token.same .error = (token.name == "error") := by
  unfold same
  cases token.id <;> rfl

namespace Node

/-- The diagnostic of a node that stands for a failure recovered from. -/
def diagnostic? (node : Node) : Option Diagnostic :=
  node.errorMessage.map fun message => ⟨node.span, message⟩

/-- The diagnostics of several trees, in order. -/
def diagnosticsOf (nodes : List Node) : List Diagnostic :=
  (forestDescendants nodes).filterMap diagnostic?

/-- No nodes have no diagnostics. -/
theorem diagnosticsOf_nil : diagnosticsOf [] = [] := by
  rw [diagnosticsOf, forestDescendants, List.filterMap_nil]

/-- The diagnostics of several trees are those of the first and those of the others. -/
theorem diagnosticsOf_append (earlier later : List Node) :
    diagnosticsOf (earlier ++ later) = diagnosticsOf earlier ++ diagnosticsOf later := by
  rw [diagnosticsOf, forestDescendants_append, List.filterMap_append, diagnosticsOf, diagnosticsOf]

/-- The diagnostics of a tree are those of its nodes. -/
theorem diagnosticsOf_singleton (node : Node) :
    diagnosticsOf [node] = node.descendants.filterMap diagnostic? := by
  rw [diagnosticsOf, forestDescendants, forestDescendants, List.append_nil]

/-- A node whose token is not named like an error has the diagnostics of its children. -/
theorem diagnosticsOf_node {token : Token} (other : token.name ≠ "error") (span : Span)
    (annotations : Annotations) (children : List Node) :
    diagnosticsOf [.mk token span annotations children] = diagnosticsOf children := by
  have silent : diagnostic? (.mk token span annotations children) = none := by
    have differs : token.same .error = false := by
      rw [Token.same_error, beq_eq_false_iff_ne]
      exact other
    rw [diagnostic?, errorMessage, Node.token, differs]
    rfl
  rw [diagnosticsOf_singleton, descendants, List.filterMap_cons_none silent, diagnosticsOf]

/-- The node of a rule that recovered has the diagnostic that was recorded. -/
theorem diagnosticsOf_errorNode (grammar : Grammar P) (rule : Occurrence P) (origin : Nat) :
    diagnosticsOf [errorNode grammar rule origin] =
      [⟨.point origin, recoveryMessage grammar rule⟩] := by
  have message : (errorNode grammar rule origin).errorMessage =
      some (recoveryMessage grammar rule) := by
    change (rule.annotations.insert .error (.text (recoveryMessage grammar rule))).textOf .error = _
    rw [Annotations.textOf, Annotations.get?_insert]
  have told : (errorNode grammar rule origin).diagnostic? =
      some ⟨.point origin, recoveryMessage grammar rule⟩ := by
    rw [diagnostic?, message]
    rfl
  rw [diagnosticsOf_singleton, errorNode, leaf, descendants, forestDescendants]
  exact List.filterMap_cons_some told

/-- The diagnostics of a tree are the spans and messages of its error nodes. -/
theorem map_diagnosticsOf (tree : Node) :
    (diagnosticsOf [tree]).map (fun diagnostic => (diagnostic.span, some diagnostic.message)) =
      tree.errors.map fun node => (node.span, node.errorMessage) := by
  rw [diagnosticsOf_singleton, errors]
  induction tree.descendants with
  | nil => rfl
  | cons node later ih =>
    cases message : node.errorMessage with
    | none =>
      have silent : node.diagnostic? = none := by rw [diagnostic?, message, Option.map_none]
      have plain : ¬ node.isError = true := by simp [isError, message]
      rw [List.filterMap_cons_none silent, List.filter_cons_of_neg plain, ih]
    | some text =>
      have told : node.diagnostic? = some ⟨node.span, text⟩ := by
        rw [diagnostic?, message, Option.map_some]
      have marked : node.isError = true := by simp [isError, message]
      rw [List.filterMap_cons_some told, List.filter_cons_of_pos marked, List.map_cons,
        List.map_cons, ih, message]

/-- Gathering nodes under one root adds no diagnostic. -/
theorem diagnosticsOf_gather {nodes : List Node} {tree : Node}
    (gathered : gather nodes = some tree) : diagnosticsOf [tree] = diagnosticsOf nodes := by
  unfold gather at gathered
  split at gathered
  · contradiction
  · obtain rfl := Option.some.inj gathered
    rfl
  · obtain rfl := Option.some.inj gathered
    exact diagnosticsOf_node (by decide) _ _ _

end Node

/-! ## Grammars that show their errors -/

/-- Whether a test is a terminal. -/
def Test.isTerminal : Test P → Bool
  | .terminal _ => true
  | _ => false

/-- Whether a rule of a grammar shows every failure recovered from inside it, and no others: it does
not look ahead, only a terminal is dropped, and its token is not named like an error. -/
def Grammar.ruleShowsErrors (grammar : Grammar P) (rule : Occurrence P) : Bool :=
  !rule.behaviour.lookahead &&
  (rule.shape != .discarded || (grammar.testOf rule).isTerminal) &&
  rule.token.all (·.name != "error")

/-- Whether every rule of a grammar shows the failures recovered from. -/
def Grammar.showsErrors (grammar : Grammar P) : Bool :=
  grammar.rules.toList.all grammar.ruleShowsErrors

/-- What there is to know about a rule that shows the failures recovered from. -/
structure Grammar.RuleShows (grammar : Grammar P) (rule : Occurrence P) : Prop where
  /-- The rule does not look ahead. -/
  here : rule.behaviour.lookahead = false
  /-- If the rule is dropped it is a terminal. -/
  terminal : rule.shape = .discarded → (grammar.testOf rule).isTerminal = true
  /-- The token of the rule is not named like an error. -/
  token : ∀ token, rule.token = some token → token.name ≠ "error"

/-- The rules of a grammar that shows its errors show them, also one outside the table. -/
theorem Grammar.showsErrors_rule {grammar : Grammar P} (shows : grammar.showsErrors = true)
    (id : RuleId) : grammar.RuleShows (grammar.rule id) := by
  have held : grammar.ruleShowsErrors (grammar.rule id) = true := by
    unfold Grammar.rule
    cases found : grammar.rules[id]? with
    | none => rfl
    | some occurrence =>
      exact List.all_eq_true.mp shows occurrence (Array.mem_of_getElem? found).val
  unfold Grammar.ruleShowsErrors at held
  simp only [Bool.and_eq_true, Bool.or_eq_true, Bool.not_eq_true', bne_iff_ne] at held
  obtain ⟨⟨here, dropped⟩, named⟩ := held
  refine ⟨here, fun discarded => dropped.resolve_left (not_not_intro discarded), ?_⟩
  intro token found
  rw [found] at named
  exact bne_iff_ne.mp named

/-! ## Verdicts show their diagnostics -/

/-- Every reply of an oracle has the diagnostics that its nodes show. -/
def Oracle.Shows (grammar : Grammar P) (oracle : Oracle) : Prop :=
  ∀ id here result, oracle id here = some result →
    (result.reply grammar (grammar.rule id) here.position).diagnostics =
      Node.diagnosticsOf (result.reply grammar (grammar.rule id) here.position).nodes

namespace Trial

variable {grammar : Grammar P} {oracle : Oracle}

/-- Trials under an oracle that shows its diagnostics have the diagnostics of their nodes. -/
theorem keeps_shown (shows : oracle.Shows grammar) :
    Keeps grammar oracle fun progress =>
      progress.diagnostics = Node.diagnosticsOf progress.nodes where
  journal progress journal shown := shown
  scanner progress scanner reached shown := shown
  call id progress next shown matched := by
    obtain ⟨result, known, taken⟩ := exists_of_call matched
    obtain ⟨_, rfl⟩ := Progress.eq_of_take taken
    simp only [Node.diagnosticsOf_append, shown, shows id progress.scanner result known]

/-- Repetition of a terminal asks no oracle. -/
theorem rounds_terminal {rule : Occurrence P} (terminal : (grammar.testOf rule).isTerminal = true)
    (other : Oracle) (budget count : Nat) (progress : Progress) :
    rounds grammar oracle rule budget count progress =
      rounds grammar other rule budget count progress := by
  have unasked : ∀ progress,
      once grammar oracle rule progress = once grammar other rule progress := by
    intro progress
    unfold once refute
    cases scanned : grammar.testOf rule with
    | terminal scan => rfl
    | _ =>
      rw [scanned] at terminal
      contradiction
  induction budget generalizing count progress with
  | zero => rfl
  | succ budget ih =>
    unfold rounds
    rw [unasked]
    simp only [ih]

/-- Repetition of a terminal records no diagnostic. -/
theorem diagnostics_of_terminal {rule : Occurrence P} {budget count : Nat} {origin : Scanner}
    {ended : Progress} (terminal : (grammar.testOf rule).isTerminal = true)
    (matched : rounds grammar oracle rule budget count (.start origin) = .matched ended) :
    ended.diagnostics = [] := by
  have silent : Keeps grammar (fun _ _ => none) fun progress => progress.diagnostics = [] :=
    { journal := fun progress journal none => none
      scanner := fun progress scanner reached none => none
      call := fun id progress next none matched => by contradiction }
  rw [rounds_terminal terminal fun _ _ => none] at matched
  exact silent.rounds rfl matched

end Trial

/-- A match leaves the diagnostics recorded inside it, if its rule shows them. -/
theorem production_diagnostics {grammar : Grammar P} {rule : Occurrence P}
    (shows : grammar.RuleShows rule) {diagnostics : List Diagnostic} {nodes : List Node}
    (span : Span) (shown : diagnostics = Node.diagnosticsOf nodes)
    (dropped : (grammar.testOf rule).isTerminal = true → diagnostics = []) :
    diagnostics = Node.diagnosticsOf ((production rule span).leaves nodes) := by
  unfold production
  cases shape : rule.shape with
  | discarded =>
    rw [dropped (shows.terminal shape)]
    exact Node.diagnosticsOf_nil.symm
  | transparent => exact shown
  | node =>
    cases named : rule.token with
    | none => exact shown
    | some token => exact shown.trans (Node.diagnosticsOf_node (shows.token token named) _ _ _).symm

/-- If the verdicts on parts show their diagnostics, so do those that follow from them. -/
theorem Oracle.Shows.step {grammar : Grammar P} (visible : grammar.showsErrors = true)
    {oracle : Oracle} (shows : oracle.Shows grammar) : (oracle.step grammar).Shows grammar := by
  intro id here result known
  have ruleShows := grammar.showsErrors_rule visible id
  unfold Oracle.step Trial.conclude at known
  split at known
  · rename_i ended repeated
    have shown := (Trial.keeps_shown shows).rounds Node.diagnosticsOf_nil.symm repeated
    obtain rfl := Option.some.inj known
    simp only [MatchResult.reply, Trial.remembered, ruleShows.here]
    exact production_diagnostics ruleShows _ shown fun terminal =>
      Trial.diagnostics_of_terminal terminal repeated
  · obtain rfl := Option.some.inj known
    simp only [MatchResult.reply]
    cases (grammar.rule id).annotations.pinned with
    | true => exact (Node.diagnosticsOf_errorNode grammar (grammar.rule id) here.position).symm
    | false => exact Node.diagnosticsOf_nil.symm
  · contradiction

/-- Verdicts show their diagnostics. -/
theorem verdict_shows {grammar : Grammar P} (visible : grammar.showsErrors = true) (depth : Nat) :
    (verdict grammar depth).Shows grammar := by
  induction depth with
  | zero => exact fun id here result known => by contradiction
  | succ depth ih => exact ih.step visible

/-! ## Passes -/

/-- A state between passes whose diagnostics are those of the root frame. -/
structure Shown (grammar : Grammar P) (state : State NodeStack) : Prop where
  /-- No rule is open. -/
  closed : state.builder.inner = []
  /-- The diagnostics are those of the nodes in the root frame. -/
  errors : state.errors = Node.diagnosticsOf state.builder.root.nodes
  /-- The cache remembers only verdicts. -/
  memory : (finalVerdict grammar).Backs state.source state.memory

variable [Procedures P]

/-- A pass that matches adds to the root frame what the diagnostics show that it records. -/
theorem Shown.pass {grammar : Grammar P} (free : grammar.isProcedureFree = true)
    (visible : grammar.showsErrors = true) {state next : State NodeStack}
    (shown : Shown grammar state) (passed : pass grammar state = (.matched, next)) :
    Shown grammar next := by
  obtain ⟨result, known, answers⟩ := pass_answered NodeStack.ledger free shown.memory passed
  have recorded := verdict_shows visible _ grammar.root state.scanner result known
  have source : next.source = state.source := answers.source_eq
  have stack := answers.builder.trans (NodeStack.adding_root shown.closed _)
  have root := congrArg (fun stack : NodeStack => stack.root.nodes) stack
  refine ⟨congrArg NodeStack.inner stack, ?_, source ▸ answers.memory⟩
  calc
    next.errors = state.errors ++ _ := answers.errors
    _ = Node.diagnosticsOf state.builder.root.nodes ++ Node.diagnosticsOf _ :=
      congrArg₂ (· ++ ·) shown.errors recorded
    _ = Node.diagnosticsOf next.builder.root.nodes :=
      (Node.diagnosticsOf_append _ _).symm.trans (congrArg Node.diagnosticsOf root).symm

namespace Constructor

omit [Procedures P] in
/-- A build starts with no diagnostics and no nodes. -/
theorem start_shown (constructor : Constructor P) (source : Source) :
    Shown constructor.grammar (constructor.start source) :=
  ⟨rfl, Node.diagnosticsOf_nil.symm, Oracle.backs_initial _ source _ _⟩

/-- The diagnostics of a build that gives a tree are, in order, the spans and messages of the error
nodes of the tree, if the grammar is procedure-free and shows its errors, whatever the settings. -/
theorem build_errors_eq_nodes (constructor : Constructor P)
    (free : constructor.grammar.isProcedureFree = true)
    (visible : constructor.grammar.showsErrors = true) (source : Source) {tree : Node}
    (built : (constructor.build source).1.result = .ok tree) :
    (constructor.build source).2.errors.map
        (fun diagnostic => (diagnostic.span, some diagnostic.message)) =
      tree.errors.map fun node => (node.span, node.errorMessage) := by
  have generated := congrArg Prod.fst (constructor.construct_generates source)
  obtain ⟨done, gathered⟩ := gathered_of_generate (generated.symm.trans built)
  have shown : Shown constructor.grammar (parse constructor.grammar (constructor.start source)).2 :=
    runPasses_keeps (fun state next held passed => held.pass free visible passed)
      (constructor.start_shown source) done
  have reported := constructor.construct_errors (Grammar.IsPassive.of_isProcedureFree free) source
  have nothing : (constructor.construct source).shortfall = [] := by
    rw [Construction.shortfall]
    exact built ▸ rfl
  have top : (parse constructor.grammar (constructor.start source)).2.builder.top =
      (parse constructor.grammar (constructor.start source)).2.builder.root := by
    rw [NodeStack.top, shown.closed, List.head?_nil, Option.getD_none]
  rw [done, nothing, Option.toList_none, List.append_nil, List.append_nil] at reported
  rw [top] at gathered
  calc
    (constructor.construct source).errors.map _ = (Node.diagnosticsOf [tree]).map _ := by
      rw [reported, shown.errors, Node.diagnosticsOf_gather gathered]
    _ = tree.errors.map fun node => (node.span, node.errorMessage) := Node.map_diagnosticsOf tree

end Constructor

/-- Letters that a bracket has to close, with blanks in between that are skipped: a call if an
exclamation mark follows the bracket, and otherwise an item. A missing bracket is recovered from, at
first in the call that is then given up and again in the item. -/
def Grammar.brackets : Grammar where
  rules :=
    #[⟨some "letter", "letter", ⟨.structural (.named "letter"), .one, false, false⟩, .empty,
        .own (.terminal (.range 'a' 'z'))⟩,
      ⟨some "blank", "blank", ⟨.skipping, .zeroOrMore, false, false⟩, .empty,
        .own (.terminal (.range ' ' ' '))⟩,
      ⟨some "bracket", "bracket", .scanning, ⟨[(.pinned, .set)]⟩,
        .own (.terminal (.range ')' ')'))⟩,
      ⟨none, "!", .scanning, .empty, .own (.terminal (.range '!' '!'))⟩,
      ⟨some "call", "call", ⟨.structural (.named "call"), .one, false, false⟩, .empty,
        .own (.sequence [0, 1, 2, 3])⟩,
      ⟨some "item", "item", ⟨.structural (.named "item"), .one, false, false⟩, .empty,
        .own (.sequence [0, 1, 2])⟩,
      ⟨none, "call | item", .scanning, .empty, .own (.choice [4, 5])⟩]
  names := ["letter", "blank", "bracket", "call", "item"]
  root := 6

namespace Constructor

/-- Of two letters the first has no bracket: its diagnostic is reported once, although the bracket
was missed twice, and the tree has a node for it. -/
theorem build_errors_eq_nodes_brackets :
    ∃ tree, ((make .brackets (Config.default.withCache 2 2)).build
        ⟨['a', ' ', 'b', ')']⟩).1.result = .ok tree ∧
      ((make .brackets (Config.default.withCache 2 2)).build ⟨['a', ' ', 'b', ')']⟩).2.errors =
        [⟨.point 2, "expected bracket"⟩] ∧
      ((make .brackets (Config.default.withCache 2 2)).build ⟨['a', ' ', 'b', ')']⟩).2.errors.map
          (fun diagnostic => (diagnostic.span, some diagnostic.message)) =
        tree.errors.map fun node => (node.span, node.errorMessage) := by
  have accepted : ((make .brackets (Config.default.withCache 2 2)).build
      ⟨['a', ' ', 'b', ')']⟩).1.result.isOk = true := by
    decide +kernel
  cases built : ((make .brackets (Config.default.withCache 2 2)).build
      ⟨['a', ' ', 'b', ')']⟩).1.result with
  | error reason =>
    rw [built] at accepted
    contradiction
  | ok tree =>
    exact ⟨tree, rfl, by decide +kernel,
      build_errors_eq_nodes _ (by decide +kernel) (by decide +kernel) _ built⟩

end Constructor

end Packrat
