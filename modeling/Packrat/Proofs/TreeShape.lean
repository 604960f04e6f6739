import Packrat.Construction
import Packrat.Proofs.Simulation

/-!
# The shape of trees

Every node of a tree that is built lies inside the source, holds the spans of its children, and has
them in source order without overlap. Nodes are laid out while a rule is matched: its trimming mark
keeps where the content starts and where the last skipped stretch does, and every node collected
lies between the two (`Laid`). The verdict on a part takes such a layout to another (`Oracle.Lays`),
so the passes leave well-formed nodes in the root frame, in source order (`Rooted`).
-/

namespace Packrat

variable {P : Type}

/-! ## Well-formed nodes -/

/-- A node whose span fits the source and its children. -/
structure Node.WellFormed (length : Nat) (node : Node) : Prop where
  /-- The span does not end before it starts. -/
  ordered : node.span.start ≤ node.span.stop
  /-- The span ends inside the source. -/
  inside : node.span.stop ≤ length
  /-- The spans of the children lie inside the span. -/
  contains : ∀ child ∈ node.children,
    node.span.start ≤ child.span.start ∧ child.span.stop ≤ node.span.stop
  /-- Of two children, the one that comes first ends before the other starts. -/
  apart : node.children.Pairwise fun left right => left.span.stop ≤ right.span.start

/-- Nodes in source order between two positions, all of them and those below them well formed. -/
structure Forest (length first last : Nat) (nodes : List Node) : Prop where
  /-- The nodes and those below them are well formed. -/
  wellFormed : ∀ node ∈ Node.forestDescendants nodes, node.WellFormed length
  /-- The nodes start at the first position or later. -/
  starts : ∀ node ∈ nodes, first ≤ node.span.start
  /-- The nodes end at the last position or earlier. -/
  stops : ∀ node ∈ nodes, node.span.stop ≤ last
  /-- Of two nodes, the one that comes first ends before the other starts. -/
  apart : nodes.Pairwise fun left right => left.span.stop ≤ right.span.start

/-- The nodes of several trees are those of the first and those of the others. -/
theorem Node.forestDescendants_append (earlier later : List Node) :
    forestDescendants (earlier ++ later) =
      forestDescendants earlier ++ forestDescendants later := by
  induction earlier with
  | nil => rw [List.nil_append, forestDescendants, List.nil_append]
  | cons node rest ih =>
    rw [List.cons_append, forestDescendants, forestDescendants, ih, List.append_assoc]

/-- The nodes of a tree are its root and those below. -/
theorem Node.descendants_eq (node : Node) :
    node.descendants = node :: forestDescendants node.children := by
  obtain ⟨token, span, annotations, children⟩ := node
  rw [descendants, Node.children]

namespace Forest

variable {length first last : Nat} {nodes : List Node}

/-- There is nothing wrong with no nodes. -/
theorem nil : Forest length first last [] :=
  ⟨by simp [Node.forestDescendants], by simp, by simp, .nil⟩

/-- Nodes between two positions are between two that are further apart. -/
theorem widen {before after : Nat} (forest : Forest length first last nodes)
    (earlier : before ≤ first) (later : last ≤ after) : Forest length before after nodes :=
  ⟨forest.wellFormed, fun node member => Nat.le_trans earlier (forest.starts node member),
    fun node member => Nat.le_trans (forest.stops node member) later, forest.apart⟩

/-- Nodes up to a position and nodes from there on are in source order. -/
theorem append {middle : Nat} {later : List Node} (forest : Forest length first middle nodes)
    (rest : Forest length middle last later) (forward : first ≤ middle) (further : middle ≤ last) :
    Forest length first last (nodes ++ later) where
  wellFormed node member := by
    rw [Node.forestDescendants_append] at member
    rcases List.mem_append.mp member with inFirst | inRest
    · exact forest.wellFormed node inFirst
    · exact rest.wellFormed node inRest
  starts node member := by
    rcases List.mem_append.mp member with inFirst | inRest
    · exact forest.starts node inFirst
    · exact Nat.le_trans forward (rest.starts node inRest)
  stops node member := by
    rcases List.mem_append.mp member with inFirst | inRest
    · exact Nat.le_trans (forest.stops node inFirst) further
    · exact rest.stops node inRest
  apart := by
    refine List.pairwise_append.mpr ⟨forest.apart, rest.apart, fun left inFirst right inRest => ?_⟩
    exact Nat.le_trans (forest.stops left inFirst) (rest.starts right inRest)

/-- A node around nodes inside its span is a forest. -/
theorem node (token : Token) (span : Span) (annotations : Annotations)
    (forest : Forest length span.start span.stop nodes) (ordered : span.start ≤ span.stop)
    (inside : span.stop ≤ length) :
    Forest length span.start span.stop [.mk token span annotations nodes] where
  wellFormed node member := by
    rw [Node.forestDescendants, Node.forestDescendants, List.append_nil,
      Node.descendants_eq] at member
    rcases List.mem_cons.mp member with rfl | below
    · exact ⟨ordered, inside, fun child listed => ⟨forest.starts child listed,
        forest.stops child listed⟩, forest.apart⟩
    · exact forest.wellFormed node below
  starts node member := by
    obtain rfl := List.mem_singleton.mp member
    exact Nat.le_refl _
  stops node member := by
    obtain rfl := List.mem_singleton.mp member
    exact Nat.le_refl _
  apart := List.pairwise_singleton _ _

end Forest

/-! ## Layouts -/

/-- Where the content of a match at a position ends so far: before the last skipped stretch, if
there is one. -/
def Mark.edge (mark : Mark) (position : Nat) : Nat :=
  match mark.trail with
  | some trail => trail.start
  | none => position

/-- How the nodes collected by a rule lie between where the rule started and the cursor, as its
trimming mark tells. -/
structure Laid (length origin position : Nat) (mark : Mark) (nodes : List Node) : Prop where
  /-- The cursor is inside the source. -/
  inside : position ≤ length
  /-- The content starts behind the start of the rule. -/
  behind : origin ≤ mark.lead
  /-- The content starts before the cursor. -/
  lead : mark.lead ≤ position
  /-- The last skipped stretch lies between the start of the content and the cursor, and is not
  empty. -/
  trail : ∀ trail, mark.trail = some trail →
    mark.lead ≤ trail.start ∧ trail.start < trail.stop ∧ trail.stop ≤ position
  /-- While everything was skipped there are no nodes. -/
  unanchored : mark.anchored = false → nodes = []
  /-- The nodes lie inside the content. -/
  forest : Forest length mark.lead (mark.edge position) nodes

namespace Laid

variable {length origin position stop : Nat} {mark : Mark} {nodes later : List Node}

/-- A rule that has just been entered has no nodes to lay out. -/
theorem start (inside : origin ≤ length) : Laid length origin origin (.start origin) [] :=
  ⟨inside, Nat.le_refl _, Nat.le_refl _, fun _ none => by contradiction, fun _ => rfl, .nil⟩

/-- The content ends between its start and the cursor. -/
theorem edge (laid : Laid length origin position mark nodes) :
    mark.lead ≤ mark.edge position ∧ mark.edge position ≤ position := by
  unfold Mark.edge
  split
  · rename_i trail skipped
    have bounds := laid.trail trail skipped
    omega
  · exact ⟨laid.lead, Nat.le_refl _⟩

/-- A cursor that goes forward leaves the layout as it is. -/
theorem advance (laid : Laid length origin position mark nodes) (further : position ≤ stop)
    (inside : stop ≤ length) : Laid length origin stop mark nodes where
  inside := inside
  behind := laid.behind
  lead := Nat.le_trans laid.lead further
  trail trail skipped := by
    have bounds := laid.trail trail skipped
    omega
  unanchored := laid.unanchored
  forest := by
    refine laid.forest.widen (Nat.le_refl _) ?_
    unfold Mark.edge
    split
    · exact Nat.le_refl _
    · exact further

/-- Nodes lie before a stretch that starts where the content ends. -/
theorem trailing (laid : Laid length origin position mark nodes) {margin : Nat}
    (starts : mark.edge position ≤ margin) (proper : margin < stop) (inside : stop ≤ length) :
    Laid length origin stop { mark with trail := some ⟨margin, stop⟩ } nodes where
  inside := inside
  behind := laid.behind
  lead := Nat.le_of_lt (Nat.lt_of_le_of_lt (Nat.le_trans laid.edge.1 starts) proper)
  trail trail skipped := by
    obtain rfl := Option.some.inj skipped
    exact ⟨Nat.le_trans laid.edge.1 starts, proper, Nat.le_refl _⟩
  unanchored := laid.unanchored
  forest := laid.forest.widen (Nat.le_refl _) starts

/-- Skipping a stretch from the cursor on keeps the layout. -/
theorem skipped (laid : Laid length origin position mark nodes) (further : position ≤ stop)
    (inside : stop ≤ length) : Laid length origin stop (mark.skipped position stop) nodes := by
  unfold Mark.skipped
  split
  · rename_i empty
    exact empty ▸ laid
  · rename_i proper
    have ahead : position < stop := by omega
    split
    · rename_i leading
      simp only [Bool.and_eq_true, Bool.not_eq_true', decide_eq_true_eq] at leading
      obtain rfl := laid.unanchored leading.1
      refine ⟨inside, Nat.le_trans laid.behind (Nat.le_trans laid.lead further), Nat.le_refl _, ?_,
        fun _ => rfl, .nil⟩
      intro trail earlier
      have bounds := laid.trail trail earlier
      omega
    · split
      · rename_i trail earlier
        have edge : mark.edge position = trail.start := by rw [Mark.edge, earlier]
        split
        · have bounds := laid.trail trail earlier
          exact laid.trailing (Nat.le_of_eq edge) (by omega) inside
        · exact laid.trailing laid.edge.2 ahead inside
      · exact laid.trailing laid.edge.2 ahead inside

/-- Nodes that a part leaves from the cursor on are laid out after the others. -/
theorem consumed (laid : Laid length origin position mark nodes)
    (forest : Forest length position stop later) (further : position ≤ stop)
    (inside : stop ≤ length) : Laid length origin stop mark.consumed (nodes ++ later) where
  inside := inside
  behind := laid.behind
  lead := Nat.le_trans laid.lead further
  trail trail skipped := by contradiction
  unanchored anchored := by contradiction
  forest := (laid.forest.widen (Nat.le_refl _) laid.edge.2).append forest laid.lead further

/-- Nodes that a part leaves inside its content are laid out after the others, with the edges of the
part skipped. -/
theorem absorbed (laid : Laid length origin position mark nodes) {content : Span}
    (forest : Forest length content.start content.stop later) (starts : position ≤ content.start)
    (ordered : content.start ≤ content.stop) (stops : content.stop ≤ stop)
    (inside : stop ≤ length) :
    Laid length origin stop (mark.absorb position stop (some content)) (nodes ++ later) := by
  have before : content.stop ≤ length := Nat.le_trans stops inside
  have lead := laid.skipped starts (Nat.le_trans ordered before)
  exact (lead.consumed forest ordered before).skipped stops inside

/-- The content of a match lies between where the rule started and the cursor, and holds the nodes.
-/
theorem content (laid : Laid length origin position mark nodes) :
    origin ≤ (mark.content position).start ∧
      (mark.content position).start ≤ (mark.content position).stop ∧
      (mark.content position).stop ≤ position ∧
      Forest length (mark.content position).start (mark.content position).stop nodes := by
  have lead := laid.lead
  have edge := laid.edge
  have stops : mark.edge position ≤ (mark.content position).stop ∧
      (mark.content position).stop ≤ position := by
    unfold Mark.content Mark.edge at *
    cases skipped : mark.trail with
    | none => simp only [skipped] at edge ⊢; omega
    | some trail =>
      have bounds := laid.trail trail skipped
      simp only [skipped] at edge ⊢
      split <;> omega
  exact ⟨laid.behind, Nat.le_trans edge.1 stops.1, stops.2,
    laid.forest.widen (Nat.le_refl _) stops.1⟩

end Laid

/-! ## What rules leave -/

/-- A skipped match leaves nothing. -/
theorem production_skipping {rule : Occurrence P} (skipping : rule.behaviour.isSkipping = true)
    (span : Span) : production rule span = .discarded := by
  have shape : rule.shape = .discarded := by
    unfold Behaviour.isSkipping at skipping
    unfold Occurrence.shape
    split at skipping
    · rename_i kind
      rw [kind]
    · contradiction
  unfold production
  rw [shape]

/-- A match that hands on the edges of its parts leaves their nodes. -/
theorem production_transparent {grammar : Grammar P} {rule : Occurrence P}
    (transparent : grammar.isTransparent rule = true) (span : Span) :
    production rule span = .transparent := by
  have shape : rule.shape = .transparent := by
    unfold Grammar.isTransparent at transparent
    unfold Occurrence.shape
    split at transparent
    · rename_i kind
      rw [kind]
    · contradiction
  unfold production
  rw [shape]

namespace Laid

variable {length origin position stop : Nat} {mark own : Mark} {nodes inside : List Node}

/-- What a match leaves lies between where it started and where it ended. -/
theorem leaves (inner : Laid length position stop own inside) (rule : Occurrence P) :
    Forest length position stop ((production rule (own.content stop)).leaves inside) := by
  obtain ⟨starts, ordered, stops, forest⟩ := inner.content
  unfold production
  split
  · exact (forest.node _ _ _ ordered (Nat.le_trans stops inner.inside)).widen starts stops
  · exact .nil
  · exact forest.widen starts stops

/-- The report of a match to the rule around keeps the layout of that rule. -/
theorem reported (outer : Laid length origin position mark nodes)
    (inner : Laid length position stop own inside) (grammar : Grammar P) (rule : Occurrence P) :
    Laid length origin stop (reportTo grammar rule position stop (own.summary stop) mark)
      (nodes ++ (production rule (own.content stop)).leaves inside) := by
  have further : position ≤ stop := Nat.le_trans inner.behind inner.lead
  unfold reportTo
  split
  · rename_i skipping
    rw [production_skipping skipping, Production.leaves, List.append_nil]
    exact outer.skipped further inner.inside
  · split
    · rename_i transparent
      rw [production_transparent transparent, Production.leaves]
      unfold Mark.summary
      cases anchored : own.anchored with
      | true =>
        obtain ⟨starts, ordered, stops, forest⟩ := inner.content
        exact outer.absorbed forest starts ordered stops inner.inside
      | false =>
        rw [inner.unanchored anchored, List.append_nil]
        exact outer.skipped further inner.inside
    · exact outer.consumed (inner.leaves rule) further inner.inside

end Laid

/-! ## Verdicts lay out nodes -/

/-- Every reply of an oracle takes a layout to a layout. -/
def Oracle.Lays (grammar : Grammar P) (oracle : Oracle) : Prop :=
  ∀ id here result, oracle id here = some result → ∀ origin mark nodes,
    Laid here.source.length origin here.position mark nodes →
      Laid here.source.length origin
        (result.reply grammar (grammar.rule id) here.position).stop
        ((result.reply grammar (grammar.rule id) here.position).change mark)
        (nodes ++ (result.reply grammar (grammar.rule id) here.position).nodes)

/-- Trials under an oracle that lays out nodes keep their layout. -/
theorem Trial.keeps_laid {grammar : Grammar P} {oracle : Oracle} (lays : oracle.Lays grammar)
    (origin : Nat) :
    Keeps grammar oracle fun progress =>
      Laid progress.scanner.source.length origin progress.scanner.position progress.mark
        progress.nodes where
  journal progress journal laid := laid
  scanner progress scanner reached laid := by
    have inside := scanner.inside
    have further := reached.forward
    simp only [reached.source] at inside ⊢
    exact laid.advance further inside
  call id progress next laid matched := by
    obtain ⟨result, known, taken⟩ := exists_of_call matched
    obtain ⟨_, rfl⟩ := Progress.eq_of_take taken
    have after := lays id progress.scanner result known origin progress.mark progress.nodes laid
    have stopped := Scanner.position_moveTo after.inside
    simp only [stopped]
    exact after

/-- If the verdicts on parts lay out nodes, so do those that follow from them. -/
theorem Oracle.Lays.step {grammar : Grammar P} {oracle : Oracle} (lays : oracle.Lays grammar) :
    (oracle.step grammar).Lays grammar := by
  intro id here result known origin mark nodes laid
  unfold Oracle.step Trial.conclude at known
  split at known
  · rename_i ended repeated
    have inner := (Trial.keeps_laid lays here.position).rounds (Laid.start here.inside) repeated
    have source := (Trial.keeps_source grammar oracle here.source).rounds
      (show (Progress.start here).scanner.source = here.source from rfl) repeated
    obtain rfl := Option.some.inj known
    simp only [source] at inner
    simp only [MatchResult.reply, Trial.remembered]
    cases (grammar.rule id).behaviour.lookahead with
    | true => exact (List.append_nil nodes).symm ▸ laid
    | false => exact laid.reported inner grammar (grammar.rule id)
  · rename_i journal repeated
    obtain rfl := Option.some.inj known
    simp only [MatchResult.reply]
    cases (grammar.rule id).annotations.pinned with
    | true =>
      have error : Forest here.source.length here.position here.position
          [errorNode grammar (grammar.rule id) here.position] :=
        Forest.nil.node _ (.point here.position) _ (Nat.le_refl _) here.inside
      exact laid.consumed error (Nat.le_refl _) here.inside
    | false => exact (List.append_nil nodes).symm ▸ laid
  · contradiction

/-- Verdicts lay out nodes. -/
theorem verdict_lays (grammar : Grammar P) (depth : Nat) :
    (verdict grammar depth).Lays grammar := by
  induction depth with
  | zero => exact fun id here result known => by contradiction
  | succ depth ih => exact ih.step

/-- The nodes of a verdict lie between where the rule started and where it ended. -/
theorem reply_forest {grammar : Grammar P} {id : RuleId} {here : Scanner} {result : MatchResult}
    (known : finalVerdict grammar id here = some result) :
    here.position ≤ (result.reply grammar (grammar.rule id) here.position).stop ∧
      (result.reply grammar (grammar.rule id) here.position).stop ≤ here.source.length ∧
      Forest here.source.length here.position
        (result.reply grammar (grammar.rule id) here.position).stop
        (result.reply grammar (grammar.rule id) here.position).nodes := by
  have laid := verdict_lays grammar _ id here result known here.position _ []
    (Laid.start here.inside)
  exact ⟨Nat.le_trans laid.behind laid.lead, laid.inside, laid.forest.widen laid.behind laid.edge.2⟩

/-! ## Passes -/

/-- A state between passes: no rule is open, and the root frame holds a forest up to the cursor. -/
structure Rooted (grammar : Grammar P) (state : State NodeStack) : Prop where
  /-- No rule is open. -/
  closed : state.builder.inner = []
  /-- The nodes of the root frame are a forest up to the cursor. -/
  forest : Forest state.source.length 0 state.position state.builder.root.nodes
  /-- The cache remembers only verdicts. -/
  memory : (finalVerdict grammar).Backs state.source state.memory

/-- A stack without open rules adds nodes to its root frame. -/
theorem NodeStack.adding_root {stack : NodeStack} (closed : stack.inner = []) (nodes : List Node) :
    stack.adding nodes = ⟨[], ⟨stack.root.nodes ++ nodes⟩⟩ := by
  obtain ⟨inner, root⟩ := stack
  obtain rfl : inner = [] := closed
  rfl

variable [Procedures P]

/-- A pass that matches leads from one state between passes to another in the same source. -/
theorem Rooted.pass {grammar : Grammar P} (free : grammar.isProcedureFree = true)
    {state : State NodeStack} (rooted : Rooted grammar state)
    (matched : (pass grammar state).1 = .matched) :
    Rooted grammar (pass grammar state).2 ∧ (pass grammar state).2.source = state.source := by
  have obeys := descend_obeys NodeStack.ledger free
    ({ state with attempts := .none, journal := [], mark := none }.depthBound grammar) grammar.root
    { state with attempts := .none, journal := [], mark := none } rooted.memory
  unfold Packrat.pass matchRule at matched ⊢
  generalize descend grammar
    ({ state with attempts := .none, journal := [], mark := none }.depthBound grammar) grammar.root
    { state with attempts := .none, journal := [], mark := none } = result at obeys matched ⊢
  cases obeys with
  | limited limit => contradiction
  | diverged unknown => contradiction
  | answered verdict known answers =>
    obtain ⟨forward, inside, forest⟩ := reply_forest known
    have source : result.2.source = state.source := answers.source_eq
    have stopped : result.2.position =
        (verdict.reply grammar (grammar.rule grammar.root) state.position).stop :=
      (congrArg Scanner.position answers.scanner).trans (Scanner.position_moveTo inside)
    have stack : result.2.builder = ⟨[], ⟨state.builder.root.nodes ++
        (verdict.reply grammar (grammar.rule grammar.root) state.position).nodes⟩⟩ :=
      answers.builder.trans (NodeStack.adding_root rooted.closed _)
    refine ⟨⟨by rw [stack], ?_, by rw [source]; exact answers.memory⟩, source⟩
    rw [source, stopped, stack]
    exact rooted.forest.append forest (Nat.zero_le _) forward

/-- Passes that use up the source lead from one state between passes to another in the same source.
-/
theorem Rooted.runPasses {grammar : Grammar P} (free : grammar.isProcedureFree = true)
    (budget : Nat) {state : State NodeStack} (rooted : Rooted grammar state)
    (done : (runPasses grammar budget state).1 = none) :
    Rooted grammar (runPasses grammar budget state).2 ∧
      (runPasses grammar budget state).2.source = state.source := by
  induction budget generalizing state with
  | zero =>
    unfold Packrat.runPasses at done ⊢
    split at done
    · rename_i ended
      rw [if_pos ended]
      exact ⟨rooted, rfl⟩
    · contradiction
  | succ budget ih =>
    have passed := rooted.pass free
    unfold Packrat.runPasses at done ⊢
    by_cases ended : state.scanner.atEnd = true
    · rw [if_pos ended]
      exact ⟨rooted, rfl⟩
    · rw [if_neg ended] at done ⊢
      generalize Packrat.pass grammar state = result at passed done ⊢
      obtain ⟨outcome, next⟩ := result
      cases outcome with
      | failed reason => cases reason <;> contradiction
      | matched =>
        obtain ⟨rootedNext, source⟩ := passed rfl
        simp only at done rootedNext source ⊢
        by_cases still : next.position = state.position
        · rw [if_pos still] at done
          contradiction
        · rw [if_neg still] at done ⊢
          obtain ⟨rootedEnd, same⟩ := ih rootedNext done
          exact ⟨rootedEnd, same.trans source⟩

/-! ## Trees -/

/-- A span is the smallest with several spans inside it. -/
structure Span.Spans (span : Span) (inner : List Span) : Prop where
  /-- All of them are inside. -/
  covers : ∀ part ∈ inner, span.start ≤ part.start ∧ part.stop ≤ span.stop
  /-- One of them starts with it. -/
  starts : ∃ part ∈ inner, part.start = span.start
  /-- One of them stops with it. -/
  stops : ∃ part ∈ inner, part.stop = span.stop

/-- The span that covers several spans is the smallest with them inside it. -/
theorem Span.spans_foldl_join (first : Span) (later : List Span) :
    (later.foldl join first).Spans (first :: later) := by
  induction later generalizing first with
  | nil => exact ⟨by simp, ⟨first, by simp⟩, ⟨first, by simp⟩⟩
  | cons second rest ih =>
    have joined := ih (first.join second)
    have start : (first.join second).start = min first.start second.start := rfl
    have stop : (first.join second).stop = max first.stop second.stop := rfl
    have outer := joined.covers (first.join second) List.mem_cons_self
    rw [List.foldl_cons]
    refine ⟨fun part listed => ?_, ?_, ?_⟩
    · rcases List.mem_cons.mp listed with rfl | listed
      · omega
      · rcases List.mem_cons.mp listed with rfl | listed
        · omega
        · exact joined.covers part (List.mem_cons_of_mem _ listed)
    · obtain ⟨part, listed, starts⟩ := joined.starts
      rcases List.mem_cons.mp listed with rfl | listed
      · rcases Nat.le_total first.start second.start with earlier | later
        · exact ⟨first, by simp, by omega⟩
        · exact ⟨second, by simp, by omega⟩
      · exact ⟨part, List.mem_cons_of_mem _ (List.mem_cons_of_mem _ listed), starts⟩
    · obtain ⟨part, listed, stops⟩ := joined.stops
      rcases List.mem_cons.mp listed with rfl | listed
      · rcases Nat.le_total first.stop second.stop with shorter | longer
        · exact ⟨second, by simp, by omega⟩
        · exact ⟨first, by simp, by omega⟩
      · exact ⟨part, List.mem_cons_of_mem _ (List.mem_cons_of_mem _ listed), stops⟩

/-- The nodes of a forest are well formed. -/
theorem Forest.wellFormed_of_mem {length first last : Nat} {nodes : List Node} {node : Node}
    (forest : Forest length first last nodes) (member : node ∈ nodes) : node.WellFormed length := by
  refine forest.wellFormed node ?_
  obtain ⟨before, after, rfl⟩ := List.append_of_mem member
  rw [Node.forestDescendants_append, Node.forestDescendants, Node.descendants_eq]
  simp

/-- Every node of a single tree that is a forest is well formed. -/
theorem Forest.tree {length first last : Nat} {tree : Node}
    (forest : Forest length first last [tree]) :
    ∀ node ∈ tree.descendants, node.WellFormed length := by
  intro node member
  refine forest.wellFormed node ?_
  rw [Node.forestDescendants, Node.forestDescendants, List.append_nil]
  exact member

/-- The tree gathered from a forest inside the source is well formed throughout. -/
theorem Forest.gather {length first last : Nat} {nodes : List Node} {tree : Node}
    (forest : Forest length first last nodes) (inside : last ≤ length)
    (gathered : Node.gather nodes = some tree) :
    ∀ node ∈ tree.descendants, node.WellFormed length := by
  unfold Node.gather at gathered
  split at gathered
  · contradiction
  · obtain rfl := Option.some.inj gathered
    exact forest.tree
  · rename_i inhabited several
    obtain ⟨head, rest, rfl⟩ : ∃ head rest, nodes = head :: rest :=
      List.exists_cons_of_ne_nil inhabited
    obtain rfl := Option.some.inj gathered
    have spans := Span.spans_foldl_join head.span (rest.map Node.span)
    have holds := spans.covers
    obtain ⟨span, listed, stops⟩ := spans.stops
    rw [← List.map_cons] at holds listed
    obtain ⟨outermost, member, rfl⟩ := List.mem_map.mp listed
    simp only [List.map_cons, Span.covering, Option.getD_some]
    generalize (rest.map Node.span).foldl Span.join head.span = cover at holds stops
    have covered : Forest length cover.start cover.stop (head :: rest) :=
      ⟨forest.wellFormed, fun node listed => (holds _ (List.mem_map_of_mem listed)).1,
        fun node listed => (holds _ (List.mem_map_of_mem listed)).2, forest.apart⟩
    have starts := covered.starts outermost member
    have ordered := (forest.wellFormed_of_mem member).ordered
    have within := forest.stops outermost member
    exact (covered.node .root cover .empty (by omega) (by omega)).tree

/-- A tree is generated only from nodes gathered after passes that used up the source. -/
theorem gathered_of_generate {stack : NodeStack} {errors : List Diagnostic}
    {failure : Option Diagnostic} {tree : Node}
    (generated : (generate stack errors failure).1 = .ok tree) :
    failure = none ∧ Node.gather stack.top.nodes = some tree := by
  unfold generate at generated
  split at generated
  · contradiction
  · simp only at generated
    split at generated
    · contradiction
    · rename_i gathered found
      split at generated
      · contradiction
      · rename_i succeeded
        rw [Option.not_isSome_iff_eq_none] at succeeded
        exact ⟨succeeded, found.trans (congrArg some (Except.ok.inj generated))⟩

namespace Constructor

omit [Procedures P] in
/-- A build starts between passes. -/
theorem start_rooted (constructor : Constructor P) (source : Source) :
    Rooted constructor.grammar (constructor.start source) := by
  exact ⟨rfl, .nil, Oracle.backs_initial _ source _ _⟩

/-- Every node of a tree that is built under a procedure-free grammar lies inside the source, holds
the spans of its children, and has them in source order without overlap, whatever the settings. -/
theorem build_wellFormed (constructor : Constructor P)
    (free : constructor.grammar.isProcedureFree = true) (source : Source) {tree : Node}
    (built : (constructor.build source).1.result = .ok tree) :
    ∀ node ∈ tree.descendants, node.WellFormed source.length := by
  have generated := congrArg Prod.fst (constructor.construct_generates source)
  obtain ⟨done, gathered⟩ := gathered_of_generate (generated.symm.trans built)
  obtain ⟨rooted, same⟩ := (constructor.start_rooted source).runPasses free _ done
  unfold parse at gathered
  generalize runPasses constructor.grammar (constructor.start source).loopBound
    (constructor.start source) = result at rooted same gathered
  have top : result.2.builder.top = result.2.builder.root := by
    rw [NodeStack.top, rooted.closed, List.head?_nil, Option.getD_none]
  have length : result.2.source.length = source.length := congrArg Source.length same
  have wellFormed := rooted.forest.gather result.2.scanner.inside (top ▸ gathered)
  rwa [length] at wellFormed

/-- A word and a shout are built into a well-formed tree, with a small cache and a call limit. -/
theorem build_wellFormed_shouts :
    ∃ tree, ((make .shouts ((Config.default.withCache 1 2).withCallLimit 100)).build
        ⟨['a', ' ', 'b', '!']⟩).1.result = .ok tree ∧
      ∀ node ∈ tree.descendants, node.WellFormed 4 := by
  have accepted : ((make .shouts ((Config.default.withCache 1 2).withCallLimit 100)).build
      ⟨['a', ' ', 'b', '!']⟩).1.result.isOk = true := by
    decide +kernel
  cases built : ((make .shouts ((Config.default.withCache 1 2).withCallLimit 100)).build
      ⟨['a', ' ', 'b', '!']⟩).1.result with
  | error reason =>
    rw [built] at accepted
    contradiction
  | ok tree =>
    exact ⟨tree, rfl, build_wellFormed _ Grammar.isProcedureFree_shouts _ built⟩

end Constructor

end Packrat
