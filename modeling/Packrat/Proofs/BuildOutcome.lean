import Mathlib.Logic.Relation
import Packrat.Proofs.Bounds
import Packrat.Proofs.Nesting
import Packrat.Proofs.Streaming
import Packrat.Proofs.TreeShape

/-!
# How builds end

A build runs passes of the root rule, each of which matches and ends behind its start, until the
source is used up or a pass fails or takes nothing: `Concludes` says so without a bound on the
number of passes. The passes that are run are these (`Concludes.runPasses`), and they always come to
an end (`exists_concludes`). The root frame that they leave decides, together with how they ended,
between a tree and the two errors (`Constructor.build_outcome`).

A pass in which rules call each other without end never returns, and neither does the build. It is
counted here as one that ends the passes (`Concludes.endless`), so that every build comes to
something; nothing is meant to be said of the result of a build that never returns.
-/

namespace Packrat

variable {P : Type}

open Relation (ReflTransGen)

/-! ## Gathering nodes -/

/-- There is only one smallest span. -/
theorem Span.Spans.unique {left right : Span} {inner : List Span} (first : left.Spans inner)
    (second : right.Spans inner) : left = right := by
  obtain ⟨earliest, listed, starts⟩ := first.starts
  obtain ⟨otherEarliest, otherListed, otherStarts⟩ := second.starts
  obtain ⟨latest, member, stops⟩ := first.stops
  obtain ⟨otherLatest, otherMember, otherStops⟩ := second.stops
  have lower := (second.covers earliest listed).1
  have upper := (first.covers otherEarliest otherListed).1
  have above := (second.covers latest member).2
  have below := (first.covers otherLatest otherMember).2
  obtain ⟨leftStart, leftStop⟩ := left
  obtain ⟨rightStart, rightStop⟩ := right
  simp only [Span.mk.injEq] at *
  omega

/-- The smallest span with several spans of a source inside it lies in the source. -/
theorem Span.Spans.isWithin {length : Nat} {span : Span} {inner : List Span}
    (spans : span.Spans inner) (within : ∀ part ∈ inner, part.IsWithin length) :
    span.IsWithin length := by
  obtain ⟨latest, listed, stops⟩ := spans.stops
  have starts := (spans.covers latest listed).1
  have ordered := (within latest listed).ordered
  have inside := (within latest listed).inside
  exact ⟨by omega, by omega⟩

/-- A tree is made of nodes: a single node is the tree, several are put in order under a root that
spans them. -/
inductive Node.Gathers : List Node → Node → Prop
  /-- There is one node. -/
  | single (node : Node) : Gathers [node] node
  /-- There are several. -/
  | several {nodes : List Node} {span : Span} (more : 1 < nodes.length)
      (spans : span.Spans (nodes.map Node.span)) : Gathers nodes (.mk .root span .empty nodes)

/-- Nodes are gathered to the tree that is made of them. -/
theorem Node.gather_eq_some_iff {nodes : List Node} {tree : Node} :
    gather nodes = some tree ↔ Gathers nodes tree := by
  match nodes with
  | [] => exact ⟨nofun, fun gathers => by cases gathers with | several more => contradiction⟩
  | [only] =>
    constructor
    · intro gathered
      obtain rfl : only = tree := Option.some.inj gathered
      exact .single only
    · intro gathers
      cases gathers with
      | single => rfl
      | several more => exact absurd more (Nat.lt_irrefl 1)
  | first :: second :: rest =>
    have covering :
        ((Span.covering ((first :: second :: rest).map Node.span)).getD (.point 0)).Spans
          ((first :: second :: rest).map Node.span) :=
      Span.spans_foldl_join first.span ((second :: rest).map Node.span)
    constructor
    · intro gathered
      obtain rfl := Option.some.inj gathered
      exact .several (Nat.succ_lt_succ (Nat.succ_pos _)) covering
    · intro gathers
      cases gathers with
      | several more spans =>
        rw [spans.unique covering]
        rfl

/-! ## How passes come to an end -/

variable [Procedures P]

/-- A pass from one state to another matches and ends behind its start. -/
structure Advances (grammar : Grammar P) (state next : State NodeStack) : Prop where
  /-- The pass matches. -/
  matched : pass grammar state = (.matched, next)
  /-- The pass takes something. -/
  forward : state.position < next.position

/-- Successive passes come to an end, with the source used up or not, and leave a state. -/
inductive Concludes (grammar : Grammar P) (start : State NodeStack) : Bool → State NodeStack → Prop
  /-- The passes reach the end of the source. -/
  | used {last : State NodeStack} (way : ReflTransGen (Advances grammar) start last)
      (ended : last.position = last.source.length) : Concludes grammar start true last
  /-- A pass before the end of the source fails. -/
  | failed {last next : State NodeStack} {reason : Failure}
      (way : ReflTransGen (Advances grammar) start last)
      (unfinished : last.position < last.source.length)
      (passed : pass grammar last = (.failed reason, next)) (ends : reason ≠ .divergence) :
      Concludes grammar start false next
  /-- A pass before the end of the source takes nothing. -/
  | stalled {last next : State NodeStack} (way : ReflTransGen (Advances grammar) start last)
      (unfinished : last.position < last.source.length)
      (passed : pass grammar last = (.matched, next)) (still : next.position = last.position) :
      Concludes grammar start false next
  /-- A pass before the end of the source never returns, and nothing is kept of it. This stands for
  passes that never come to an end. -/
  | endless {last next : State NodeStack} (way : ReflTransGen (Advances grammar) start last)
      (unfinished : last.position < last.source.length)
      (passed : pass grammar last = (.failed .divergence, next)) :
      Concludes grammar start false last

section Passes

variable {grammar : Grammar P} {state next ended : State NodeStack} {usedUp : Bool}

/-- The cursor is before the end of the source just if a character is left. -/
theorem atEnd_eq_false_iff :
    state.scanner.atEnd = false ↔ state.position < state.source.length := by
  rw [Scanner.atEnd, decide_eq_false_iff_not, Nat.not_le]
  rfl

/-- A pass that ends behind its start is one that leads on. -/
theorem Advances.leads (free : grammar.isProcedureFree = true)
    (memory : (finalVerdict grammar).Backs state.source state.memory)
    (advances : Advances grammar state next) : Leads grammar state next := by
  obtain ⟨reaches, -, -⟩ := pass_forward NodeStack.ledger free memory advances.matched
  have inside : next.position ≤ state.source.length := by
    have within : next.position ≤ next.source.length := next.scanner.inside
    have same : next.source = state.source := reaches.source
    rwa [same] at within
  have unfinished : state.position < state.source.length :=
    Nat.lt_of_lt_of_le advances.forward inside
  exact ⟨atEnd_eq_false_iff.mpr unfinished, advances.matched, Nat.ne_of_gt advances.forward⟩

/-- What passes conclude behind one that advances they conclude from its start on. -/
theorem Concludes.head (advances : Advances grammar state next)
    (concludes : Concludes grammar next usedUp ended) : Concludes grammar state usedUp ended := by
  cases concludes with
  | used way ended => exact .used (.head advances way) ended
  | failed way unfinished passed ends => exact .failed (.head advances way) unfinished passed ends
  | stalled way unfinished passed still =>
    exact .stalled (.head advances way) unfinished passed still
  | endless way unfinished passed => exact .endless (.head advances way) unfinished passed

/-- Passes come to an end: each that advances leaves less of the source. -/
theorem exists_concludes (free : grammar.isProcedureFree = true)
    (memory : (finalVerdict grammar).Backs state.source state.memory) :
    ∃ usedUp ended, Concludes grammar state usedUp ended := by
  induction remains : state.source.length - state.position using Nat.strong_induction_on
    generalizing state with
  | _ left ih =>
  by_cases unfinished : state.position < state.source.length
  · match passed : pass grammar state with
    | (.failed reason, next) =>
      by_cases diverged : reason = .divergence
      · rw [diverged] at passed
        exact ⟨false, state, .endless .refl unfinished passed⟩
      · exact ⟨false, next, .failed .refl unfinished passed diverged⟩
    | (.matched, next) =>
      by_cases still : next.position = state.position
      · exact ⟨false, next, .stalled .refl unfinished passed still⟩
      · obtain ⟨reaches, -, memoryNext⟩ := pass_forward NodeStack.ledger free memory passed
        have advances : Advances grammar state next :=
          ⟨passed, Nat.lt_of_le_of_ne reaches.forward (Ne.symm still)⟩
        have less : next.source.length - next.position < left :=
          remains ▸ reaches.remaining_lt still
        obtain ⟨usedUp, ended, concludes⟩ := ih _ less memoryNext rfl
        exact ⟨usedUp, ended, concludes.head advances⟩
  · have ended : state.position = state.source.length :=
      Nat.le_antisymm state.scanner.inside (Nat.le_of_not_lt unfinished)
    exact ⟨true, state, .used .refl ended⟩

/-- Passes that are run with a budget run as far as passes that advance lead, and use some of the
budget. -/
theorem runPasses_of_advances (free : grammar.isProcedureFree = true)
    (memory : (finalVerdict grammar).Backs state.source state.memory)
    (way : ReflTransGen (Advances grammar) state next) {budget : Nat}
    (enough : state.source.length - state.position < budget) :
    ∃ rest, runPasses grammar budget state = runPasses grammar (rest + 1) next := by
  induction way using ReflTransGen.head_induction_on generalizing budget with
  | refl => exact ⟨budget - 1, by rw [Nat.sub_add_cancel (Nat.one_le_of_lt enough)]⟩
  | @head first second advances later ih =>
    obtain ⟨reaches, -, memoryNext⟩ := pass_forward NodeStack.ledger free memory advances.matched
    have leads := advances.leads free memory
    have less : second.source.length - second.position < first.source.length - first.position :=
      reaches.remaining_lt leads.onward
    cases budget with
    | zero => contradiction
    | succ budget =>
      rw [runPasses_of_matched leads.unfinished leads.matched leads.onward]
      exact ih memoryNext (by omega)

/-- Passes that are run with enough of a budget end as passes conclude: with a diagnostic unless the
source is used up, and with what they have built. -/
theorem Concludes.runPasses (free : grammar.isProcedureFree = true)
    (memory : (finalVerdict grammar).Backs state.source state.memory)
    (concludes : Concludes grammar state usedUp ended) {budget : Nat}
    (enough : state.source.length - state.position < budget) :
    (runPasses grammar budget state).1.isNone = usedUp ∧
      (runPasses grammar budget state).2.builder = ended.builder := by
  cases concludes with
  | used way atEnd =>
    obtain ⟨rest, same⟩ := runPasses_of_advances free memory way enough
    have finished : ended.scanner.atEnd = true := by
      rw [← Bool.not_eq_false, atEnd_eq_false_iff]
      omega
    rw [same, runPasses_of_ended finished]
    exact ⟨rfl, rfl⟩
  | failed way unfinished passed ends =>
    obtain ⟨rest, same⟩ := runPasses_of_advances free memory way enough
    rw [same, runPasses_of_failed (atEnd_eq_false_iff.mpr unfinished) passed ends]
    exact ⟨rfl, rfl⟩
  | stalled way unfinished passed still =>
    obtain ⟨rest, same⟩ := runPasses_of_advances free memory way enough
    rw [same, runPasses_of_stalled (atEnd_eq_false_iff.mpr unfinished) passed still]
    exact ⟨rfl, rfl⟩
  | endless way unfinished passed =>
    obtain ⟨rest, same⟩ := runPasses_of_advances free memory way enough
    rw [same, runPasses_of_diverged (atEnd_eq_false_iff.mpr unfinished) passed]
    exact ⟨rfl, rfl⟩

/-- What the passes that are run end with is what passes conclude with. -/
theorem runPasses_iff (free : grammar.isProcedureFree = true)
    (memory : (finalVerdict grammar).Backs state.source state.memory) {budget : Nat}
    (enough : state.source.length - state.position < budget) (left : NodeStack → Prop) :
    ((runPasses grammar budget state).1.isNone = usedUp ∧
        left (runPasses grammar budget state).2.builder) ↔
      ∃ ended, Concludes grammar state usedUp ended ∧ left ended.builder := by
  constructor
  · rintro ⟨same, holds⟩
    obtain ⟨other, ended, concludes⟩ := exists_concludes free memory
    obtain ⟨agrees, builder⟩ := concludes.runPasses free memory enough
    obtain rfl : other = usedUp := agrees.symm.trans same
    exact ⟨ended, concludes, builder ▸ holds⟩
  · rintro ⟨ended, concludes, holds⟩
    obtain ⟨agrees, builder⟩ := concludes.runPasses free memory enough
    exact ⟨agrees, builder ▸ holds⟩

/-- Passes keep everything in the source, and so does the diagnostic that they end with. -/
theorem runPasses_within (free : grammar.isProcedureFree = true) {length : Nat} (budget : Nat)
    (within : state.Within length) :
    (∀ diagnostic ∈ (runPasses grammar budget state).1, diagnostic.span.IsWithin length) ∧
      (runPasses grammar budget state).2.Within length := by
  induction budget generalizing state with
  | zero =>
    unfold Packrat.runPasses
    split
    · exact ⟨fun _ found => absurd found (Option.not_mem_none _), within⟩
    · exact ⟨fun diagnostic found => Option.some.inj found ▸ within.diagnose .divergence, within⟩
  | succ budget ih =>
    cases finished : state.scanner.atEnd with
    | true =>
      rw [runPasses_of_ended finished]
      exact ⟨fun _ found => absurd found (Option.not_mem_none _), within⟩
    | false =>
      have kept := pass_within free within
      obtain ⟨⟨outcome, next⟩, passed⟩ : ∃ result, pass grammar state = result := ⟨_, rfl⟩
      rw [passed] at kept
      cases outcome with
      | failed reason =>
        by_cases diverged : reason = .divergence
        · rw [diverged] at passed
          rw [runPasses_of_diverged finished passed]
          exact
            ⟨fun diagnostic found => Option.some.inj found ▸ within.diagnose .divergence, within⟩
        · rw [runPasses_of_failed finished passed diverged]
          exact ⟨fun diagnostic found => Option.some.inj found ▸ kept.diagnose reason,
            kept.source, kept.errors, kept.attempts, kept.journal, kept.memory⟩
      | matched =>
        by_cases still : next.position = state.position
        · rw [runPasses_of_stalled finished passed still]
          exact ⟨fun diagnostic found => Option.some.inj found ▸ kept.diagnose .mismatch,
            kept.source, kept.errors, kept.attempts, kept.journal, kept.memory⟩
        · rw [runPasses_of_matched finished passed still]
          exact ih kept

end Passes

/-! ## What is made of the root frame -/

section Generating

variable {stack : NodeStack} {errors : List Diagnostic} {failure : Option Diagnostic}

/-- A stack of one frame has nothing but the root frame on top. -/
theorem NodeStack.top_of_depth (depth : stack.depth = 1) : stack.top = stack.root := by
  have closed : stack.inner = [] := List.eq_nil_of_length_eq_zero (Nat.succ.inj depth)
  rw [top, closed]
  rfl

/-- Without nodes in the root frame parsing has failed. -/
theorem generate_of_nothing (depth : stack.depth = 1) (nothing : stack.root.nodes = []) :
    (generate stack errors failure).1 = .error (.parsingFailed
      (errors ++ failure.toList ++ [⟨.point 0, "No nodes created"⟩])) := by
  unfold generate
  simp [depth, NodeStack.top_of_depth depth, nothing, Node.gather]

/-- With nodes in the root frame there is a tree, unless the passes ended with a diagnostic. -/
theorem generate_of_nodes (depth : stack.depth = 1) {tree : Node}
    (gathers : Node.Gathers stack.root.nodes tree) :
    (generate stack errors failure).1 = match failure with
      | none => .ok tree
      | some diagnostic => .error (.constructionFailed (errors ++ [diagnostic])) := by
  unfold generate
  cases failure with
  | none => simp [depth, NodeStack.top_of_depth depth, Node.gather_eq_some_iff.mpr gathers]
  | some diagnostic =>
    simp [depth, NodeStack.top_of_depth depth, Node.gather_eq_some_iff.mpr gathers]

/-- Nodes make a tree just if there are any. -/
theorem Node.exists_gathers_iff {nodes : List Node} :
    (∃ tree, Gathers nodes tree) ↔ nodes ≠ [] := by
  simp only [← gather_eq_some_iff, ← Option.isSome_iff_exists]
  match nodes with
  | [] => simp [gather]
  | [only] => simp [gather]
  | first :: second :: rest => simp [gather]

/-- There is a tree just if the passes ended without a diagnostic and the tree is made of the nodes
of the root frame. -/
theorem generate_eq_ok_iff (depth : stack.depth = 1) {tree : Node} :
    (generate stack errors failure).1 = .ok tree ↔
      failure.isNone = true ∧ Node.Gathers stack.root.nodes tree := by
  by_cases nothing : stack.root.nodes = []
  · rw [generate_of_nothing depth nothing]
    refine iff_of_false nofun fun made => ?_
    exact Node.exists_gathers_iff.mp ⟨tree, made.2⟩ nothing
  · obtain ⟨other, gathers⟩ := Node.exists_gathers_iff.mpr nothing
    rw [generate_of_nodes depth gathers]
    cases failure with
    | some diagnostic => exact iff_of_false nofun fun made => absurd made.1 Bool.false_ne_true
    | none =>
      rw [← Node.gather_eq_some_iff] at gathers ⊢
      simp [gathers]

/-- Construction has failed just if there are nodes and the passes ended with a diagnostic. -/
theorem generate_constructionFailed_iff (depth : stack.depth = 1) :
    (∃ causes, (generate stack errors failure).1 = .error (.constructionFailed causes)) ↔
      failure.isNone = false ∧ stack.root.nodes ≠ [] := by
  by_cases nothing : stack.root.nodes = []
  · rw [generate_of_nothing depth nothing]
    exact iff_of_false nofun fun left => left.2 nothing
  · obtain ⟨tree, gathers⟩ := Node.exists_gathers_iff.mpr nothing
    rw [generate_of_nodes depth gathers]
    cases failure with
    | none => exact iff_of_false nofun fun left => absurd left.1.symm Bool.false_ne_true
    | some diagnostic => exact iff_of_true ⟨_, rfl⟩ ⟨rfl, nothing⟩

/-- Parsing has failed just if there are no nodes. -/
theorem generate_parsingFailed_iff (depth : stack.depth = 1) :
    (∃ causes, (generate stack errors failure).1 = .error (.parsingFailed causes)) ↔
      stack.root.nodes = [] := by
  by_cases nothing : stack.root.nodes = []
  · rw [generate_of_nothing depth nothing]
    exact iff_of_true ⟨_, rfl⟩ nothing
  · obtain ⟨tree, gathers⟩ := Node.exists_gathers_iff.mpr nothing
    rw [generate_of_nodes depth gathers]
    refine iff_of_false ?_ nothing
    cases failure <;> nofun

/-- An error has causes, all of them in the source if the diagnostics are. -/
theorem generate_causes (depth : stack.depth = 1) {length : Nat}
    (inside : ∀ diagnostic ∈ errors, diagnostic.span.IsWithin length)
    (insideFailure : ∀ diagnostic ∈ failure, diagnostic.span.IsWithin length)
    {error : ConstructionError} (failed : (generate stack errors failure).1 = .error error) :
    error.causes ≠ [] ∧ ∀ cause ∈ error.causes, cause.span.IsWithin length := by
  by_cases nothing : stack.root.nodes = []
  · rw [generate_of_nothing depth nothing] at failed
    obtain rfl := Except.error.inj failed
    refine ⟨List.append_ne_nil_of_right_ne_nil _ (List.cons_ne_nil _ _), fun cause listed => ?_⟩
    rcases List.mem_append.mp listed with listed | last
    · rcases List.mem_append.mp listed with earlier | reported
      · exact inside cause earlier
      · exact insideFailure cause (Option.mem_toList.mp reported)
    · obtain rfl := List.mem_singleton.mp last
      exact Span.isWithin_point (Nat.zero_le _)
  · obtain ⟨tree, gathers⟩ := Node.exists_gathers_iff.mpr nothing
    rw [generate_of_nodes depth gathers] at failed
    cases failure with
    | none => contradiction
    | some diagnostic =>
      obtain rfl := Except.error.inj failed
      refine ⟨List.append_ne_nil_of_right_ne_nil _ (List.cons_ne_nil _ _), fun cause listed => ?_⟩
      rcases List.mem_append.mp listed with earlier | last
      · exact inside cause earlier
      · obtain rfl := List.mem_singleton.mp last
        exact insideFailure cause rfl

end Generating

/-- The span of an error with causes is the smallest with all of them inside it. -/
theorem ConstructionError.exists_span {error : ConstructionError} (caused : error.causes ≠ []) :
    ∃ span, error.span = some span ∧ span.Spans (error.causes.map (·.span)) := by
  unfold ConstructionError.span
  cases listed : error.causes with
  | nil => contradiction
  | cons first later => exact ⟨_, rfl, Span.spans_foldl_join _ _⟩

namespace Constructor

/-- How builds end under a procedure-free grammar, whatever the source and the settings. There is a
tree exactly if successive passes reach the end of the source and leave nodes in the root frame, of
which it is made; construction has failed exactly if nodes are left but a pass failed or took
nothing, and parsing has failed exactly if no node is left. Every error has causes, and a span, and
all of these lie in the source. A build with a pass that never returns stands among those with one
that failed, but has no result, and nothing is said of it. -/
theorem build_outcome {grammar : Grammar P} (free : grammar.isProcedureFree = true)
    (config : Config) (source : Source) :
    let start := (make grammar config).start source
    let result := ((make grammar config).build source).1.result
    (∀ tree, result = .ok tree ↔
      ∃ last, Concludes grammar start true last ∧ Node.Gathers last.builder.root.nodes tree) ∧
    ((∃ causes, result = .error (.constructionFailed causes)) ↔
      ∃ ended, Concludes grammar start false ended ∧ ended.builder.root.nodes ≠ []) ∧
    ((∃ causes, result = .error (.parsingFailed causes)) ↔
      ∃ usedUp ended, Concludes grammar start usedUp ended ∧ ended.builder.root.nodes = []) ∧
    ∀ error, result = .error error → error.causes ≠ [] ∧
      (∃ span, error.span = some span ∧ span.Spans (error.causes.map (·.span)) ∧
        span.IsWithin source.length) ∧
      ∀ cause ∈ error.causes, cause.span.IsWithin source.length := by
  intro start result
  have memory : (finalVerdict grammar).Backs start.source start.memory :=
    Oracle.backs_initial _ _ _ _
  have enough : start.source.length - start.position < start.loopBound := by
    have room := start.length_lt_loopBound
    omega
  have level := NodeStack.bracketing_level.runPasses free start.loopBound start
  have depth : (parse grammar start).2.builder.depth = 1 := (level_of_start level).1
  obtain ⟨insideFailure, within⟩ :=
    runPasses_within free start.loopBound (State.within_initial source config NodeStack.initial)
  have generated : result = (generate (parse grammar start).2.builder
      (parse grammar start).2.errors (parse grammar start).1).1 := rfl
  refine ⟨fun tree => ?_, ?_, ?_, fun error failed => ?_⟩
  · rw [generated, generate_eq_ok_iff depth]
    exact runPasses_iff free memory enough fun stack => Node.Gathers stack.root.nodes tree
  · rw [generated, generate_constructionFailed_iff depth]
    exact runPasses_iff free memory enough fun stack => stack.root.nodes ≠ []
  · rw [generated, generate_parsingFailed_iff depth]
    have left := fun usedUp => @runPasses_iff P _ grammar start usedUp free memory start.loopBound
      enough fun stack => stack.root.nodes = []
    simp only [← left, exists_eq_left']
    rfl
  · rw [generated] at failed
    obtain ⟨caused, inside⟩ := generate_causes depth within.errors insideFailure failed
    obtain ⟨span, known, spans⟩ := ConstructionError.exists_span caused
    have covered : span.IsWithin source.length := by
      refine spans.isWithin fun part listed => ?_
      obtain ⟨cause, member, rfl⟩ := List.mem_map.mp listed
      exact inside cause member
    exact ⟨caused, ⟨span, known, spans, covered⟩, inside⟩

/-- Two shouts are built from passes that reach the end of the source. A shout and a letter that a
call limit cuts off are no tree: the passes come to an end behind the shout, which is left. -/
theorem build_outcome_shouts :
    (∃ last, Concludes .shouts ((make .shouts .default).start ⟨['a', '!', 'b', '!']⟩) true last ∧
      last.builder.root.nodes ≠ []) ∧
    ∃ ended, Concludes .shouts
      ((make .shouts (Config.default.withCallLimit 12)).start ⟨['a', '!', 'b', '?']⟩) false ended ∧
      ended.builder.root.nodes ≠ [] := by
  constructor
  · have accepted :
        ((make .shouts .default).build ⟨['a', '!', 'b', '!']⟩).1.result.isOk = true := by
      decide +kernel
    cases built : ((make .shouts .default).build ⟨['a', '!', 'b', '!']⟩).1.result with
    | error reason =>
      rw [built] at accepted
      exact absurd accepted Bool.false_ne_true
    | ok tree =>
      have outcome := build_outcome Grammar.isProcedureFree_shouts .default ⟨['a', '!', 'b', '!']⟩
      obtain ⟨last, concludes, gathers⟩ := (outcome.1 tree).mp built
      exact ⟨last, concludes, Node.exists_gathers_iff.mp ⟨tree, gathers⟩⟩
  · have refused : (match ((make .shouts (Config.default.withCallLimit 12)).build
        ⟨['a', '!', 'b', '?']⟩).1.result with
        | .error reason => decide (reason = .constructionFailed [⟨.point 2, "call limit reached"⟩])
        | .ok _ => false) = true := by
      decide +kernel
    cases built : ((make .shouts (Config.default.withCallLimit 12)).build
        ⟨['a', '!', 'b', '?']⟩).1.result with
    | ok tree =>
      rw [built] at refused
      exact absurd refused Bool.false_ne_true
    | error reason =>
      rw [built] at refused
      have outcome := build_outcome Grammar.isProcedureFree_shouts
        (Config.default.withCallLimit 12) ⟨['a', '!', 'b', '?']⟩
      exact outcome.2.1.mp ⟨_, built.trans (congrArg Except.error (of_decide_eq_true refused))⟩

end Constructor

end Packrat
