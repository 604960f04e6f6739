import Mathlib.Logic.Relation
import Packrat.Proofs.Abandonment
import Packrat.Proofs.Conduct

/-!
# Unwinding

When everything has to stop, every open rule closes its frame and takes the cursor back, so a rule
that was stopped leaves the cursor, the builder, the trimming mark and the negations as they were
(`descend_stopped_restores`). It does not cut the diagnostics back. Those that stay are the ones it
abandons (`Abandons`): the parts left them that had matched when it was stopped. So each was left by
a rule called inside it, directly or not, that was recovered from at or behind the cursor
(`LeftBehind`, `descend_stopped_unwinds`), which can be told from the grammar without the run.

A state is reachable if it can be come to from a fresh one by matching rules and by changes that
leave the source and the cache as they are (`Reachable`). The cache of a reachable state remembers
only verdicts.
-/

namespace Packrat

variable {P : Type}

open Relation (TransGen ReflTransGen)

/-! ## Rules that are called -/

/-- One rule may call another to evaluate its test. -/
def Grammar.Calls (grammar : Grammar P) (caller callee : RuleId) : Prop :=
  callee ∈ (grammar.testOf (grammar.rule caller)).callees

/-- A diagnostic of a rule of a class that is recovered from at a cursor or behind it. -/
def LeftBehind (grammar : Grammar P) (inside : RuleId → Prop) (here : Scanner)
    (diagnostic : Diagnostic) : Prop :=
  ∃ part there, inside part ∧ here.Reaches there ∧ IsRecovered grammar part there ∧
    diagnostic = recoveryDiagnostic grammar part there

section Kept

variable {grammar : Grammar P} {id part : RuleId} {parts : List RuleId} {rule : Occurrence P}
  {count : Nat} {here next there : Scanner} {diagnostic : Diagnostic}

/-- What is left behind at a cursor further on by rules of a smaller class is left behind. -/
theorem LeftBehind.mono {inside outside : RuleId → Prop}
    (left : LeftBehind grammar inside next diagnostic) (reached : here.Reaches next)
    (among : ∀ part, inside part → outside part) :
    LeftBehind grammar outside here diagnostic := by
  obtain ⟨part, there, member, further, recovered⟩ := left
  exact ⟨part, there, among part member, reached.trans further, recovered⟩

/-- The calls that a sequence keeps are of its parts, at the cursor or behind it. -/
theorem AllKeeps.called (keeps : AllKeeps grammar parts here part there) :
    part ∈ parts ∧ here.Reaches there := by
  induction keeps with
  | here => exact ⟨List.mem_cons_self, .refl _⟩
  | later rule _ ih => exact ⟨List.mem_cons_of_mem _ ih.1, rule.reaches.trans ih.2⟩

/-- The call that a choice keeps is of one of its parts, at the cursor. -/
theorem FirstKeeps.called (keeps : FirstKeeps grammar parts here part there) :
    part ∈ parts ∧ here.Reaches there := by
  induction keeps with
  | here => exact ⟨List.mem_cons_self, .refl _⟩
  | later _ _ ih => exact ⟨List.mem_cons_of_mem _ ih.1, ih.2⟩

/-- The calls that a test keeps are of rules it may match, at the cursor or behind it. -/
theorem TestKeeps.called {test : Test P} (keeps : TestKeeps grammar test here part there) :
    part ∈ test.callees ∧ here.Reaches there := by
  cases test with
  | terminal terminal => exact keeps.elim
  | reference target =>
    obtain ⟨rfl, rfl⟩ := keeps
    exact ⟨List.mem_singleton_self _, .refl _⟩
  | group inner =>
    obtain ⟨rfl, rfl⟩ := keeps
    exact ⟨List.mem_singleton_self _, .refl _⟩
  | procedure steps => exact keeps.elim
  | sequence parts => exact AllKeeps.called keeps
  | choice parts => exact FirstKeeps.called keeps

/-- The calls that repetition keeps are of rules its test may match, at the cursor or behind it. -/
theorem RepeatKeeps.called (keeps : RepeatKeeps grammar rule count here part there) :
    part ∈ (grammar.testOf rule).callees ∧ here.Reaches there := by
  induction keeps with
  | now _ _ _ test => exact test.called
  | later _ once _ _ ih => exact ⟨ih.1, once.reaches.trans ih.2⟩

/-- What a rule leaves was left behind by a rule that it calls, directly or not, or by itself. -/
theorem Leaves.leftBehind (left : Leaves grammar id here diagnostic) :
    LeftBehind grammar (ReflTransGen grammar.Calls id) here diagnostic := by
  induction left with
  | itself recovered => exact ⟨_, _, .refl, .refl _, recovered, rfl⟩
  | inside kept _ ih =>
    obtain ⟨calls, reached⟩ := kept.kept.called
    exact ih.mono reached fun _ inner => .head calls inner

end Kept

/-! ## What evaluations leave -/

variable {β : Type}

/-- A result that leads forward, remembers only verdicts, and leaves at most diagnostics of rules of
a class that were recovered from at the cursor or behind it. -/
structure Unwinds (grammar : Grammar P) (inside : RuleId → Prop) (before : State β)
    (result : Outcome × State β) : Prop where
  /-- The cursor did not go back. -/
  forward : before.scanner.Reaches result.2.scanner
  /-- The cache remembers only verdicts. -/
  memory : (finalVerdict grammar).Backs before.source result.2.memory
  /-- The diagnostics added were left behind by rules of the class. -/
  errors : ∃ left, result.2.errors = before.errors ++ left ∧
    ∀ diagnostic ∈ left, LeftBehind grammar inside before.scanner diagnostic

namespace Unwinds

variable {grammar : Grammar P} {inside outside : RuleId → Prop} {before middle after : State β}
  {outcome other : Outcome} {result : Outcome × State β}

/-- A result that keeps the diagnostics leaves none. -/
theorem of_errors_eq (forward : before.scanner.Reaches after.scanner)
    (memory : (finalVerdict grammar).Backs before.source after.memory)
    (errors : after.errors = before.errors) : Unwinds grammar inside before (outcome, after) :=
  ⟨forward, memory, [], by rw [errors, List.append_nil], nofun⟩

/-- How an evaluation ends makes no difference to what it leaves. -/
theorem turn (unwinds : Unwinds grammar inside before (outcome, after)) :
    Unwinds grammar inside before (other, after) :=
  ⟨unwinds.forward, unwinds.memory, unwinds.errors⟩

/-- What rules of a class leave is left by rules of a greater one. -/
theorem mono (unwinds : Unwinds grammar inside before result)
    (among : ∀ part, inside part → outside part) : Unwinds grammar outside before result := by
  obtain ⟨left, added, behind⟩ := unwinds.errors
  exact ⟨unwinds.forward, unwinds.memory, left, added,
    fun diagnostic member => (behind diagnostic member).mono (.refl _) among⟩

/-- The source stays the same. -/
theorem source_eq (unwinds : Unwinds grammar inside before result) :
    result.2.source = before.source :=
  unwinds.forward.source

/-- Two evaluations one after the other leave what both leave. -/
theorem trans (earlier : Unwinds grammar inside before (outcome, middle))
    (later : Unwinds grammar inside middle result) : Unwinds grammar inside before result := by
  obtain ⟨first, addedFirst, behindFirst⟩ := earlier.errors
  obtain ⟨second, addedSecond, behindSecond⟩ := later.errors
  refine ⟨earlier.forward.trans later.forward, earlier.source_eq ▸ later.memory, first ++ second,
    ?_, ?_⟩
  · rw [addedSecond, addedFirst, List.append_assoc]
  · intro diagnostic member
    rcases List.mem_append.mp member with old | new
    · exact behindFirst diagnostic old
    · exact (behindSecond diagnostic new).mono earlier.forward fun _ same => same

/-- Taking the cursor back leads to where it was. -/
theorem moveTo_scanner (unwinds : Unwinds grammar inside before result) :
    result.2.scanner.moveTo before.position = before.scanner :=
  Scanner.moveTo_position unwinds.forward.source

/-- Taking the cursor and the diagnostics back leaves none. -/
theorem back (unwinds : Unwinds grammar inside before result)
    (scanner : after.scanner = result.2.scanner.moveTo before.position)
    (memory : after.memory = result.2.memory)
    (errors : after.errors = result.2.errors.take before.errors.length) :
    Unwinds grammar inside before (other, after) := by
  obtain ⟨left, added, -⟩ := unwinds.errors
  refine .of_errors_eq ?_ (memory ▸ unwinds.memory) (by rw [errors, added, List.take_left])
  rw [scanner, unwinds.moveTo_scanner]
  exact .refl _

end Unwinds

variable [Builder β]

/-- Leaving at most what rules of a class leave, from states whose cache remembers only verdicts, is
a conduct. -/
def unwinding (grammar : Grammar P) (inside : RuleId → Prop) : Conduct β where
  Does before result := (finalVerdict grammar).Backs before.source before.memory →
    Unwinds grammar inside before result
  Room _ _ := True
  stays state memory := .of_errors_eq (.refl _) memory rfl
  turns _ _ done memory := (done memory).turn
  follows _ earlier later memory := by
    have first := earlier memory
    exact first.trans (later (first.source_eq ▸ first.memory))
  moves reached memory := .of_errors_eq reached memory rfl
  restores done memory := (done memory).back rfl rfl rfl
  refutes {state next outcome} done memory := by
    have tested := done memory
    have unwinds : Unwinds grammar inside state (outcome, next) :=
      ⟨tested.forward, tested.memory, tested.errors⟩
    exact unwinds.back rfl rfl rfl
  starts _ := trivial
  spends _ _ _ := trivial
  exhausts _ memory := .of_errors_eq (.refl _) memory rfl

section Rules

variable {grammar : Grammar P} {call : RuleId → Action β} {id : RuleId} {state : State β}

/-- A rule that does what the final verdict on it says leaves diagnostics of itself and of rules
that it calls. -/
theorem Answers.unwinds {ledger : Ledger β} {verdict : MatchResult} {result : Outcome × State β}
    (known : finalVerdict grammar id state.scanner = some verdict)
    (answers : Answers ledger grammar (finalVerdict grammar)
      (verdict.reply grammar (grammar.rule id) state.position) state result) :
    Unwinds grammar (ReflTransGen grammar.Calls id) state result := by
  obtain ⟨behind, inside⟩ := (finalVerdict_forward grammar).reply grammar known
  refine ⟨?_, answers.memory, _, answers.errors, fun diagnostic member => ?_⟩
  · rw [answers.scanner]
    exact ⟨rfl, behind.trans_eq (Scanner.position_moveTo inside).symm⟩
  · exact (((finalVerdict_diagnoses grammar).exact _ _ _ known diagnostic).mp member).leftBehind

variable [Procedures P]

/-- A rule that was stopped leaves diagnostics of rules that it calls, directly or not, if every
part leaves diagnostics of itself and of rules that it calls. -/
theorem callRule_stopped_unwinds (free : grammar.isProcedureFree = true)
    (parts : ∀ part (inner : State β), (finalVerdict grammar).Backs inner.source inner.memory →
      Unwinds grammar (ReflTransGen grammar.Calls part) inner (call part inner))
    (memory : (finalVerdict grammar).Backs state.source state.memory)
    (stopped : (callRule grammar call id state).1.stops = true) :
    Unwinds grammar (TransGen grammar.Calls id) state (callRule grammar call id state) := by
  rcases callRule_stopped stopped with
    ⟨_, same⟩ | ⟨called, ended, _, _, alike, recalled, repeated, last⟩
  · generalize callRule grammar call id state = result at same
    obtain ⟨outcome, after⟩ := result
    obtain rfl : after = state := same
    exact .of_errors_eq (.refl _) memory rfl
  · have source : called.source = state.source := congrArg Scanner.source alike.scanner
    have tested := (unwinding grammar (TransGen grammar.Calls id)).repeatTest
      (fun part callee inner backs => (parts part inner backs).mono fun _ => .head' callee)
      (grammar.testOf_isNoProcedure free id) (openRule (grammar.rule id) called)
    rw [repeated] at tested
    have unwinds := tested (by rw [← source, ← recalled] at memory; exact memory)
    obtain ⟨left, added, behind⟩ := unwinds.errors
    have back : (endStopped called ended).scanner = state.scanner :=
      unwinds.moveTo_scanner.trans alike.scanner
    refine ⟨?_, ?_, left, ?_, ?_⟩
    · rw [last, back]
      exact .refl _
    · rw [last, ← source]
      exact unwinds.memory
    · rw [last, ← alike.errors]
      exact added
    · rw [← alike.scanner]
      exact behind

end Rules

variable [Procedures P]

/-- Matching a rule leaves diagnostics of itself and of rules that it calls, however it ends. -/
theorem descend_unwinds (ledger : Ledger β) {grammar : Grammar P}
    (free : grammar.isProcedureFree = true) (depth : Nat) (id : RuleId) (state : State β)
    (memory : (finalVerdict grammar).Backs state.source state.memory) :
    Unwinds grammar (ReflTransGen grammar.Calls id) state (descend grammar depth id state) := by
  induction depth generalizing id state with
  | zero => exact .of_errors_eq (.refl _) memory rfl
  | succ depth ih =>
    cases stopped : (descend grammar (depth + 1) id state).1.stops with
    | true =>
      exact (callRule_stopped_unwinds free ih memory stopped).mono fun _ => TransGen.to_reflTransGen
    | false =>
      have obeys := descend_obeys ledger free (depth + 1) id state memory
      generalize descend grammar (depth + 1) id state = result at obeys stopped
      cases obeys with
      | answered verdict known answers => exact answers.unwinds known
      | limited limit => contradiction
      | diverged unknown => contradiction

/-- Matching a rule that is stopped leaves diagnostics of rules that it calls, directly or not. -/
theorem descend_stopped_unwinds (ledger : Ledger β) {grammar : Grammar P}
    (free : grammar.isProcedureFree = true) {depth : Nat} {id : RuleId} {state : State β}
    (memory : (finalVerdict grammar).Backs state.source state.memory)
    (stopped : (descend grammar depth id state).1.stops = true) :
    Unwinds grammar (TransGen grammar.Calls id) state (descend grammar depth id state) := by
  cases depth with
  | zero => exact .of_errors_eq (.refl _) memory rfl
  | succ depth =>
    exact callRule_stopped_unwinds free (descend_unwinds ledger free depth) memory stopped

/-! ## Reachable states -/

/-- A state that can be come to from a fresh one by matching rules of a grammar, to whatever depth,
and by whatever else leaves the source and the memory of the cache as they are. -/
inductive Reachable (grammar : Grammar P) : State β → Prop
  /-- A fresh state is reachable. -/
  | initial (source : Source) (config : Config) (builder : β) :
      Reachable grammar (.initial source config builder)
  /-- Matching a rule leads to a reachable state, however it ends. -/
  | called {state : State β} (depth : Nat) (id : RuleId) (reachable : Reachable grammar state) :
      Reachable grammar (descend grammar depth id state).2
  /-- Nothing else touches the source or the memory of the cache. -/
  | changed {state next : State β} (reachable : Reachable grammar state)
      (source : next.source = state.source) (memory : next.memory = state.memory) :
      Reachable grammar next

/-- The cache of a reachable state remembers only verdicts. -/
theorem Reachable.backs (ledger : Ledger β) {grammar : Grammar P}
    (free : grammar.isProcedureFree = true) {state : State β}
    (reachable : Reachable grammar state) :
    (finalVerdict grammar).Backs state.source state.memory := by
  induction reachable with
  | initial source config builder => exact Oracle.backs_initial _ _ config builder
  | called depth id _ ih =>
    have unwinds := descend_unwinds ledger free depth id _ ih
    exact unwinds.source_eq ▸ unwinds.memory
  | changed _ source memory ih =>
    rw [source, memory]
    exact ih

/-! ## The call limit -/

/-- A rule of a procedure-free grammar that the call limit stops, in a reachable state, leaves the
cursor, every frame of the node stack, the trimming mark and the count of negations as they were.
The diagnostics that it leaves are exactly those that it abandons, so they are as they were exactly
if it abandons none. Each is of a rule called inside it, directly or not, that was recovered from at
the cursor or behind it; where no such rule is recovered from, the diagnostics are as they were. -/
theorem matchRule_callLimit_unwinds (grammar : Grammar P) (free : grammar.isProcedureFree = true)
    (id : RuleId) (state : State NodeStack) (reachable : Reachable grammar state)
    (limited : (matchRule grammar id state).1 = .failed .callLimit) :
    (matchRule grammar id state).2.scanner = state.scanner ∧
      (matchRule grammar id state).2.builder = state.builder ∧
      (matchRule grammar id state).2.mark = state.mark ∧
      (matchRule grammar id state).2.negations = state.negations ∧
      (∃ left, (matchRule grammar id state).2.errors = state.errors ++ left ∧
        (∀ diagnostic, diagnostic ∈ left ↔
          Abandons grammar (state.depthBound grammar) id state diagnostic) ∧
        ∀ diagnostic ∈ left,
          LeftBehind grammar (TransGen grammar.Calls id) state.scanner diagnostic) ∧
      ((matchRule grammar id state).2.errors = state.errors ↔
        ∀ diagnostic, ¬ Abandons grammar (state.depthBound grammar) id state diagnostic) ∧
      ((∀ part there, TransGen grammar.Calls id part → state.scanner.Reaches there →
          ¬ IsRecovered grammar part there) →
        (matchRule grammar id state).2.errors = state.errors) := by
  have stopped : (matchRule grammar id state).1.stops = true := congrArg Outcome.stops limited
  have restored := descend_stopped_restores NodeStack.ledger
    (Grammar.IsPassive.of_isProcedureFree free) stopped
  have backs := reachable.backs NodeStack.ledger free
  have unwinds := descend_stopped_unwinds NodeStack.ledger free backs stopped
  obtain ⟨left, added, behind⟩ := unwinds.errors
  have abandoned := descend_abandons NodeStack.ledger free _ id state backs limited
  have exact := abandoned.mem_iff added
  have kept := abandoned.eq_iff
  refine ⟨restored.scanner, NodeStack.eq_of_adds_nil restored.builder, restored.mark,
    restored.negations, ⟨left, added, exact, behind⟩, kept, fun none => ?_⟩
  refine kept.mpr fun diagnostic abandons => ?_
  obtain ⟨part, there, inside, reached, recovered, _⟩ :=
    behind diagnostic ((exact diagnostic).mpr abandons)
  exact none part there inside reached recovered

/-- No rule of the grammar of shouts is pinned. -/
theorem Grammar.pinned_shouts (id : RuleId) :
    (Grammar.shouts.rule id).annotations.pinned = false := by
  match id with
  | 0 | 1 | 2 | 3 | 4 | 5 => rfl
  | _ + 6 => rfl

/-- A shout that the limit stops at its last blanks leaves everything as it was, under a negation,
with a diagnostic recorded, and in a rule that has collected a node. -/
theorem matchRule_callLimit_unwinds_shouts :
    let state : State NodeStack :=
      { State.initial ⟨['a', ' ', '!']⟩ ((Config.default.withCache 2 2).withCallLimit 3)
          ⟨[⟨[.leaf .error (.point 0) .empty]⟩], .empty⟩ with
        errors := [⟨.point 0, "expected letter"⟩]
        mark := some (.start 0)
        negations := 1 }
    (matchRule .shouts 2 state).1 = .failed .callLimit ∧
      (matchRule .shouts 2 state).2.scanner = state.scanner ∧
      (matchRule .shouts 2 state).2.builder = state.builder ∧
      (matchRule .shouts 2 state).2.mark = state.mark ∧
      (matchRule .shouts 2 state).2.negations = state.negations ∧
      (matchRule .shouts 2 state).2.errors = state.errors := by
  intro state
  have limited : (matchRule .shouts 2 state).1 = .failed .callLimit := by
    decide +kernel
  have fresh : Reachable .shouts (State.initial state.source
      ((Config.default.withCache 2 2).withCallLimit 3) state.builder) := .initial _ _ _
  have reachable : Reachable .shouts state := .changed fresh rfl rfl
  obtain ⟨scanner, builder, mark, negations, _, _, errors⟩ :=
    matchRule_callLimit_unwinds .shouts Grammar.isProcedureFree_shouts 2 state reachable limited
  refine ⟨limited, scanner, builder, mark, negations, errors fun part there _ _ recovered => ?_⟩
  have pinned := recovered.pinned
  rw [Grammar.pinned_shouts] at pinned
  contradiction

/-- Three letters in a row, of which the second may be missing. -/
def Grammar.rows : Grammar where
  rules :=
    #[⟨none, "\"a\"", .scanning, .empty, .own (.terminal (.literal "a"))⟩,
      ⟨none, "@pin \"b\"", .scanning, ⟨[(.pinned, .set)]⟩, .own (.terminal (.literal "b"))⟩,
      ⟨none, "\"c\"", .scanning, .empty, .own (.terminal (.literal "c"))⟩,
      ⟨none, "\"a\" @pin \"b\" \"c\"", .scanning, .empty, .own (.sequence [0, 1, 2])⟩]
  names := []
  root := 3

/-- A row that the limit stops at its last letter leaves the diagnostic of the second, although
nothing of the row is kept. -/
theorem matchRule_callLimit_leaves_diagnostic :
    let state : State NodeStack :=
      .initial ⟨['a', 'c']⟩ (Config.default.withCallLimit 3) .initial
    (matchRule .rows 3 state).1 = .failed .callLimit ∧ state.errors = [] ∧
      (matchRule .rows 3 state).2.errors = [⟨.point 1, "expected @pin \"b\""⟩] := by
  decide +kernel

/-- A row whose second letter is there leaves none, although the letter is pinned. -/
example :
    let state : State NodeStack :=
      .initial ⟨['a', 'b', 'c']⟩ (Config.default.withCallLimit 3) .initial
    (matchRule .rows 3 state).1 = .failed .callLimit ∧
      (matchRule .rows 3 state).2.errors = state.errors := by
  decide +kernel

end Packrat
