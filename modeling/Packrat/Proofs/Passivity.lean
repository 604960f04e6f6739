import Packrat.Engine.Matching
import Packrat.Proofs.GrammarClass
import Packrat.Proofs.Scanning

/-!
# Procedures that reach the builder only by matching

A procedure is whatever a user of the library wrote. It may match rules as often as it likes and in
whatever order, look at the state before it decides, and keep a memory of its own in the notes. It
is passive if it reaches the builder in one way only, by matching rules: every state it comes to is
reached from the one it started in (`Roams`) by matching rules and by changes beside the builder
(`State.Beside`), in which the cursor goes anywhere in the source.

Programs are passive if none of their steps opens or closes a rule or hands nodes to the builder.
-/

namespace Packrat

variable {β : Type}

/-- The second state is one that a procedure can make of the first on its own: it has the same
source, builder, negations and call limit, and at most more diagnostics. -/
structure State.Beside (before after : State β) : Prop where
  /-- The source is the same. -/
  source : after.source = before.source
  /-- The builder is the same. -/
  builder : after.builder = before.builder
  /-- Diagnostics were recorded after those there were. -/
  errors : before.errors <+: after.errors
  /-- As many negations are open. -/
  negations : after.negations = before.negations
  /-- The call limit is the same. -/
  callLimit : after.callLimit = before.callLimit

/-- A state whose cursor moved in its source is beside the one before. -/
theorem State.beside_scanner {state : State β} {scanner : Scanner}
    (source : scanner.source = state.source) : state.Beside { state with scanner } :=
  ⟨source, rfl, List.prefix_rfl, rfl, rfl⟩

/-- A state with one more remark is beside the one before. -/
theorem State.beside_remark (state : State β) (remark : Remark) :
    state.Beside (state.remark remark) :=
  ⟨rfl, rfl, List.prefix_rfl, rfl, rfl⟩

/-- A state with one more note is beside the one before. -/
theorem State.beside_probe [Builder β] (state : State β) (label : String) :
    state.Beside (state.probe label) :=
  ⟨rfl, rfl, List.prefix_rfl, rfl, rfl⟩

/-- The states that are reached from a state by matching rules and by changes beside the builder. -/
inductive Roams (call : RuleId → Action β) (start : State β) : State β → Prop where
  /-- The state itself. -/
  | here : Roams call start start
  /-- A change beside the builder. -/
  | beside {reached next : State β} (roams : Roams call start reached)
      (changed : reached.Beside next) : Roams call start next
  /-- Matching a rule, however it ends. -/
  | matched {reached : State β} (roams : Roams call start reached) (id : RuleId) :
      Roams call start (call id reached).2

/-- What is reached from a reached state is reached. -/
theorem Roams.trans {call : RuleId → Action β} {first second third : State β}
    (earlier : Roams call first second) (later : Roams call second third) :
    Roams call first third := by
  induction later with
  | here => exact earlier
  | beside _ changed ih => exact .beside ih changed
  | matched _ id ih => exact .matched ih id

/-- A change beside the builder is reached. -/
theorem State.Beside.roams {call : RuleId → Action β} {before after : State β}
    (changed : before.Beside after) : Roams call before after :=
  .beside .here changed

variable {P : Type}

/-- A procedure reaches the builder only by matching rules, whatever matching a rule does. -/
def Procedures.IsPassive (β : Type) [Builder β] [Procedures P] (grammar : Grammar P)
    (procedure : P) : Prop :=
  ∀ (call : RuleId → Action β) (state : State β),
    Roams call state (Procedures.run grammar call procedure state).2

/-- The procedures of a grammar reach the builder only by matching rules. -/
def Grammar.IsPassive (β : Type) [Builder β] [Procedures P] (grammar : Grammar P) : Prop :=
  ∀ (id : RuleId) (procedure : P), grammar.testOf (grammar.rule id) = .procedure procedure →
    Procedures.IsPassive β grammar procedure

/-- A procedure-free grammar is passive. -/
theorem Grammar.IsPassive.of_isProcedureFree [Builder β] [Procedures P] {grammar : Grammar P}
    (free : grammar.isProcedureFree = true) : grammar.IsPassive β := by
  intro id procedure runs
  have none := grammar.testOf_isNoProcedure free id
  rw [runs] at none
  contradiction

/-! ## Programs -/

mutual
/-- Whether a step reaches the builder only by matching rules. -/
def Step.isPassive : Step → Bool
  | .openRule _ => false
  | .closeRule => false
  | .node _ _ => false
  | .restore _ => false
  | .attempt steps => Step.arePassive steps
  | .either programs => Step.programsArePassive programs
  | _ => true

/-- Whether the steps of a program reach the builder only by matching rules. -/
def Step.arePassive : List Step → Bool
  | [] => true
  | step :: later => step.isPassive && Step.arePassive later

/-- Whether several programs reach the builder only by matching rules. -/
def Step.programsArePassive : List (List Step) → Bool
  | [] => true
  | steps :: later => Step.arePassive steps && Step.programsArePassive later
end

section Programs

variable {grammar : Grammar P} {call : RuleId → Action β}

/-- A scan that goes forward changes only the cursor. -/
theorem scanWith_roams {scan : Scanner → Option Scanner}
    (reaches : ∀ {scanner next : Scanner}, scan scanner = some next → scanner.Reaches next)
    (state : State β) : Roams call state (scanWith scan state).2 := by
  unfold scanWith
  split
  · rename_i scanner found
    exact (State.beside_scanner (reaches found).source).roams
  · exact .here

/-- Taking characters changes only the cursor. -/
theorem consumeMany_roams (count : Nat) (state : State β) :
    Roams call state (consumeMany count state).2 := by
  induction count generalizing state with
  | zero => exact .here
  | succ count ih =>
    unfold consumeMany
    split
    · rename_i c scanner found
      have taken : state.Beside { state with scanner } :=
        State.beside_scanner (Scanner.consume_reaches found).source
      exact taken.roams.trans (ih _)
    · exact .here

/-- Matching a rule by name matches the rule, or remarks that there is none. -/
theorem matchNamed_roams (name : String) (state : State β) :
    Roams call state (matchNamed grammar call name state).2 := by
  unfold matchNamed
  split
  · exact .matched .here _
  · exact (state.beside_remark _).roams

variable [Builder β]

mutual
/-- A passive step reaches the builder only by matching rules. -/
theorem runStep_roams : ∀ (step : Step) (state : State β), step.isPassive = true →
    Roams call state (runStep grammar call step state).2
  | .named name, state, _ => by
    rw [runStep]
    exact matchNamed_roams name state
  | .root, state, _ => by
    rw [runStep]
    exact .matched .here _
  | .literal text, state, _ => by
    rw [runStep]
    exact scanWith_roams Scanner.scanLiteral_reaches state
  | .insensitive text, state, _ => by
    rw [runStep]
    exact scanWith_roams Scanner.scanInsensitive_reaches state
  | .set members, state, _ => by
    rw [runStep]
    exact scanWith_roams Scanner.scanWhere_reaches state
  | .regex compiled, state, _ => by
    rw [runStep]
    exact scanWith_roams Scanner.scanRegex_reaches state
  | .refuse text, state, _ => by
    rw [runStep]
    exact .here
  | .consume count, state, _ => by
    rw [runStep]
    exact consumeMany_roams count state
  | .peek expected, state, _ => by
    rw [runStep]
    split <;> exact .here
  | .moveTo position, state, _ => by
    rw [runStep]
    have moved : state.Beside (state.moveTo position) := State.beside_scanner rfl
    exact moved.roams
  | .attempt steps, state, passive => by
    have reached := runSteps_roams steps state (by simpa only [Step.isPassive] using passive)
    rw [runStep]
    split
    · rename_i next ran
      rwa [ran] at reached
    · exact reached
  | .either programs, state, passive => by
    rw [runStep]
    exact runEither_roams programs state (by simpa only [Step.isPassive] using passive)
  | .fail, state, _ => by
    rw [runStep]
    exact .here
  | .abort, state, _ => by
    rw [runStep]
    exact .here
  | .openRule token, state, passive => by simp [Step.isPassive] at passive
  | .closeRule, state, passive => by simp [Step.isPassive] at passive
  | .node token span, state, passive => by simp [Step.isPassive] at passive
  | .restore nodes, state, passive => by simp [Step.isPassive] at passive
  | .probe label, state, _ => by
    rw [runStep]
    exact (state.beside_probe label).roams

/-- Passive steps reach the builder only by matching rules. -/
theorem runSteps_roams : ∀ (steps : List Step) (state : State β), Step.arePassive steps = true →
    Roams call state (runSteps grammar call steps state).2
  | [], state, _ => by
    rw [runSteps]
    exact .here
  | step :: later, state, passive => by
    simp only [Step.arePassive, Bool.and_eq_true] at passive
    have reached := runStep_roams step state passive.1
    rw [runSteps]
    split
    · rename_i next ran
      rw [ran] at reached
      exact reached.trans (runSteps_roams later next passive.2)
    · rename_i reason next ran
      rwa [ran] at reached

/-- Passive programs tried one after the other reach the builder only by matching rules. -/
theorem runEither_roams : ∀ (programs : List (List Step)) (state : State β),
    Step.programsArePassive programs = true →
      Roams call state (runEither grammar call programs state).2
  | [], state, _ => by
    rw [runEither]
    exact .here
  | steps :: later, state, passive => by
    simp only [Step.programsArePassive, Bool.and_eq_true] at passive
    have reached := runSteps_roams steps state passive.1
    rw [runEither]
    split
    · rename_i next ran
      rw [ran] at reached
      exact reached.trans (runEither_roams later next passive.2)
    · exact reached
end

end Programs

/-- Whether a test is no program, or one that reaches the builder only by matching rules. -/
def Test.isPassive : Test → Bool
  | .procedure steps => Step.arePassive steps
  | _ => true

end Packrat
