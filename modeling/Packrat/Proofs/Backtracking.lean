import Packrat.Proofs.Conduct
import Packrat.Proofs.Ledger
import Packrat.Proofs.Memory
import Packrat.Proofs.Passivity

/-!
# Backtracking

Whatever an evaluation does, it only adds: to what the innermost open rule has collected, to the
diagnostics, and to nothing that lies further out (`State.Extends`). Coming back to a checkpoint
therefore gives back exactly what was taken (`State.Extends.restore`), and a rule that does not
match leaves the cursor, the builder, the diagnostics, the trimming mark and the count of negations
as they were (`Atomic`). One in which everything has to stop leaves all of them but the diagnostics
(`descend_stopped_restores`). The marks of the rules further out are values of their own
evaluations, which no evaluation inside them can reach.

Procedures may do as they like with the cursor. They may reach the builder only by matching rules
(`Grammar.IsPassive`).
-/

namespace Packrat

variable {P β : Type}

/-- Counting successes changes nothing. -/
theorem settle_snd (rule : Occurrence P) (count : Nat) (state : State β) :
    (settle rule count state).2 = state := by
  unfold settle
  split <;> rfl

/-- Settling is not stopped by the call limit. -/
theorem settle_ne_callLimit (rule : Occurrence P) (count : Nat) (state : State β) :
    (settle rule count state).1 ≠ .failed .callLimit := by
  unfold settle
  split <;> exact nofun

variable [Builder β]

/-! ## Extension and restoration -/

/-- The second state has the source, the negations and the call limit of the first, and has at most
collected more nodes and recorded more diagnostics. -/
structure State.Extends (ledger : Ledger β) (before after : State β) : Prop where
  /-- The source is the same. -/
  source : after.source = before.source
  /-- The innermost open rule collected nodes. -/
  builder : ∃ nodes, ledger.Adds before.builder nodes after.builder
  /-- Diagnostics were recorded after those there were. -/
  errors : before.errors <+: after.errors
  /-- As many negations are open. -/
  negations : after.negations = before.negations
  /-- The call limit is the same. -/
  callLimit : after.callLimit = before.callLimit

/-- The second state differs from the first in nothing that backtracking has to give back. -/
structure State.Restores (ledger : Ledger β) (before after : State β) : Prop where
  /-- The cursor is where it was. -/
  scanner : after.scanner = before.scanner
  /-- The innermost open rule collected nothing. -/
  builder : ledger.Adds before.builder [] after.builder
  /-- The diagnostics are the same. -/
  errors : after.errors = before.errors
  /-- The trimming mark is the same. -/
  mark : after.mark = before.mark
  /-- As many negations are open. -/
  negations : after.negations = before.negations
  /-- The call limit is the same. -/
  callLimit : after.callLimit = before.callLimit

namespace State

variable {ledger : Ledger β} {first second third before after : State β}

/-- Every state extends itself. -/
theorem Extends.refl (state : State β) : state.Extends ledger state :=
  ⟨rfl, ⟨[], ledger.nothing _⟩, List.prefix_rfl, rfl, rfl⟩

/-- A state whose cursor moved in its source extends the one before. -/
theorem extends_scanner {scanner : Scanner} (source : scanner.source = before.source) :
    before.Extends ledger { before with scanner } :=
  ⟨source, ⟨[], ledger.nothing _⟩, List.prefix_rfl, rfl, rfl⟩

/-- What extends a state extends every state like it. -/
theorem Extends.of_alike (alike : first.Alike second) (extended : second.Extends ledger third) :
    first.Extends ledger third := by
  obtain ⟨nodes, collected⟩ := extended.builder
  refine ⟨extended.source.trans (congrArg Scanner.source alike.scanner),
    ⟨nodes, alike.builder ▸ collected⟩, alike.errors ▸ extended.errors,
    extended.negations.trans alike.negations, extended.callLimit.trans alike.callLimit⟩

/-- A state like one that extends another extends it too. -/
theorem Extends.alike (extended : first.Extends ledger second) (alike : second.Alike third) :
    first.Extends ledger third := by
  obtain ⟨nodes, collected⟩ := extended.builder
  refine ⟨(congrArg Scanner.source alike.scanner).trans extended.source,
    ⟨nodes, alike.builder ▸ collected⟩,
    alike.errors ▸ extended.errors, alike.negations.trans extended.negations,
    alike.callLimit.trans extended.callLimit⟩

/-- What is restored to a state is restored to every state like it. -/
theorem Restores.of_alike (alike : first.Alike second) (restored : second.Restores ledger third) :
    first.Restores ledger third :=
  ⟨restored.scanner.trans alike.scanner, alike.builder ▸ restored.builder,
    restored.errors.trans alike.errors, restored.mark.trans alike.mark,
    restored.negations.trans alike.negations, restored.callLimit.trans alike.callLimit⟩

/-- A state like one that is restored to another is restored to it too. -/
theorem Restores.alike (restored : first.Restores ledger second) (alike : second.Alike third) :
    first.Restores ledger third :=
  ⟨alike.scanner.trans restored.scanner, alike.builder ▸ restored.builder,
    alike.errors.trans restored.errors, alike.mark.trans restored.mark,
    alike.negations.trans restored.negations, alike.callLimit.trans restored.callLimit⟩

/-- Extensions compose. -/
theorem Extends.trans (earlier : first.Extends ledger second)
    (later : second.Extends ledger third) : first.Extends ledger third := by
  obtain ⟨left, collected⟩ := earlier.builder
  obtain ⟨right, collectedMore⟩ := later.builder
  exact ⟨later.source.trans earlier.source,
    ⟨left ++ right, ledger.append collected collectedMore⟩, earlier.errors.trans later.errors,
    later.negations.trans earlier.negations, later.callLimit.trans earlier.callLimit⟩

/-- A restored state extends the one it was restored to. -/
theorem Restores.extends (restored : before.Restores ledger after) :
    before.Extends ledger after where
  source := congrArg Scanner.source restored.scanner
  builder := ⟨[], restored.builder⟩
  errors := restored.errors ▸ List.prefix_rfl
  negations := restored.negations
  callLimit := restored.callLimit

/-- Cutting the diagnostics back to their number before gives back those recorded since. -/
theorem Extends.take_errors (extended : before.Extends ledger after) :
    after.errors.take before.errors.length = before.errors :=
  (List.prefix_iff_eq_take.mp extended.errors).symm

/-- Moving back to where a state stood in the same source leads to the same cursor. -/
theorem Extends.moveTo_scanner (extended : before.Extends ledger after) :
    after.scanner.moveTo before.position = before.scanner :=
  Scanner.moveTo_position extended.source

/-- Coming back to a checkpoint gives back everything taken since, and nothing else. -/
theorem Extends.restore (extended : before.Extends ledger after) :
    before.Restores ledger (after.restore before.checkpoint) := by
  obtain ⟨nodes, collected⟩ := extended.builder
  exact ⟨extended.moveTo_scanner, ledger.cutBack collected, extended.take_errors, rfl,
    extended.negations, extended.callLimit⟩

end State

/-! ## Evaluations that only add -/

/-- An evaluation that only adds, however it ends. -/
def Frames (ledger : Ledger β) (action : Action β) : Prop :=
  ∀ state : State β, state.Extends ledger (action state).2

/-- A result that only adds to a state, and that leaves everything as it was if it is a mismatch. -/
structure State.Atomically (ledger : Ledger β) (before : State β) (result : Outcome × State β) :
    Prop where
  /-- The result only adds. -/
  adds : before.Extends ledger result.2
  /-- A mismatch leaves everything as it was. -/
  restores : result.1 = .failed .mismatch → before.Restores ledger result.2

/-- What is atomic from a state is atomic from every state like it. -/
theorem State.Atomically.of_alike {ledger : Ledger β} {before called : State β}
    {result : Outcome × State β} (alike : before.Alike called)
    (atomic : called.Atomically ledger result) : before.Atomically ledger result :=
  ⟨.of_alike alike atomic.adds, fun mismatch => .of_alike alike (atomic.restores mismatch)⟩

/-- An evaluation that only adds, and that leaves everything as it was where it does not match. -/
def Atomic (ledger : Ledger β) (action : Action β) : Prop :=
  ∀ state : State β, state.Atomically ledger (action state)

section Tests

variable {ledger : Ledger β} {grammar : Grammar P} {call : RuleId → Action β}

/-- A scan that goes forward only adds. -/
theorem scanWith_frames {scan : Scanner → Option Scanner}
    (reaches : ∀ {scanner next : Scanner}, scan scanner = some next → scanner.Reaches next) :
    Frames ledger (scanWith scan) := by
  intro state
  unfold scanWith
  split
  · rename_i scanner found
    exact State.extends_scanner (reaches found).source
  · exact .refl state

/-- Matching rules one after the other only adds. -/
theorem matchAll_frames (frames : ∀ id, Frames ledger (call id)) (parts : List RuleId) :
    Frames ledger (matchAll call parts) := by
  induction parts with
  | nil => exact fun state => .refl state
  | cons id later ih =>
    intro state
    have extended := frames id state
    unfold matchAll
    split
    · rename_i next called
      rw [called] at extended
      exact extended.trans (ih next)
    · rename_i reason next called
      rwa [called] at extended

/-- Matching the first rule that succeeds only adds. -/
theorem matchFirst_frames (frames : ∀ id, Frames ledger (call id)) (parts : List RuleId) :
    Frames ledger (matchFirst call parts) := by
  induction parts with
  | nil => exact fun state => .refl state
  | cons id later ih =>
    intro state
    have extended := frames id state
    unfold matchFirst
    split
    · rename_i next called
      rwa [called] at extended
    · rename_i next called
      rw [called] at extended
      exact extended.trans (ih next)
    · rename_i reason next _ called
      rwa [called] at extended

/-- Taking characters only adds. -/
theorem consumeMany_frames (count : Nat) : Frames ledger (consumeMany count) := by
  induction count with
  | zero => exact fun state => .refl state
  | succ count ih =>
    intro state
    unfold consumeMany
    split
    · rename_i c scanner found
      have taken : state.Extends ledger { state with scanner } :=
        State.extends_scanner (Scanner.consume_reaches found).source
      exact taken.trans (ih _)
    · exact .refl state

end Tests

/-! ## Procedures -/

section Procedures

variable {ledger : Ledger β} {grammar : Grammar P} {call : RuleId → Action β}

/-- A change beside the builder only adds. -/
theorem State.Beside.extends {before after : State β} (changed : before.Beside after) :
    before.Extends ledger after :=
  ⟨changed.source, ⟨[], changed.builder ▸ ledger.nothing _⟩, changed.errors, changed.negations,
    changed.callLimit⟩

/-- Matching rules and changing the state beside the builder only adds. -/
theorem Roams.extends (frames : ∀ id, Frames ledger (call id)) {start reached : State β}
    (roams : Roams call start reached) : start.Extends ledger reached := by
  induction roams with
  | here => exact .refl start
  | beside _ changed extended => exact extended.trans changed.extends
  | matched _ id extended => exact extended.trans (frames id _)

variable [Procedures P]

/-- A test that is no procedure only adds. -/
theorem runTest_frames (grammar : Grammar P) (frames : ∀ id, Frames ledger (call id))
    {test : Test P} (noProcedure : test.isNoProcedure = true) :
    Frames ledger (runTest grammar call test) := by
  cases test with
  | terminal terminal => exact scanWith_frames Terminal.scan_reaches
  | reference target => exact frames target
  | procedure procedure => simp [Test.isNoProcedure] at noProcedure
  | sequence parts => exact matchAll_frames frames parts
  | choice parts => exact matchFirst_frames frames parts
  | group inner => exact frames inner

/-- The test of a rule of a passive grammar only adds. -/
theorem runTest_testOf_frames (passive : grammar.IsPassive β)
    (frames : ∀ id, Frames ledger (call id))
    (id : RuleId) : Frames ledger (runTest grammar call (grammar.testOf (grammar.rule id))) := by
  cases own : grammar.testOf (grammar.rule id) with
  | procedure procedure => exact fun state => (passive id procedure own call state).extends frames
  | _ => exact runTest_frames grammar frames rfl

end Procedures

/-! ## Iterations -/

section Iterations

variable {ledger : Ledger β} {grammar : Grammar P} {call : RuleId → Action β} {rule : Occurrence P}

/-- What a refuted test took is given back, under the negations there were before. -/
theorem refuted_restores {state tested : State β} (journal : List Attempt)
    (extended : { state with negations := state.negations + 1, journal := [] }.Extends ledger
      tested) :
    state.Restores ledger { tested.restore state.checkpoint with
      negations := state.negations, journal } := by
  have restored := extended.restore
  exact ⟨restored.scanner, restored.builder, restored.errors, restored.mark, rfl,
    restored.callLimit⟩

variable [Procedures P]

/-- Evaluating a test to see it fail only adds. -/
theorem refute_frames (tests : Frames ledger (runTest grammar call (grammar.testOf rule))) :
    Frames ledger (refute grammar call rule) := by
  intro state
  have extended := tests { state with negations := state.negations + 1, journal := [] }
  unfold refute
  simp only
  have restored := fun journal => (refuted_restores journal extended).extends
  split
  · exact restored _
  · split
    · exact restored _
    · exact (restored _).trans (consumeMany_frames 1 _)
  · exact restored _

/-- Evaluating a test the way its rule asks for only adds. -/
theorem iterate_frames (tests : Frames ledger (runTest grammar call (grammar.testOf rule))) :
    Frames ledger (iterate grammar call rule) := by
  unfold iterate
  split
  · exact refute_frames tests
  · exact tests

/-- Evaluating a test again and again only adds. -/
theorem repeatFrom_frames (tests : Frames ledger (runTest grammar call (grammar.testOf rule)))
    (budget count : Nat) : Frames ledger (repeatFrom grammar call rule budget count) := by
  induction budget generalizing count with
  | zero =>
    intro state
    unfold repeatFrom
    split
    · rw [settle_snd]
      exact .refl state
    · exact .refl state
  | succ budget ih =>
    intro state
    have extended := iterate_frames tests state
    unfold repeatFrom
    split
    · rename_i next iterated
      rw [iterated] at extended
      split
      · rw [settle_snd]
        exact extended
      · exact extended.trans (ih (count + 1) next)
    · rename_i next iterated
      rw [iterated] at extended
      rw [settle_snd]
      exact extended.restore.extends
    · rename_i reason next _ iterated
      rwa [iterated] at extended

/-- Evaluating a test as often as its rule asks only adds. -/
theorem repeatTest_frames (tests : Frames ledger (runTest grammar call (grammar.testOf rule))) :
    Frames ledger (repeatTest grammar call rule) :=
  fun state => repeatFrom_frames tests _ _ state

end Iterations

/-! ## Rules -/

section Rules

variable {ledger : Ledger β} {grammar : Grammar P} {rule : Occurrence P}

/-- A rule that ends with a match only adds to the state it was entered in. -/
theorem succeed_extends (grammar : Grammar P) {entered ended : State β}
    (extended : (openRule rule entered).Extends ledger ended) (mark : Mark) (origin : Nat)
    (outer : Option Mark) :
    entered.Extends ledger (succeed grammar rule origin mark { ended with mark := outer }) := by
  obtain ⟨nodes, collected⟩ := extended.builder
  unfold succeed
  split
  · exact ⟨extended.source, ⟨[], ledger.discarded collected⟩,
      extended.errors, extended.negations, extended.callLimit⟩
  · exact ⟨extended.source, ⟨_, ledger.produced _ collected⟩, extended.errors,
      extended.negations, extended.callLimit⟩

/-- Ending a rule with a match only adds to the state it was entered in. -/
theorem endMatched_extends {id : RuleId} {entered ended : State β}
    (extended : (openRule (grammar.rule id) entered).Extends ledger ended) :
    entered.Extends ledger (endMatched grammar id entered ended) := by
  have told := succeed_extends grammar extended
    (ended.mark.getD (.start entered.position)) entered.position entered.mark
  have logged : entered.Extends ledger (logAttempt grammar id true ended.journal.reverse entered
      (succeed grammar (grammar.rule id) entered.position
        (ended.mark.getD (.start entered.position)) { ended with mark := entered.mark })) :=
    ⟨told.source, told.builder, told.errors, told.negations, told.callLimit⟩
  unfold endMatched
  simp only
  split
  · exact logged.alike (State.remember_alike _ _ _ _)
  · exact logged

/-- Ending a rule without a match gives back everything taken since the rule was entered. -/
theorem endMismatched_restores {id : RuleId} {entered ended : State β}
    (extended : (openRule (grammar.rule id) entered).Extends ledger ended) :
    entered.Restores ledger (endMismatched grammar id entered ended) := by
  obtain ⟨nodes, collected⟩ := extended.builder
  have logged : entered.Restores ledger (logAttempt grammar id false ended.journal.reverse entered
      { (ended.close Builder.failed).moveTo entered.position with
        errors := ended.errors.take entered.errors.length
        mark := entered.mark }) :=
    ⟨extended.moveTo_scanner, ledger.failed collected, extended.take_errors, rfl,
      extended.negations, extended.callLimit⟩
  exact logged.alike (State.remember_alike _ _ _ _)

/-- Ending a rule in which everything had to stop only adds to the state it was entered in. -/
theorem endStopped_extends {entered ended : State β}
    (extended : (openRule rule entered).Extends ledger ended) :
    entered.Extends ledger (endStopped entered ended) := by
  obtain ⟨nodes, collected⟩ := extended.builder
  exact ⟨extended.source, ⟨[], ledger.failed collected⟩,
    extended.errors, extended.negations, extended.callLimit⟩

/-- Recovering, or not, after everything was given back is atomic. -/
theorem recover_atomic {before state : State β} (origin : Nat)
    (restored : before.Restores ledger state) :
    before.Atomically ledger (recover grammar rule origin state) := by
  have extended := restored.extends
  unfold recover
  split
  · refine ⟨⟨extended.source, ?_, ?_, extended.negations, extended.callLimit⟩,
      fun mismatch => by contradiction⟩
    · exact ⟨_, ledger.append restored.builder (ledger.leaf _ _ _ _ _)⟩
    · exact extended.errors.trans (List.prefix_append _ _)
  · exact ⟨extended, fun _ => restored⟩

/-- Ending a rule as a cached match says is atomic, whatever the cache says. -/
theorem replay_atomic (origin : Nat) (result : MatchResult) :
    Atomic ledger (replay grammar rule origin result) := by
  intro state
  cases result with
  | success remembered =>
    have brought := ledger.restored state.builder rule.token remembered.nodes
    unfold replay
    simp only
    split
    · exact ⟨⟨rfl, ⟨_, brought⟩, List.prefix_append _ _, rfl, rfl⟩,
        fun mismatch => by contradiction⟩
    · exact ⟨⟨rfl, ⟨_, brought⟩, List.prefix_append _ _, rfl, rfl⟩,
        fun mismatch => by contradiction⟩
  | failure attempts =>
    have closed := ledger.failed (ledger.nothing (Builder.opened rule.token state.builder))
    exact recover_atomic origin ⟨rfl, closed, rfl, rfl, rfl, rfl⟩

/-- A rule that is recalled stops nothing. -/
theorem replay_ordinary (grammar : Grammar P) (rule : Occurrence P) (origin : Nat)
    (result : MatchResult) (state : State β) :
    (replay grammar rule origin result state).1.stops = false := by
  unfold replay
  cases result with
  | success remembered =>
    simp only
    split <;> rfl
  | failure attempts =>
    simp only [recover]
    split <;> rfl

/-- The state in which a rule is matched that the cache knows nothing about. -/
def State.calling (grammar : Grammar P) (id : RuleId) (state : State β) : State β :=
  let called := ({ state with calls := state.calls + 1 }.lookup id).2
  called.remark (.matching (grammar.rule id).label called.position)

omit [Builder β] in
/-- A state in which a rule is matched is like the one in which it was called. -/
theorem State.calling_alike (grammar : Grammar P) (id : RuleId) (state : State β) :
    state.Alike (state.calling grammar id) ∧ (state.calling grammar id).memory = state.memory := by
  obtain ⟨alike, memory⟩ := { state with calls := state.calls + 1 }.lookup_alike id
  exact ⟨⟨alike.scanner, alike.builder, alike.errors, alike.mark, alike.attempts, alike.journal,
    alike.negations, alike.callLimit⟩, memory⟩

variable [Procedures P] {call : RuleId → Action β}

/-- Matching a rule that the cache knows nothing about is atomic if matching its parts only adds. -/
theorem matchAfresh_atomic (passive : grammar.IsPassive β)
    (frames : ∀ id, Frames ledger (call id)) (id : RuleId) :
    Atomic ledger (matchAfresh grammar call id) := by
  intro state
  have tests := runTest_testOf_frames passive frames id
  have extended := repeatTest_frames tests (openRule (grammar.rule id) state)
  unfold matchAfresh
  simp only
  split
  · rename_i ended repeated
    rw [repeated] at extended
    exact ⟨endMatched_extends extended, fun mismatch => by contradiction⟩
  · rename_i ended repeated
    rw [repeated] at extended
    exact recover_atomic state.position (endMismatched_restores extended)
  · rename_i reason ended other repeated
    rw [repeated] at extended
    exact ⟨endStopped_extends extended, fun mismatch => absurd (Outcome.failed.inj mismatch) other⟩

/-- Calling a rule is stopped by the call limit, or uses what the cache remembers, or matches the
rule afresh. -/
theorem callRule_cases (grammar : Grammar P) (call : RuleId → Action β) (id : RuleId)
    (state : State β) :
    (state.limitReached = true ∧ callRule grammar call id state = (.failed .callLimit, state)) ∨
    ∃ called, state.Alike called ∧ called.memory = state.memory ∧
      ((∃ result, (∃ slot ∈ state.memory, slot.position = state.position ∧
          (id, result) ∈ slot.entries) ∧
        callRule grammar call id state =
          replay grammar (grammar.rule id) state.position result called) ∨
      state.limitReached = false ∧ called = state.calling grammar id ∧
        callRule grammar call id state = matchAfresh grammar call id called) := by
  unfold callRule
  split
  · rename_i limited
    exact .inl ⟨limited, rfl⟩
  · rename_i unreached
    right
    split
    · rename_i result called found
      obtain ⟨alike, memory⟩ := { state with calls := state.calls + 1 }.lookup_alike id
      have hit := State.mem_memory_of_lookup (congrArg Prod.fst found)
      rw [found] at alike memory
      have position : called.position = state.position := congrArg Scanner.position alike.scanner
      refine ⟨called.remark (.reusing (grammar.rule id).label called.position), ?_, memory, .inl
        ⟨result, hit, by rw [position]⟩⟩
      exact ⟨alike.scanner, alike.builder, alike.errors, alike.mark, alike.attempts, alike.journal,
        alike.negations, alike.callLimit⟩
    · rename_i called found
      have calling : called.remark (.matching (grammar.rule id).label called.position) =
          state.calling grammar id := by
        simp only [State.calling, found]
      obtain ⟨alike, memory⟩ := state.calling_alike grammar id
      exact ⟨state.calling grammar id, alike, memory,
        .inr ⟨Bool.eq_false_iff.mpr unreached, rfl, congrArg (matchAfresh grammar call id) calling⟩⟩

/-- Matching a rule is atomic if matching its parts only adds. -/
theorem callRule_atomic (passive : grammar.IsPassive β)
    (frames : ∀ id, Frames ledger (call id)) (id : RuleId) :
    Atomic ledger (callRule grammar call id) := by
  intro state
  rcases callRule_cases grammar call id state with
    ⟨_, limited⟩ | ⟨called, alike, _, ⟨result, _, replayed⟩ | ⟨_, _, afresh⟩⟩
  · rw [limited]
    exact ⟨.refl state, fun mismatch => by simp at mismatch⟩
  · rw [replayed]
    exact .of_alike alike (replay_atomic _ _ called)
  · rw [afresh]
    exact .of_alike alike (matchAfresh_atomic passive frames id called)

/-- Matching a rule is atomic, to whatever depth rules may call each other. -/
theorem descend_atomic (ledger : Ledger β) (passive : grammar.IsPassive β) (depth : Nat)
    (id : RuleId) :
    Atomic ledger (descend grammar depth id) := by
  induction depth generalizing id with
  | zero => exact fun state => ⟨.refl state, fun mismatch => by simp [descend] at mismatch⟩
  | succ depth ih =>
    exact callRule_atomic passive (fun part state => (ih part state).adds) id

/-! ## Rules that are stopped -/

section Stopped

variable {id : RuleId} {state : State β}

/-- A rule is stopped at the call limit before anything happened, or in the evaluation of its test.
-/
theorem callRule_stopped (stopped : (callRule grammar call id state).1.stops = true) :
    (state.limitReached = true ∧ (callRule grammar call id state).2 = state) ∨
    ∃ called ended, state.limitReached = false ∧ called = state.calling grammar id ∧
      state.Alike called ∧ called.memory = state.memory ∧
      repeatTest grammar call (grammar.rule id) (openRule (grammar.rule id) called) =
        ((callRule grammar call id state).1, ended) ∧
      (callRule grammar call id state).2 = endStopped called ended := by
  rcases callRule_cases grammar call id state with
    ⟨reached, limited⟩ |
    ⟨called, alike, memory, ⟨result, _, replayed⟩ | ⟨unreached, calling, afresh⟩⟩
  · exact .inl ⟨reached, congrArg Prod.snd limited⟩
  · rw [replayed, replay_ordinary] at stopped
    contradiction
  · rw [afresh] at stopped ⊢
    unfold matchAfresh at stopped ⊢
    simp only at stopped ⊢
    split at stopped
    · contradiction
    · simp only [recover] at stopped
      split at stopped <;> contradiction
    · rename_i reason ended other repeated
      exact .inr ⟨called, ended, unreached, calling, alike, memory, repeated, rfl⟩

/-- A rule that was stopped leaves everything but the diagnostics as it was, if matching its parts
only adds. -/
theorem callRule_stopped_restores {ledger : Ledger β} (passive : grammar.IsPassive β)
    (frames : ∀ part, Frames ledger (call part))
    (stopped : (callRule grammar call id state).1.stops = true) :
    state.Restores ledger { (callRule grammar call id state).2 with errors := state.errors } := by
  rcases callRule_stopped stopped with
    ⟨_, same⟩ | ⟨called, ended, _, _, alike, _, repeated, last⟩
  · rw [same]
    exact ⟨rfl, ledger.nothing _, rfl, rfl, rfl, rfl⟩
  · have tests := runTest_testOf_frames passive frames id
    have extended := repeatTest_frames tests (openRule (grammar.rule id) called)
    rw [repeated] at extended
    obtain ⟨nodes, collected⟩ := extended.builder
    rw [last]
    exact
      { scanner := extended.moveTo_scanner.trans alike.scanner
        builder := alike.builder ▸ ledger.failed collected
        errors := rfl
        mark := alike.mark
        negations := extended.negations.trans alike.negations
        callLimit := extended.callLimit.trans alike.callLimit }

/-- Matching a rule that is stopped leaves everything but the diagnostics as it was, to whatever
depth rules may call each other. -/
theorem descend_stopped_restores (ledger : Ledger β) (passive : grammar.IsPassive β)
    {depth : Nat} (stopped : (descend grammar depth id state).1.stops = true) :
    state.Restores ledger { (descend grammar depth id state).2 with errors := state.errors } := by
  cases depth with
  | zero => exact ⟨rfl, ledger.nothing _, rfl, rfl, rfl, rfl⟩
  | succ depth =>
    exact callRule_stopped_restores passive
      (fun part inner => (descend_atomic ledger passive depth part inner).adds) stopped

end Stopped

end Rules

end Packrat
