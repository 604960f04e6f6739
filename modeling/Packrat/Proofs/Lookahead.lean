import Packrat.Proofs.Unwinding

/-!
# Looking ahead

A rule that only looks ahead and matches takes the cursor back and drops the nodes it collected, but
keeps the diagnostics that its test left. So it leaves the state as it was exactly if no rule inside
it is recovered from and kept (`matchRule_lookahead_restores`).
-/

namespace Packrat

variable {P : Type}

section Verdicts

variable {grammar : Grammar P} {id : RuleId} {here : Scanner}

/-- The final verdict on a rule is how the trial of it under the final verdicts is concluded. -/
theorem conclude_of_finalVerdict {result : MatchResult}
    (known : finalVerdict grammar id here = some result) :
    Trial.conclude grammar id here.position
      (Trial.repeated grammar (finalVerdict grammar) (grammar.rule id) (.start here)) =
        some result :=
  (congrFun (congrFun (finalVerdict_eq_step grammar) id) here).trans known

/-- A pinned rule on which the final verdict is a failure is recovered from. -/
theorem isRecovered_of_failure {attempts : List Attempt}
    (known : finalVerdict grammar id here = some (.failure attempts))
    (pinned : (grammar.rule id).annotations.pinned = true) : IsRecovered grammar id here := by
  have concluded := conclude_of_finalVerdict known
  refine ⟨?_, pinned⟩
  unfold Trial.conclude at concluded
  split at concluded
  · simp at concluded
  · rename_i journal repeated
    exact Trial.repeated_parses (finalVerdict_parses grammar) (congrArg Trial.answer repeated)
  · contradiction

/-- A match of a rule that looks ahead ends where it started and leaves no nodes. -/
theorem remembered_of_lookahead {remembered : RememberedMatch}
    (known : finalVerdict grammar id here = some (.success remembered))
    (lookahead : (grammar.rule id).behaviour.lookahead = true) :
    remembered.stop = here.position ∧ remembered.nodes = [] := by
  have concluded := conclude_of_finalVerdict known
  unfold Trial.conclude at concluded
  split at concluded
  · obtain rfl := MatchResult.success.inj (Option.some.inj concluded)
    simp [Trial.remembered, lookahead]
  · simp at concluded
  · contradiction

end Verdicts

variable [Procedures P]

/-- A rule of a procedure-free grammar that looks ahead and matches in a reachable state, without
being recovered from itself, leaves the cursor, every frame of the node stack and the trimming mark
as they were. It leaves the diagnostics as they were exactly if no rule whose call is kept inside it
is recovered from. -/
theorem matchRule_lookahead_restores (grammar : Grammar P) (free : grammar.isProcedureFree = true)
    (id : RuleId) (lookahead : (grammar.rule id).behaviour.lookahead = true)
    (state : State NodeStack) (reachable : Reachable grammar state)
    (matched : (matchRule grammar id state).1 = .matched)
    (unrecovered : ¬ IsRecovered grammar id state.scanner) :
    (matchRule grammar id state).2.scanner = state.scanner ∧
      (matchRule grammar id state).2.builder = state.builder ∧
      (matchRule grammar id state).2.mark = state.mark ∧
      ((matchRule grammar id state).2.errors = state.errors ↔
        ∀ diagnostic, ¬ Leaves grammar id state.scanner diagnostic) := by
  have obeys := descend_obeys NodeStack.ledger free (state.depthBound grammar) id state
    (reachable.backs NodeStack.ledger free)
  unfold matchRule at matched ⊢
  generalize descend grammar (state.depthBound grammar) id state = result at obeys matched
  cases obeys with
  | limited limit => contradiction
  | diverged unknown => contradiction
  | answered verdict known answers =>
    cases verdict with
    | failure attempts =>
      have pinned : (grammar.rule id).annotations.pinned = true := by
        have outcome := answers.outcome.symm.trans matched
        unfold MatchResult.reply at outcome
        simpa using outcome
      exact absurd (isRecovered_of_failure known pinned) unrecovered
    | success remembered =>
      obtain ⟨stop, nodes⟩ := remembered_of_lookahead known lookahead
      have scanner : result.2.scanner = state.scanner.moveTo remembered.stop := answers.scanner
      have builder : NodeStack.ledger.Adds state.builder remembered.nodes result.2.builder :=
        answers.builder
      have mark : result.2.mark = state.mark := by
        have changed := answers.mark
        simpa only [MatchResult.reply, lookahead, if_true, Option.map_id_apply] using changed
      have errors : result.2.errors = state.errors ++ remembered.diagnostics := answers.errors
      rw [stop] at scanner
      rw [nodes] at builder
      refine ⟨scanner.trans (Scanner.moveTo_position rfl), NodeStack.eq_of_adds_nil builder,
        mark, ?_⟩
      rw [errors, List.append_right_eq_self, List.eq_nil_iff_forall_not_mem]
      exact forall_congr' fun diagnostic => not_congr
        ((finalVerdict_diagnoses grammar).exact id state.scanner _ known diagnostic)

/-- A letter that is looked at together with the one behind it, which may be missing. -/
def Grammar.glimpses : Grammar where
  rules :=
    #[⟨none, "\"a\"", .scanning, .empty, .own (.terminal (.literal "a"))⟩,
      ⟨none, "@pin \"b\"", .scanning, ⟨[(.pinned, .set)]⟩, .own (.terminal (.literal "b"))⟩,
      ⟨none, "&(\"a\" @pin \"b\")", ⟨.scanning, .one, false, true⟩, .empty,
        .own (.sequence [0, 1])⟩,
      ⟨none, "\"a\"", ⟨.structural (.named "a"), .one, false, false⟩, .empty,
        .own (.terminal (.literal "a"))⟩,
      ⟨none, "&(\"a\" @pin \"b\") \"a\"", .scanning, .empty, .own (.sequence [2, 3])⟩]
  names := []
  root := 4

/-- Looking ahead at two letters that are there leaves everything as it was, with a diagnostic
recorded, and in a rule that has collected a node. -/
theorem matchRule_lookahead_restores_glimpses :
    let state : State NodeStack :=
      { State.initial ⟨['a', 'b']⟩ (Config.default.withCache 2 2)
          ⟨[⟨[.leaf .error (.point 0) .empty]⟩], .empty⟩ with
        errors := [⟨.point 0, "expected letter"⟩]
        mark := some (.start 0) }
    (matchRule .glimpses 2 state).1 = .matched ∧
      (matchRule .glimpses 2 state).2.scanner = state.scanner ∧
      (matchRule .glimpses 2 state).2.builder = state.builder ∧
      (matchRule .glimpses 2 state).2.mark = state.mark ∧
      (matchRule .glimpses 2 state).2.errors = state.errors ∧
      ∀ diagnostic, ¬ Leaves .glimpses 2 state.scanner diagnostic := by
  intro state
  have matched : (matchRule .glimpses 2 state).1 = .matched := by
    decide +kernel
  have fresh : Reachable .glimpses (State.initial state.source (Config.default.withCache 2 2)
      state.builder) := .initial _ _ _
  have reachable : Reachable .glimpses state := .changed fresh rfl rfl
  have unpinned : (Grammar.glimpses.rule 2).annotations.pinned = false := rfl
  obtain ⟨scanner, builder, mark, errors⟩ :=
    matchRule_lookahead_restores .glimpses (by decide +kernel) 2 rfl state reachable matched
      fun recovered => Bool.noConfusion (unpinned.symm.trans recovered.pinned)
  have same : (matchRule .glimpses 2 state).2.errors = state.errors := by
    decide +kernel
  exact ⟨matched, scanner, builder, mark, same, errors.mp same⟩

/-- Looking ahead at a letter without the one behind it matches, although the rule that looks ahead
is not pinned, and leaves the diagnostic of the letter that is missing. -/
theorem matchRule_lookahead_leaves_diagnostic :
    let state : State NodeStack := .initial ⟨['a']⟩ .default .initial
    (Grammar.glimpses.rule 2).behaviour.lookahead = true ∧
      (Grammar.glimpses.rule 2).annotations.pinned = false ∧
      (matchRule .glimpses 2 state).1 = .matched ∧ state.errors = [] ∧
      (matchRule .glimpses 2 state).2.errors = [⟨.point 1, "expected @pin \"b\""⟩] := by
  decide +kernel

end Packrat
