import Packrat.Proofs.Recovery

/-!
# What a stopped rule abandons

The call limit stops a rule in the middle. Some of its parts have matched by then, and some of those
were recovered from: their nodes go with the rule, but their diagnostics stay. So a rule that is
stopped abandons the diagnostics that the parts leave whose calls it had kept, and those that the
part abandons in whose call the stop came. A negated iteration gives everything back, so it abandons
nothing. Which parts have matched depends on the calls made before and on what the cache remembers,
so all this is said of the run from a state (`Abandons`), and only what a part leaves that has
matched is said in terms of parsing expressions (`Leaves`).

A rule that the call limit stops leaves exactly the diagnostics that it abandons
(`descend_abandons`).
-/

namespace Packrat

variable {P β : Type} [Builder β]

/-! ## Diagnostics that are abandoned -/

/-- Parts that are matched one after the other, up to one that is stopped, abandon a diagnostic. -/
inductive AllAbandon (grammar : Grammar P) (call : RuleId → Action β)
    (abandons : RuleId → State β → Diagnostic → Prop) :
    List RuleId → State β → Diagnostic → Prop
  /-- A part that matched leaves it. -/
  | left {id : RuleId} {parts : List RuleId} {state next : State β} {diagnostic : Diagnostic}
      (matched : call id state = (.matched, next))
      (left : Leaves grammar id state.scanner diagnostic) :
      AllAbandon grammar call abandons (id :: parts) state diagnostic
  /-- After a part that matched the others abandon it. -/
  | later {id : RuleId} {parts : List RuleId} {state next : State β} {diagnostic : Diagnostic}
      (matched : call id state = (.matched, next))
      (later : AllAbandon grammar call abandons parts next diagnostic) :
      AllAbandon grammar call abandons (id :: parts) state diagnostic
  /-- The part that is stopped abandons it. -/
  | inside {id : RuleId} {parts : List RuleId} {state next : State β} {diagnostic : Diagnostic}
      (stopped : call id state = (.failed .callLimit, next))
      (inside : abandons id state diagnostic) :
      AllAbandon grammar call abandons (id :: parts) state diagnostic

/-- Parts of which the first that succeeds is looked for, up to one that is stopped, abandon a
diagnostic. -/
inductive FirstAbandons (call : RuleId → Action β)
    (abandons : RuleId → State β → Diagnostic → Prop) :
    List RuleId → State β → Diagnostic → Prop
  /-- After a part that failed the others abandon it. -/
  | later {id : RuleId} {parts : List RuleId} {state next : State β} {diagnostic : Diagnostic}
      (failed : call id state = (.failed .mismatch, next))
      (later : FirstAbandons call abandons parts next diagnostic) :
      FirstAbandons call abandons (id :: parts) state diagnostic
  /-- The part that is stopped abandons it. -/
  | inside {id : RuleId} {parts : List RuleId} {state next : State β} {diagnostic : Diagnostic}
      (stopped : call id state = (.failed .callLimit, next))
      (inside : abandons id state diagnostic) :
      FirstAbandons call abandons (id :: parts) state diagnostic

/-- A test that is stopped abandons a diagnostic. -/
def TestAbandons (grammar : Grammar P) (call : RuleId → Action β)
    (abandons : RuleId → State β → Diagnostic → Prop) : Test P → State β → Diagnostic → Prop
  | .terminal _, _, _ => False
  | .reference target, state, diagnostic => abandons target state diagnostic
  | .group inner, state, diagnostic => abandons inner state diagnostic
  | .procedure _, _, _ => False
  | .sequence parts, state, diagnostic => AllAbandon grammar call abandons parts state diagnostic
  | .choice parts, state, diagnostic => FirstAbandons call abandons parts state diagnostic

/-- An iteration that succeeds leaves a diagnostic: a part leaves it whose call the test keeps, and
the iteration is not negated. -/
def OnceLeaves (grammar : Grammar P) (rule : Occurrence P) (here : Scanner)
    (diagnostic : Diagnostic) : Prop :=
  ∃ part there, (rule.behaviour.negate = false ∧
    TestKeeps grammar (grammar.testOf rule) here part there) ∧ Leaves grammar part there diagnostic

variable [Procedures P]

/-- Repetition that is stopped abandons a diagnostic. -/
inductive RepeatAbandons (grammar : Grammar P) (call : RuleId → Action β)
    (abandons : RuleId → State β → Diagnostic → Prop) (rule : Occurrence P) :
    State β → Diagnostic → Prop
  /-- An iteration that succeeded leaves it. -/
  | left {state next : State β} {diagnostic : Diagnostic}
      (matched : iterate grammar call rule state = (.matched, next))
      (left : OnceLeaves grammar rule state.scanner diagnostic) :
      RepeatAbandons grammar call abandons rule state diagnostic
  /-- The iterations after one that succeeded abandon it. -/
  | later {state next : State β} {diagnostic : Diagnostic}
      (matched : iterate grammar call rule state = (.matched, next))
      (later : RepeatAbandons grammar call abandons rule next diagnostic) :
      RepeatAbandons grammar call abandons rule state diagnostic
  /-- The test of the iteration that is stopped abandons it, and the iteration is not negated. -/
  | inside {state next : State β} {diagnostic : Diagnostic}
      (stopped : iterate grammar call rule state = (.failed .callLimit, next))
      (plain : rule.behaviour.negate = false)
      (test : TestAbandons grammar call abandons (grammar.testOf rule) state diagnostic) :
      RepeatAbandons grammar call abandons rule state diagnostic

/-- A rule that may call others to a given depth, and is stopped, abandons a diagnostic. A call that
is refused abandons none. -/
def Abandons (grammar : Grammar P) : Nat → RuleId → State β → Diagnostic → Prop
  | 0, _, _, _ => False
  | depth + 1, id, state, diagnostic => state.limitReached = false ∧
      RepeatAbandons grammar (descend grammar depth) (Abandons grammar depth) (grammar.rule id)
        (openRule (grammar.rule id) (state.calling grammar id)) diagnostic

section Pieces

variable {grammar : Grammar P} {call : RuleId → Action β}
  {abandons : RuleId → State β → Diagnostic → Prop} {id : RuleId} {parts : List RuleId}
  {rule : Occurrence P} {state next : State β} {diagnostic : Diagnostic}

omit [Builder β] [Procedures P] in
/-- After a part that matched, what it leaves is abandoned and what the others abandon. -/
theorem allAbandon_cons_iff_of_matched (matched : call id state = (.matched, next)) :
    AllAbandon grammar call abandons (id :: parts) state diagnostic ↔
      Leaves grammar id state.scanner diagnostic ∨
        AllAbandon grammar call abandons parts next diagnostic := by
  constructor
  · intro abandoned
    cases abandoned with
    | left _ left => exact .inl left
    | later again later =>
      cases again.symm.trans matched
      exact .inr later
    | inside stopped => cases stopped.symm.trans matched
  · rintro (left | later)
    · exact .left matched left
    · exact .later matched later

omit [Builder β] [Procedures P] in
/-- If the first part is stopped, only what it abandons is abandoned. -/
theorem allAbandon_cons_iff_of_stopped (stopped : call id state = (.failed .callLimit, next)) :
    AllAbandon grammar call abandons (id :: parts) state diagnostic ↔
      abandons id state diagnostic := by
  constructor
  · intro abandoned
    cases abandoned with
    | left matched => cases matched.symm.trans stopped
    | later matched => cases matched.symm.trans stopped
    | inside _ inside => exact inside
  · exact .inside stopped

omit [Builder β] in
/-- After a part that failed, what the others abandon is abandoned. -/
theorem firstAbandons_cons_iff_of_failed (failed : call id state = (.failed .mismatch, next)) :
    FirstAbandons call abandons (id :: parts) state diagnostic ↔
      FirstAbandons call abandons parts next diagnostic := by
  constructor
  · intro abandoned
    cases abandoned with
    | later again later =>
      cases again.symm.trans failed
      exact later
    | inside stopped => cases stopped.symm.trans failed
  · exact .later failed

omit [Builder β] in
/-- If the first part is stopped, only what it abandons is abandoned. -/
theorem firstAbandons_cons_iff_of_stopped (stopped : call id state = (.failed .callLimit, next)) :
    FirstAbandons call abandons (id :: parts) state diagnostic ↔
      abandons id state diagnostic := by
  constructor
  · intro abandoned
    cases abandoned with
    | later failed => cases failed.symm.trans stopped
    | inside _ inside => exact inside
  · exact .inside stopped

/-- After an iteration that succeeded, what it leaves is abandoned and what the others abandon. -/
theorem repeatAbandons_iff_of_matched
    (matched : iterate grammar call rule state = (.matched, next)) :
    RepeatAbandons grammar call abandons rule state diagnostic ↔
      OnceLeaves grammar rule state.scanner diagnostic ∨
        RepeatAbandons grammar call abandons rule next diagnostic := by
  constructor
  · intro abandoned
    cases abandoned with
    | left _ left => exact .inl left
    | later again later =>
      cases again.symm.trans matched
      exact .inr later
    | inside stopped => cases stopped.symm.trans matched
  · rintro (left | later)
    · exact .left matched left
    · exact .later matched later

/-- If an iteration is stopped, only what its test abandons is abandoned, and nothing if it is
negated. -/
theorem repeatAbandons_iff_of_stopped
    (stopped : iterate grammar call rule state = (.failed .callLimit, next)) :
    RepeatAbandons grammar call abandons rule state diagnostic ↔
      rule.behaviour.negate = false ∧
        TestAbandons grammar call abandons (grammar.testOf rule) state diagnostic := by
  constructor
  · intro abandoned
    cases abandoned with
    | left matched => cases matched.symm.trans stopped
    | later matched => cases matched.symm.trans stopped
    | inside _ plain test => exact ⟨plain, test⟩
  · rintro ⟨plain, test⟩
    exact .inside stopped plain test

end Pieces

/-! ## Diagnostics that are left -/

/-- Diagnostics were recorded behind those there were: exactly those of which a condition holds. -/
def Gains (before : List Diagnostic) (gained : Diagnostic → Prop) (after : List Diagnostic) :
    Prop :=
  ∃ added, after = before ++ added ∧ ∀ diagnostic, diagnostic ∈ added ↔ gained diagnostic

/-- What is gained may be said in another way. -/
theorem Gains.congr {before after : List Diagnostic} {gained other : Diagnostic → Prop}
    (gains : Gains before gained after)
    (same : ∀ diagnostic, gained diagnostic ↔ other diagnostic) : Gains before other after := by
  obtain ⟨added, grown, exact⟩ := gains
  exact ⟨added, grown, fun diagnostic => (exact diagnostic).trans (same diagnostic)⟩

/-- What is there behind the earlier diagnostics is what was gained. -/
theorem Gains.mem_iff {before after added : List Diagnostic} {gained : Diagnostic → Prop}
    (gains : Gains before gained after) (grown : after = before ++ added)
    (diagnostic : Diagnostic) : diagnostic ∈ added ↔ gained diagnostic := by
  obtain ⟨other, again, exact⟩ := gains
  obtain rfl : added = other := List.append_cancel_left (grown.symm.trans again)
  exact exact diagnostic

/-- The diagnostics stay as they were exactly if none is gained. -/
theorem Gains.eq_iff {before after : List Diagnostic} {gained : Diagnostic → Prop}
    (gains : Gains before gained after) : after = before ↔ ∀ diagnostic, ¬ gained diagnostic := by
  obtain ⟨added, grown, exact⟩ := gains
  rw [grown, List.append_right_eq_self, List.eq_nil_iff_forall_not_mem]
  exact forall_congr' fun diagnostic => not_congr (exact diagnostic)

/-- A part that the call limit stops leaves exactly the diagnostics that it abandons. -/
def LeavesAbandoned (grammar : Grammar P) (call : RuleId → Action β)
    (abandons : RuleId → State β → Diagnostic → Prop) : Prop :=
  ∀ id (state : State β), (finalVerdict grammar).Backs state.source state.memory →
    (call id state).1 = .failed .callLimit →
    Gains state.errors (abandons id state) (call id state).2.errors

section Tests

variable {ledger : Ledger β} {grammar : Grammar P} {sure : Oracle} {call : RuleId → Action β}
  {abandons : RuleId → State β → Diagnostic → Prop} {base state : State β} {progress : Progress}

omit [Procedures P] in
/-- A part that is stopped leaves what it abandons behind the diagnostics of the progress. -/
theorem LeavesAbandoned.part (exact : LeavesAbandoned grammar call abandons)
    (follows : Follows ledger grammar (finalVerdict grammar) base progress state) (id : RuleId)
    (stopped : (call id state).1 = .failed .callLimit) :
    Gains base.errors
      (fun diagnostic => diagnostic ∈ progress.diagnostics ∨ abandons id state diagnostic)
      (call id state).2.errors := by
  obtain ⟨added, grown, same⟩ := exact id state (follows.source_eq ▸ follows.memory) stopped
  refine ⟨progress.diagnostics ++ added, ?_, fun diagnostic => ?_⟩
  · rw [grown, follows.errors, List.append_assoc]
  · rw [List.mem_append, same]

omit [Procedures P] in
/-- Parts in order that are stopped leave what they abandon. -/
theorem LeavesAbandoned.all (exact : LeavesAbandoned grammar call abandons)
    (simulates : Simulates ledger grammar sure (finalVerdict grammar) call) {parts : List RuleId}
    (follows : Follows ledger grammar (finalVerdict grammar) base progress state)
    (stopped : (matchAll call parts state).1 = .failed .callLimit) :
    Gains base.errors (fun diagnostic => diagnostic ∈ progress.diagnostics ∨
        AllAbandon grammar call abandons parts state diagnostic)
      (matchAll call parts state).2.errors := by
  induction parts generalizing progress state with
  | nil => simp [matchAll] at stopped
  | cons id later ih =>
    have agrees := simulates.call_agrees follows id
    have halted := exact.part follows id
    unfold matchAll at stopped ⊢
    generalize called : call id state = result at agrees halted stopped ⊢
    cases agrees with
    | matched same reached =>
      refine (ih reached stopped).congr fun diagnostic => ?_
      rw [Trial.call_diagnoses (finalVerdict_diagnoses grammar) same, or_assoc, ← follows.scanner,
        allAbandon_cons_iff_of_matched called]
    | failed => cases stopped
    | diverged => cases stopped
    | limited =>
      refine (halted rfl).congr fun diagnostic => ?_
      rw [allAbandon_cons_iff_of_stopped called]

omit [Procedures P] in
/-- Parts of which the first that succeeds is looked for leave what they abandon, if one is stopped.
-/
theorem LeavesAbandoned.first (exact : LeavesAbandoned grammar call abandons)
    (simulates : Simulates ledger grammar sure (finalVerdict grammar) call) {parts : List RuleId}
    (follows : Follows ledger grammar (finalVerdict grammar) base progress state)
    (stopped : (matchFirst call parts state).1 = .failed .callLimit) :
    Gains base.errors (fun diagnostic => diagnostic ∈ progress.diagnostics ∨
        FirstAbandons call abandons parts state diagnostic)
      (matchFirst call parts state).2.errors := by
  induction parts generalizing progress state with
  | nil => simp [matchFirst] at stopped
  | cons id later ih =>
    have agrees := simulates.call_agrees follows id
    have restored := (simulates.atomic id state).restores
    have halted := exact.part follows id
    unfold matchFirst at stopped ⊢
    generalize called : call id state = result at agrees restored halted stopped ⊢
    cases agrees with
    | matched => cases stopped
    | failed same noted =>
      refine (ih (follows.restored (restored rfl) noted) stopped).congr fun diagnostic => ?_
      rw [firstAbandons_cons_iff_of_failed called]
    | diverged => cases stopped
    | limited =>
      refine (halted rfl).congr fun diagnostic => ?_
      rw [firstAbandons_cons_iff_of_stopped called]

/-- A test that is stopped leaves what it abandons. -/
theorem LeavesAbandoned.test (exact : LeavesAbandoned grammar call abandons)
    (simulates : Simulates ledger grammar sure (finalVerdict grammar) call) {test : Test P}
    (noProcedure : test.isNoProcedure = true)
    (follows : Follows ledger grammar (finalVerdict grammar) base progress state)
    (stopped : (runTest grammar call test state).1 = .failed .callLimit) :
    Gains base.errors (fun diagnostic => diagnostic ∈ progress.diagnostics ∨
        TestAbandons grammar call abandons test state diagnostic)
      (runTest grammar call test state).2.errors := by
  cases test with
  | procedure procedure => simp [Test.isNoProcedure] at noProcedure
  | reference target => exact exact.part follows _ stopped
  | group inner => exact exact.part follows _ stopped
  | sequence parts => exact exact.all simulates follows stopped
  | choice parts => exact exact.first simulates follows stopped
  | terminal terminal =>
    simp only [runTest, scanWith] at stopped
    split at stopped <;> cases stopped

/-- A test that is refuted, and stopped, gives everything back. -/
theorem refute_gives_back
    (simulates : Simulates ledger grammar sure (finalVerdict grammar) call) {rule : Occurrence P}
    (noProcedure : (grammar.testOf rule).isNoProcedure = true)
    (stopped : (refute grammar call rule state).1 = .failed .callLimit) :
    (refute grammar call rule state).2.errors = state.errors := by
  have extended := simulates.test_frames noProcedure state.refuting
  rw [refute_eq] at stopped ⊢
  generalize runTest grammar call (grammar.testOf rule) state.refuting = result
    at extended stopped ⊢
  obtain ⟨outcome, tested⟩ := result
  match outcome with
  | .matched => cases stopped
  | .failed .divergence => cases stopped
  | .failed .callLimit => exact extended.take_errors
  | .failed .mismatch =>
    simp only [refutation] at stopped
    split at stopped
    · cases stopped
    · simp only [consumeMany] at stopped
      split at stopped <;> cases stopped

/-- An iteration that is stopped leaves what its test abandons, and nothing if it is negated. -/
theorem LeavesAbandoned.once (exact : LeavesAbandoned grammar call abandons)
    (simulates : Simulates ledger grammar sure (finalVerdict grammar) call) {rule : Occurrence P}
    (noProcedure : (grammar.testOf rule).isNoProcedure = true)
    (follows : Follows ledger grammar (finalVerdict grammar) base progress state)
    (stopped : (iterate grammar call rule state).1 = .failed .callLimit) :
    Gains base.errors (fun diagnostic => diagnostic ∈ progress.diagnostics ∨
        rule.behaviour.negate = false ∧
          TestAbandons grammar call abandons (grammar.testOf rule) state diagnostic)
      (iterate grammar call rule state).2.errors := by
  unfold iterate at stopped ⊢
  cases negate : rule.behaviour.negate with
  | true =>
    simp only [negate, if_true] at stopped ⊢
    have back := refute_gives_back simulates noProcedure stopped
    exact ⟨progress.diagnostics, back.trans follows.errors, fun diagnostic => by simp⟩
  | false =>
    simp only [negate, Bool.false_eq_true, if_false] at stopped ⊢
    refine (exact.test simulates noProcedure follows stopped).congr fun diagnostic => ?_
    simp only [true_and]

/-- Repetition that is stopped leaves what it abandons. -/
theorem LeavesAbandoned.rounds (exact : LeavesAbandoned grammar call abandons)
    (simulates : Simulates ledger grammar sure (finalVerdict grammar) call) {rule : Occurrence P}
    (noProcedure : (grammar.testOf rule).isNoProcedure = true) {budget count : Nat}
    (follows : Follows ledger grammar (finalVerdict grammar) base progress state)
    (stopped : (repeatFrom grammar call rule budget count state).1 = .failed .callLimit) :
    Gains base.errors (fun diagnostic => diagnostic ∈ progress.diagnostics ∨
        RepeatAbandons grammar call abandons rule state diagnostic)
      (repeatFrom grammar call rule budget count state).2.errors := by
  induction budget generalizing count progress state with
  | zero =>
    unfold repeatFrom at stopped
    split at stopped
    · exact absurd stopped (settle_ne_callLimit _ _ _)
    · cases stopped
  | succ budget ih =>
    have agrees := simulates.once_agrees noProcedure follows
    have halted := exact.once simulates noProcedure follows
    unfold repeatFrom at stopped ⊢
    generalize iterated : iterate grammar call rule state = result at agrees halted stopped ⊢
    cases agrees with
    | matched same reached =>
      simp only at stopped ⊢
      split at stopped
      · exact absurd stopped (settle_ne_callLimit _ _ _)
      · rename_i moved
        rw [if_neg moved]
        refine (ih reached stopped).congr fun diagnostic => ?_
        rw [Trial.once_diagnoses (finalVerdict_diagnoses grammar) same, or_assoc,
          ← follows.scanner, repeatAbandons_iff_of_matched iterated, OnceLeaves]
    | failed => exact absurd stopped (settle_ne_callLimit _ _ _)
    | diverged => cases stopped
    | limited =>
      refine (halted rfl).congr fun diagnostic => ?_
      rw [repeatAbandons_iff_of_stopped iterated]

end Tests

section Rules

variable {ledger : Ledger β} {grammar : Grammar P} {sure : Oracle} {call : RuleId → Action β}
  {abandons : RuleId → State β → Diagnostic → Prop} {id : RuleId} {state : State β}

/-- A rule that is stopped leaves what it abandons if its parts do. -/
theorem callRule_abandons (free : grammar.isProcedureFree = true)
    (simulates : Simulates ledger grammar sure (finalVerdict grammar) call)
    (exact : LeavesAbandoned grammar call abandons)
    (memory : (finalVerdict grammar).Backs state.source state.memory)
    (stopped : (callRule grammar call id state).1 = .failed .callLimit) :
    Gains state.errors
      (fun diagnostic => state.limitReached = false ∧
        RepeatAbandons grammar call abandons (grammar.rule id)
          (openRule (grammar.rule id) (state.calling grammar id)) diagnostic)
      (callRule grammar call id state).2.errors := by
  rcases callRule_stopped (congrArg Outcome.stops stopped) with
    ⟨reached, same⟩ | ⟨called, ended, unreached, rfl, alike, recalled, repeated, last⟩
  · exact ⟨[], by rw [same, List.append_nil], fun diagnostic => by simp [reached]⟩
  · have source : (state.calling grammar id).source = state.source :=
      congrArg Scanner.source alike.scanner
    have gains : Gains (openRule (grammar.rule id) (state.calling grammar id)).errors _
        (repeatTest grammar call (grammar.rule id)
          (openRule (grammar.rule id) (state.calling grammar id))).2.errors :=
      exact.rounds simulates (grammar.testOf_isNoProcedure free id)
        (openRule_follows grammar (grammar.rule id) (by rw [source, recalled]; exact memory))
        ((congrArg Prod.fst repeated).trans stopped)
    rw [repeated] at gains
    rw [last, ← alike.errors]
    refine gains.congr fun diagnostic => ?_
    simp only [unreached, Progress.start, List.not_mem_nil, false_or, true_and]

end Rules

/-- A rule that the call limit stops leaves exactly the diagnostics that it abandons, to whatever
depth rules may call each other. -/
theorem descend_abandons (ledger : Ledger β) {grammar : Grammar P}
    (free : grammar.isProcedureFree = true) (depth : Nat) :
    LeavesAbandoned grammar (descend grammar depth : RuleId → Action β)
      (Abandons grammar depth) := by
  induction depth with
  | zero => exact fun id state memory stopped => by cases stopped
  | succ depth ih =>
    exact fun id state memory stopped =>
      callRule_abandons free (.of_obeys free (descend_obeys ledger free depth)) ih memory stopped

end Packrat
