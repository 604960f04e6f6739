import Packrat.Proofs.ParsingExpression

/-!
# Recoveries that are kept

A pinned rule that fails counts as matched, and leaves a diagnostic. A rule around it keeps the
diagnostic if the part was matched in an iteration that succeeded and was not negated: then the
part's call was kept (`RuleKeeps`). So a rule leaves a diagnostic at a cursor if it is recovered
from there, or if it keeps the call of a part that leaves the diagnostic (`Leaves`). That is said in
terms of parsing expressions alone.

The diagnostics of the final verdicts are exactly these (`finalVerdict_diagnoses`).
-/

namespace Packrat

variable {P : Type}

/-! ## Kept calls -/

/-- Parts that match one after the other from a cursor on keep the call of a part at a cursor. -/
inductive AllKeeps (grammar : Grammar P) : List RuleId → Scanner → RuleId → Scanner → Prop
  /-- The call of the first part is kept. -/
  | here {id : RuleId} {parts : List RuleId} {here : Scanner} :
      AllKeeps grammar (id :: parts) here id here
  /-- The others keep what they keep from where the first part ends. -/
  | later {id part : RuleId} {parts : List RuleId} {here next there : Scanner}
      (rule : RuleParse grammar id here (some next))
      (later : AllKeeps grammar parts next part there) :
      AllKeeps grammar (id :: parts) here part there

/-- The first of several parts that matches at a cursor is the one whose call is kept. -/
inductive FirstKeeps (grammar : Grammar P) : List RuleId → Scanner → RuleId → Scanner → Prop
  /-- The call of a part that matches is kept. -/
  | here {id : RuleId} {parts : List RuleId} {here next : Scanner}
      (rule : RuleParse grammar id here (some next)) :
      FirstKeeps grammar (id :: parts) here id here
  /-- After a part that fails the others are tried. -/
  | later {id part : RuleId} {parts : List RuleId} {here there : Scanner}
      (rule : RuleParse grammar id here none) (later : FirstKeeps grammar parts here part there) :
      FirstKeeps grammar (id :: parts) here part there

/-- A test that matches at a cursor keeps the call of a part at a cursor. -/
def TestKeeps (grammar : Grammar P) : Test P → Scanner → RuleId → Scanner → Prop
  | .terminal _, _, _, _ => False
  | .reference target, here, part, there => part = target ∧ there = here
  | .group inner, here, part, there => part = inner ∧ there = here
  | .procedure _, _, _, _ => False
  | .sequence parts, here, part, there => AllKeeps grammar parts here part there
  | .choice parts, here, part, there => FirstKeeps grammar parts here part there

/-- Repetition after a number of successes keeps the call of a part at a cursor. A negated iteration
gives everything back. -/
inductive RepeatKeeps (grammar : Grammar P) (rule : Occurrence P) :
    Nat → Scanner → RuleId → Scanner → Prop
  /-- An iteration that succeeds and is not negated keeps what the test keeps. -/
  | now {count : Nat} {here next there : Scanner} {part : RuleId} (room : HasRoom rule count)
      (once : OnceParse grammar rule here (some next)) (plain : rule.behaviour.negate = false)
      (test : TestKeeps grammar (grammar.testOf rule) here part there) :
      RepeatKeeps grammar rule count here part there
  /-- The iterations after one that moves the cursor keep what they keep. -/
  | later {count : Nat} {here next there : Scanner} {part : RuleId} (room : HasRoom rule count)
      (once : OnceParse grammar rule here (some next)) (moved : next.position ≠ here.position)
      (later : RepeatKeeps grammar rule (count + 1) next part there) :
      RepeatKeeps grammar rule count here part there

/-- A rule whose test succeeds often enough at a cursor keeps the call of a part at a cursor. -/
structure RuleKeeps (grammar : Grammar P) (id : RuleId) (here : Scanner) (part : RuleId)
    (there : Scanner) : Prop where
  /-- The test succeeds often enough. -/
  matched : ∃ stop, RepeatParse grammar (grammar.rule id) 0 here (some stop)
  /-- Its iterations keep the call. -/
  kept : RepeatKeeps grammar (grammar.rule id) 0 here part there

/-! ## Diagnostics that are left -/

/-- A rule is recovered from at a cursor: its test does not succeed often enough, and it is pinned.
-/
structure IsRecovered (grammar : Grammar P) (id : RuleId) (here : Scanner) : Prop where
  /-- The test does not succeed often enough. -/
  failed : RepeatParse grammar (grammar.rule id) 0 here none
  /-- The rule is pinned. -/
  pinned : (grammar.rule id).annotations.pinned = true

/-- The diagnostic of a rule that is recovered from at a cursor. -/
def recoveryDiagnostic (grammar : Grammar P) (id : RuleId) (here : Scanner) : Diagnostic :=
  ⟨.point here.position, recoveryMessage grammar (grammar.rule id)⟩

/-- A rule leaves a diagnostic at a cursor. -/
inductive Leaves (grammar : Grammar P) : RuleId → Scanner → Diagnostic → Prop
  /-- A rule that is recovered from leaves its own. -/
  | itself {id : RuleId} {here : Scanner} (recovered : IsRecovered grammar id here) :
      Leaves grammar id here (recoveryDiagnostic grammar id here)
  /-- A rule leaves what the parts leave whose calls it keeps. -/
  | inside {id part : RuleId} {here there : Scanner} {diagnostic : Diagnostic}
      (kept : RuleKeeps grammar id here part there) (left : Leaves grammar part there diagnostic) :
      Leaves grammar id here diagnostic

section Keeping

variable {grammar : Grammar P} {id part : RuleId} {parts : List RuleId} {rule : Occurrence P}
  {count : Nat} {here next there : Scanner}

/-! ## Answers are unique -/

/-- A rule has at most one answer. -/
theorem RuleParse.unique {answer other : Option Scanner} (parse : RuleParse grammar id here answer)
    (again : RuleParse grammar id here other) : answer = other :=
  Option.some.inj ((parse.answers (.start here) rfl).symm.trans (again.answers (.start here) rfl))

/-- An iteration has at most one answer. -/
theorem OnceParse.unique {answer other : Option Scanner}
    (parse : OnceParse grammar rule here answer) (again : OnceParse grammar rule here other) :
    answer = other :=
  Option.some.inj ((parse.answers (.start here) rfl).symm.trans (again.answers (.start here) rfl))

/-- Repetition has at most one answer. -/
theorem RepeatParse.unique {answer other : Option Scanner}
    (parse : RepeatParse grammar rule 0 here answer)
    (again : RepeatParse grammar rule 0 here other) : answer = other := by
  have affords := Affords.start rule here
  exact Option.some.inj ((parse.answers (.start here) rfl _ affords).symm.trans
    (again.answers (.start here) rfl _ affords))

/-- A rule that matches ends at or behind the cursor. -/
theorem RuleParse.reaches (parse : RuleParse grammar id here (some next)) : here.Reaches next := by
  obtain ⟨ended, matched, rfl⟩ := Trial.exists_of_answer_some (parse.answers (.start here) rfl)
  have forward := finalVerdict_forward grammar
  exact (Trial.keeps_reaches forward here).call id _ ended (.refl here) matched

/-- An iteration that succeeds ends at or behind the cursor. -/
theorem OnceParse.reaches (parse : OnceParse grammar rule here (some next)) :
    here.Reaches next := by
  obtain ⟨ended, matched, rfl⟩ := Trial.exists_of_answer_some (parse.answers (.start here) rfl)
  have forward := finalVerdict_forward grammar
  exact (Trial.keeps_reaches forward here).once (.refl here) matched

/-! ## What is kept, piece by piece -/

/-- After a part that matches, its own call is kept and those that the others keep. -/
theorem allKeeps_cons_iff (first : RuleParse grammar id here (some next)) :
    AllKeeps grammar (id :: parts) here part there ↔
      (part = id ∧ there = here) ∨ AllKeeps grammar parts next part there := by
  constructor
  · intro keeps
    cases keeps with
    | here => exact .inl ⟨rfl, rfl⟩
    | later rule later =>
      obtain rfl := Option.some.inj (rule.unique first)
      exact .inr later
  · rintro (⟨rfl, rfl⟩ | later)
    · exact .here
    · exact .later first later

/-- If the first part matches, only its own call is kept. -/
theorem firstKeeps_cons_iff_of_some (first : RuleParse grammar id here (some next)) :
    FirstKeeps grammar (id :: parts) here part there ↔ part = id ∧ there = here := by
  constructor
  · intro keeps
    cases keeps with
    | here => exact ⟨rfl, rfl⟩
    | later rule => cases rule.unique first
  · rintro ⟨rfl, rfl⟩
    exact .here first

/-- If the first part fails, what the others keep is kept. -/
theorem firstKeeps_cons_iff_of_none (first : RuleParse grammar id here none) :
    FirstKeeps grammar (id :: parts) here part there ↔
      FirstKeeps grammar parts here part there := by
  constructor
  · intro keeps
    cases keeps with
    | here rule => cases rule.unique first
    | later _ later => exact later
  · exact .later first

/-- At the greatest number nothing more is kept. -/
theorem not_repeatKeeps_full (bounded : rule.behaviour.cardinality.maximum = some count) :
    ¬ RepeatKeeps grammar rule count here part there := by
  intro keeps
  cases keeps with
  | now room => exact Nat.lt_irrefl _ (room count bounded)
  | later room => exact Nat.lt_irrefl _ (room count bounded)

/-- An iteration that fails keeps nothing. -/
theorem not_repeatKeeps_failure (failed : OnceParse grammar rule here none) :
    ¬ RepeatKeeps grammar rule count here part there := by
  intro keeps
  cases keeps with
  | now _ once => cases once.unique failed
  | later _ once => cases once.unique failed

/-- An iteration that takes nothing is the last that keeps anything. -/
theorem repeatKeeps_iff_of_standing (room : HasRoom rule count)
    (once : OnceParse grammar rule here (some next)) (still : next.position = here.position) :
    RepeatKeeps grammar rule count here part there ↔ rule.behaviour.negate = false ∧
      TestKeeps grammar (grammar.testOf rule) here part there := by
  constructor
  · intro keeps
    cases keeps with
    | now _ _ plain test => exact ⟨plain, test⟩
    | later _ other moved =>
      obtain rfl := Option.some.inj (other.unique once)
      exact absurd still moved
  · rintro ⟨plain, test⟩
    exact .now room once plain test

/-- After an iteration that moves the cursor what the others keep is kept too. -/
theorem repeatKeeps_iff_of_further (room : HasRoom rule count)
    (once : OnceParse grammar rule here (some next)) (moved : next.position ≠ here.position) :
    RepeatKeeps grammar rule count here part there ↔
      (rule.behaviour.negate = false ∧ TestKeeps grammar (grammar.testOf rule) here part there) ∨
        RepeatKeeps grammar rule (count + 1) next part there := by
  constructor
  · intro keeps
    cases keeps with
    | now _ _ plain test => exact .inl ⟨plain, test⟩
    | later _ other _ later =>
      obtain rfl := Option.some.inj (other.unique once)
      exact .inr later
  · rintro (⟨plain, test⟩ | later)
    · exact .now room once plain test
    · exact .later room once moved later

end Keeping

/-! ## The diagnostics of trials -/

/-- The verdicts of an oracle record the diagnostics that the rules leave. -/
structure Oracle.Diagnoses (grammar : Grammar P) (oracle : Oracle) : Prop where
  /-- The verdicts are answers by the rules. -/
  parses : oracle.Parses grammar
  /-- The diagnostics are those that the rules leave. -/
  exact : ∀ id here result, oracle id here = some result → ∀ diagnostic,
    diagnostic ∈ (result.reply grammar (grammar.rule id) here.position).diagnostics ↔
      Leaves grammar id here diagnostic

namespace Trial

variable {grammar : Grammar P} {oracle : Oracle} {progress next : Progress}
  {diagnostic : Diagnostic}

/-- A part that matches adds the diagnostics it leaves. -/
theorem call_diagnoses (diagnoses : oracle.Diagnoses grammar) {id : RuleId}
    (matched : call grammar oracle id progress = .matched next) :
    diagnostic ∈ next.diagnostics ↔
      diagnostic ∈ progress.diagnostics ∨ Leaves grammar id progress.scanner diagnostic := by
  obtain ⟨result, known, taken⟩ := exists_of_call matched
  obtain ⟨_, rfl⟩ := Progress.eq_of_take taken
  rw [List.mem_append, diagnoses.exact id progress.scanner result known]

/-- Parts that match in order add the diagnostics that those leave whose calls they keep. -/
theorem all_diagnoses (diagnoses : oracle.Diagnoses grammar) {parts : List RuleId}
    (matched : all grammar oracle parts progress = .matched next) :
    diagnostic ∈ next.diagnostics ↔ diagnostic ∈ progress.diagnostics ∨
      ∃ part there, AllKeeps grammar parts progress.scanner part there ∧
        Leaves grammar part there diagnostic := by
  induction parts generalizing progress with
  | nil =>
    obtain rfl := Trial.matched.inj matched
    constructor
    · exact .inl
    · rintro (recorded | ⟨part, there, ⟨⟩, _⟩)
      exact recorded
  | cons id later ih =>
    unfold Trial.all at matched
    split at matched
    · rename_i middle called
      have first := call_parses diagnoses.parses (congrArg Trial.answer called)
      rw [ih matched, call_diagnoses diagnoses called, or_assoc]
      simp only [allKeeps_cons_iff first, or_and_right, exists_or, and_assoc, exists_and_left,
        exists_eq_left]
    · contradiction
    · contradiction

/-- The first part that matches adds the diagnostics it leaves. -/
theorem first_diagnoses (diagnoses : oracle.Diagnoses grammar) {parts : List RuleId}
    (matched : first grammar oracle parts progress = .matched next) :
    diagnostic ∈ next.diagnostics ↔ diagnostic ∈ progress.diagnostics ∨
      ∃ part there, FirstKeeps grammar parts progress.scanner part there ∧
        Leaves grammar part there diagnostic := by
  induction parts generalizing progress with
  | nil => contradiction
  | cons id later ih =>
    unfold Trial.first at matched
    split at matched
    · rename_i middle called
      have tried := call_parses diagnoses.parses (congrArg Trial.answer called)
      obtain rfl := Trial.matched.inj matched
      rw [call_diagnoses diagnoses called]
      simp only [firstKeeps_cons_iff_of_some tried, and_assoc, exists_and_left, exists_eq_left]
    · rename_i journal called
      have tried := call_parses diagnoses.parses (congrArg Trial.answer called)
      rw [ih matched]
      simp only [firstKeeps_cons_iff_of_none tried]
    · contradiction

/-- A test that matches adds the diagnostics that those parts leave whose calls it keeps. -/
theorem test_diagnoses (diagnoses : oracle.Diagnoses grammar) {subject : Test P}
    (matched : test grammar oracle subject progress = .matched next) :
    diagnostic ∈ next.diagnostics ↔ diagnostic ∈ progress.diagnostics ∨
      ∃ part there, TestKeeps grammar subject progress.scanner part there ∧
        Leaves grammar part there diagnostic := by
  cases subject with
  | terminal terminal =>
    simp only [Trial.test] at matched
    split at matched
    · obtain rfl := Trial.matched.inj matched
      simp [TestKeeps]
    · contradiction
  | reference target =>
    rw [call_diagnoses diagnoses matched]
    simp only [TestKeeps, and_assoc, exists_and_left, exists_eq_left]
  | group inner =>
    rw [call_diagnoses diagnoses matched]
    simp only [TestKeeps, and_assoc, exists_and_left, exists_eq_left]
  | procedure steps => contradiction
  | sequence parts => exact all_diagnoses diagnoses matched
  | choice parts => exact first_diagnoses diagnoses matched

/-- An iteration that succeeds adds the diagnostics of its test, if it is not negated. -/
theorem once_diagnoses (diagnoses : oracle.Diagnoses grammar) {rule : Occurrence P}
    (matched : once grammar oracle rule progress = .matched next) :
    diagnostic ∈ next.diagnostics ↔ diagnostic ∈ progress.diagnostics ∨
      ∃ part there, (rule.behaviour.negate = false ∧
        TestKeeps grammar (grammar.testOf rule) progress.scanner part there) ∧
        Leaves grammar part there diagnostic := by
  unfold Trial.once at matched
  split at matched
  · rename_i negated
    have same : next.diagnostics = progress.diagnostics := by
      unfold refute at matched
      split at matched
      · contradiction
      · simp only at matched
        split at matched
        · obtain rfl := Trial.matched.inj matched
          rfl
        · split at matched
          · obtain rfl := Trial.matched.inj matched
            rfl
          · contradiction
      · contradiction
    simp [same, negated]
  · rename_i plain
    rw [test_diagnoses diagnoses matched]
    simp [plain]

/-- Repetition that ends well adds the diagnostics that those parts leave whose calls it keeps.
-/
theorem rounds_diagnoses (diagnoses : oracle.Diagnoses grammar) {rule : Occurrence P}
    {budget count : Nat}
    (budgeted : ∀ bound, rule.behaviour.cardinality.maximum = some bound → bound = count + budget)
    (matched : rounds grammar oracle rule budget count progress = .matched next) :
    diagnostic ∈ next.diagnostics ↔ diagnostic ∈ progress.diagnostics ∨
      ∃ part there, RepeatKeeps grammar rule count progress.scanner part there ∧
        Leaves grammar part there diagnostic := by
  induction budget generalizing count progress with
  | zero =>
    unfold Trial.rounds at matched
    split at matched
    · rename_i bound bounded
      obtain rfl := budgeted bound bounded
      rw [eq_of_settle matched]
      simp [not_repeatKeeps_full bounded]
    · contradiction
  | succ budget ih =>
    have room : HasRoom rule count :=
      fun bound bounded => by have := budgeted bound bounded; omega
    unfold Trial.rounds at matched
    split at matched
    · rename_i middle iterated
      have iteration := once_parses diagnoses.parses (congrArg Trial.answer iterated)
      split at matched
      · rename_i still
        rw [eq_of_settle matched, once_diagnoses diagnoses iterated]
        simp only [repeatKeeps_iff_of_standing room iteration still]
      · rename_i moved
        have left : ∀ bound, rule.behaviour.cardinality.maximum = some bound →
            bound = count + 1 + budget :=
          fun bound bounded => by have := budgeted bound bounded; omega
        rw [ih left matched, once_diagnoses diagnoses iterated, or_assoc, ← exists_or]
        simp only [repeatKeeps_iff_of_further room iteration moved, or_and_right, exists_or]
    · rename_i journal iterated
      have iteration := once_parses diagnoses.parses (congrArg Trial.answer iterated)
      rw [eq_of_settle matched]
      simp [not_repeatKeeps_failure iteration]
    · contradiction

/-- A test evaluated as often as its rule asks leaves the diagnostics that those parts leave whose
calls it keeps. -/
theorem repeated_diagnoses (diagnoses : oracle.Diagnoses grammar) {rule : Occurrence P}
    {here : Scanner} (matched : repeated grammar oracle rule (.start here) = .matched next) :
    diagnostic ∈ next.diagnostics ↔ ∃ part there,
      RepeatKeeps grammar rule 0 here part there ∧ Leaves grammar part there diagnostic := by
  rw [rounds_diagnoses diagnoses (maximum_eq_budget rule _) matched]
  simp [Progress.start]

end Trial

/-! ## The diagnostics of verdicts -/

section Verdicts

variable {grammar : Grammar P} {id : RuleId} {here : Scanner} {diagnostic : Diagnostic}

/-- A rule that fails leaves a diagnostic only if it is pinned, and then its own. -/
theorem leaves_iff_of_failed (failed : RepeatParse grammar (grammar.rule id) 0 here none) :
    Leaves grammar id here diagnostic ↔ (grammar.rule id).annotations.pinned = true ∧
      diagnostic = recoveryDiagnostic grammar id here := by
  constructor
  · intro left
    cases left with
    | itself recovered => exact ⟨recovered.pinned, rfl⟩
    | inside kept =>
      obtain ⟨stop, matched⟩ := kept.matched
      cases matched.unique failed
  · rintro ⟨pinned, rfl⟩
    exact .itself ⟨failed, pinned⟩

/-- A rule that matches leaves the diagnostics of the parts whose calls it keeps. -/
theorem leaves_iff_of_matched {stop : Scanner}
    (matched : RepeatParse grammar (grammar.rule id) 0 here (some stop)) :
    Leaves grammar id here diagnostic ↔ ∃ part there,
      RepeatKeeps grammar (grammar.rule id) 0 here part there ∧
        Leaves grammar part there diagnostic := by
  constructor
  · intro left
    cases left with
    | itself recovered => cases matched.unique recovered.failed
    | inside kept left => exact ⟨_, _, kept.kept, left⟩
  · rintro ⟨part, there, kept, left⟩
    exact .inside ⟨⟨stop, matched⟩, kept⟩ left

/-- If the verdicts on parts record what the rules leave, so do the verdicts that follow from
them. -/
theorem Oracle.Diagnoses.step {oracle : Oracle} (diagnoses : oracle.Diagnoses grammar) :
    (oracle.step grammar).Diagnoses grammar := by
  refine ⟨diagnoses.parses.step, fun id here result known diagnostic => ?_⟩
  unfold Oracle.step at known
  generalize ended : Trial.repeated grammar oracle (grammar.rule id) (.start here) = trial at known
  cases trial with
  | diverged => contradiction
  | failed journal =>
    have failed := Trial.repeated_parses diagnoses.parses (congrArg Trial.answer ended)
    obtain rfl := Option.some.inj known
    rw [leaves_iff_of_failed failed, MatchResult.reply, recoveryDiagnostic]
    cases (grammar.rule id).annotations.pinned with
    | true => simp
    | false => simp
  | matched progress =>
    have matched := Trial.repeated_parses diagnoses.parses (congrArg Trial.answer ended)
    obtain rfl := Option.some.inj known
    rw [leaves_iff_of_matched matched]
    exact Trial.repeated_diagnoses diagnoses ended

/-- Verdicts record the diagnostics that the rules leave. -/
theorem verdict_diagnoses (grammar : Grammar P) (depth : Nat) :
    (verdict grammar depth).Diagnoses grammar := by
  induction depth with
  | zero =>
    exact ⟨verdict_parses grammar 0, fun id here result known diagnostic => by contradiction⟩
  | succ depth ih => exact ih.step

/-- The final verdicts are answers by the rules. -/
theorem finalVerdict_parses (grammar : Grammar P) : (finalVerdict grammar).Parses grammar :=
  fun id here => verdict_parses grammar _ id here

/-- Final verdicts record the diagnostics that the rules leave. -/
theorem finalVerdict_diagnoses (grammar : Grammar P) : (finalVerdict grammar).Diagnoses grammar :=
  ⟨finalVerdict_parses grammar, fun id here => (verdict_diagnoses grammar _).exact id here⟩

end Verdicts

end Packrat
