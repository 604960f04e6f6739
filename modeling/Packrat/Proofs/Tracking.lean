import Packrat.Proofs.Backtracking
import Packrat.Proofs.Conduct

/-!
# Tracking attempts

A rule that was tried in vain replaces the attempts noted inside it. What it has to go by is how
many attempts were noted when it was entered. As long as the furthest position stays the same,
attempts are only added behind those (`Attempts.Precedes`), and cutting back to their number leaves
exactly those. If the furthest position has moved to the rule's own since it was entered, the
numbers are those of another position, and cutting back to them may leave attempts that were made
inside the rule (`Attempts.IsOutdated`). That is the only case in which the rule does not replace
what was noted inside it (`tracked_replaces_iff`).
-/

namespace Packrat

variable {P : Type}

/-! ## Names that are cut back -/

namespace NameLog

/-- Names in the same order are the same. -/
theorem eq_of_toList {left right : NameLog} (same : left.toList = right.toList) : left = right := by
  obtain ⟨newest, size, counted⟩ := left
  obtain ⟨otherNewest, otherSize, otherCounted⟩ := right
  obtain rfl : newest = otherNewest := List.reverse_inj.mp same
  obtain rfl : size = otherSize := counted.trans otherCounted.symm
  rfl

/-- Cutting back to the number of the first names leaves these. -/
theorem truncate_of_prefix {earlier later : NameLog} (begins : earlier.toList <+: later.toList) :
    later.truncate earlier.size = earlier := by
  refine eq_of_toList ?_
  rw [toList_truncate, ← length_toList]
  exact (List.prefix_iff_eq_take.mp begins).symm

/-- Cutting back leaves no name if there are none or none is to be left. -/
theorem truncate_eq_empty_iff (names : NameLog) (count : Nat) :
    names.truncate count = .empty ↔ ¬ (0 < count ∧ 0 < names.size) := by
  have sized : (names.truncate count).toList = [] ↔ ¬ (0 < count ∧ 0 < names.size) := by
    rw [toList_truncate, List.take_eq_nil_iff, ← List.length_eq_zero_iff, length_toList]
    omega
  rw [← sized]
  exact ⟨fun same => same ▸ rfl, fun none => eq_of_toList none⟩

/-- Names with one more are the same only if the names are. -/
theorem push_inj {left right : NameLog} {name : String} :
    left.push name = right.push name ↔ left = right := by
  refine ⟨fun same => eq_of_toList ?_, fun same => same ▸ rfl⟩
  have pushed := congrArg toList same
  rw [toList_push, toList_push] at pushed
  exact List.append_cancel_right pushed

end NameLog

/-! ## Attempts that are added -/

namespace Attempts

/-- The attempts that are noted at a position, as if it were the furthest. -/
def notedAt (attempts : Attempts) (position : Nat) : Attempts :=
  if attempts.position = position then attempts else ⟨position, .empty, .empty⟩

/-- The second attempts come after the first: they are further on, or were added behind them. -/
inductive Precedes (earlier later : Attempts) : Prop
  /-- The furthest position has moved on. -/
  | further (moved : earlier.position < later.position)
  /-- Names were added at the furthest position. -/
  | alongside (same : earlier.position = later.position)
      (expected : earlier.expected.toList <+: later.expected.toList)
      (unexpected : earlier.unexpected.toList <+: later.unexpected.toList)

/-- The numbers noted when a rule was entered are those of an earlier position than the rule's own,
and leave some of the attempts noted at its position since. -/
def IsOutdated (entered now : Attempts) (position : Nat) : Prop :=
  entered.position < position ∧ now.position = position ∧
    ((0 < entered.expected.size ∧ 0 < now.expected.size) ∨
      (0 < entered.unexpected.size ∧ 0 < now.unexpected.size))

instance (entered now : Attempts) (position : Nat) : Decidable (entered.IsOutdated now position) :=
  inferInstanceAs (Decidable (_ ∧ _ ∧ (_ ∨ _)))

variable {first second third entered now : Attempts}

/-- Attempts come after themselves. -/
theorem Precedes.refl (attempts : Attempts) : attempts.Precedes attempts :=
  .alongside rfl List.prefix_rfl List.prefix_rfl

/-- What comes after later attempts comes after earlier ones. -/
theorem Precedes.trans (earlier : first.Precedes second) (later : second.Precedes third) :
    first.Precedes third := by
  cases earlier with
  | further moved =>
    cases later with
    | further onward => exact .further (Nat.lt_trans moved onward)
    | alongside same => exact .further (same ▸ moved)
  | alongside same expected unexpected =>
    cases later with
    | further moved => exact .further (same ▸ moved)
    | alongside again more moreUnexpected =>
      exact .alongside (same.trans again) (expected.trans more) (unexpected.trans moreUnexpected)

/-- The furthest position never goes back. -/
theorem Precedes.position_le (precedes : first.Precedes second) :
    first.position ≤ second.position := by
  cases precedes with
  | further moved => exact Nat.le_of_lt moved
  | alongside same => exact Nat.le_of_eq same

/-- Cutting back to the numbers of attempts at the same position leaves these. -/
theorem collapse_of_alongside (same : entered.position = now.position)
    (expected : entered.expected.toList <+: now.expected.toList)
    (unexpected : entered.unexpected.toList <+: now.unexpected.toList) :
    now.collapse now.position (entered.mark now.position) = entered := by
  unfold collapse mark
  rw [if_pos rfl, NameLog.truncate_of_prefix expected, NameLog.truncate_of_prefix unexpected,
    ← same]

/-- Attempts at an earlier position are all forgotten. -/
theorem collapse_of_lt {position : Nat} (earlier : now.position < position) (mark : AttemptsMark) :
    now.collapse position mark = ⟨position, .empty, .empty⟩ := by
  unfold collapse
  rw [if_neg (Nat.ne_of_gt earlier), if_pos earlier]

/-- Cutting back at the furthest position stays there. -/
theorem position_collapse {position : Nat} (furthest : now.position ≤ position)
    (mark : AttemptsMark) : (now.collapse position mark).position = position := by
  rcases Nat.lt_or_eq_of_le furthest with earlier | rfl
  · rw [collapse_of_lt earlier]
  · unfold collapse
    rw [if_pos rfl]

/-- Cutting back to the numbers noted when a rule was entered leaves what was noted then. -/
theorem collapse_precedes (precedes : entered.Precedes now) (position : Nat) :
    entered.Precedes (now.collapse position (entered.mark position)) := by
  rcases Nat.lt_trichotomy now.position position with earlier | rfl | later
  · rw [collapse_of_lt earlier]
    exact .further (Nat.lt_of_le_of_lt precedes.position_le earlier)
  · cases precedes with
    | further moved => exact .further (by rwa [position_collapse (Nat.le_refl _)])
    | alongside same expected unexpected =>
      rw [collapse_of_alongside same expected unexpected]
      exact .refl entered
  · unfold collapse
    rw [if_neg (Nat.ne_of_lt later), if_neg (Nat.lt_asymm later)]
    exact precedes

/-- One more name is added behind the others. -/
theorem add_precedes (attempts : Attempts) (position : Nat) (negated : Bool) (name : String) :
    attempts.Precedes (attempts.add position negated name) := by
  unfold add
  split
  · split
    · exact .alongside rfl List.prefix_rfl (NameLog.toList_push _ _ ▸ List.prefix_append _ _)
    · exact .alongside rfl (NameLog.toList_push _ _ ▸ List.prefix_append _ _) List.prefix_rfl
  · exact .refl attempts

/-- Tracking a rule leaves what was noted when it was entered. -/
theorem track_precedes (precedes : entered.Precedes now) (rule : Occurrence P) (position : Nat)
    (negated : Bool) :
    entered.Precedes (now.track rule position (entered.mark position) negated) := by
  unfold track
  split
  · exact precedes
  · split
    · exact precedes
    · exact (collapse_precedes precedes position).trans (add_precedes _ _ _ _)

mutual
/-- Making an attempt again leaves what was noted before. -/
theorem retrace_precedes (grammar : Grammar P) (negations : Nat) :
    ∀ (attempt : Attempt) (attempts : Attempts),
      attempts.Precedes (attempts.retrace grammar negations attempt)
  | .rule id origin matched inside, attempts => by
    have deeper := retraceAll_precedes grammar negations inside attempts
    rw [retrace]
    split
    · exact track_precedes deeper _ _ _
    · exact deeper
  | .negation inside, attempts => by
    rw [retrace]
    exact retraceAll_precedes grammar (negations + 1) inside attempts

/-- Making attempts again leaves what was noted before. -/
theorem retraceAll_precedes (grammar : Grammar P) (negations : Nat) :
    ∀ (again : List Attempt) (attempts : Attempts),
      attempts.Precedes (attempts.retraceAll grammar negations again)
  | [], attempts => by
    rw [retraceAll]
    exact .refl attempts
  | attempt :: later, attempts => by
    rw [retraceAll]
    exact (retrace_precedes grammar negations attempt attempts).trans
      (retraceAll_precedes grammar negations later _)
end

/-- Cutting back leaves what was noted at a position when a rule was entered, unless the numbers are
outdated. -/
theorem collapse_eq_notedAt_iff (precedes : entered.Precedes now) {position : Nat}
    (furthest : now.position ≤ position) :
    now.collapse position (entered.mark position) = entered.notedAt position ↔
      ¬ entered.IsOutdated now position := by
  rcases Nat.lt_or_eq_of_le furthest with earlier | rfl
  · have before : entered.position < position := Nat.lt_of_le_of_lt precedes.position_le earlier
    rw [collapse_of_lt earlier, notedAt, if_neg (Nat.ne_of_lt before)]
    simp [IsOutdated, Nat.ne_of_lt earlier]
  · cases precedes with
    | alongside same expected unexpected =>
      rw [collapse_of_alongside same expected unexpected, notedAt, if_pos same]
      simp [IsOutdated, same]
    | further moved =>
      unfold collapse mark notedAt
      rw [if_pos rfl, if_neg (Nat.ne_of_lt moved), Attempts.mk.injEq, NameLog.truncate_eq_empty_iff,
        NameLog.truncate_eq_empty_iff]
      simp only [IsOutdated, moved, true_and, not_or]

/-- At the position of both, attempts with one more name are the same only if the attempts are. -/
theorem add_inj {position : Nat} (firstHere : first.position = position)
    (secondHere : second.position = position) {negated : Bool} {name : String} :
    first.add position negated name = second.add position negated name ↔ first = second := by
  obtain ⟨_, expected, unexpected⟩ := first
  obtain ⟨_, otherExpected, otherUnexpected⟩ := second
  obtain rfl := firstHere
  obtain rfl := secondHere
  unfold add
  cases negated <;> simp [NameLog.push_inj]

/-- Tracking a rule at the furthest position, with not exactly one attempt noted since it was
entered, leaves what was noted there then, and the rule, unless the numbers are outdated. -/
theorem track_eq_iff (precedes : entered.Precedes now) {rule : Occurrence P} {position : Nat}
    {negated : Bool} (reported : rule.isReported = true) (furthest : now.position ≤ position)
    (several : now.countAt position ≠ entered.countAt position + 1) :
    now.track rule position (entered.mark position) negated =
        (entered.notedAt position).add position negated rule.expected ↔
      ¬ entered.IsOutdated now position := by
  have noted : (entered.notedAt position).position = position := by
    unfold notedAt
    split
    · assumption
    · rfl
  have tracked : now.track rule position (entered.mark position) negated =
      (now.collapse position (entered.mark position)).add position negated rule.expected := by
    unfold track
    rw [reported]
    exact if_neg several
  rw [tracked, add_inj (position_collapse furthest _) noted]
  exact collapse_eq_notedAt_iff precedes furthest

end Attempts

/-! ## Evaluations add attempts -/

variable {β : Type}

/-- Logging a rule leaves the attempts noted when it was entered. -/
theorem logAttempt_precedes {grammar : Grammar P} {id : RuleId} {entered ended : State β}
    (precedes : entered.attempts.Precedes ended.attempts) (matched : Bool) (inside : List Attempt) :
    entered.attempts.Precedes (logAttempt grammar id matched inside entered ended).attempts := by
  unfold logAttempt
  simp only
  split
  · exact Attempts.track_precedes precedes _ _ _
  · exact precedes

variable [Builder β]

/-- Leaving the attempts noted before is a conduct. -/
def attempting (β : Type) [Builder β] : Conduct β where
  Does before result := before.attempts.Precedes result.2.attempts
  Room _ _ := True
  stays state := .refl state.attempts
  turns _ _ done := done
  follows _ earlier later := earlier.trans later
  moves _ := .refl _
  restores done := done
  refutes done := done
  starts _ := trivial
  spends _ _ _ := trivial
  exhausts _ := .refl _

section Rules

variable {grammar : Grammar P} {call : RuleId → Action β}

/-- Ending a rule with a match changes the attempts as logging it does. -/
theorem endMatched_attempts (grammar : Grammar P) (id : RuleId) (entered ended : State β) :
    (endMatched grammar id entered ended).attempts =
      (logAttempt grammar id true ended.journal.reverse entered ended).attempts := by
  have told : ∀ mark, (logAttempt grammar id true ended.journal.reverse entered
      (succeed grammar (grammar.rule id) entered.position mark
        { ended with mark := entered.mark })).attempts =
      (logAttempt grammar id true ended.journal.reverse entered ended).attempts := by
    intro mark
    unfold succeed
    split <;> rfl
  unfold endMatched
  simp only
  split
  · exact (State.remember_alike _ _ _ _).attempts.trans (told _)
  · exact told _

/-- Ending a rule without a match changes the attempts as logging it does. -/
theorem endMismatched_attempts (grammar : Grammar P) (id : RuleId) (entered ended : State β) :
    (endMismatched grammar id entered ended).attempts =
      (logAttempt grammar id false ended.journal.reverse entered ended).attempts :=
  (State.remember_alike _ _ _ _).attempts

/-- Recovering, or not, leaves the attempts as they are. -/
theorem recover_attempts (grammar : Grammar P) (rule : Occurrence P) (origin : Nat)
    (state : State β) : (recover grammar rule origin state).2.attempts = state.attempts := by
  unfold recover
  split <;> rfl

/-- A rule that is recalled leaves the attempts noted before. -/
theorem replay_precedes (grammar : Grammar P) (rule : Occurrence P) (origin : Nat)
    (result : MatchResult) (state : State β) :
    state.attempts.Precedes (replay grammar rule origin result state).2.attempts := by
  unfold replay
  cases result with
  | success remembered =>
    simp only
    split <;> exact Attempts.retraceAll_precedes _ _ _ _
  | failure attempts =>
    simp only
    rw [recover_attempts]
    exact Attempts.retraceAll_precedes _ _ _ _

variable [Procedures P]

/-- The test of a rule leaves the attempts noted when the rule was entered if matching its parts
does. -/
theorem repeatTest_precedes (free : grammar.isProcedureFree = true)
    (called : ∀ part (state : State β), state.attempts.Precedes (call part state).2.attempts)
    (id : RuleId) (entered : State β) :
    entered.attempts.Precedes
      (repeatTest grammar call (grammar.rule id) (openRule (grammar.rule id) entered)).2.attempts :=
  (attempting β).repeatTest (fun part _ => called part) (grammar.testOf_isNoProcedure free id)
    (openRule (grammar.rule id) entered)

/-- A rule that is matched afresh leaves the attempts noted before if its parts do. -/
theorem matchAfresh_precedes (free : grammar.isProcedureFree = true)
    (called : ∀ part (state : State β), state.attempts.Precedes (call part state).2.attempts)
    (id : RuleId) (state : State β) :
    state.attempts.Precedes (matchAfresh grammar call id state).2.attempts := by
  have tested := repeatTest_precedes free called id state
  unfold matchAfresh
  simp only
  split
  · rename_i ended repeated
    rw [repeated] at tested
    rw [endMatched_attempts]
    exact logAttempt_precedes tested true _
  · rename_i ended repeated
    rw [repeated] at tested
    rw [recover_attempts, endMismatched_attempts]
    exact logAttempt_precedes tested false _
  · rename_i reason ended _ repeated
    rw [repeated] at tested
    exact tested

/-- Matching a rule leaves the attempts noted before, however it ends. -/
theorem descend_precedes (free : grammar.isProcedureFree = true) (depth : Nat) (id : RuleId)
    (state : State β) : state.attempts.Precedes (descend grammar depth id state).2.attempts := by
  induction depth generalizing id state with
  | zero => exact .refl _
  | succ depth ih =>
    unfold descend
    rcases callRule_cases grammar (descend grammar depth) id state with
      ⟨-, limited⟩ | ⟨called, alike, -, ⟨result, -, hit⟩ | ⟨-, -, miss⟩⟩
    · rw [limited]
      exact .refl _
    · rw [hit, ← alike.attempts]
      exact replay_precedes _ _ _ _ called
    · rw [miss, ← alike.attempts]
      exact matchAfresh_precedes free ih id called

end Rules

/-! ## Rules that are tracked -/

variable [Procedures P]

/-- A rule is tracked at a position, with the attempts noted when it was entered, when it was tried
in vain, and after it was tracked. -/
inductive Tracked (β : Type) [Builder β] (grammar : Grammar P) (id : RuleId) :
    Nat → Bool → Attempts → Attempts → Attempts → Prop
  /-- A rule that matches under a negation was tried in vain. -/
  | matched {depth : Nat} {entered ended : State β}
      (repeated : repeatTest grammar (descend grammar depth) (grammar.rule id)
        (openRule (grammar.rule id) entered) = (.matched, ended))
      (negated : 0 < ended.negations) :
      Tracked β grammar id entered.position true entered.attempts ended.attempts
        (endMatched grammar id entered ended).attempts
  /-- A rule that fails under no negation was tried in vain. -/
  | failed {depth : Nat} {entered ended : State β}
      (repeated : repeatTest grammar (descend grammar depth) (grammar.rule id)
        (openRule (grammar.rule id) entered) = (.failed .mismatch, ended))
      (plain : ended.negations = 0) :
      Tracked β grammar id entered.position false entered.attempts ended.attempts
        (endMismatched grammar id entered ended).attempts
  /-- A rule is tried in vain again where a match is recalled in which it was. -/
  | recalled {origin negations : Nat} {inside : List Attempt} {entered : Attempts} :
      Tracked β grammar id origin (decide (0 < negations)) entered
        (entered.retraceAll grammar negations inside)
        (entered.retrace grammar negations (.rule id origin (decide (0 < negations)) inside))

namespace Tracked

variable {grammar : Grammar P} {id : RuleId} {origin : Nat} {negated : Bool}
  {entered now after : Attempts}

/-- A rule is tracked with what was noted when it was entered. -/
theorem eq_track (tracked : Tracked β grammar id origin negated entered now after) :
    after = now.track (grammar.rule id) origin (entered.mark origin) negated := by
  cases tracked with
  | matched _ negated =>
    rw [endMatched_attempts, logAttempt]
    simp [negated]
  | failed _ plain =>
    rw [endMismatched_attempts, logAttempt]
    simp [plain]
  | recalled =>
    rw [Attempts.retrace]
    simp

/-- The attempts noted when a rule was entered are left where it is tracked. -/
theorem precedes (free : grammar.isProcedureFree = true)
    (tracked : Tracked β grammar id origin negated entered now after) : entered.Precedes now := by
  cases tracked with
  | recalled => exact Attempts.retraceAll_precedes _ _ _ _
  | @matched depth started _ repeated =>
    have tested := repeatTest_precedes free (descend_precedes free depth) id started
    rwa [repeated] at tested
  | @failed depth started _ repeated =>
    have tested := repeatTest_precedes free (descend_precedes free depth) id started
    rwa [repeated] at tested

end Tracked

/-- Where a rule with a token or a name is tracked at the furthest position, and not exactly one
attempt was noted there since it was entered, the attempts are afterwards exactly those that were
noted there when it was entered, and the rule itself, just if the numbers it was entered with are
not outdated. -/
theorem tracked_replaces_iff (grammar : Grammar P) (free : grammar.isProcedureFree = true)
    (id : RuleId) (reported : (grammar.rule id).isReported = true) {origin : Nat} {negated : Bool}
    {entered now after : Attempts}
    (tracked : Tracked β grammar id origin negated entered now after)
    (furthest : now.position ≤ origin)
    (several : now.countAt origin ≠ entered.countAt origin + 1) :
    after = (entered.notedAt origin).add origin negated (grammar.rule id).expected ↔
      ¬ entered.IsOutdated now origin := by
  rw [tracked.eq_track]
  exact Attempts.track_eq_iff (tracked.precedes free) reported furthest several

/-- A letter, or another followed by a choice between two more that has a token of its own. -/
def Grammar.alternatives : Grammar where
  rules :=
    #[⟨none, "\"z\"", ⟨.structural (.named "z"), .one, false, false⟩, .empty,
        .own (.terminal (.literal "z"))⟩,
      ⟨none, "\"a\"", .scanning, .empty, .own (.terminal (.literal "a"))⟩,
      ⟨none, "\"b\"", ⟨.structural (.named "b"), .one, false, false⟩, .empty,
        .own (.terminal (.literal "b"))⟩,
      ⟨none, "\"c\"", ⟨.structural (.named "c"), .one, false, false⟩, .empty,
        .own (.terminal (.literal "c"))⟩,
      ⟨none, "\"b\" | \"c\"", ⟨.structural (.named "d"), .one, false, false⟩, .empty,
        .own (.choice [2, 3])⟩,
      ⟨none, "\"a\" (\"b\" | \"c\")", .scanning, .empty, .own (.sequence [1, 4])⟩,
      ⟨none, "\"z\" | \"a\" (\"b\" | \"c\")", .scanning, .empty, .own (.choice [0, 5])⟩]
  names := []
  root := 6

/-- Behind a letter, where nothing failed before it, the choice replaces its two letters. -/
theorem tracked_replaces_iff_alternatives :
    let initial : State NodeStack := .initial ⟨['a', 'x']⟩ .default .initial
    let entered := (matchRule .alternatives 1 initial).2
    let result := repeatTest .alternatives (descend .alternatives 2)
      (Grammar.alternatives.rule 4) (openRule (Grammar.alternatives.rule 4) entered)
    result.1 = .failed .mismatch ∧ result.2.attempts.expected.toList = ["b", "c"] ∧
      (endMismatched .alternatives 4 entered result.2).attempts =
        (entered.attempts.notedAt 1).add 1 false "d" := by
  intro initial entered result
  have failed : result.1 = .failed .mismatch := by decide +kernel
  have tracked : Tracked NodeStack .alternatives 4 entered.position false entered.attempts
      result.2.attempts (endMismatched .alternatives 4 entered result.2).attempts :=
    .failed (Prod.ext failed rfl) (by decide +kernel)
  refine ⟨failed, by decide +kernel, ?_⟩
  exact (tracked_replaces_iff .alternatives (by decide +kernel) 4 (by decide +kernel) tracked
    (by decide +kernel) (by decide +kernel)).mpr (by decide +kernel)

/-- Behind a letter, where another failed before it, the choice leaves the first of its two letters
in place, although it is tracked at the furthest position and two attempts were noted there since it
was entered; and so does the pass. -/
theorem tracked_leaves_attempt :
    let initial : State NodeStack := .initial ⟨['a', 'x']⟩ .default .initial
    let entered := (matchRule .alternatives 1 (matchRule .alternatives 0 initial).2).2
    let result := repeatTest .alternatives (descend .alternatives 2)
      (Grammar.alternatives.rule 4) (openRule (Grammar.alternatives.rule 4) entered)
    (Grammar.alternatives.rule 4).isReported = true ∧ result.1 = .failed .mismatch ∧
      result.2.negations = 0 ∧ result.2.attempts.position = entered.position ∧
      entered.attempts.countAt entered.position = 0 ∧
      result.2.attempts.countAt entered.position = 2 ∧
      (endMismatched .alternatives 4 entered result.2).attempts ≠
        (entered.attempts.notedAt entered.position).add entered.position false "d" ∧
      (matchRule .alternatives 6 initial).2.attempts.expected.toList = ["b", "d"] := by
  decide +kernel

end Packrat
