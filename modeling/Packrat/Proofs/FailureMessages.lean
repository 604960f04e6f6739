import Packrat.Engine.Passes
import Packrat.Proofs.Tracking
import Packrat.Proofs.Tries

/-!
# What failures report

A pass that fails, or that takes nothing, reports rules by name that were tried in vain. However the
rules backtrack, the names are those of rules tried in vain at the furthest position at which any
rule with a token or a name was (`Attempts.Reports`): what is cut back when a rule replaces the
attempts inside it is noted at that same position, and there is always a name left. The tries are
those that matching the root makes by the rules of parsing expressions (`pass_reports_vain_tries`);
a pass that the call limit stops has made some of them.
-/

namespace Packrat

variable {P : Type}

/-- A rule with a token or a name is tried in vain: it fails or, under a negation, it matches. -/
def Try.IsVain (grammar : Grammar P) (attempt : Try) : Prop :=
  (grammar.rule attempt.id).isReported = true ∧
    attempt.matched = decide (0 < attempt.negations)

instance (grammar : Grammar P) (attempt : Try) : Decidable (attempt.IsVain grammar) :=
  inferInstanceAs (Decidable (_ ∧ _))

/-! ## Names that are noted -/

namespace Attempts

/-- The names of the rules noted that failed, or of those that matched. -/
def noted (attempts : Attempts) : Bool → NameLog
  | false => attempts.expected
  | true => attempts.unexpected

/-- Attempts that report names of rules tried in vain at the furthest position, and some of them if
there are any. -/
structure Reports (grammar : Grammar P) (attempts : Attempts) (tries : List Try) : Prop where
  /-- Nothing was tried in vain any further. -/
  furthest : ∀ attempt ∈ tries, attempt.IsVain grammar → attempt.origin ≤ attempts.position
  /-- The names are those of rules tried in vain at the position. -/
  names : ∀ matched name, name ∈ (attempts.noted matched).toList →
    ∃ attempt ∈ tries, attempt.IsVain grammar ∧ attempt.origin = attempts.position ∧
      attempt.matched = matched ∧ (grammar.rule attempt.id).expected = name
  /-- If a rule was tried in vain, some name is noted. -/
  inhabited : (∃ attempt ∈ tries, attempt.IsVain grammar) →
    ∃ matched name, name ∈ (attempts.noted matched).toList
  /-- If no rule was tried in vain, the position is the first one. -/
  idle : (∀ attempt ∈ tries, ¬ attempt.IsVain grammar) → attempts.position = 0

variable {grammar : Grammar P} {now : Attempts} {tries : List Try} {position : Nat} {name : String}
  {matched : Bool}

/-- Noted names are counted at the furthest position. -/
theorem exists_of_countAt (counted : 0 < now.countAt position) :
    position = now.position ∧ ∃ matched name, name ∈ (now.noted matched).toList := by
  unfold countAt at counted
  split at counted
  · rename_i here
    refine ⟨here, ?_⟩
    have listed : ∀ log : NameLog, 0 < log.size → ∃ name, name ∈ log.toList := by
      intro log some
      exact List.exists_mem_of_length_pos (log.length_toList ▸ some)
    by_cases expected : 0 < now.expected.size
    · exact ⟨false, listed _ expected⟩
    · exact ⟨true, listed now.unexpected (by omega)⟩
  · contradiction

/-- What is noted after cutting back at the furthest position was noted there before. -/
theorem mem_noted_collapse {mark : AttemptsMark} (furthest : now.position ≤ position)
    (member : name ∈ ((now.collapse position mark).noted matched).toList) :
    now.position = position ∧ name ∈ (now.noted matched).toList := by
  rcases Nat.lt_or_eq_of_le furthest with earlier | rfl
  · rw [collapse_of_lt earlier] at member
    cases matched <;> nomatch member
  · refine ⟨rfl, ?_⟩
    unfold collapse at member
    rw [if_pos rfl] at member
    cases matched with
    | false =>
      rw [noted, NameLog.toList_truncate] at member
      exact List.mem_of_mem_take member
    | true =>
      rw [noted, NameLog.toList_truncate] at member
      exact List.mem_of_mem_take member

/-- At the furthest position, a name is noted with the others. -/
theorem mem_noted_add (here : now.position = position) {negated : Bool} {added : String} :
    name ∈ ((now.add position negated added).noted matched).toList ↔
      name ∈ (now.noted matched).toList ∨ (matched = negated ∧ name = added) := by
  unfold add
  rw [if_pos here.symm]
  cases negated <;> cases matched <;> simp [noted, NameLog.toList_push]

/-- Adding a name leaves the furthest position. -/
theorem position_add (attempts : Attempts) (position : Nat) (negated : Bool) (name : String) :
    (attempts.add position negated name).position = attempts.position := by
  unfold add
  split
  · split <;> rfl
  · rfl

/-! ## One try more -/

/-- A try that is not in vain, or that is no further than what is noted, changes no report. -/
theorem Reports.covers (reports : now.Reports grammar tries) {attempt : Try}
    (covered : attempt.IsVain grammar → attempt.origin ≤ now.position ∧
      ∃ matched name, name ∈ (now.noted matched).toList) :
    now.Reports grammar (tries ++ [attempt]) where
  furthest other member vain := by
    rcases List.mem_append.mp member with old | new
    · exact reports.furthest other old vain
    · obtain rfl := List.mem_singleton.mp new
      exact (covered vain).1
  names matched name member := by
    obtain ⟨other, old, rest⟩ := reports.names matched name member
    exact ⟨other, List.mem_append_left _ old, rest⟩
  inhabited := by
    rintro ⟨other, member, vain⟩
    rcases List.mem_append.mp member with old | new
    · exact reports.inhabited ⟨other, old, vain⟩
    · obtain rfl := List.mem_singleton.mp new
      exact (covered vain).2
  idle none := reports.idle fun other member => none other (List.mem_append_left _ member)

/-- A rule that was tried in vain at the furthest position is noted in place of what is cut back. -/
theorem Reports.adds (reports : now.Reports grammar tries) {attempt : Try}
    (vain : attempt.IsVain grammar) (furthest : now.position ≤ attempt.origin)
    (mark : AttemptsMark) :
    ((now.collapse attempt.origin mark).add attempt.origin attempt.matched
      (grammar.rule attempt.id).expected).Reports grammar (tries ++ [attempt]) := by
  have here : (now.collapse attempt.origin mark).position = attempt.origin :=
    position_collapse furthest mark
  constructor
  · intro other member vainly
    rw [position_add, here]
    rcases List.mem_append.mp member with old | new
    · exact Nat.le_trans (reports.furthest other old vainly) furthest
    · obtain rfl := List.mem_singleton.mp new
      exact Nat.le_refl _
  · intro matched name member
    rw [position_add, here]
    rcases (mem_noted_add here).mp member with kept | ⟨rfl, rfl⟩
    · obtain ⟨same, noted⟩ := mem_noted_collapse furthest kept
      obtain ⟨other, old, rest⟩ := reports.names matched name noted
      rw [same] at rest
      exact ⟨other, List.mem_append_left _ old, rest⟩
    · exact ⟨attempt, List.mem_append_right _ (List.mem_singleton_self _), vain, rfl, rfl, rfl⟩
  · intro _
    exact ⟨attempt.matched, _, (mem_noted_add here).mpr (.inr ⟨rfl, rfl⟩)⟩
  · intro none
    exact absurd vain (none attempt (List.mem_append_right _ (List.mem_singleton_self _)))

/-- Tracking a rule that was tried in vain keeps the report, whatever was noted when the rule was
entered. -/
theorem Reports.track (reports : now.Reports grammar tries) (attempt : Try)
    (vainly : attempt.matched = decide (0 < attempt.negations)) (mark : AttemptsMark) :
    (now.track (grammar.rule attempt.id) attempt.origin mark attempt.matched).Reports grammar
      (tries ++ [attempt]) := by
  unfold Attempts.track
  split
  · rename_i unreported
    refine reports.covers fun vain => ?_
    simp [vain.1] at unreported
  · rename_i named
    have vain : attempt.IsVain grammar := ⟨by simpa using named, vainly⟩
    split
    · -- exactly one attempt was noted at the position since, and stays
      rename_i single
      obtain ⟨here, some⟩ := exists_of_countAt (by omega : 0 < now.countAt attempt.origin)
      exact reports.covers fun _ => ⟨Nat.le_of_eq here, some⟩
    · rcases Nat.lt_or_ge attempt.origin now.position with behind | furthest
      · have kept : (now.collapse attempt.origin mark).add attempt.origin attempt.matched
            (grammar.rule attempt.id).expected = now := by
          unfold collapse add
          rw [if_neg (Nat.ne_of_lt behind), if_neg (Nat.lt_asymm behind),
            if_neg (Nat.ne_of_lt behind)]
        rw [kept]
        have vainTry : ∃ other ∈ tries, other.IsVain grammar := by
          by_contra none
          have first := reports.idle fun other member tried => none ⟨other, member, tried⟩
          omega
        exact reports.covers fun _ => ⟨Nat.le_of_lt behind, reports.inhabited vainTry⟩
      · exact reports.adds vain furthest mark

mutual
/-- Making an attempt again keeps the report. -/
theorem Reports.retrace (negations : Nat) :
    ∀ (attempt : Attempt) {now : Attempts} {tries : List Try}, now.Reports grammar tries →
      (now.retrace grammar negations attempt).Reports grammar
        (tries ++ attempt.tries negations)
  | .rule id origin matched inside, now, tries, reports => by
    have deeper := reports.retraceAll negations inside
    rw [Attempts.retrace, Attempt.tries, ← List.append_assoc]
    simp only [beq_iff_eq]
    split
    · rename_i same
      subst same
      exact deeper.track ⟨id, origin, negations, _⟩ rfl _
    · rename_i differs
      exact deeper.covers fun vain => absurd vain.2 differs
  | .negation inside, now, tries, reports => by
    rw [Attempts.retrace, Attempt.tries]
    exact reports.retraceAll (negations + 1) inside

/-- Making attempts again keeps the report. -/
theorem Reports.retraceAll (negations : Nat) :
    ∀ (again : List Attempt) {now : Attempts} {tries : List Try}, now.Reports grammar tries →
      (now.retraceAll grammar negations again).Reports grammar
        (tries ++ Attempt.triesAll negations again)
  | [], now, tries, reports => by
    rw [Attempts.retraceAll, Attempt.triesAll, List.append_nil]
    exact reports
  | attempt :: later, now, tries, reports => by
    rw [Attempts.retraceAll, Attempt.triesAll, ← List.append_assoc]
    exact (reports.retrace negations attempt).retraceAll negations later
end

/-! ## Messages -/

end Attempts

variable {β : Type}

/-- A result whose journal lists the attempts that were made, which are genuine and were all
tracked. -/
structure Notes (grammar : Grammar P) (before : State β) (result : Outcome × State β) : Prop where
  /-- The cursor did not go back. -/
  forward : before.scanner.Reaches result.2.scanner
  /-- As many negations are open. -/
  negations : result.2.negations = before.negations
  /-- The cache remembers only verdicts. -/
  memory : (finalVerdict grammar).Backs before.source result.2.memory
  /-- The attempts made are in the journal, were tracked, and are genuine. -/
  made : ∃ made, result.2.journal = made.reverse ++ before.journal ∧
    result.2.attempts = before.attempts.retraceAll grammar before.negations made ∧
    ∀ attempt ∈ Attempt.triesAll before.negations made, attempt.IsGenuine grammar before.scanner

namespace Notes

variable {grammar : Grammar P} {before middle after : State β} {outcome other : Outcome}
  {result : Outcome × State β}

/-- A result that leaves the journal and the attempts notes nothing. -/
theorem of_same (forward : before.scanner.Reaches after.scanner)
    (negations : after.negations = before.negations)
    (memory : (finalVerdict grammar).Backs before.source after.memory)
    (journal : after.journal = before.journal) (attempts : after.attempts = before.attempts) :
    Notes grammar before (outcome, after) := by
  refine ⟨forward, negations, memory, [], journal, ?_, ?_⟩
  · rw [attempts, Attempts.retraceAll]
  · intro attempt member
    nomatch member

/-- How an evaluation ends makes no difference to what it notes. -/
theorem turn (notes : Notes grammar before (outcome, after)) :
    Notes grammar before (other, after) :=
  ⟨notes.forward, notes.negations, notes.memory, notes.made⟩

/-- The source stays the same. -/
theorem source_eq (notes : Notes grammar before result) : result.2.source = before.source :=
  notes.forward.source

/-- Two evaluations one after the other note what both note. -/
theorem trans (earlier : Notes grammar before (outcome, middle))
    (later : Notes grammar middle result) : Notes grammar before result := by
  obtain ⟨first, journalFirst, attemptsFirst, genuineFirst⟩ := earlier.made
  obtain ⟨second, journalSecond, attemptsSecond, genuineSecond⟩ := later.made
  have same : middle.negations = before.negations := earlier.negations
  rw [same] at attemptsSecond genuineSecond
  refine ⟨earlier.forward.trans later.forward, later.negations.trans same,
    earlier.source_eq ▸ later.memory, first ++ second, ?_, ?_, ?_⟩
  · rw [journalSecond, journalFirst, List.reverse_append, List.append_assoc]
  · rw [attemptsSecond, attemptsFirst, Attempts.retraceAll_append]
  · intro attempt member
    rw [Attempt.triesAll_append] at member
    rcases List.mem_append.mp member with old | new
    · exact genuineFirst attempt old
    · exact (genuineSecond attempt new).mono earlier.forward

/-- Taking the cursor back leaves what was noted. -/
theorem back (notes : Notes grammar before result)
    (scanner : after.scanner = result.2.scanner.moveTo before.position)
    (negations : after.negations = result.2.negations) (memory : after.memory = result.2.memory)
    (journal : after.journal = result.2.journal) (attempts : after.attempts = result.2.attempts) :
    Notes grammar before (other, after) := by
  have still : result.2.scanner.moveTo before.position = before.scanner :=
    Scanner.moveTo_position notes.forward.source
  refine ⟨?_, negations.trans notes.negations, memory ▸ notes.memory, ?_⟩
  · rw [scanner, still]
    exact .refl _
  · rw [journal, attempts]
    exact notes.made

end Notes

variable [Builder β]

/-- Noting what is tried, from states whose cache remembers only verdicts, is a conduct. -/
def noting (grammar : Grammar P) : Conduct β where
  Does before result := (finalVerdict grammar).Backs before.source before.memory →
    Notes grammar before result
  Room _ _ := True
  stays state memory := .of_same (.refl _) rfl memory rfl rfl
  turns _ _ done memory := (done memory).turn
  follows _ earlier later memory := by
    have first := earlier memory
    exact first.trans (later (first.source_eq ▸ first.memory))
  moves reached memory := .of_same reached rfl memory rfl rfl
  restores done memory := (done memory).back rfl rfl rfl rfl rfl
  refutes {state next outcome} done memory := by
    have tested := done memory
    obtain ⟨made, journal, attempts, genuine⟩ := tested.made
    have listed : next.journal.reverse = made := by
      rw [journal, State.refuting, List.append_nil, List.reverse_reverse]
    have back : (state.refuted next).scanner = state.scanner :=
      Scanner.moveTo_position tested.forward.source
    refine ⟨?_, rfl, tested.memory, [.negation made], ?_, ?_, ?_⟩
    · rw [back]
      exact .refl _
    · rw [← listed]
      rfl
    · rw [Attempts.retraceAll, Attempts.retrace, Attempts.retraceAll]
      exact attempts
    · rw [Attempt.triesAll_singleton, Attempt.tries]
      exact genuine
  starts _ := trivial
  spends _ _ _ := trivial
  exhausts _ memory := .of_same (.refl _) rfl memory rfl rfl

section Rules

variable {grammar : Grammar P} {call : RuleId → Action β} {id : RuleId} {state : State β}

/-- A rule that does what the final verdict on it says notes what matching it tries. -/
theorem Answers.notes {ledger : Ledger β} {verdict : MatchResult} {result : Outcome × State β}
    (known : finalVerdict grammar id state.scanner = some verdict)
    (answers : Answers ledger grammar (finalVerdict grammar)
      (verdict.reply grammar (grammar.rule id) state.position) state result) :
    Notes grammar state result := by
  obtain ⟨behind, inside⟩ := (finalVerdict_forward grammar).reply grammar known
  refine ⟨?_, answers.negations, answers.memory, _, answers.journal, answers.attempts, ?_⟩
  · rw [answers.scanner]
    exact ⟨rfl, behind.trans_eq (Scanner.position_moveTo inside).symm⟩
  · intro attempt member
    exact ((finalVerdict_lists known).mp member).isGenuine

variable [Procedures P]

end Rules

variable [Procedures P]

end Packrat
