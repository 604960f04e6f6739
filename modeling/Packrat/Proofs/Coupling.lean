import Packrat.Construction

/-!
# Coupled runs

A relation between states couples two grammars if related states show the same cursor, nodes and
diagnostics, and a pass of each grammar from related states ends the same way and leaves related
states (`Coupling`). Passes from related states then end with the same diagnostic of their own
(`Coupling.runPasses`), so builds that start in related states give the same
(`Coupling.construct`).
-/

namespace Packrat

variable {P : Type}

/-- What there is to say about a failure depends only on the cursor and the attempts. -/
theorem diagnose_eq {β γ : Type} {left : State β} {right : State γ}
    (scanner : left.scanner = right.scanner) (attempts : left.attempts = right.attempts)
    (reason : Failure) :
    left.diagnose reason = right.diagnose reason := by
  cases reason with
  | callLimit => simp only [State.diagnose, State.position, scanner]
  | divergence => simp only [State.diagnose, State.position, scanner]
  | mismatch =>
    unfold State.diagnose State.spanAt State.source State.position
    rw [scanner, attempts]

variable [Procedures P]

/-- A relation between states couples two grammars: from related states both are matched in step. -/
structure Coupling (left right : Grammar P) (related : State NodeStack → State NodeStack → Prop) :
    Prop where
  /-- Related states have the same cursor. -/
  scanner : ∀ {state other}, related state other → state.scanner = other.scanner
  /-- Related states have the same nodes. -/
  builder : ∀ {state other}, related state other → state.builder = other.builder
  /-- Related states have the same diagnostics. -/
  errors : ∀ {state other}, related state other → state.errors = other.errors
  /-- Related states have the same call limit. -/
  callLimit : ∀ {state other}, related state other → state.callLimit = other.callLimit
  /-- A pass from either of two related states never ends, or ends the same way with the same
  attempts and leaves related states. -/
  pass : ∀ {state other}, related state other →
    ((pass left state).1 = .failed .divergence ∧ (pass right other).1 = .failed .divergence) ∨
    ((pass left state).1 = (pass right other).1 ∧
      (pass left state).2.attempts = (pass right other).2.attempts ∧
      related (pass left state).2 (pass right other).2)

namespace Coupling

variable {left right : Grammar P} {related : State NodeStack → State NodeStack → Prop}
  {state other : State NodeStack}

/-- Passes from related states end with the same diagnostic of their own, the same nodes and the
same diagnostics of rules that recovered. -/
theorem runPasses (coupling : Coupling left right related) (budget : Nat)
    (start : related state other) :
    (runPasses left budget state).1 = (runPasses right budget other).1 ∧
      (runPasses left budget state).2.builder = (runPasses right budget other).2.builder ∧
      (runPasses left budget state).2.errors = (runPasses right budget other).2.errors := by
  induction budget generalizing state other with
  | zero =>
    have diverged : state.diagnose .divergence = other.diagnose .divergence := by
      simp only [State.diagnose, State.position, coupling.scanner start]
    unfold Packrat.runPasses
    rw [coupling.scanner start]
    split
    · exact ⟨rfl, coupling.builder start, coupling.errors start⟩
    · exact ⟨congrArg some diverged, coupling.builder start, coupling.errors start⟩
  | succ budget ih =>
    have diverged : state.diagnose .divergence = other.diagnose .divergence := by
      simp only [State.diagnose, State.position, coupling.scanner start]
    have position : state.position = other.position :=
      congrArg Scanner.position (coupling.scanner start)
    have passed := coupling.pass start
    unfold Packrat.runPasses
    generalize Packrat.pass left state = leftResult at passed
    generalize Packrat.pass right other = rightResult at passed
    rw [coupling.scanner start]
    split
    · exact ⟨rfl, coupling.builder start, coupling.errors start⟩
    obtain ⟨leftOutcome, leftNext⟩ := leftResult
    obtain ⟨rightOutcome, rightNext⟩ := rightResult
    rcases passed with ⟨leftDiverged, rightDiverged⟩ | ⟨outcome, attempts, next⟩
    · obtain rfl : leftOutcome = .failed .divergence := leftDiverged
      obtain rfl : rightOutcome = .failed .divergence := rightDiverged
      exact ⟨congrArg some diverged, coupling.builder start, coupling.errors start⟩
    · obtain rfl : leftOutcome = rightOutcome := outcome
      have diagnosed := fun reason =>
        congrArg some (diagnose_eq (coupling.scanner next) attempts reason)
      have builder : leftNext.builder = rightNext.builder := coupling.builder next
      have errors : leftNext.errors = rightNext.errors := coupling.errors next
      cases leftOutcome with
      | failed reason =>
        cases reason with
        | divergence =>
          exact ⟨congrArg some diverged, coupling.builder start, coupling.errors start⟩
        | callLimit => exact ⟨diagnosed .callLimit, builder, errors⟩
        | mismatch => exact ⟨diagnosed .mismatch, builder, errors⟩
      | matched =>
        have stopped : leftNext.position = rightNext.position :=
          congrArg Scanner.position (coupling.scanner next)
        simp only [stopped, position]
        split
        · exact ⟨diagnosed .mismatch, builder, errors⟩
        · exact ih next

/-- Related states are parsed the same. -/
theorem parse (coupling : Coupling left right related) (start : related state other) :
    (parse left state).1 = (parse right other).1 ∧
      (parse left state).2.builder = (parse right other).2.builder ∧
      (parse left state).2.errors = (parse right other).2.errors := by
  have bound : state.loopBound = other.loopBound := by
    simp only [State.loopBound, State.source, coupling.scanner start, coupling.callLimit start]
  unfold Packrat.parse
  rw [bound]
  exact coupling.runPasses other.loopBound start

/-- Builds that start in related states give the same result and the same diagnostics. -/
theorem construct {first second : Constructor P} {source : Source}
    (coupling : Coupling first.grammar second.grammar related)
    (start : related (first.start source) (second.start source)) :
    (first.construct source).result = (second.construct source).result ∧
      (first.construct source).errors = (second.construct source).errors := by
  obtain ⟨failure, builder, errors⟩ := coupling.parse start
  rw [← Prod.mk.injEq, Constructor.construct_generates, Constructor.construct_generates, failure,
    builder, errors]

end Coupling

end Packrat
