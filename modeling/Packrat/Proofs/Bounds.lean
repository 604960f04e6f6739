import Packrat.Engine.Passes
import Packrat.Proofs.Backtracking
import Packrat.Proofs.Conduct

/-!
# Positions inside the source

Everything that matching notes down about positions stays inside the source: the spans of
diagnostics, the furthest position of the attempts, and where the rules in the journal were tried.
As attempts are kept with cached matches and made again from there, the same has to hold of what the
cache remembers (`State.Within`). Every evaluation keeps this, whatever the settings and however it
ends (`descend_within`), so whatever is diagnosed after a pass lies inside the source
(`State.Within.diagnose`).
-/

namespace Packrat

variable {P : Type}

/-- A span lies in a source of some length. -/
structure Span.IsWithin (length : Nat) (span : Span) : Prop where
  /-- The span does not stop before it starts. -/
  ordered : span.start ≤ span.stop
  /-- The span stops in the source. -/
  inside : span.stop ≤ length

/-- A point in a source lies in it. -/
theorem Span.isWithin_point {length position : Nat} (inside : position ≤ length) :
    (Span.point position).IsWithin length :=
  ⟨Nat.le_refl _, inside⟩

/-! ## Attempts -/

namespace Attempt

mutual
/-- Whether every rule of an attempt was tried in a source of some length. -/
def startsBy (length : Nat) : Attempt → Bool
  | rule _ origin _ inside => decide (origin ≤ length) && allStartBy length inside
  | negation inside => allStartBy length inside

/-- Whether every rule of several attempts was tried in a source of some length. -/
def allStartBy (length : Nat) : List Attempt → Bool
  | [] => true
  | attempt :: later => startsBy length attempt && allStartBy length later
end

/-- Several attempts were made in a source just if each of them was. -/
theorem allStartBy_iff {length : Nat} {attempts : List Attempt} :
    allStartBy length attempts = true ↔ ∀ attempt ∈ attempts, startsBy length attempt = true := by
  induction attempts with
  | nil => simp [allStartBy]
  | cons attempt later ih => simp [allStartBy, ih]

/-- The order of attempts makes no difference to where they were made. -/
theorem allStartBy_reverse {length : Nat} {attempts : List Attempt}
    (within : allStartBy length attempts = true) :
    allStartBy length attempts.reverse = true :=
  allStartBy_iff.mpr fun attempt member =>
    allStartBy_iff.mp within attempt (List.mem_reverse.mp member)

/-- Attempts followed by others were made in a source if both were. -/
theorem allStartBy_append {length : Nat} {earlier later : List Attempt}
    (first : allStartBy length earlier = true) (second : allStartBy length later = true) :
    allStartBy length (earlier ++ later) = true := by
  refine allStartBy_iff.mpr fun attempt member => ?_
  rcases List.mem_append.mp member with member | member
  · exact allStartBy_iff.mp first attempt member
  · exact allStartBy_iff.mp second attempt member

end Attempt

namespace Attempts

/-- Tracking a rule leaves the furthest position where it was, or moves it to where the rule was
tried. -/
theorem position_track_le {length : Nat} {attempts : Attempts} (within : attempts.position ≤ length)
    {position : Nat} (inside : position ≤ length) (rule : Occurrence P) (mark : AttemptsMark)
    (negated : Bool) : (attempts.track rule position mark negated).position ≤ length := by
  have collapsed : (attempts.collapse position mark).position ≤ length := by
    unfold collapse
    split
    · exact within
    · split
      · exact inside
      · exact within
  unfold track
  split
  · exact within
  · split
    · exact within
    · unfold add
      split
      · split <;> exact collapsed
      · exact collapsed

mutual
/-- Making an attempt again in the source leaves the furthest position in the source. -/
theorem position_retrace_le (grammar : Grammar P) (negations : Nat) {length : Nat} :
    ∀ {attempt : Attempt} {attempts : Attempts}, attempt.startsBy length = true →
      attempts.position ≤ length →
      (attempts.retrace grammar negations attempt).position ≤ length
  | .rule id origin matched inside, attempts, starts, within => by
    rw [Attempt.startsBy, Bool.and_eq_true, decide_eq_true_eq] at starts
    have deeper := position_retraceAll_le grammar negations starts.2 within
    rw [retrace]
    split
    · exact position_track_le deeper starts.1 _ _ _
    · exact deeper
  | .negation inside, attempts, starts, within => by
    rw [Attempt.startsBy] at starts
    rw [retrace]
    exact position_retraceAll_le grammar (negations + 1) starts within

/-- Making attempts again in the source leaves the furthest position in the source. -/
theorem position_retraceAll_le (grammar : Grammar P) (negations : Nat) {length : Nat} :
    ∀ {again : List Attempt} {attempts : Attempts}, Attempt.allStartBy length again = true →
      attempts.position ≤ length →
      (attempts.retraceAll grammar negations again).position ≤ length
  | [], attempts, _, within => by
    rw [retraceAll]
    exact within
  | attempt :: later, attempts, starts, within => by
    rw [Attempt.allStartBy, Bool.and_eq_true] at starts
    rw [retraceAll]
    exact position_retraceAll_le grammar negations starts.2
      (position_retrace_le grammar negations starts.1 within)
end

end Attempts

/-! ## States -/

/-- A remembered outcome is about positions in a source of some length. -/
def MatchResult.IsWithin (length : Nat) : MatchResult → Prop
  | .success remembered =>
    (∀ diagnostic ∈ remembered.diagnostics, diagnostic.span.IsWithin length) ∧
      Attempt.allStartBy length remembered.attempts = true
  | .failure attempts => Attempt.allStartBy length attempts = true

/-- A state in which everything noted about positions lies in the source, of some length. -/
structure State.Within {β : Type} (length : Nat) (state : State β) : Prop where
  /-- The source has the length. -/
  source : state.source.length = length
  /-- The diagnostics lie in the source. -/
  errors : ∀ diagnostic ∈ state.errors, diagnostic.span.IsWithin length
  /-- The furthest position is in the source. -/
  attempts : state.attempts.position ≤ length
  /-- The rules in the journal were tried in the source. -/
  journal : Attempt.allStartBy length state.journal = true
  /-- The cache remembers outcomes in the source. -/
  memory : ∀ slot ∈ state.memory, ∀ entry ∈ slot.entries, entry.2.IsWithin length

namespace State.Within

variable {β : Type} {length : Nat} {state entered ended : State β}

/-- The cursor is in the source. -/
theorem position_le (within : state.Within length) : state.position ≤ length :=
  within.source ▸ state.scanner.inside

/-- A state that is alike but for its cache is within if what it remembers is. -/
theorem of_alike (within : state.Within length) {other : State β} (alike : state.Alike other)
    (memory : ∀ slot ∈ other.memory, ∀ entry ∈ slot.entries, entry.2.IsWithin length) :
    other.Within length := by
  have source : other.source = state.source := congrArg Scanner.source alike.scanner
  exact ⟨source ▸ within.source, alike.errors ▸ within.errors, alike.attempts ▸ within.attempts,
    alike.journal ▸ within.journal, memory⟩

/-- Remembering an outcome in the source is allowed. -/
theorem remember (within : state.Within length) (id : RuleId) (origin : Nat)
    {result : MatchResult} (inside : result.IsWithin length) :
    (state.remember id origin result).Within length := by
  refine within.of_alike (state.remember_alike id origin result) fun slot member entry listed => ?_
  rcases State.mem_memory_remember member listed with ⟨-, rfl⟩ | ⟨old, stored, -, known⟩
  · exact inside
  · exact within.memory old stored entry known

/-- The trial of a rule in the source may be logged. -/
theorem logAttempt (within : ended.Within length) (before : entered.Within length)
    (grammar : Grammar P) (id : RuleId) (matched : Bool) {inside : List Attempt}
    (tried : Attempt.allStartBy length inside = true) :
    (Packrat.logAttempt grammar id matched inside entered ended).Within length := by
  refine ⟨within.source, within.errors, ?_, ?_, within.memory⟩
  · change Attempts.position (if _ then _ else _) ≤ length
    split
    · exact Attempts.position_track_le within.attempts before.position_le _ _ _
    · exact within.attempts
  · have starts : entered.position ≤ length := before.position_le
    change Attempt.allStartBy length (.rule id entered.position matched inside :: entered.journal) =
      true
    simp [Attempt.allStartBy, Attempt.startsBy, starts, tried, before.journal]

/-- The span of one character at a position of the source lies in the source. -/
theorem spanAt (within : state.Within length) {position : Nat} (inside : position ≤ length) :
    (state.spanAt position).IsWithin length := by
  have known : state.source.length = length := within.source
  unfold State.spanAt
  by_cases before : position < state.source.length
  · rw [if_pos before]
    exact ⟨Nat.le_succ _, known ▸ before⟩
  · rw [if_neg before]
    exact ⟨Nat.le_refl _, inside⟩

/-- What is diagnosed lies in the source. -/
theorem diagnose (within : state.Within length) (failure : Failure) :
    (state.diagnose failure).span.IsWithin length := by
  have here : state.position ≤ length := within.position_le
  cases failure with
  | callLimit => exact Span.isWithin_point here
  | divergence => exact Span.isWithin_point here
  | mismatch => exact within.spanAt (Nat.max_le.mpr ⟨within.attempts, here⟩)

end State.Within

section Matching

variable {β : Type} [Builder β] {grammar : Grammar P} {length : Nat} {call : RuleId → Action β}

/-- Staying in the source is a conduct. -/
def State.Within.conduct (β : Type) [Builder β] (length : Nat) : Conduct β where
  Does state result := state.Within length → result.2.Within length
  Room _ _ := True
  stays _ within := within
  turns _ _ does := does
  follows _ first second within := second (first within)
  moves reaches within :=
    ⟨(congrArg Source.length reaches.source).trans within.source, within.errors, within.attempts,
      within.journal, within.memory⟩
  restores does within :=
    have next := does within
    ⟨next.source, fun diagnostic listed => next.errors diagnostic (List.mem_of_mem_take listed),
      next.attempts, next.journal, next.memory⟩
  refutes := by
    intro state next outcome does within
    have tested : next.Within length :=
      does ⟨within.source, within.errors, within.attempts, rfl, within.memory⟩
    have journal : Attempt.allStartBy length
        (.negation next.journal.reverse :: state.journal) = true := by
      have inside := Attempt.allStartBy_reverse tested.journal
      simp [Attempt.allStartBy, Attempt.startsBy, inside, within.journal]
    exact ⟨tested.source,
      fun diagnostic listed => tested.errors diagnostic (List.mem_of_mem_take listed),
      tested.attempts, journal, tested.memory⟩
  starts _ := trivial
  spends _ _ _ := trivial
  exhausts _ within := within

variable {state entered ended : State β}

/-- A rule that matched is ended in the source. -/
theorem endMatched_within (before : entered.Within length) (within : ended.Within length)
    (id : RuleId) : (endMatched grammar id entered ended).Within length := by
  have inside := Attempt.allStartBy_reverse within.journal
  have told : (succeed grammar (grammar.rule id) entered.position
      (ended.mark.getD (.start entered.position))
      { ended with mark := entered.mark }).Within length := by
    unfold succeed
    split
    · exact ⟨within.source, within.errors, within.attempts, within.journal, within.memory⟩
    · exact ⟨within.source, within.errors, within.attempts, within.journal, within.memory⟩
  have logged := told.logAttempt before grammar id true inside
  unfold endMatched
  simp only
  split
  · refine logged.remember id _ ⟨fun diagnostic listed => ?_, ?_⟩
    · exact logged.errors diagnostic (List.mem_of_mem_drop listed)
    · have starts : entered.position ≤ length := before.position_le
      simp [Attempt.allStartBy, Attempt.startsBy, starts, inside]
  · exact logged

/-- A rule that did not match is ended in the source. -/
theorem endMismatched_within (before : entered.Within length) (within : ended.Within length)
    (id : RuleId) : (endMismatched grammar id entered ended).Within length := by
  have inside := Attempt.allStartBy_reverse within.journal
  have starts : entered.position ≤ length := before.position_le
  have closed : State.Within length
      { (ended.close Builder.failed).moveTo entered.position with
        errors := ended.errors.take entered.errors.length
        mark := entered.mark } :=
    ⟨within.source, fun diagnostic listed => within.errors diagnostic (List.mem_of_mem_take listed),
      within.attempts, within.journal, within.memory⟩
  unfold endMismatched
  refine (closed.logAttempt before grammar id false inside).remember id _ ?_
  show Attempt.allStartBy length _ = true
  simp [Attempt.allStartBy, Attempt.startsBy, starts, inside]

/-- A rule in which everything had to stop is ended in the source. -/
theorem endStopped_within (before : entered.Within length) (within : ended.Within length) :
    (endStopped entered ended).Within length :=
  ⟨within.source, within.errors, within.attempts,
    Attempt.allStartBy_append within.journal before.journal, within.memory⟩

/-- A rule is recovered from in the source. -/
theorem recover_within (within : state.Within length) (rule : Occurrence P) {origin : Nat}
    (starts : origin ≤ length) : (recover grammar rule origin state).2.Within length := by
  unfold recover
  split
  · refine ⟨within.source, fun diagnostic listed => ?_, within.attempts, within.journal,
      within.memory⟩
    rcases List.mem_append.mp listed with earlier | last
    · exact within.errors diagnostic earlier
    · obtain rfl := List.mem_singleton.mp last
      exact Span.isWithin_point starts
  · exact within

/-- A rule is ended in the source as a cached match says. -/
theorem replay_within (within : state.Within length) (rule : Occurrence P) {origin : Nat}
    (starts : origin ≤ length) {result : MatchResult} (inside : result.IsWithin length) :
    (replay grammar rule origin result state).2.Within length := by
  cases result with
  | success remembered =>
    obtain ⟨diagnostics, tried⟩ := inside
    have errors : ∀ diagnostic ∈ state.errors ++ remembered.diagnostics,
        diagnostic.span.IsWithin length := by
      intro diagnostic listed
      rcases List.mem_append.mp listed with earlier | later
      · exact within.errors diagnostic earlier
      · exact diagnostics diagnostic later
    have attempts := Attempts.position_retraceAll_le grammar state.negations tried within.attempts
    have journal := Attempt.allStartBy_append (Attempt.allStartBy_reverse tried) within.journal
    unfold replay
    simp only
    split
    · exact ⟨within.source, errors, attempts, journal, within.memory⟩
    · exact ⟨within.source, errors, attempts, journal, within.memory⟩
  | failure attempts =>
    have furthest := Attempts.position_retraceAll_le grammar state.negations inside within.attempts
    have journal := Attempt.allStartBy_append (Attempt.allStartBy_reverse inside) within.journal
    unfold replay
    refine recover_within ?_ rule starts
    exact ⟨within.source, within.errors, furthest, journal, within.memory⟩

variable [Procedures P]

/-- A rule is matched afresh in the source if its parts are matched there. -/
theorem matchAfresh_within (free : grammar.isProcedureFree = true)
    (called : ∀ id (state : State β), state.Within length → (call id state).2.Within length)
    (id : RuleId) (within : state.Within length) :
    (matchAfresh grammar call id state).2.Within length := by
  have opened : (openRule (grammar.rule id) state).Within length :=
    ⟨within.source, within.errors, within.attempts, rfl, within.memory⟩
  have evaluated := (State.Within.conduct β length).repeatTest (fun part _ => called part)
    (grammar.testOf_isNoProcedure free id) _ opened
  unfold matchAfresh
  simp only
  generalize repeatTest grammar call (grammar.rule id) (openRule (grammar.rule id) state) = result
    at evaluated
  match result, evaluated with
  | (.matched, ended), tested => exact endMatched_within within tested id
  | (.failed .mismatch, ended), tested =>
    exact recover_within (endMismatched_within within tested id) _ within.position_le
  | (.failed .callLimit, ended), tested => exact endStopped_within within tested
  | (.failed .divergence, ended), tested => exact endStopped_within within tested

/-- Matching a rule to a depth keeps everything in the source, however it ends. -/
theorem descend_within (free : grammar.isProcedureFree = true) (depth : Nat) (id : RuleId)
    (within : state.Within length) : (descend grammar depth id state).2.Within length := by
  induction depth generalizing id state with
  | zero => exact within
  | succ depth ih =>
    unfold descend
    rcases callRule_cases grammar (descend grammar depth) id state with
      ⟨-, limited⟩ |
      ⟨called, alike, memory, ⟨result, ⟨slot, stored, -, listed⟩, hit⟩ | ⟨-, -, miss⟩⟩
    · rw [limited]
      exact within
    · have looked : called.Within length := within.of_alike alike (memory ▸ within.memory)
      rw [hit]
      exact replay_within looked _ within.position_le (within.memory slot stored _ listed)
    · have looked : called.Within length := within.of_alike alike (memory ▸ within.memory)
      rw [miss]
      exact matchAfresh_within free (fun id state => ih id) id looked

/-- A pass keeps everything in the source, however it ends. -/
theorem pass_within (free : grammar.isProcedureFree = true) (within : state.Within length) :
    (pass grammar state).2.Within length :=
  descend_within free _ _ ⟨within.source, within.errors, Nat.zero_le _, rfl, within.memory⟩

end Matching

/-- At the start of a source nothing is noted about positions. -/
theorem State.within_initial {β : Type} (source : Source) (config : Config) (builder : β) :
    (State.initial source config builder).Within source.length := by
  refine ⟨rfl, nofun, Nat.zero_le _, rfl, fun slot member => ?_⟩
  rw [State.memory_initial] at member
  contradiction

end Packrat
