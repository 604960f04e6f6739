import Packrat.Engine.Matching
import Packrat.Proofs.Ledger
import Packrat.Proofs.Scanning

/-!
# Verdicts

The verdict on a rule at a cursor is what matching the rule there comes to, told without the state
around: the match result that a cache would hold. It is computed from the verdicts on the rule's
parts (`Oracle.step`), so the verdicts that need at most a given depth of calls are the iterates of
one step (`verdict`). A deeper verdict never takes back a shallower one (`verdict_refines`), and
every verdict leads forward in the source (`verdict_forward`).
-/

namespace Packrat

variable {P : Type}

/-! ## Replies -/

/-- What a matched or failed rule does to the rule around it. -/
structure Reply where
  /-- Whether the rule around goes on. -/
  matched : Bool
  /-- Where the cursor stands afterwards. -/
  stop : Nat
  /-- The nodes left for the rule around. -/
  nodes : List Node
  /-- The diagnostics recorded. -/
  diagnostics : List Diagnostic
  /-- What becomes of the trimming mark of the rule around. -/
  change : Mark → Mark
  /-- The attempts made. -/
  attempts : List Attempt

/-- The node that a pinned rule leaves where it failed. -/
def errorNode (grammar : Grammar P) (rule : Occurrence P) (origin : Nat) : Node :=
  .leaf .error (.point origin)
    (rule.annotations.insert .error (.text (recoveryMessage grammar rule)))

/-- The reply of a rule that ended with a result at a position: a pinned rule that failed counts as
matched. -/
def MatchResult.reply (grammar : Grammar P) (rule : Occurrence P)
    (origin : Nat) : MatchResult → Reply
  | .success remembered =>
    { matched := true
      stop := remembered.stop
      nodes := remembered.nodes
      diagnostics := remembered.diagnostics
      change :=
        if rule.behaviour.lookahead then id
        else reportTo grammar rule origin remembered.stop remembered.content
      attempts := remembered.attempts }
  | .failure attempts =>
    { matched := rule.annotations.pinned
      stop := origin
      nodes := if rule.annotations.pinned then [errorNode grammar rule origin] else []
      diagnostics :=
        if rule.annotations.pinned then [⟨.point origin, recoveryMessage grammar rule⟩] else []
      change := if rule.annotations.pinned then Mark.consumed else id
      attempts := attempts }

/-! ## Trials -/

/-- What the evaluation of a rule's test has come to, apart from everything around the rule. -/
structure Progress where
  /-- The cursor. -/
  scanner : Scanner
  /-- The nodes collected. -/
  nodes : List Node
  /-- The diagnostics recorded. -/
  diagnostics : List Diagnostic
  /-- The trimming mark of the rule. -/
  mark : Mark
  /-- The attempts made, the last one first. -/
  journal : List Attempt

/-- How the evaluation of a test ends. -/
inductive Trial where
  /-- A part of the test has no verdict. -/
  | diverged
  /-- The test failed after some attempts, the last one first. -/
  | failed (journal : List Attempt)
  /-- The test matched. -/
  | matched (progress : Progress)

/-- The verdict on every rule at every cursor, as far as there is one. -/
abbrev Oracle := RuleId → Scanner → Option MatchResult

namespace Progress

/-- The progress of a rule that has just been entered. -/
def start (origin : Scanner) : Progress :=
  ⟨origin, [], [], .start origin.position, []⟩

/-- The progress after the reply of a part. -/
def take (progress : Progress) (reply : Reply) : Trial :=
  let journal := reply.attempts.reverse ++ progress.journal
  if reply.matched then
    .matched
      { scanner := progress.scanner.moveTo reply.stop
        nodes := progress.nodes ++ reply.nodes
        diagnostics := progress.diagnostics ++ reply.diagnostics
        mark := reply.change progress.mark
        journal := journal }
  else .failed journal

end Progress

namespace Trial

variable (grammar : Grammar P) (oracle : Oracle)

/-- Matches a part as the oracle says. -/
def call (id : RuleId) (progress : Progress) : Trial :=
  match oracle id progress.scanner with
  | some result =>
    progress.take (result.reply grammar (grammar.rule id) progress.scanner.position)
  | none => .diverged

/-- Matches parts one after the other, up to the first that fails. -/
def all : List RuleId → Progress → Trial
  | [], progress => .matched progress
  | id :: later, progress =>
    match call grammar oracle id progress with
    | .matched next => all later next
    | .failed journal => .failed journal
    | .diverged => .diverged

/-- Matches the first part that succeeds. -/
def first : List RuleId → Progress → Trial
  | [], progress => .failed progress.journal
  | id :: later, progress =>
    match call grammar oracle id progress with
    | .matched next => .matched next
    | .failed journal => first later { progress with journal }
    | .diverged => .diverged

/-- Evaluates a test once. Procedures have no verdict. -/
def test : Test P → Progress → Trial
  | .terminal terminal, progress =>
    match terminal.scan progress.scanner with
    | some scanner => .matched { progress with scanner }
    | none => .failed progress.journal
  | .reference target, progress => call grammar oracle target progress
  | .group inner, progress => call grammar oracle inner progress
  | .procedure _, _ => .diverged
  | .sequence parts, progress => all grammar oracle parts progress
  | .choice parts, progress => first grammar oracle parts progress

/-- Evaluates a test to see it fail, and takes one character where it did, unless the rule only
looks ahead. -/
def refute (rule : Occurrence P) (progress : Progress) : Trial :=
  match test grammar oracle (grammar.testOf rule) { progress with journal := [] } with
  | .matched tested => .failed (.negation tested.journal.reverse :: progress.journal)
  | .failed journal =>
    let back := { progress with journal := .negation journal.reverse :: progress.journal }
    if rule.behaviour.lookahead then .matched back
    else
      match progress.scanner.consume with
      | some (_, scanner) => .matched { back with scanner }
      | none => .failed back.journal
  | .diverged => .diverged

/-- Evaluates the test of a rule once, the way the rule asks for. -/
def once (rule : Occurrence P) (progress : Progress) : Trial :=
  if rule.behaviour.negate then refute grammar oracle rule progress
  else test grammar oracle (grammar.testOf rule) progress

/-- How repetition ends after a number of successes. -/
def settle (rule : Occurrence P) (count : Nat) (progress : Progress) : Trial :=
  if rule.behaviour.cardinality.accepts count then .matched progress
  else .failed progress.journal

/-- Evaluates the test of a rule again and again after `count` successes, at most `budget` more
times. -/
def rounds (rule : Occurrence P) : (budget count : Nat) → Progress → Trial
  | 0, count, progress =>
    match rule.behaviour.cardinality.maximum with
    | some _ => settle rule count progress
    | none => .diverged
  | budget + 1, count, progress =>
    match once grammar oracle rule progress with
    | .matched next =>
      if next.scanner.position = progress.scanner.position then settle rule (count + 1) next
      else rounds rule budget (count + 1) next
    | .failed journal => settle rule count { progress with journal }
    | .diverged => .diverged

/-- Evaluates the test of a rule as often as its cardinality asks. -/
def repeated (rule : Occurrence P) (progress : Progress) : Trial :=
  rounds grammar oracle rule
    (rule.behaviour.cardinality.maximum.getD (progress.scanner.source.length + 2)) 0 progress

/-- What is remembered of a rule whose test matched. -/
def remembered (id : RuleId) (origin : Nat) (ended : Progress) : RememberedMatch :=
  let rule := grammar.rule id
  let stop := ended.scanner.position
  { stop := if rule.behaviour.lookahead then origin else stop
    content := ended.mark.summary stop
    nodes :=
      if rule.behaviour.lookahead then []
      else (production rule (ended.mark.content stop)).leaves ended.nodes
    diagnostics := ended.diagnostics
    attempts := [.rule id origin true ended.journal.reverse] }

/-- The result of a rule whose test came to an end. -/
def conclude (id : RuleId) (origin : Nat) : Trial → Option MatchResult
  | .matched ended => some (.success (remembered grammar id origin ended))
  | .failed journal => some (.failure [.rule id origin false journal.reverse])
  | .diverged => none

end Trial

/-- The verdicts that follow from the verdicts on parts. -/
def Oracle.step (grammar : Grammar P) (oracle : Oracle) : Oracle := fun id origin =>
  Trial.conclude grammar id origin.position
    (Trial.repeated grammar oracle (grammar.rule id) (.start origin))

/-- The verdicts that need rules to call each other at most to a given depth. -/
def verdict (grammar : Grammar P) : Nat → Oracle
  | 0 => fun _ _ => none
  | depth + 1 => Oracle.step grammar (verdict grammar depth)

/-! ## What trials keep -/

/-- A condition on progress that noting attempts and matching a part keep. -/
structure Trial.KeepsParts (grammar : Grammar P) (oracle : Oracle) (condition : Progress → Prop) :
    Prop where
  /-- Noting attempts keeps the condition. -/
  journal : ∀ progress journal, condition progress → condition { progress with journal }
  /-- Matching a part keeps the condition. -/
  call : ∀ id progress next, condition progress →
    Trial.call grammar oracle id progress = .matched next → condition next

/-- A condition on progress that every step of a trial keeps: noting attempts, moving the cursor
forward, and matching a part. -/
structure Trial.Keeps (grammar : Grammar P) (oracle : Oracle) (condition : Progress → Prop) : Prop
    extends Trial.KeepsParts grammar oracle condition where
  /-- Moving the cursor forward keeps the condition. -/
  scanner : ∀ progress scanner, progress.scanner.Reaches scanner → condition progress →
    condition { progress with scanner }

namespace Trial

variable {grammar : Grammar P} {oracle : Oracle} {condition : Progress → Prop}
  {progress next : Progress}

/-- Parts that match in order keep the condition. -/
theorem KeepsParts.all (keeps : KeepsParts grammar oracle condition) {parts : List RuleId}
    (held : condition progress) (matched : all grammar oracle parts progress = .matched next) :
    condition next := by
  induction parts generalizing progress with
  | nil =>
    obtain rfl := Trial.matched.inj matched
    exact held
  | cons id later ih =>
    unfold Trial.all at matched
    split at matched
    · rename_i middle called
      exact ih (keeps.call id progress middle held called) matched
    · contradiction
    · contradiction

/-- The first part that matches keeps the condition. -/
theorem KeepsParts.first (keeps : KeepsParts grammar oracle condition) {parts : List RuleId}
    (held : condition progress) (matched : first grammar oracle parts progress = .matched next) :
    condition next := by
  induction parts generalizing progress with
  | nil => contradiction
  | cons id later ih =>
    unfold Trial.first at matched
    split at matched
    · rename_i middle called
      obtain rfl := Trial.matched.inj matched
      exact keeps.call id progress middle held called
    · exact ih (keeps.journal progress _ held) matched
    · contradiction

/-- A test that matches through other rules keeps the condition. -/
theorem KeepsParts.test (keeps : KeepsParts grammar oracle condition) {subject : Test P}
    (through : Grammar.throughRules subject = true) (held : condition progress)
    (matched : test grammar oracle subject progress = .matched next) : condition next := by
  cases subject with
  | terminal terminal => contradiction
  | reference target => exact keeps.call target progress next held matched
  | group inner => exact keeps.call inner progress next held matched
  | procedure steps => contradiction
  | sequence parts => exact keeps.all held matched
  | choice parts => exact keeps.first held matched

/-- A test that matches keeps the condition. -/
theorem Keeps.test (keeps : Keeps grammar oracle condition) {subject : Test P}
    (held : condition progress) (matched : test grammar oracle subject progress = .matched next) :
    condition next := by
  cases subject with
  | terminal terminal =>
    simp only [Trial.test] at matched
    split at matched
    · rename_i scanner found
      obtain rfl := Trial.matched.inj matched
      exact keeps.scanner progress scanner (Terminal.scan_reaches found) held
    · contradiction
  | procedure steps => contradiction
  | _ => exact keeps.toKeepsParts.test rfl held matched

/-- An iteration that succeeds keeps the condition. -/
theorem Keeps.once (keeps : Keeps grammar oracle condition) {rule : Occurrence P}
    (held : condition progress) (matched : once grammar oracle rule progress = .matched next) :
    condition next := by
  unfold Trial.once at matched
  split at matched
  · unfold refute at matched
    split at matched
    · contradiction
    · simp only at matched
      split at matched
      · obtain rfl := Trial.matched.inj matched
        exact keeps.journal progress _ held
      · split at matched
        · rename_i c scanner found
          obtain rfl := Trial.matched.inj matched
          have moved := keeps.scanner progress scanner (Scanner.consume_reaches found) held
          exact keeps.journal _ _ moved
        · contradiction
    · contradiction
  · exact keeps.test held matched

/-- Repetition that ends well has kept what there was before it. -/
theorem eq_of_settle {rule : Occurrence P} {count : Nat}
    (matched : settle rule count progress = .matched next) : next = progress := by
  unfold settle at matched
  split at matched
  · exact (Trial.matched.inj matched).symm
  · contradiction

/-- Repetition that succeeds keeps a condition that noting attempts and every iteration keep. -/
theorem rounds_keeps {rule : Occurrence P} {budget count : Nat}
    (journal : ∀ progress journal, condition progress → condition { progress with journal })
    (iteration : ∀ progress next, condition progress →
      once grammar oracle rule progress = .matched next → condition next)
    (held : condition progress)
    (matched : rounds grammar oracle rule budget count progress = .matched next) :
    condition next := by
  induction budget generalizing count progress with
  | zero =>
    unfold Trial.rounds at matched
    split at matched
    · exact eq_of_settle matched ▸ held
    · contradiction
  | succ budget ih =>
    unfold Trial.rounds at matched
    split at matched
    · rename_i middle iterated
      have kept := iteration progress middle held iterated
      split at matched
      · exact eq_of_settle matched ▸ kept
      · exact ih kept matched
    · exact eq_of_settle matched ▸ journal progress _ held
    · contradiction

/-- Repetition that succeeds keeps the condition. -/
theorem Keeps.rounds (keeps : Keeps grammar oracle condition) {rule : Occurrence P}
    {budget count : Nat} (held : condition progress)
    (matched : rounds grammar oracle rule budget count progress = .matched next) :
    condition next :=
  rounds_keeps keeps.journal (fun _ _ kept iterated => keeps.once kept iterated) held matched

/-- Repetition of a test that matches through other rules keeps the condition. -/
theorem KeepsParts.rounds (keeps : KeepsParts grammar oracle condition) {rule : Occurrence P}
    {budget count : Nat} (plain : rule.behaviour.negate = false)
    (through : Grammar.throughRules (grammar.testOf rule) = true) (held : condition progress)
    (matched : rounds grammar oracle rule budget count progress = .matched next) :
    condition next := by
  refine rounds_keeps keeps.journal (fun progress next kept iterated => ?_) held matched
  have tested : Trial.test grammar oracle (grammar.testOf rule) progress = .matched next := by
    rw [← iterated, Trial.once, plain]
    rfl
  exact keeps.test through kept tested

end Trial

/-- Taking a reply that matched moves the cursor to where the reply stops and keeps the rest of the
progress up to what the reply adds. -/
theorem Progress.eq_of_take {progress next : Progress} {reply : Reply}
    (matched : progress.take reply = .matched next) :
    reply.matched = true ∧ next =
      { scanner := progress.scanner.moveTo reply.stop
        nodes := progress.nodes ++ reply.nodes
        diagnostics := progress.diagnostics ++ reply.diagnostics
        mark := reply.change progress.mark
        journal := reply.attempts.reverse ++ progress.journal } := by
  unfold take at matched
  simp only at matched
  split at matched
  · rename_i accepted
    exact ⟨accepted, (Trial.matched.inj matched).symm⟩
  · contradiction

/-- A part that matched has a verdict, whose reply was taken. -/
theorem Trial.exists_of_call {grammar : Grammar P} {oracle : Oracle} {id : RuleId}
    {progress next : Progress} (matched : call grammar oracle id progress = .matched next) :
    ∃ result, oracle id progress.scanner = some result ∧
      progress.take (result.reply grammar (grammar.rule id) progress.scanner.position) =
        .matched next := by
  unfold call at matched
  split at matched
  · rename_i result known
    exact ⟨result, known, matched⟩
  · contradiction

/-- Trials stay in the source they started in. -/
theorem Trial.keeps_source (grammar : Grammar P) (oracle : Oracle) (source : Source) :
    Keeps grammar oracle fun progress => progress.scanner.source = source where
  journal progress journal inSource := inSource
  scanner progress scanner reached inSource := reached.source.trans inSource
  call id progress next inSource matched := by
    obtain ⟨result, _, taken⟩ := exists_of_call matched
    obtain ⟨_, rfl⟩ := Progress.eq_of_take taken
    exact inSource

/-! ## Deeper verdicts -/

/-- The second oracle knows every verdict of the first on a source. -/
def Oracle.Refines (source : Source) (weak strong : Oracle) : Prop :=
  ∀ id scanner result, scanner.source = source → weak id scanner = some result →
    strong id scanner = some result

/-- The first trial is the second, or has no end. -/
def Trial.Refines (weak strong : Trial) : Prop :=
  weak = .diverged ∨ weak = strong

namespace Trial

variable (grammar : Grammar P) {source : Source} {weak strong : Oracle} {progress : Progress}

/-- Matching a part ends the same way under an oracle that knows more. -/
theorem call_refines (refines : weak.Refines source strong) (id : RuleId)
    (inSource : progress.scanner.source = source) :
    (call grammar weak id progress).Refines (call grammar strong id progress) := by
  unfold call
  cases known : weak id progress.scanner with
  | none => exact .inl rfl
  | some result =>
    rw [refines id progress.scanner result inSource known]
    exact .inr rfl

/-- Matching parts in order ends the same way under an oracle that knows more. -/
theorem all_refines (refines : weak.Refines source strong) (parts : List RuleId)
    (inSource : progress.scanner.source = source) :
    (all grammar weak parts progress).Refines (all grammar strong parts progress) := by
  induction parts generalizing progress with
  | nil => exact .inr rfl
  | cons id later ih =>
    unfold all
    rcases call_refines grammar refines id inSource with diverged | same
    · rw [diverged]
      exact .inl rfl
    · rw [same]
      cases called : call grammar strong id progress with
      | matched next => exact ih ((keeps_source grammar strong source).call id _ _ inSource called)
      | failed journal => exact .inr rfl
      | diverged => exact .inl rfl

/-- Matching the first part that succeeds ends the same way under an oracle that knows more. -/
theorem first_refines (refines : weak.Refines source strong) (parts : List RuleId)
    (inSource : progress.scanner.source = source) :
    (first grammar weak parts progress).Refines (first grammar strong parts progress) := by
  induction parts generalizing progress with
  | nil => exact .inr rfl
  | cons id later ih =>
    unfold first
    rcases call_refines grammar refines id inSource with diverged | same
    · rw [diverged]
      exact .inl rfl
    · rw [same]
      cases call grammar strong id progress with
      | matched next => exact .inr rfl
      | failed journal => exact ih inSource
      | diverged => exact .inl rfl

/-- A test ends the same way under an oracle that knows more. -/
theorem test_refines (refines : weak.Refines source strong) (subject : Test P)
    (progress : Progress) (inSource : progress.scanner.source = source) :
    (test grammar weak subject progress).Refines (test grammar strong subject progress) := by
  cases subject with
  | terminal terminal => exact .inr rfl
  | reference target => exact call_refines grammar refines target inSource
  | group inner => exact call_refines grammar refines inner inSource
  | procedure steps => exact .inl rfl
  | sequence parts => exact all_refines grammar refines parts inSource
  | choice parts => exact first_refines grammar refines parts inSource

/-- An iteration ends the same way under an oracle that knows more. -/
theorem once_refines (refines : weak.Refines source strong) (rule : Occurrence P)
    (inSource : progress.scanner.source = source) :
    (once grammar weak rule progress).Refines (once grammar strong rule progress) := by
  unfold once
  split
  · unfold refute
    rcases test_refines grammar refines (grammar.testOf rule) { progress with journal := [] }
      inSource with diverged | same
    · rw [diverged]
      exact .inl rfl
    · rw [same]
      exact .inr rfl
  · exact test_refines grammar refines _ progress inSource

/-- Repetition ends the same way under an oracle that knows more. -/
theorem rounds_refines (refines : weak.Refines source strong) (rule : Occurrence P)
    (budget count : Nat) (progress : Progress) (inSource : progress.scanner.source = source) :
    (rounds grammar weak rule budget count progress).Refines
      (rounds grammar strong rule budget count progress) := by
  induction budget generalizing count progress with
  | zero => exact .inr rfl
  | succ budget ih =>
    unfold rounds
    rcases once_refines grammar refines rule inSource with diverged | same
    · rw [diverged]
      exact .inl rfl
    · rw [same]
      cases iterated : once grammar strong rule progress with
      | matched next =>
        simp only
        split
        · exact .inr rfl
        · exact ih _ next ((keeps_source grammar strong source).once inSource iterated)
      | failed journal => exact .inr rfl
      | diverged => exact .inl rfl

end Trial

/-- What follows from the verdicts on parts follows from more verdicts. -/
theorem Oracle.step_refines (grammar : Grammar P) {source : Source} {weak strong : Oracle}
    (refines : weak.Refines source strong) :
    (weak.step grammar).Refines source (strong.step grammar) := by
  intro id origin result inSource known
  unfold Oracle.step Trial.repeated at known ⊢
  rcases Trial.rounds_refines grammar refines (grammar.rule id) _ 0 (.start origin) inSource
    with diverged | same
  · rw [diverged] at known
    contradiction
  · rwa [same] at known

/-- A deeper verdict never takes back a shallower one. -/
theorem verdict_refines (grammar : Grammar P) (source : Source) {shallow deep : Nat}
    (deeper : shallow ≤ deep) :
    (verdict grammar shallow).Refines source (verdict grammar deep) := by
  induction shallow generalizing deep with
  | zero => exact fun id scanner result inSource known => by contradiction
  | succ shallow ih =>
    obtain ⟨before, rfl⟩ : ∃ before, deep = before + 1 := ⟨deep - 1, by omega⟩
    exact Oracle.step_refines grammar (ih (by omega))

/-! ## Verdicts lead forward -/

/-- Every match of an oracle ends at or behind the cursor and inside the source. -/
def Oracle.Forward (oracle : Oracle) : Prop :=
  ∀ id scanner remembered, oracle id scanner = some (.success remembered) →
    scanner.position ≤ remembered.stop ∧ remembered.stop ≤ scanner.source.length

/-- A reply under an oracle that leads forward stops at or behind the cursor and inside the
source. -/
theorem Oracle.Forward.reply (grammar : Grammar P) {oracle : Oracle} (forward : oracle.Forward)
    {id : RuleId} {scanner : Scanner} {result : MatchResult}
    (known : oracle id scanner = some result) :
    scanner.position ≤ (result.reply grammar (grammar.rule id) scanner.position).stop ∧
      (result.reply grammar (grammar.rule id) scanner.position).stop ≤ scanner.source.length := by
  cases result with
  | success remembered => exact forward id scanner remembered known
  | failure attempts => exact ⟨Nat.le_refl _, scanner.inside⟩

/-- Trials under an oracle that leads forward lead forward. -/
theorem Trial.keeps_reaches {grammar : Grammar P} {oracle : Oracle} (forward : oracle.Forward)
    (origin : Scanner) : Keeps grammar oracle fun progress => origin.Reaches progress.scanner where
  journal progress journal reached := reached
  scanner progress scanner moved reached := reached.trans moved
  call id progress next reached matched := by
    obtain ⟨result, known, taken⟩ := exists_of_call matched
    obtain ⟨_, rfl⟩ := Progress.eq_of_take taken
    obtain ⟨behind, inside⟩ := forward.reply grammar known
    refine ⟨reached.source, ?_⟩
    rw [Scanner.position_moveTo inside]
    exact Nat.le_trans reached.forward behind

/-- If the verdicts on parts lead forward, so do those that follow from them. -/
theorem Oracle.Forward.step {grammar : Grammar P} {oracle : Oracle} (forward : oracle.Forward) :
    (oracle.step grammar).Forward := by
  intro id origin remembered known
  unfold Oracle.step Trial.conclude at known
  split at known
  · rename_i ended repeated
    have reached := (Trial.keeps_reaches forward origin).rounds (.refl origin) repeated
    obtain rfl := MatchResult.success.inj (Option.some.inj known)
    simp only [Trial.remembered]
    split
    · exact ⟨Nat.le_refl _, origin.inside⟩
    · exact ⟨reached.forward, reached.source ▸ ended.scanner.inside⟩
  · simp at known
  · contradiction

/-- Verdicts lead forward. -/
theorem verdict_forward (grammar : Grammar P) (depth : Nat) : (verdict grammar depth).Forward := by
  induction depth with
  | zero => exact fun id scanner remembered known => by contradiction
  | succ depth ih => exact ih.step

/-! ## Repetition comes to an end -/

/-- Without an upper bound, repetition under an oracle that leads forward ends before its budget
does, if the budget exceeds the number of characters left: every round but the last takes one. -/
theorem Trial.rounds_budget {grammar : Grammar P} {oracle : Oracle} (forward : oracle.Forward)
    {rule : Occurrence P} {budget other count : Nat} {progress : Progress}
    (enough : progress.scanner.source.length - progress.scanner.position < budget)
    (otherEnough : progress.scanner.source.length - progress.scanner.position < other) :
    rounds grammar oracle rule budget count progress =
      rounds grammar oracle rule other count progress := by
  induction budget generalizing other count progress with
  | zero => omega
  | succ budget ih =>
    obtain ⟨spare, rfl⟩ : ∃ spare, other = spare + 1 := ⟨other - 1, by omega⟩
    unfold rounds
    cases iterated : once grammar oracle rule progress with
    | diverged => rfl
    | failed journal => rfl
    | matched next =>
      have reached := (keeps_reaches forward progress.scanner).once (.refl _) iterated
      simp only
      split
      · rfl
      · rename_i moved
        have ahead := reached.forward
        have inside := next.scanner.inside
        rw [reached.source] at inside
        exact ih (by rw [reached.source]; omega) (by rw [reached.source]; omega)

/-- A rule that is matched once and not negated is evaluated by evaluating its test. -/
theorem Trial.repeated_once {grammar : Grammar P} {oracle : Oracle} {rule : Occurrence P}
    (plain : rule.behaviour.negate = false) (single : rule.behaviour.cardinality = .one)
    (progress : Progress) :
    repeated grammar oracle rule progress =
      test grammar oracle (grammar.testOf rule) progress := by
  have iterated : once grammar oracle rule progress =
      test grammar oracle (grammar.testOf rule) progress := by
    unfold once
    rw [plain]
    rfl
  have settled : ∀ next, settle rule 1 next = .matched next := by
    intro next
    unfold settle
    rw [single]
    rfl
  have bounded : rule.behaviour.cardinality.maximum = some 1 := by
    rw [single]
    rfl
  unfold repeated
  rw [bounded]
  simp only [Option.getD_some, rounds, iterated, bounded]
  cases test grammar oracle (grammar.testOf rule) progress with
  | diverged => rfl
  | failed journal =>
    unfold settle
    rw [single]
    rfl
  | matched next => simp only [settled, ite_self]

end Packrat
