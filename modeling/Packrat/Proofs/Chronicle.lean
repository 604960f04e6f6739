import Packrat.Proofs.Backtracking
import Packrat.Proofs.BuilderView

/-!
# Chronicles

A chronicle says how a builder changes while a journal of attempts is written: which change goes
with a rule that matched, with a rule that failed, with a negation, in terms of the change that goes
with the attempts inside. Its laws know the rule that is tried, so a chronicle can tell rules apart
that leave the same production. What the laws say of single attempts holds of every run
(`descend_recording`): whatever attempts a run of a procedure-free grammar adds to the journal, the
builder changes as the chronicle says.

The builder must not tell what a rule contributed. Then the cache remembers only failures
(`State.RecallsFailures`), and a failure that is recalled changes the builder as if the rule had
failed again at once.
-/

namespace Packrat

variable {P β : Type}

/-- The cache remembers only failures, each with the attempt that failed. -/
def State.RecallsFailures (state : State β) : Prop :=
  ∀ slot ∈ state.memory, ∀ entry ∈ slot.entries,
    ∃ inside, entry.2 = .failure [.rule entry.1 slot.position false inside]

/-- Remembering a failure keeps the cache to failures. -/
theorem State.RecallsFailures.remember {state : State β} (recalls : state.RecallsFailures)
    (id : RuleId) (origin : Nat) (inside : List Attempt) :
    (state.remember id origin (.failure [.rule id origin false inside])).RecallsFailures := by
  intro slot stored entry listed
  rcases State.mem_memory_remember stored listed with ⟨here, rfl⟩ | ⟨old, kept, same, older⟩
  · exact ⟨inside, by rw [here]⟩
  · exact same ▸ recalls old kept entry older

variable [Builder β]

/-- What a match of a rule leaves for the rule around it, nothing if the rule only looks ahead. -/
def leaving (rule : Occurrence P) (span : Span) : Production :=
  if rule.behaviour.lookahead then .discarded else production rule span

/-- What a builder is told of a rule that failed: that it did, and of an error node in its place if
the rule is pinned. -/
def giveUp (grammar : Grammar P) (rule : Occurrence P) (origin : Nat) (builder : β) : β :=
  if rule.annotations.pinned then
    Builder.produced
      (.node .error (rule.annotations.insert .error (.text (recoveryMessage grammar rule)))
        (.point origin))
      (Builder.opened (some .error) (Builder.failed builder))
  else Builder.failed builder

/-- How a builder changes while attempts are made, with one law for every kind of attempt. -/
structure Chronicle (β : Type) [Builder β] (grammar : Grammar P) where
  /-- While some attempts are made the builder changes from one to another. -/
  Spans : β → List Attempt → β → Prop
  /-- No attempts change nothing. -/
  nothing : ∀ builder, Spans builder [] builder
  /-- Attempts made one after the other change the builder in order. -/
  append : ∀ {first second third earlier later},
    Spans first earlier second → Spans second later third → Spans first (earlier ++ later) third
  /-- A rule that matched is told after the attempts inside it. -/
  matched : ∀ {before after inside} (id : RuleId) (origin : Nat) (span : Span),
    Spans (Builder.opened (grammar.rule id).token before) inside after →
      Spans before [.rule id origin true inside]
        (Builder.produced (leaving (grammar.rule id) span) after)
  /-- A rule that failed is told after the attempts inside it. -/
  failed : ∀ {before after inside} (id : RuleId) (origin : Nat),
    Spans (Builder.opened (grammar.rule id).token before) inside after →
      Spans before [.rule id origin false inside] (giveUp grammar (grammar.rule id) origin after)
  /-- A failure that is recalled is told at once. -/
  recalled : ∀ (before : β) (id : RuleId) (origin : Nat) (inside : List Attempt),
    Spans before [.rule id origin false inside]
      (giveUp grammar (grammar.rule id) origin
        (Builder.opened (grammar.rule id).token before))
  /-- Whatever was collected while attempts were made may be given back. -/
  cutBack : ∀ {before after attempts}, Spans before attempts after →
    Spans before attempts (Builder.cutBack (Builder.collected before) after)
  /-- Whatever was collected while attempts were made to see them fail is given back. -/
  negation : ∀ {before after inside}, Spans before inside after →
    Spans before [.negation inside] (Builder.cutBack (Builder.collected before) after)

/-- A state that comes after another, the journal and the builder having changed alike. -/
structure Recorded {grammar : Grammar P} (chronicle : Chronicle β grammar)
    (before after : State β) :
    Prop where
  /-- Attempts were added to the journal, and the builder changed as they say. -/
  spans : ∃ attempts, after.journal = attempts.reverse ++ before.journal ∧
    chronicle.Spans before.builder attempts after.builder
  /-- The cache remembers only failures. -/
  recalls : after.RecallsFailures

/-- A result that is recorded, unless everything had to stop. -/
inductive Records {grammar : Grammar P} (chronicle : Chronicle β grammar) (before : State β) :
    Outcome × State β → Prop
  /-- The evaluation succeeded, and its attempts are recorded. -/
  | matched {after : State β} (recorded : Recorded chronicle before after) :
      Records chronicle before (.matched, after)
  /-- The evaluation failed, and its attempts are recorded. -/
  | mismatched {after : State β} (recorded : Recorded chronicle before after) :
      Records chronicle before (.failed .mismatch, after)
  /-- Everything stopped at the call limit. -/
  | limited {after : State β} : Records chronicle before (.failed .callLimit, after)
  /-- Everything stopped because rules called each other too deeply. -/
  | diverged {after : State β} : Records chronicle before (.failed .divergence, after)

/-- An evaluation that is recorded from every state whose cache remembers only failures. -/
def Recording {grammar : Grammar P} (chronicle : Chronicle β grammar) (action : Action β) : Prop :=
  ∀ state : State β, state.RecallsFailures → Records chronicle state (action state)

section Tests

variable {grammar : Grammar P} {chronicle : Chronicle β grammar} {first second third : State β}
  {call : RuleId → Action β}

/-- Nothing happens and nothing is recorded. -/
theorem Recorded.refl (recalls : first.RecallsFailures) : Recorded chronicle first first :=
  ⟨⟨[], rfl, chronicle.nothing _⟩, recalls⟩

/-- What happens one after the other is recorded in order. -/
theorem Recorded.trans (earlier : Recorded chronicle first second)
    (later : Recorded chronicle second third) : Recorded chronicle first third := by
  obtain ⟨start, startJournal, startSpans⟩ := earlier.spans
  obtain ⟨rest, restJournal, restSpans⟩ := later.spans
  refine ⟨⟨start ++ rest, ?_, chronicle.append startSpans restSpans⟩, later.recalls⟩
  rw [restJournal, startJournal, List.reverse_append, List.append_assoc]

/-- What is recorded from a later state is recorded from an earlier one. -/
theorem Recorded.records {result : Outcome × State β} (earlier : Recorded chronicle first second)
    (later : Records chronicle second result) : Records chronicle first result := by
  cases later with
  | matched recorded => exact .matched (earlier.trans recorded)
  | mismatched recorded => exact .mismatched (earlier.trans recorded)
  | limited => exact .limited
  | diverged => exact .diverged

/-- A scan makes no attempt. -/
theorem scanWith_recording (scan : Scanner → Option Scanner) :
    Recording chronicle (scanWith scan) := by
  intro state recalls
  unfold scanWith
  split
  · exact .matched ⟨⟨[], rfl, chronicle.nothing _⟩, recalls⟩
  · exact .mismatched (.refl recalls)

/-- Taking characters makes no attempt. -/
theorem consumeMany_recording (count : Nat) : Recording chronicle (consumeMany count) := by
  induction count with
  | zero => exact fun state recalls => .matched (.refl recalls)
  | succ count ih =>
    intro state recalls
    unfold consumeMany
    split
    · rename_i scanner _
      have moved : Recorded chronicle state { state with scanner } :=
        ⟨⟨[], rfl, chronicle.nothing _⟩, recalls⟩
      exact moved.records (ih _ recalls)
    · exact .mismatched (.refl recalls)

/-- Rules matched one after the other are recorded in order. -/
theorem matchAll_recording (calls : ∀ id, Recording chronicle (call id)) (parts : List RuleId) :
    Recording chronicle (matchAll call parts) := by
  induction parts with
  | nil => exact fun state recalls => .matched (.refl recalls)
  | cons id later ih =>
    intro state recalls
    have called := calls id state recalls
    unfold matchAll
    generalize call id state = result at called
    cases called with
    | matched recorded => exact recorded.records (ih _ recorded.recalls)
    | mismatched recorded => exact .mismatched recorded
    | limited => exact .limited
    | diverged => exact .diverged

/-- Rules tried one after the other are recorded in order. -/
theorem matchFirst_recording (calls : ∀ id, Recording chronicle (call id)) (parts : List RuleId) :
    Recording chronicle (matchFirst call parts) := by
  induction parts with
  | nil => exact fun state recalls => .mismatched (.refl recalls)
  | cons id later ih =>
    intro state recalls
    have called := calls id state recalls
    unfold matchFirst
    generalize call id state = result at called
    cases called with
    | matched recorded => exact .matched recorded
    | mismatched recorded => exact recorded.records (ih _ recorded.recalls)
    | limited => exact .limited
    | diverged => exact .diverged

variable [Procedures P]

/-- A test that is no procedure is recorded if its parts are. -/
theorem runTest_recording (calls : ∀ id, Recording chronicle (call id)) {test : Test P}
    (noProcedure : test.isNoProcedure = true) :
    Recording chronicle (runTest grammar call test) := by
  cases test with
  | terminal terminal => exact scanWith_recording terminal.scan
  | reference target => exact calls target
  | group inner => exact calls inner
  | procedure steps => simp [Test.isNoProcedure] at noProcedure
  | sequence parts => exact matchAll_recording calls parts
  | choice parts => exact matchFirst_recording calls parts

end Tests

section Iterations

variable {grammar : Grammar P} {chronicle : Chronicle β grammar} {before after : State β}
  {call : RuleId → Action β} {rule : Occurrence P}

/-- Giving back what was collected keeps the record. -/
theorem Recorded.restore (recorded : Recorded chronicle before after) :
    Recorded chronicle before (after.restore before.checkpoint) := by
  obtain ⟨attempts, journal, spans⟩ := recorded.spans
  exact ⟨⟨attempts, journal, chronicle.cutBack spans⟩, recorded.recalls⟩

/-- Going back from a test that was to fail is recorded as a negation. -/
theorem Recorded.negation
    (recorded : Recorded chronicle
      { before with negations := before.negations + 1, journal := [] } after) :
    Recorded chronicle before
      { after.restore before.checkpoint with
        negations := before.negations
        journal := .negation after.journal.reverse :: before.journal } := by
  obtain ⟨inside, journal, spans⟩ := recorded.spans
  have negated : after.journal.reverse = inside := by
    rw [journal, List.append_nil, List.reverse_reverse]
  refine ⟨⟨[.negation inside], ?_, chronicle.negation spans⟩, recorded.recalls⟩
  rw [negated]
  rfl

variable [Procedures P]

/-- Seeing a test fail is recorded as a negation if the test is recorded. -/
theorem refute_recording
    (tests : Recording chronicle (runTest grammar call (grammar.testOf rule))) :
    Recording chronicle (refute grammar call rule) := by
  intro before recalls
  have tested := tests { before with negations := before.negations + 1, journal := [] } recalls
  unfold refute
  simp only
  generalize runTest grammar call (grammar.testOf rule)
    { before with negations := before.negations + 1, journal := [] } = result at tested
  cases tested with
  | matched recorded => exact .mismatched recorded.negation
  | mismatched recorded =>
    simp only
    split
    · exact .matched recorded.negation
    · exact recorded.negation.records (consumeMany_recording 1 _ recorded.negation.recalls)
  | limited => exact .limited
  | diverged => exact .diverged

/-- An iteration is recorded if the test is. -/
theorem iterate_recording
    (tests : Recording chronicle (runTest grammar call (grammar.testOf rule))) :
    Recording chronicle (iterate grammar call rule) := by
  unfold iterate
  split
  · exact refute_recording tests
  · exact tests

omit [Procedures P] in
/-- Counting successes makes no attempt. -/
theorem Recorded.settle (recorded : Recorded chronicle before after) (count : Nat) :
    Records chronicle before (settle rule count after) := by
  unfold Packrat.settle
  split
  · exact .matched recorded
  · exact .mismatched recorded

/-- Repetition is recorded if the test is. -/
theorem repeatFrom_recording
    (tests : Recording chronicle (runTest grammar call (grammar.testOf rule)))
    (budget count : Nat) : Recording chronicle (repeatFrom grammar call rule budget count) := by
  induction budget generalizing count with
  | zero =>
    intro before recalls
    unfold repeatFrom
    split
    · exact (Recorded.refl recalls).settle count
    · exact .diverged
  | succ budget ih =>
    intro before recalls
    have iterated := iterate_recording tests before recalls
    unfold repeatFrom
    generalize iterate grammar call rule before = result at iterated
    cases iterated with
    | matched recorded =>
      simp only
      split
      · exact recorded.settle (count + 1)
      · exact recorded.records (ih (count + 1) _ recorded.recalls)
    | mismatched recorded => exact recorded.restore.settle count
    | limited => exact .limited
    | diverged => exact .diverged

end Iterations

section Rules

variable {grammar : Grammar P} {chronicle : Chronicle β grammar} {entered ended : State β}
  {call : RuleId → Action β}

/-- Telling the rule around of a match tells the builder of it. -/
theorem builder_succeed (grammar : Grammar P) (rule : Occurrence P) (origin : Nat) (mark : Mark)
    (state : State β) :
    (succeed grammar rule origin mark state).builder =
      Builder.produced (leaving rule (mark.content state.position)) state.builder := by
  unfold succeed leaving
  split <;> rfl

/-- The attempts inside a rule are those of its own journal. -/
theorem Recorded.inside {id : RuleId}
    (inner : Recorded chronicle (openRule (grammar.rule id) entered) ended) :
    chronicle.Spans (Builder.opened (grammar.rule id).token entered.builder)
      ended.journal.reverse ended.builder := by
  obtain ⟨inside, journal, spans⟩ := inner.spans
  have own : ended.journal = inside.reverse := journal.trans (List.append_nil _)
  rw [own, List.reverse_reverse]
  exact spans

/-- The end of a rule that matched is recorded after the attempts inside it. -/
theorem endMatched_recorded (quiet : Discreet β) (id : RuleId)
    (inner : Recorded chronicle (openRule (grammar.rule id) entered) ended) :
    Recorded chronicle entered (endMatched grammar id entered ended) := by
  rw [endMatched_of_keepable (.inr quiet)]
  refine ⟨⟨[.rule id entered.position true ended.journal.reverse], rfl, ?_⟩, ?_⟩
  · change chronicle.Spans entered.builder _ (succeed _ _ _ _ _).builder
    rw [builder_succeed]
    exact chronicle.matched id _ _ inner.inside
  · intro slot stored
    refine inner.recalls slot ?_
    unfold State.memory at stored ⊢
    rwa [← cache_succeed grammar _ _ _ { ended with mark := entered.mark }]

/-- A rule that failed is recorded, whether or not it recovers. -/
theorem recover_records {id : RuleId} {inside : List Attempt} {state : State β} (last : β)
    (told : state.builder = Builder.failed last)
    (journal : state.journal = .rule id entered.position false inside :: entered.journal)
    (recalls : state.RecallsFailures)
    (spans : chronicle.Spans entered.builder [.rule id entered.position false inside]
      (giveUp grammar (grammar.rule id) entered.position last)) :
    Records chronicle entered (recover grammar (grammar.rule id) entered.position state) := by
  unfold recover
  unfold giveUp at spans
  split
  · rename_i pinned
    rw [if_pos pinned, ← told] at spans
    exact .matched ⟨⟨[.rule id entered.position false inside], journal, spans⟩, recalls⟩
  · rename_i unpinned
    rw [if_neg unpinned, ← told] at spans
    exact .mismatched ⟨⟨[.rule id entered.position false inside], journal, spans⟩, recalls⟩

/-- The end of a rule that did not match is recorded after the attempts inside it. -/
theorem endMismatched_records (id : RuleId)
    (inner : Recorded chronicle (openRule (grammar.rule id) entered) ended) :
    Records chronicle entered
      (recover grammar (grammar.rule id) entered.position
        (endMismatched grammar id entered ended)) := by
  refine recover_records ended.builder (State.remember_alike _ _ _ _).builder
    (State.remember_alike _ _ _ _).journal ?_ (chronicle.failed id _ inner.inside)
  refine State.RecallsFailures.remember ?_ _ _ _
  exact inner.recalls

/-- A failure that is recalled is recorded. -/
theorem replay_records {id : RuleId} (recalls : entered.RecallsFailures) (inside : List Attempt) :
    Records chronicle entered
      (replay grammar (grammar.rule id) entered.position
        (.failure [.rule id entered.position false inside]) entered) := by
  refine recover_records (Builder.opened (grammar.rule id).token entered.builder) rfl rfl
    recalls ?_
  exact chronicle.recalled _ _ _ _

variable [Procedures P]

/-- A rule that the cache knows nothing about is recorded if its parts are. -/
theorem matchAfresh_recording (quiet : Discreet β) (free : grammar.isProcedureFree = true)
    (calls : ∀ id, Recording chronicle (call id)) (id : RuleId) :
    Recording chronicle (matchAfresh grammar call id) := by
  intro entered recalls
  have repeated : Records chronicle (openRule (grammar.rule id) entered)
      (repeatTest grammar call (grammar.rule id) (openRule (grammar.rule id) entered)) :=
    repeatFrom_recording (runTest_recording calls (Grammar.testOf_isNoProcedure free id)) _ 0 _
      recalls
  unfold matchAfresh
  simp only
  generalize repeatTest grammar call (grammar.rule id) (openRule (grammar.rule id) entered) = result
    at repeated
  cases repeated with
  | matched inner => exact .matched (endMatched_recorded quiet id inner)
  | mismatched inner => exact endMismatched_records id inner
  | limited => exact .limited
  | diverged => exact .diverged

omit [Procedures P] in
/-- What is recorded from a state is recorded from every state like it. -/
theorem Records.of_alike {called : State β} {result : Outcome × State β}
    (alike : entered.Alike called) (recalls : called.RecallsFailures)
    (records : Records chronicle called result) : Records chronicle entered result := by
  have same : Recorded chronicle entered called :=
    ⟨⟨[], alike.journal, alike.builder ▸ chronicle.nothing _⟩, recalls⟩
  exact same.records records

/-- Calling a rule is recorded if its parts are. -/
theorem callRule_recording (quiet : Discreet β) (free : grammar.isProcedureFree = true)
    (calls : ∀ id, Recording chronicle (call id)) (id : RuleId) :
    Recording chronicle (callRule grammar call id) := by
  intro entered recalls
  rcases callRule_cases grammar call id entered with
    ⟨_, limited⟩ |
    ⟨called, alike, same, ⟨result, ⟨slot, stored, here, listed⟩, replayed⟩ | ⟨_, _, afresh⟩⟩
  · rw [limited]
    exact .limited
  · obtain ⟨inside, rfl⟩ : ∃ inside, result = .failure [.rule id entered.position false inside] :=
      here ▸ recalls slot stored (id, result) listed
    have position : entered.position = called.position :=
      (congrArg Scanner.position alike.scanner).symm
    have calledRecalls : called.RecallsFailures := fun slot kept => recalls slot (same ▸ kept)
    rw [replayed, position]
    exact .of_alike alike calledRecalls (replay_records calledRecalls inside)
  · have calledRecalls : called.RecallsFailures := fun slot kept => recalls slot (same ▸ kept)
    rw [afresh]
    exact .of_alike alike calledRecalls
      (matchAfresh_recording quiet free calls id called calledRecalls)

/-- Matching a rule of a procedure-free grammar is recorded. -/
theorem descend_recording (chronicle : Chronicle β grammar) (quiet : Discreet β)
    (free : grammar.isProcedureFree = true) (depth : Nat) (id : RuleId) :
    Recording chronicle (descend grammar depth id) := by
  induction depth generalizing id with
  | zero => exact fun state recalls => .diverged
  | succ depth ih => exact callRule_recording quiet free ih id

end Rules

end Packrat
