import Mathlib.Data.Nat.Pairing
import Packrat.Engine.Passes
import Packrat.Proofs.GrammarClass
import Packrat.Proofs.Ledger

/-!
# Views of builders

Matching never looks into its builder. If one builder can be looked at as another in a way that
every notification respects (`IsView`), matching with the first, looked at as matching with the
second, is matching with the second: it ends the same way and leaves the same state but for what
matching tells about itself (`IsView.pass`). A cache may keep what the builder contributed, so there
must be none, or both builders must tell the same of what a rule contributed (`Candid`).

Every builder can be looked at as `Unit`, which keeps nothing. So without a cache the cursor, the
diagnostics and the attempts are those of matching with no builder at all.
-/

namespace Packrat

variable {P : Type}

section Views

variable {β γ : Type} [Builder β] [Builder γ]

/-- A way to look at one builder as another that the notifications of matching respect. -/
structure IsView (view : β → γ) : Prop where
  /-- The start of a rule is respected. -/
  opened : ∀ token builder,
    view (Builder.opened token builder) = Builder.opened token (view builder)
  /-- The end of a rule that matched is respected. -/
  produced : ∀ production builder,
    view (Builder.produced production builder) = Builder.produced production (view builder)
  /-- The end of a rule that failed is respected. -/
  failed : ∀ builder, view (Builder.failed builder) = Builder.failed (view builder)
  /-- The end of a rule that brings nodes back is respected. -/
  restored : ∀ nodes builder,
    view (Builder.restored nodes builder) = Builder.restored nodes (view builder)
  /-- Giving back what was collected since a moment is respected. -/
  cutBack : ∀ before after,
    view (Builder.cutBack (Builder.collected before) after) =
      Builder.cutBack (Builder.collected (view before)) (view after)

/-- A builder that never tells what a rule contributed, so that no match is remembered with it. -/
def Discreet (β : Type) [Builder β] : Prop :=
  ∀ since (builder : β), Builder.contributed since builder = none

/-- A view under which both builders tell the same of what a rule contributed. -/
def Candid (view : β → γ) : Prop :=
  ∀ before after, Builder.contributed (Builder.collected (view before)) (view after) =
    Builder.contributed (Builder.collected before) after

/-- Builders that never tell what a rule contributed tell the same. -/
theorem Discreet.candid (discreet : Discreet β) (otherDiscreet : Discreet γ) (view : β → γ) :
    Candid view :=
  fun _ _ => (otherDiscreet _ _).trans (discreet _ _).symm

instance : Builder Unit where
  begin _ _ := ()
  opened _ _ := ()
  produced _ _ := ()
  failed _ := ()
  restored _ _ := ()

/-- Every builder can be looked at as one that keeps nothing. -/
theorem isView_unit : IsView fun _ : β => () :=
  ⟨fun _ _ => rfl, fun _ _ => rfl, fun _ => rfl, fun _ _ => rfl, fun _ _ => rfl⟩

/-- Two builders at once, each told everything. What they collected is counted together. -/
instance : Builder (β × γ) where
  begin source both := (Builder.begin source both.1, Builder.begin source both.2)
  opened token both := (Builder.opened token both.1, Builder.opened token both.2)
  produced production both :=
    (Builder.produced production both.1, Builder.produced production both.2)
  failed both := (Builder.failed both.1, Builder.failed both.2)
  restored nodes both := (Builder.restored nodes both.1, Builder.restored nodes both.2)
  collected both := Nat.pair (Builder.collected both.1) (Builder.collected both.2)
  cutBack count both :=
    (Builder.cutBack count.unpair.1 both.1, Builder.cutBack count.unpair.2 both.2)

/-- Two builders at once never tell what a rule contributed. -/
theorem discreet_both : Discreet (β × γ) :=
  fun _ _ => rfl

/-- Two builders at once give back each what it collected. -/
theorem cutBack_both (before after : β × γ) :
    Builder.cutBack (Builder.collected before) after =
      (Builder.cutBack (Builder.collected before.1) after.1,
        Builder.cutBack (Builder.collected before.2) after.2) := by
  change (Builder.cutBack (Nat.unpair (Nat.pair _ _)).1 _,
    Builder.cutBack (Nat.unpair (Nat.pair _ _)).2 _) = _
  rw [Nat.unpair_pair]

/-- Two builders at once can be looked at as the second of them. -/
theorem isView_second : IsView (Prod.snd : β × γ → γ) :=
  ⟨fun _ _ => rfl, fun _ _ => rfl, fun _ => rfl, fun _ _ => rfl, fun before after =>
    congrArg Prod.snd (cutBack_both before after)⟩

/-- The ledger of the first of two builders at once. -/
def Ledger.ofFirst (ledger : Ledger β) : Ledger (β × γ) where
  Adds before nodes after := ledger.Adds before.1 nodes after.1
  nothing both := ledger.nothing both.1
  append := ledger.append
  node := ledger.node
  transparent := ledger.transparent
  discarded := ledger.discarded
  failed := ledger.failed
  restored both := ledger.restored both.1
  cutBack := by
    intro before after nodes added
    rw [cutBack_both]
    exact ledger.cutBack added
  contributed _ told := absurd ((discreet_both (β := β) (γ := γ) _ _).symm.trans told) nofun

end Views

variable {β γ : Type}

/-- The state looked at with another builder, and with other things told about matching. -/
def State.seenAs (view : β → γ) (remarks : List Remark) (probes : List Probe) (state : State β) :
    State γ where
  scanner := state.scanner
  builder := view state.builder
  errors := state.errors
  mark := state.mark
  attempts := state.attempts
  journal := state.journal
  negations := state.negations
  calls := state.calls
  callLimit := state.callLimit
  cache := state.cache
  remarks := remarks
  probes := probes

/-- The second state is the first, looked at with another builder. -/
def Seen (view : β → γ) (left : State β) (right : State γ) : Prop :=
  ∃ remarks probes, right = left.seenAs view remarks probes

/-- What a view asks of the cache: there is none, or a condition holds under which both builders
have the same put into it. -/
def Keepable (discreet : Prop) (state : State β) : Prop :=
  state.cache = none ∨ discreet

/-- The second result is the first, looked at with another builder. -/
inductive SeenResult (view : β → γ) (discreet : Prop) :
    Outcome × State β → Outcome × State γ → Prop
  /-- Both end the same way, in states that are the same, looked at with another builder. -/
  | ended (outcome : Outcome) {left : State β} {right : State γ} (seen : Seen view left right)
      (keepable : Keepable discreet left) :
      SeenResult view discreet (outcome, left) (outcome, right)

/-- The second evaluation is the first, looked at with another builder. -/
def SeenAction (view : β → γ) (discreet : Prop) (left : Action β) (right : Action γ) : Prop :=
  ∀ {before : State β} {after : State γ}, Seen view before after → Keepable discreet before →
    SeenResult view discreet (left before) (right after)

section States

variable {view : β → γ} {discreet : Prop} {before : State β} {after : State γ}

/-- The cursor stands where it stood. -/
theorem Seen.position (seen : Seen view before after) : after.position = before.position := by
  obtain ⟨_, _, rfl⟩ := seen
  rfl

/-- Remembering a match is respected. -/
theorem Seen.remember (seen : Seen view before after) (id : RuleId) (origin : Nat)
    (result : MatchResult) :
    Seen view (before.remember id origin result) (after.remember id origin result) := by
  obtain ⟨remarks, probes, rfl⟩ := seen
  unfold State.remember
  cases cached : before.cache with
  | none =>
    refine ⟨remarks, probes, ?_⟩
    simp only [State.seenAs, cached]
  | some cache =>
    refine ⟨(cache.evictions origin id).reverse ++ remarks, probes, ?_⟩
    simp only [State.seenAs, cached]

/-- Where there is no cache, remembering a match changes nothing. -/
theorem State.remember_of_uncached (uncached : before.cache = none) (id : RuleId) (origin : Nat)
    (result : MatchResult) : before.remember id origin result = before := by
  unfold remember
  rw [uncached]

/-- Remembering a match keeps the cache as it has to be. -/
theorem Keepable.remember (keepable : Keepable discreet before) (id : RuleId) (origin : Nat)
    (result : MatchResult) : Keepable discreet (before.remember id origin result) := by
  rcases keepable with uncached | quiet
  · rw [State.remember_of_uncached uncached]
    exact .inl uncached
  · exact .inr quiet

/-- Looking a match up is respected. -/
theorem Seen.lookup (seen : Seen view before after) (keepable : Keepable discreet before)
    (id : RuleId) :
    (after.lookup id).1 = (before.lookup id).1 ∧
      Seen view (before.lookup id).2 (after.lookup id).2 ∧
      Keepable discreet (before.lookup id).2 := by
  obtain ⟨remarks, probes, rfl⟩ := seen
  cases cached : before.cache with
  | none =>
    have uncached : (before.seenAs view remarks probes).cache = none := cached
    rw [State.lookup, State.lookup, cached, uncached]
    exact ⟨rfl, ⟨remarks, probes, rfl⟩, .inl cached⟩
  | some cache =>
    have otherCached : (before.seenAs view remarks probes).cache = some cache := cached
    have quiet : discreet := keepable.resolve_left (by simp [cached])
    rw [State.lookup, State.lookup, cached, otherCached]
    exact ⟨rfl, ⟨remarks, probes, rfl⟩, .inr quiet⟩

/-- Logging a rule that was tried is respected. -/
theorem Seen.logAttempt {entered : State β} {otherEntered : State γ}
    (seenEntered : Seen view entered otherEntered) (seen : Seen view before after)
    (grammar : Grammar P) (id : RuleId) (matched : Bool) (inside : List Attempt) :
    Seen view (logAttempt grammar id matched inside entered before)
      (logAttempt grammar id matched inside otherEntered after) := by
  obtain ⟨_, _, rfl⟩ := seenEntered
  obtain ⟨remarks, probes, rfl⟩ := seen
  exact ⟨remarks, probes, rfl⟩

/-- A remark changes nothing that is looked at. -/
theorem Seen.remark (seen : Seen view before after) (remark otherRemark : Remark) :
    Seen view (before.remark remark) (after.remark otherRemark) := by
  obtain ⟨remarks, probes, rfl⟩ := seen
  exact ⟨otherRemark :: remarks, probes, rfl⟩

/-- A notification that is respected leads to states that are the same, looked at. -/
theorem Seen.notify (seen : Seen view before after) {change : β → β} {otherChange : γ → γ}
    (respected : ∀ builder, view (change builder) = otherChange (view builder)) :
    Seen view (before.notify change) (after.notify otherChange) := by
  obtain ⟨remarks, probes, rfl⟩ := seen
  refine ⟨remarks, probes, ?_⟩
  simp only [State.notify, State.seenAs, respected]

variable [Builder β] [Builder γ]

/-- The end of a rule that is respected leads to states that are the same, looked at. -/
theorem Seen.close (seen : Seen view before after) {change : β → β} {otherChange : γ → γ}
    (respected : ∀ builder, view (change builder) = otherChange (view builder)) :
    Seen view (before.close change) (after.close otherChange) := by
  obtain ⟨remarks, probes, rfl⟩ := seen
  refine ⟨(Builder.complaint (view before.builder)).toList ++ remarks, probes, ?_⟩
  simp only [State.close, State.seenAs, respected]

end States

section Tests

variable {view : β → γ} {discreet : Prop} {grammar : Grammar P} {left : RuleId → Action β}
  {right : RuleId → Action γ}

/-- A scan depends on the cursor alone. -/
theorem scanWith_seen (scan : Scanner → Option Scanner) :
    SeenAction view discreet (scanWith scan) (scanWith scan) := by
  rintro before _ ⟨remarks, probes, rfl⟩ keepable
  unfold scanWith
  simp only [State.seenAs]
  split
  · exact .ended _ ⟨remarks, probes, rfl⟩ keepable
  · exact .ended _ ⟨remarks, probes, rfl⟩ keepable

/-- Taking characters depends on the cursor alone. -/
theorem consumeMany_seen (count : Nat) :
    SeenAction view discreet (consumeMany count) (consumeMany count) := by
  induction count with
  | zero => exact fun seen keepable => .ended _ seen keepable
  | succ count ih =>
    rintro before _ ⟨remarks, probes, rfl⟩ keepable
    unfold consumeMany
    simp only [State.seenAs]
    split
    · exact ih ⟨remarks, probes, rfl⟩ keepable
    · exact .ended _ ⟨remarks, probes, rfl⟩ keepable

/-- Counting successes depends on their number alone. -/
theorem settle_seen (rule : Occurrence P) (count : Nat) :
    SeenAction view discreet (settle rule count) (settle rule count) := by
  intro before after seen keepable
  unfold settle
  split <;> exact .ended _ seen keepable

/-- Rules are matched one after the other the same if each of them is. -/
theorem matchAll_seen (calls : ∀ id, SeenAction view discreet (left id) (right id))
    (parts : List RuleId) :
    SeenAction view discreet (matchAll left parts) (matchAll right parts) := by
  induction parts with
  | nil => exact fun seen keepable => .ended _ seen keepable
  | cons id later ih =>
    intro before after seen keepable
    have called := calls id seen keepable
    unfold matchAll
    generalize left id before = leftResult at called
    generalize right id after = rightResult at called
    obtain ⟨outcome, nextSeen, nextKeepable⟩ := called
    cases outcome with
    | matched => exact ih nextSeen nextKeepable
    | failed reason => exact .ended _ nextSeen nextKeepable

/-- The first rule that succeeds is matched the same if each of them is. -/
theorem matchFirst_seen (calls : ∀ id, SeenAction view discreet (left id) (right id))
    (parts : List RuleId) :
    SeenAction view discreet (matchFirst left parts) (matchFirst right parts) := by
  induction parts with
  | nil => exact fun seen keepable => .ended _ seen keepable
  | cons id later ih =>
    intro before after seen keepable
    have called := calls id seen keepable
    unfold matchFirst
    generalize left id before = leftResult at called
    generalize right id after = rightResult at called
    obtain ⟨outcome, nextSeen, nextKeepable⟩ := called
    match outcome with
    | .matched => exact .ended _ nextSeen nextKeepable
    | .failed .mismatch => exact ih nextSeen nextKeepable
    | .failed .callLimit => exact .ended _ nextSeen nextKeepable
    | .failed .divergence => exact .ended _ nextSeen nextKeepable

variable [Builder β] [Builder γ] [Procedures P]

/-- A test that is no procedure is evaluated the same if its parts are matched the same. -/
theorem runTest_seen (calls : ∀ id, SeenAction view discreet (left id) (right id)) {test : Test P}
    (noProcedure : test.isNoProcedure = true) :
    SeenAction view discreet (runTest grammar left test) (runTest grammar right test) := by
  cases test with
  | terminal terminal => exact scanWith_seen terminal.scan
  | reference target => exact calls target
  | group inner => exact calls inner
  | procedure steps => simp [Test.isNoProcedure] at noProcedure
  | sequence parts => exact matchAll_seen calls parts
  | choice parts => exact matchFirst_seen calls parts

end Tests

section Iterations

variable [Builder β] [Builder γ] {view : β → γ} {discreet : Prop} {grammar : Grammar P}
  {left : RuleId → Action β} {right : RuleId → Action γ} {rule : Occurrence P}

/-- Coming back to a checkpoint is respected. -/
theorem IsView.restore (isView : IsView view) {before after : State β}
    {otherBefore otherAfter : State γ} (seenBefore : Seen view before otherBefore)
    (seenAfter : Seen view after otherAfter) :
    Seen view (after.restore before.checkpoint) (otherAfter.restore otherBefore.checkpoint) := by
  obtain ⟨_, _, rfl⟩ := seenBefore
  obtain ⟨remarks, probes, rfl⟩ := seenAfter
  refine ⟨remarks, probes, ?_⟩
  simp only [State.restore, State.checkpoint, State.seenAs, State.position, isView.cutBack]

variable [Procedures P]

/-- A test is refuted the same if it is evaluated the same. -/
theorem refute_seen (isView : IsView view)
    (tests : SeenAction view discreet (runTest grammar left (grammar.testOf rule))
      (runTest grammar right (grammar.testOf rule))) :
    SeenAction view discreet (refute grammar left rule) (refute grammar right rule) := by
  intro before after seen keepable
  have entered : Seen view { before with negations := before.negations + 1, journal := [] }
      { after with negations := after.negations + 1, journal := [] } := by
    obtain ⟨remarks, probes, rfl⟩ := seen
    exact ⟨remarks, probes, rfl⟩
  have tested := tests entered keepable
  unfold refute
  simp only
  generalize runTest grammar left (grammar.testOf rule)
    { before with negations := before.negations + 1, journal := [] } = leftResult at tested
  generalize runTest grammar right (grammar.testOf rule)
    { after with negations := after.negations + 1, journal := [] } = rightResult at tested
  obtain ⟨outcome, nextSeen, nextKeepable⟩ := tested
  rename_i next other
  have back : Seen view
      { next.restore before.checkpoint with
        negations := before.negations
        journal := .negation next.journal.reverse :: before.journal }
      { other.restore after.checkpoint with
        negations := after.negations
        journal := .negation other.journal.reverse :: after.journal } := by
    obtain ⟨remarks, probes, restored⟩ := isView.restore seen nextSeen
    rw [restored]
    obtain ⟨_, _, rfl⟩ := seen
    obtain ⟨_, _, rfl⟩ := nextSeen
    exact ⟨remarks, probes, rfl⟩
  match outcome with
  | .matched => exact .ended _ back nextKeepable
  | .failed .callLimit => exact .ended _ back nextKeepable
  | .failed .divergence => exact .ended _ back nextKeepable
  | .failed .mismatch =>
    simp only
    split
    · exact .ended _ back nextKeepable
    · exact consumeMany_seen 1 back nextKeepable

/-- An iteration is the same if the test is evaluated the same. -/
theorem iterate_seen (isView : IsView view)
    (tests : SeenAction view discreet (runTest grammar left (grammar.testOf rule))
      (runTest grammar right (grammar.testOf rule))) :
    SeenAction view discreet (iterate grammar left rule) (iterate grammar right rule) := by
  unfold iterate
  split
  · exact refute_seen isView tests
  · exact tests

/-- Repetition is the same if the test is evaluated the same. -/
theorem repeatFrom_seen (isView : IsView view)
    (tests : SeenAction view discreet (runTest grammar left (grammar.testOf rule))
      (runTest grammar right (grammar.testOf rule))) (budget count : Nat) :
    SeenAction view discreet (repeatFrom grammar left rule budget count)
      (repeatFrom grammar right rule budget count) := by
  induction budget generalizing count with
  | zero =>
    intro before after seen keepable
    unfold repeatFrom
    split
    · exact settle_seen rule count seen keepable
    · exact .ended _ seen keepable
  | succ budget ih =>
    intro before after seen keepable
    have iterated := iterate_seen isView tests seen keepable
    unfold repeatFrom
    generalize iterate grammar left rule before = leftResult at iterated
    generalize iterate grammar right rule after = rightResult at iterated
    obtain ⟨outcome, nextSeen, nextKeepable⟩ := iterated
    match outcome with
    | .matched =>
      simp only [nextSeen.position, seen.position]
      split
      · exact settle_seen rule (count + 1) nextSeen nextKeepable
      · exact ih (count + 1) nextSeen nextKeepable
    | .failed .mismatch =>
      exact settle_seen rule count (isView.restore seen nextSeen) nextKeepable
    | .failed .callLimit => exact .ended _ nextSeen nextKeepable
    | .failed .divergence => exact .ended _ nextSeen nextKeepable

/-- A test is evaluated as often as its rule asks the same if it is evaluated the same. -/
theorem repeatTest_seen (isView : IsView view)
    (tests : SeenAction view discreet (runTest grammar left (grammar.testOf rule))
      (runTest grammar right (grammar.testOf rule))) :
    SeenAction view discreet (repeatTest grammar left rule) (repeatTest grammar right rule) := by
  intro before after seen keepable
  have bound : after.loopBound = before.loopBound := by
    obtain ⟨_, _, rfl⟩ := seen
    rfl
  unfold repeatTest
  rw [bound]
  exact repeatFrom_seen isView tests _ 0 seen keepable

end Iterations

section Rules

variable [Builder β] [Builder γ] {view : β → γ} {discreet : Prop} {grammar : Grammar P}
  {left : RuleId → Action β} {right : RuleId → Action γ} {entered ended : State β}
  {otherEntered otherEnded : State γ}

/-- Telling the rule around of a match is respected. -/
theorem IsView.succeed (isView : IsView view) (grammar : Grammar P) (rule : Occurrence P)
    (origin : Nat) (mark : Mark) (seen : Seen view ended otherEnded) :
    Seen view (Packrat.succeed grammar rule origin mark ended)
      (Packrat.succeed grammar rule origin mark otherEnded) := by
  have position := seen.position
  unfold Packrat.succeed
  split
  · obtain ⟨remarks, probes, rfl⟩ := seen
    have moved : Seen view (ended.moveTo origin)
        ((ended.seenAs view remarks probes).moveTo origin) := ⟨remarks, probes, rfl⟩
    exact moved.close (isView.produced .discarded)
  · obtain ⟨remarks, probes, closed⟩ :=
      seen.close (isView.produced (production rule (mark.content ended.position)))
    simp only [position, closed]
    exact ⟨remarks, probes, rfl⟩

/-- Telling the rule around of a match leaves the cache as it is. -/
theorem cache_succeed (grammar : Grammar P) (rule : Occurrence P) (origin : Nat) (mark : Mark)
    (state : State β) : (succeed grammar rule origin mark state).cache = state.cache := by
  unfold succeed
  split <;> rfl

/-- Where no match is remembered, the end of a rule that matched is told and logged. -/
theorem endMatched_of_keepable (keepable : Keepable (Discreet β) ended) (grammar : Grammar P)
    (id : RuleId) :
    endMatched grammar id entered ended =
      logAttempt grammar id true ended.journal.reverse entered
        (succeed grammar (grammar.rule id) entered.position
          (ended.mark.getD (.start entered.position)) { ended with mark := entered.mark }) := by
  unfold endMatched
  simp only
  split
  · rename_i nodes contributed
    rcases keepable with uncached | quiet
    · refine State.remember_of_uncached ?_ _ _ _
      exact (cache_succeed grammar _ _ _ { ended with mark := entered.mark }).trans uncached
    · exact absurd ((quiet _ _).symm.trans contributed) nofun
  · rfl

/-- The end of a rule that matched is respected. -/
theorem IsView.endMatched (isView : IsView view) (candid : discreet → Candid view)
    (grammar : Grammar P) (id : RuleId) (seenEntered : Seen view entered otherEntered)
    (seenEnded : Seen view ended otherEnded) (keepable : Keepable discreet ended) :
    SeenResult view discreet (.matched, endMatched grammar id entered ended)
      (.matched, endMatched grammar id otherEntered otherEnded) := by
  have outer : Seen view { ended with mark := entered.mark }
      { otherEnded with mark := otherEntered.mark } := by
    obtain ⟨_, _, rfl⟩ := seenEntered
    obtain ⟨remarks, probes, rfl⟩ := seenEnded
    exact ⟨remarks, probes, rfl⟩
  have told := isView.succeed grammar (grammar.rule id) entered.position
    (ended.mark.getD (.start entered.position)) outer
  have logged := seenEntered.logAttempt told grammar id true ended.journal.reverse
  rcases keepable with uncached | quietly
  · have otherUncached : otherEnded.cache = none := by
      obtain ⟨_, _, rfl⟩ := seenEnded
      exact uncached
    rw [endMatched_of_keepable (.inl uncached), endMatched_of_keepable (.inl otherUncached)]
    obtain ⟨_, _, rfl⟩ := seenEntered
    obtain ⟨_, _, rfl⟩ := seenEnded
    refine .ended _ logged (.inl ?_)
    exact (cache_succeed grammar _ _ _ { ended with mark := entered.mark }).trans uncached
  · -- what is remembered is read off two states that are the same, looked at
    obtain ⟨_, _, rfl⟩ := seenEntered
    obtain ⟨_, _, rfl⟩ := seenEnded
    refine .ended _ ?_ (.inr quietly)
    obtain ⟨remarks, probes, same⟩ := logged
    unfold Packrat.endMatched
    simp only [State.seenAs, State.position] at same ⊢
    rw [same]
    simp only [candid quietly _ _]
    split
    · exact Seen.remember ⟨remarks, probes, rfl⟩ _ _ _
    · exact ⟨remarks, probes, rfl⟩

/-- The end of a rule that did not match is respected. -/
theorem IsView.endMismatched (isView : IsView view) (grammar : Grammar P) (id : RuleId)
    (seenEntered : Seen view entered otherEntered) (seenEnded : Seen view ended otherEnded) :
    Seen view (endMismatched grammar id entered ended)
      (endMismatched grammar id otherEntered otherEnded) := by
  have closed : Seen view
      { (ended.close Builder.failed).moveTo entered.position with
        errors := ended.errors.take entered.errors.length
        mark := entered.mark }
      { (otherEnded.close Builder.failed).moveTo otherEntered.position with
        errors := otherEnded.errors.take otherEntered.errors.length
        mark := otherEntered.mark } := by
    obtain ⟨remarks, probes, closed⟩ := seenEnded.close isView.failed
    rw [closed]
    obtain ⟨_, _, rfl⟩ := seenEntered
    obtain ⟨_, _, rfl⟩ := seenEnded
    exact ⟨remarks, probes, rfl⟩
  have logged := seenEntered.logAttempt closed grammar id false ended.journal.reverse
  have kept := logged.remember id entered.position
    (.failure [.rule id entered.position false ended.journal.reverse])
  obtain ⟨_, _, rfl⟩ := seenEntered
  obtain ⟨_, _, rfl⟩ := seenEnded
  exact kept

/-- The end of a rule that did not match keeps the cache as it has to be. -/
theorem Keepable.endMismatched (keepable : Keepable discreet ended) (grammar : Grammar P)
    (id : RuleId) (entered : State β) :
    Keepable discreet (endMismatched grammar id entered ended) := by
  refine Keepable.remember ?_ _ _ _
  exact keepable

/-- The end of a rule in which everything had to stop is respected. -/
theorem IsView.endStopped (isView : IsView view) (seenEntered : Seen view entered otherEntered)
    (seenEnded : Seen view ended otherEnded) :
    Seen view (endStopped entered ended) (endStopped otherEntered otherEnded) := by
  obtain ⟨remarks, probes, closed⟩ := seenEnded.close isView.failed
  have journal : otherEnded.journal = ended.journal := by
    obtain ⟨_, _, rfl⟩ := seenEnded
    rfl
  unfold Packrat.endStopped
  rw [closed, journal]
  obtain ⟨_, _, rfl⟩ := seenEntered
  exact ⟨remarks, probes, rfl⟩

/-- Recovery is respected. -/
theorem IsView.recover (isView : IsView view) (grammar : Grammar P) (rule : Occurrence P)
    (origin : Nat) :
    SeenAction view discreet (recover grammar rule origin) (recover grammar rule origin) := by
  intro before after seen keepable
  unfold Packrat.recover
  split
  · obtain ⟨remarks, probes, told⟩ :=
      ((seen.remark (.recovering rule.label origin (recoveryMessage grammar rule))
        (.recovering rule.label origin (recoveryMessage grammar rule))).notify
          (isView.opened (some .error))).close
        (isView.produced (.node .error
          (rule.annotations.insert .error (.text (recoveryMessage grammar rule)))
          (.point origin)))
    simp only [told]
    exact .ended _ ⟨remarks, probes, rfl⟩ keepable
  · exact .ended _ seen keepable

/-- Ending a rule as a cached match says is respected. -/
theorem IsView.replay (isView : IsView view) (grammar : Grammar P) (rule : Occurrence P)
    (origin : Nat) (result : MatchResult) :
    SeenAction view discreet (replay grammar rule origin result)
      (replay grammar rule origin result) := by
  intro before after seen keepable
  have started := seen.notify (isView.opened rule.token)
  cases result with
  | success remembered =>
    obtain ⟨remarks, probes, closed⟩ := started.close (isView.restored remembered.nodes)
    unfold Packrat.replay
    simp only [closed]
    split <;> exact .ended _ ⟨remarks, probes, rfl⟩ keepable
  | failure attempts =>
    obtain ⟨remarks, probes, closed⟩ := started.close isView.failed
    unfold Packrat.replay
    simp only [closed]
    exact isView.recover grammar rule origin ⟨remarks, probes, rfl⟩ keepable

variable [Procedures P]

/-- A rule that the cache knows nothing about is matched the same if its parts are. -/
theorem IsView.matchAfresh (isView : IsView view) (candid : discreet → Candid view)
    (free : grammar.isProcedureFree = true)
    (calls : ∀ id, SeenAction view discreet (left id) (right id)) (id : RuleId) :
    SeenAction view discreet (matchAfresh grammar left id) (matchAfresh grammar right id) := by
  intro before after seen keepable
  have opened : Seen view (openRule (grammar.rule id) before)
      (openRule (grammar.rule id) after) := by
    obtain ⟨remarks, probes, opened⟩ := seen.notify (isView.opened (grammar.rule id).token)
    unfold openRule
    rw [opened, seen.position]
    exact ⟨remarks, probes, rfl⟩
  have repeated := repeatTest_seen isView
    (runTest_seen calls (Grammar.testOf_isNoProcedure free id)) opened keepable
  unfold Packrat.matchAfresh
  simp only
  generalize repeatTest grammar left (grammar.rule id) (openRule (grammar.rule id) before) =
    leftResult at repeated
  generalize repeatTest grammar right (grammar.rule id) (openRule (grammar.rule id) after) =
    rightResult at repeated
  obtain ⟨outcome, endedSeen, endedKeepable⟩ := repeated
  match outcome with
  | .matched => exact isView.endMatched candid grammar id seen endedSeen endedKeepable
  | .failed .mismatch =>
    simp only [seen.position]
    exact isView.recover grammar _ _ (isView.endMismatched grammar id seen endedSeen)
      (endedKeepable.endMismatched grammar id before)
  | .failed .callLimit => exact .ended _ (isView.endStopped seen endedSeen) endedKeepable
  | .failed .divergence => exact .ended _ (isView.endStopped seen endedSeen) endedKeepable

/-- A rule is matched the same if its parts are. -/
theorem IsView.callRule (isView : IsView view) (candid : discreet → Candid view)
    (free : grammar.isProcedureFree = true)
    (calls : ∀ id, SeenAction view discreet (left id) (right id)) (id : RuleId) :
    SeenAction view discreet (callRule grammar left id) (callRule grammar right id) := by
  intro before after seen keepable
  have limited : after.limitReached = before.limitReached := by
    obtain ⟨_, _, rfl⟩ := seen
    rfl
  have called : Seen view { before with calls := before.calls + 1 }
      { after with calls := after.calls + 1 } := by
    obtain ⟨remarks, probes, rfl⟩ := seen
    exact ⟨remarks, probes, rfl⟩
  obtain ⟨found, lookedUp, stillKeepable⟩ := called.lookup keepable id
  unfold Packrat.callRule
  rw [limited]
  split
  · exact .ended _ seen keepable
  · simp only
    generalize State.lookup { before with calls := before.calls + 1 } id = leftResult at *
    generalize State.lookup { after with calls := after.calls + 1 } id = rightResult at *
    obtain ⟨result, next⟩ := leftResult
    obtain ⟨otherResult, other⟩ := rightResult
    obtain rfl : otherResult = result := found
    cases otherResult with
    | some result =>
      simp only [lookedUp.position]
      exact isView.replay grammar _ _ result (lookedUp.remark _ _) stillKeepable
    | none => exact isView.matchAfresh candid free calls id (lookedUp.remark _ _) stillKeepable

/-- Matching is respected: looked at with another builder it is matching with that builder. -/
theorem IsView.descend (isView : IsView view) (candid : discreet → Candid view)
    (free : grammar.isProcedureFree = true) (depth : Nat) (id : RuleId) :
    SeenAction view discreet (descend grammar depth id) (descend grammar depth id) := by
  induction depth generalizing id with
  | zero => exact fun seen keepable => .ended _ seen keepable
  | succ depth ih => exact isView.callRule candid free ih id

/-- Matching a rule at the cursor is respected. -/
theorem IsView.matchRule (isView : IsView view) (candid : discreet → Candid view)
    (free : grammar.isProcedureFree = true) (id : RuleId) :
    SeenAction view discreet (matchRule grammar id) (matchRule grammar id) := by
  intro before after seen keepable
  have bound : after.depthBound grammar = before.depthBound grammar := by
    obtain ⟨_, _, rfl⟩ := seen
    rfl
  unfold Packrat.matchRule
  rw [bound]
  exact isView.descend candid free _ id seen keepable

/-- A pass is respected. -/
theorem IsView.pass (isView : IsView view) (candid : discreet → Candid view)
    (free : grammar.isProcedureFree = true) :
    SeenAction view discreet (pass grammar) (pass grammar) := by
  intro before after seen keepable
  have afresh : Seen view { before with attempts := .none, journal := [], mark := none }
      { after with attempts := .none, journal := [], mark := none } := by
    obtain ⟨remarks, probes, rfl⟩ := seen
    exact ⟨remarks, probes, rfl⟩
  exact isView.matchRule candid free grammar.root afresh keepable

end Rules

end Packrat
