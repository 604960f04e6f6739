import Packrat.Proofs.Conduct
import Packrat.Proofs.Streaming

/-!
# Counting calls

Matching counts the rules it calls, and a limit on them is never exceeded (`Counted.within`). Every
level of calls costs one of them, so rules that call each other too deeply have made at least as
many calls as there were levels (`Counted.deep`). Without a cache the cursor never goes back, which
leaves repetition no other way not to end. It follows that under a call limit, where rules may call
each other more deeply than the limit allows calls, matching never fails to end
(`pass_ne_divergence`).
-/

namespace Packrat

variable {P β : Type}

/-- What the end of a rule leaves alone: the calls counted, the limit on them and whether there is a
cache. The cursor stays or is taken back to where the rule was entered. -/
structure State.Closes (entered ended after : State β) : Prop where
  /-- No call is counted. -/
  calls : after.calls = ended.calls
  /-- The call limit is the same. -/
  callLimit : after.callLimit = ended.callLimit
  /-- There is a cache if there was one. -/
  present : after.cache.isSome = ended.cache.isSome
  /-- The cursor stays or is taken back. -/
  scanner : after.scanner = ended.scanner ∨
    after.scanner = ended.scanner.moveTo entered.position

/-- If there is a cache exactly where there was one, there is none where there was none. -/
theorem State.uncached_iff {before after : State β}
    (present : after.cache.isSome = before.cache.isSome) :
    after.cache = none ↔ before.cache = none := by
  rw [← Option.isNone_iff_eq_none, ← Option.isNone_iff_eq_none, ← Option.isSome_eq_false_iff,
    ← Option.isSome_eq_false_iff, present]

/-- Where there is no call limit, none is reached. -/
theorem State.limitReached_of_unlimited {state : State β} (unlimited : state.callLimit = none) :
    state.limitReached = false := by
  rw [State.limitReached, unlimited]
  rfl

/-- Remembering a match counts no call and keeps whether there is a cache. -/
theorem State.remember_counts (state : State β) (id : RuleId) (origin : Nat)
    (result : MatchResult) :
    (state.remember id origin result).calls = state.calls ∧
      (state.remember id origin result).cache.isSome = state.cache.isSome := by
  unfold remember
  cases cached : state.cache with
  | none => exact ⟨rfl, congrArg Option.isSome cached⟩
  | some cache => exact ⟨rfl, rfl⟩

/-- Looking a match up counts no call, keeps whether there is a cache, and finds nothing without
one. -/
theorem State.lookup_counts (state : State β) (id : RuleId) :
    (state.lookup id).2.calls = state.calls ∧
      (state.lookup id).2.cache.isSome = state.cache.isSome ∧
      ((state.lookup id).1.isSome = true → state.cache.isSome = true) := by
  unfold lookup
  cases cached : state.cache with
  | none => exact ⟨rfl, congrArg Option.isSome cached, fun found => by contradiction⟩
  | some cache => exact ⟨rfl, rfl, fun _ => rfl⟩

/-- Remembering a match behind the end of a rule leaves the rest of it as it is. -/
theorem State.Closes.remember {entered ended after : State β}
    (closes : State.Closes entered ended after) (id : RuleId) (origin : Nat)
    (result : MatchResult) : State.Closes entered ended (after.remember id origin result) := by
  have counts := after.remember_counts id origin result
  have alike := after.remember_alike id origin result
  exact ⟨counts.1.trans closes.calls, alike.callLimit.trans closes.callLimit,
    counts.2.trans closes.present, alike.scanner ▸ closes.scanner⟩

section Rules

variable [Builder β] {grammar : Grammar P} {call : RuleId → Action β}
  {entered ended state : State β}

/-- A rule that matched is ended. -/
theorem endMatched_closes (id : RuleId) :
    State.Closes entered ended (endMatched grammar id entered ended) := by
  have told : ∀ mark, State.Closes entered ended
      (logAttempt grammar id true ended.journal.reverse entered
        (succeed grammar (grammar.rule id) entered.position mark
          { ended with mark := entered.mark })) := by
    intro mark
    unfold succeed
    split
    · exact ⟨rfl, rfl, rfl, .inr rfl⟩
    · exact ⟨rfl, rfl, rfl, .inl rfl⟩
  unfold endMatched
  simp only
  split
  · exact (told _).remember _ _ _
  · exact told _

/-- A rule that did not match is ended. -/
theorem endMismatched_closes (id : RuleId) :
    State.Closes entered ended (endMismatched grammar id entered ended) := by
  unfold endMismatched
  refine State.Closes.remember ?_ _ _ _
  exact ⟨rfl, rfl, rfl, .inr rfl⟩

/-- Recovery counts no call and moves no cursor. -/
theorem recover_closes {rule : Occurrence P} {origin : Nat}
    (closes : State.Closes entered ended state) :
    State.Closes entered ended (recover grammar rule origin state).2 := by
  unfold recover
  split
  · exact ⟨closes.calls, closes.callLimit, closes.present, closes.scanner⟩
  · exact closes

variable [Procedures P]

/-- A rule that is matched afresh is ended after its test, and everything stops if it does in the
test. -/
theorem matchAfresh_closes (grammar : Grammar P) (call : RuleId → Action β) (id : RuleId)
    (entered : State β) :
    State.Closes entered
        (repeatTest grammar call (grammar.rule id) (openRule (grammar.rule id) entered)).2
        (matchAfresh grammar call id entered).2 ∧
      ((matchAfresh grammar call id entered).1.stops = true →
        (repeatTest grammar call (grammar.rule id) (openRule (grammar.rule id) entered)).1 =
          (matchAfresh grammar call id entered).1) := by
  unfold matchAfresh
  simp only
  generalize repeatTest grammar call (grammar.rule id) (openRule (grammar.rule id) entered) = result
  obtain ⟨outcome, ended⟩ := result
  match outcome with
  | .matched => exact ⟨endMatched_closes id, fun _ => rfl⟩
  | .failed .callLimit => exact ⟨⟨rfl, rfl, rfl, .inr rfl⟩, fun _ => rfl⟩
  | .failed .divergence => exact ⟨⟨rfl, rfl, rfl, .inr rfl⟩, fun _ => rfl⟩
  | .failed .mismatch =>
    refine ⟨recover_closes (endMismatched_closes id), fun stops => ?_⟩
    simp only [recover] at stops
    split at stops <;> contradiction

/-- The state in which a rule is matched after its call was counted. -/
def State.called (grammar : Grammar P) (id : RuleId) (state : State β) : State β :=
  { state with calls := state.calls + 1 }.remark
    (.matching (grammar.rule id).label state.position)

/-- Without a cache a rule is matched afresh, unless the call limit is reached. -/
theorem callRule_of_uncached {id : RuleId} (absent : state.cache = none)
    (room : state.limitReached = false) :
    callRule grammar call id state = matchAfresh grammar call id (state.called grammar id) := by
  have missed : State.lookup { state with calls := state.calls + 1 } id =
      (none, { state with calls := state.calls + 1 }) := by
    unfold State.lookup
    simp only [absent]
  unfold callRule
  rw [room, missed]
  rfl

end Rules

/-- What an evaluation does to the number of calls, with at least so many calls if it goes too deep.
-/
structure Counted (depth : Nat) (before : State β) (result : Outcome × State β) : Prop where
  /-- There is a cache if there was one. -/
  present : result.2.cache.isSome = before.cache.isSome
  /-- The call limit is the same. -/
  callLimit : result.2.callLimit = before.callLimit
  /-- Calls were added, if anything. -/
  more : before.calls ≤ result.2.calls
  /-- The call limit is not exceeded. -/
  within : ∀ limit, before.callLimit = some limit → before.calls ≤ limit → result.2.calls ≤ limit
  /-- Without a cache the cursor does not go back. -/
  forward : before.cache = none → before.scanner.Reaches result.2.scanner
  /-- Without a cache, whoever goes too deep has made a call at every level. -/
  deep : before.cache = none → result.1 = .failed .divergence →
    before.calls + depth ≤ result.2.calls

namespace Counted

variable {depth : Nat} {before middle : State β} {result : Outcome × State β} {outcome : Outcome}

/-- Doing nothing calls nothing. -/
theorem refl (ordinary : outcome ≠ .failed .divergence) (state : State β) :
    Counted depth state (outcome, state) :=
  ⟨rfl, rfl, Nat.le_refl _, fun _ _ few => few, fun _ => .refl _,
    fun _ diverged => absurd diverged ordinary⟩

/-- The calls of one evaluation are counted before those of the next. -/
theorem trans (first : Counted depth before (outcome, middle))
    (second : Counted depth middle result) : Counted depth before result where
  present := second.present.trans first.present
  callLimit := second.callLimit.trans first.callLimit
  more := Nat.le_trans first.more second.more
  within limit limited few :=
    second.within limit (first.callLimit.trans limited) (first.within limit limited few)
  forward absent :=
    (first.forward absent).trans
      (second.forward ((State.uncached_iff first.present).mpr absent))
  deep absent diverged := by
    have earlier := first.more
    have later := second.deep ((State.uncached_iff first.present).mpr absent) diverged
    simp only at earlier
    omega

/-- Another state with the same count may follow, if its cursor did not go back either. -/
theorem adjust {after : State β} {other : Outcome}
    (counted : Counted depth before (outcome, middle))
    (same : other = .failed .divergence → outcome = .failed .divergence)
    (calls : after.calls = middle.calls) (callLimit : after.callLimit = middle.callLimit)
    (present : after.cache.isSome = middle.cache.isSome)
    (forward : before.scanner.Reaches middle.scanner → before.scanner.Reaches after.scanner) :
    Counted depth before (other, after) where
  present := present.trans counted.present
  callLimit := callLimit.trans counted.callLimit
  more := counted.more.trans calls.ge
  within limit limited few := calls.le.trans (counted.within limit limited few)
  forward absent := forward (counted.forward absent)
  deep absent diverged := (counted.deep absent (same diverged)).trans calls.ge

/-- A call that is counted first leaves one level less for what follows. -/
theorem of_called {called : State β} (counted : Counted depth called result)
    (unreached : before.limitReached = false) (calls : called.calls = before.calls + 1)
    (callLimit : called.callLimit = before.callLimit)
    (present : called.cache.isSome = before.cache.isSome)
    (scanner : called.scanner = before.scanner) : Counted (depth + 1) before result where
  present := counted.present.trans present
  callLimit := counted.callLimit.trans callLimit
  more := by
    have later := counted.more
    omega
  within limit limited few := by
    have room : before.calls < limit := by
      rw [State.limitReached, limited, Option.any_some, decide_eq_false_iff_not] at unreached
      exact Nat.lt_of_not_le unreached
    exact counted.within limit (callLimit.trans limited) (by omega)
  forward absent := scanner ▸ counted.forward ((State.uncached_iff present).mpr absent)
  deep absent diverged := by
    have later := counted.deep ((State.uncached_iff present).mpr absent) diverged
    omega

variable [Builder β]

/-- A cursor that is taken back to where it was, in the same source, did not go back further. -/
theorem reaches_moveTo {scanner next : Scanner} (reached : scanner.Reaches next) :
    scanner.Reaches (next.moveTo scanner.position) := by
  rw [Scanner.moveTo_position reached.source]
  exact .refl scanner

/-- Counting calls is a conduct. Repetition without a cache has room for the characters that are
left, so it does not run out of its budget. -/
def conduct (depth : Nat) : Conduct β where
  Does := Counted depth
  Room budget state := state.cache = none → state.source.length - state.position < budget
  stays := refl nofun
  turns _ ordinary counted := counted.adjust
    (fun diverged => by rw [diverged] at ordinary; contradiction) rfl rfl rfl id
  follows _ := trans
  moves {state scanner} reached :=
    ⟨rfl, rfl, Nat.le_refl _, fun _ _ few => few, fun _ => reached,
      fun _ diverged => nomatch diverged⟩
  restores counted := counted.adjust id rfl rfl rfl reaches_moveTo
  refutes {state next outcome} counted :=
    { present := counted.present
      callLimit := counted.callLimit
      more := counted.more
      within := counted.within
      forward := fun absent => reaches_moveTo (counted.forward absent)
      deep := counted.deep }
  starts state _ := by
    have room := state.length_lt_loopBound
    omega
  spends {state next budget} counted moved room absent := by
    have uncached : state.cache = none := (State.uncached_iff counted.present).mp absent
    have less := (counted.forward uncached).remaining_lt moved
    exact Nat.lt_of_lt_of_le less (Nat.le_of_lt_succ (room uncached))
  exhausts room :=
    ⟨rfl, rfl, Nat.le_refl _, fun _ _ few => few, fun _ => .refl _,
      fun absent _ => absurd (room absent) (Nat.not_lt_zero _)⟩

variable {grammar : Grammar P} {call : RuleId → Action β} [Procedures P]

/-- Matching a rule afresh counts the calls made in its test. -/
theorem matchAfresh (free : grammar.isProcedureFree = true)
    (called : ∀ id state, Counted depth state (call id state)) (id : RuleId) (state : State β) :
    Counted depth state (Packrat.matchAfresh grammar call id state) := by
  have tested : Counted depth (openRule (grammar.rule id) state)
      (repeatTest grammar call (grammar.rule id) (openRule (grammar.rule id) state)) :=
    (conduct depth : Conduct β).repeatTest (fun part _ => called part)
      (grammar.testOf_isNoProcedure free id) _
  obtain ⟨closes, stops⟩ := matchAfresh_closes grammar call id state
  generalize repeatTest grammar call (grammar.rule id) (openRule (grammar.rule id) state) = ended
    at tested closes stops
  generalize Packrat.matchAfresh grammar call id state = result at closes stops
  obtain ⟨outcome, last⟩ := result
  have entered : Counted depth state (ended.1, ended.2) :=
    ⟨tested.present, tested.callLimit, tested.more, tested.within, tested.forward, tested.deep⟩
  refine entered.adjust (fun diverged => ?_) closes.calls closes.callLimit closes.present ?_
  · exact (stops (by rw [diverged]; rfl)).trans diverged
  · intro reached
    rcases closes.scanner with same | back
    · rwa [same]
    · rw [back]
      exact reaches_moveTo reached

omit [Procedures P] in
/-- Ending a rule as a cached match says calls nothing. -/
theorem replay {rule : Occurrence P} {origin : Nat} {result : MatchResult} {state : State β}
    (present : state.cache.isSome = true) :
    Counted depth state (Packrat.replay grammar rule origin result state) := by
  have same : (Packrat.replay grammar rule origin result state).2.calls = state.calls ∧
      (Packrat.replay grammar rule origin result state).2.callLimit = state.callLimit ∧
      (Packrat.replay grammar rule origin result state).2.cache = state.cache := by
    unfold Packrat.replay
    cases result with
    | success remembered =>
      simp only
      split <;> exact ⟨rfl, rfl, rfl⟩
    | failure attempts =>
      simp only [recover]
      split <;> exact ⟨rfl, rfl, rfl⟩
  exact
    { present := congrArg Option.isSome same.2.2
      callLimit := same.2.1
      more := same.1.ge
      within := fun limit limited few => same.1.le.trans few
      forward := fun absent => by simp [absent] at present
      deep := fun absent => by simp [absent] at present }

/-- Calling a rule counts one call more than are made in its test. -/
theorem callRule (free : grammar.isProcedureFree = true)
    (called : ∀ id state, Counted depth state (call id state)) (id : RuleId) (state : State β) :
    Counted (depth + 1) state (Packrat.callRule grammar call id state) := by
  unfold Packrat.callRule
  split
  · exact refl (by nofun) state
  · rename_i unreached
    have room : state.limitReached = false := Bool.eq_false_iff.mpr unreached
    have alike := (State.lookup_alike { state with calls := state.calls + 1 } id).1
    have counts := State.lookup_counts { state with calls := state.calls + 1 } id
    simp only
    generalize State.lookup { state with calls := state.calls + 1 } id = found at alike counts
    obtain ⟨answer, next⟩ := found
    obtain ⟨calls, present, cached⟩ := counts
    cases answer with
    | none =>
      exact (matchAfresh free called id _).of_called room calls alike.callLimit present
        alike.scanner
    | some result =>
      have replayed : Counted depth (next.remark (.reusing (grammar.rule id).label next.position))
          (Packrat.replay grammar (grammar.rule id) next.position result
            (next.remark (.reusing (grammar.rule id).label next.position))) :=
        replay (present.trans (cached rfl))
      exact replayed.of_called room calls alike.callLimit present alike.scanner

/-- Matching a rule counts its calls. -/
theorem descend (free : grammar.isProcedureFree = true) (depth : Nat) (id : RuleId)
    (state : State β) : Counted depth state (Packrat.descend grammar depth id state) := by
  induction depth generalizing id state with
  | zero =>
    exact ⟨rfl, rfl, Nat.le_refl _, fun _ _ few => few, fun _ => .refl _, fun _ _ => Nat.le_refl _⟩
  | succ depth ih => exact callRule free ih id state

end Counted

variable [Procedures P]

/-- A pass counts its calls. -/
theorem pass_counted [Builder β] {grammar : Grammar P} (free : grammar.isProcedureFree = true)
    (state : State β) : Counted (state.depthBound grammar) state (pass grammar state) := by
  have counted := Counted.descend free (state.depthBound grammar) grammar.root
    { state with attempts := .none, journal := [], mark := none }
  exact ⟨counted.present, counted.callLimit, counted.more, counted.within, counted.forward,
    counted.deep⟩

/-- A pass under a call limit and without a cache ends: before rules could call each other too
deeply, the limit is reached. -/
theorem pass_ne_divergence [Builder β] {grammar : Grammar P} (free : grammar.isProcedureFree = true)
    {state : State β} {limit : Nat} (absent : state.cache = none)
    (limited : state.callLimit = some limit) (few : state.calls ≤ limit) :
    (pass grammar state).1 ≠ .failed .divergence := by
  intro diverged
  have counted := pass_counted free state
  have most := counted.within limit limited few
  have least := counted.deep absent diverged
  have levels : limit < state.depthBound grammar := by
    unfold State.depthBound
    rw [limited, Option.getD_some]
    have positive : 0 < (grammar.size + 1) * (state.source.length + 2) :=
      Nat.mul_pos (Nat.succ_pos _) (Nat.succ_pos _)
    omega
  omega

end Packrat
