import Packrat.Proofs.CacheTransparency
import Packrat.Proofs.Lockstep
import Packrat.Proofs.Nesting
import Packrat.Proofs.ParsingExpression

/-!
# Call limits

A call limit is a sharp cutoff. A build under a limit goes call by call as the build without one
(`Limited`), so it gives the same if that comes to an end within the limit. Otherwise one of its
passes is stopped by the limit (`runPasses_cutoff`): whatever stands around the call that is
refused, a negation, a choice, a repetition or a pin, hands the failure on, and the build ends with
an error that names the start of that pass.
-/

namespace Packrat

variable {P β : Type}

/-! ## With and without a limit -/

/-- What two states do not show if nothing but a call limit sets them apart. -/
structure Limited (limit : Nat) (left right : State β) : Prop where
  /-- The first state has the limit. -/
  leftLimit : left.callLimit = some limit
  /-- The second state has none. -/
  rightLimit : right.callLimit = none
  /-- The first state has no cache. -/
  leftCache : left.cache = none
  /-- The second state has no cache. -/
  rightCache : right.cache = none
  /-- As many rules have been called. -/
  calls : left.calls = right.calls

section Rules

variable [Builder β] {grammar : Grammar P} {call : RuleId → Action β} {limit depth : Nat}
  {id : RuleId} {left right state : State β}

/-- A call limit on one of two runs is kept along with them. -/
theorem tandem_limited (limit : Nat) : Tandem (Limited (β := β) limit) where
  keeps limited _ leftSame rightSame :=
    { leftLimit := (congrArg Account.callLimit leftSame).trans limited.leftLimit
      rightLimit := (congrArg Account.callLimit rightSame).trans limited.rightLimit
      leftCache := (congrArg Account.cache leftSame).trans limited.leftCache
      rightCache := (congrArg Account.cache rightSame).trans limited.rightCache
      calls := (congrArg Account.calls leftSame).trans
        (limited.calls.trans (congrArg Account.calls rightSame).symm) }
  room limited := by
    rw [limited.rightLimit]
    exact Nat.zero_le _
  keepable limited := ⟨.inl limited.leftCache, .inl limited.rightCache⟩

omit [Builder β] in
/-- Two states with and without a limit are so after the ends of rules as well. -/
theorem Closing.limited {first second : State β}
    (closing : Closing (Limited limit) first second left right) :
    InStep (Limited limit) left right := by
  obtain ⟨endedLeft, endedRight, limited, leftCloses, rightCloses⟩ := closing.closes
  exact
    { closing with
      side :=
        { leftLimit := leftCloses.callLimit.trans limited.leftLimit
          rightLimit := rightCloses.callLimit.trans limited.rightLimit
          leftCache := (State.uncached_iff leftCloses.present).mpr limited.leftCache
          rightCache := (State.uncached_iff rightCloses.present).mpr limited.rightCache
          calls := leftCloses.calls.trans (limited.calls.trans rightCloses.calls.symm) } }

variable [Procedures P]

/-- A run without a limit goes on where one with a limit has reached it. -/
theorem Limited.callRule_past (free : grammar.isProcedureFree = true)
    (limited : Limited limit left right) (reached : left.limitReached = true) (depth : Nat)
    (id : RuleId) : limit < (callRule grammar (descend grammar depth) id right).2.calls := by
  have room := State.limitReached_of_unlimited limited.rightLimit
  have many : limit ≤ left.calls := by
    rw [State.limitReached, limited.leftLimit] at reached
    exact of_decide_eq_true reached
  have more := (Counted.matchAfresh free (Counted.descend free depth) id
    (right.called grammar id)).more
  rw [callRule_of_uncached limited.rightCache room]
  change right.calls + 1 ≤ _ at more
  have same := limited.calls
  omega

/-- Matching a rule with and without a limit goes side by side until the limit stops the one and the
other goes past it, if the one may go as deep as the other. -/
theorem descend_limited (free : grammar.isProcedureFree = true) (depth spare : Nat)
    (inStep : InStep (Limited limit) left right) :
    Tracks (InStep (Limited limit)) (some limit) (descend grammar (depth + spare) id left)
      (descend grammar depth id right) := by
  induction depth generalizing id left right with
  | zero => exact .lost
  | succ depth ih =>
    rw [Nat.succ_add]
    change Tracks _ _ (callRule grammar (descend grammar (depth + spare)) id left)
      (callRule grammar (descend grammar depth) id right)
    cases reached : left.limitReached with
    | true =>
      have stopped : callRule grammar (descend grammar (depth + spare)) id left =
          (.failed .callLimit, left) := by
        unfold callRule
        rw [reached]
        rfl
      rw [stopped]
      exact .curbed (decide_eq_true (inStep.side.callRule_past free reached depth id))
    | false =>
      have room := State.limitReached_of_unlimited inStep.side.rightLimit
      have called : InStep (Limited limit) (left.called grammar id) (right.called grammar id) :=
        { inStep with
          side := { inStep.side with calls := congrArg (· + 1) inStep.side.calls } }
      have paced : Paced (Limited limit) (some limit) (descend grammar (depth + spare))
          (descend grammar depth) :=
        { tracks := fun part _ _ inStep => ih inStep
          grows := fun part state => (Counted.descend free depth part state).more }
      rw [callRule_of_uncached inStep.side.leftCache reached,
        callRule_of_uncached inStep.side.rightCache room]
      exact (paced.matchAfresh (tandem_limited limit) free called id).imp fun _ => Closing.limited

end Rules

/-! ## Passes -/

section Passes

variable {grammar : Grammar P} {limit : Nat} {left right state next : State NodeStack}

variable [Procedures P]

/-- The passes over a source come to an end: by the rules of parsing expressions there is an answer
to each of them. -/
def PassesEnd (grammar : Grammar P) (state : State NodeStack) : Prop :=
  ∀ begun, Relation.ReflTransGen (Leads grammar) state begun → begun.scanner.atEnd = false →
    ∃ answer, RuleParse grammar grammar.root begun.scanner answer

/-- A pass leads to the state that it ends in and to no other. -/
theorem Leads.next_eq {other : State NodeStack} (leads : Leads grammar state next)
    (passed : pass grammar state = (.matched, other)) : other = next :=
  congrArg Prod.snd (passed.symm.trans leads.matched)

/-- At the end of the source the passes have come to an end. -/
theorem passesEnd_of_ended (ended : state.scanner.atEnd = true) : PassesEnd grammar state := by
  intro begun reached unfinished
  rcases reached.cases_head with rfl | ⟨next, leads, -⟩
  · rw [ended] at unfinished
    contradiction
  · have before := leads.unfinished
    rw [ended] at before
    contradiction

/-- Before the end of the source, the passes come to an end if there is an answer to the next one
and those behind it come to an end. -/
theorem passesEnd_iff (unfinished : state.scanner.atEnd = false) :
    PassesEnd grammar state ↔
      (∃ answer, RuleParse grammar grammar.root state.scanner answer) ∧
        ∀ next, Leads grammar state next → PassesEnd grammar next := by
  constructor
  · intro ends
    exact ⟨ends state .refl unfinished,
      fun next leads begun reached => ends begun (.head leads reached)⟩
  · rintro ⟨answered, later⟩ begun reached before
    rcases reached.cases_head with rfl | ⟨next, leads, further⟩
    · exact answered
    · exact later next leads begun further before

/-- Where the next pass does not lead on, there only has to be an answer to it. -/
theorem passesEnd_of_last (answered : ∃ answer, RuleParse grammar grammar.root state.scanner answer)
    (unfinished : state.scanner.atEnd = false) (last : ∀ next, ¬ Leads grammar state next) :
    PassesEnd grammar state :=
  (passesEnd_iff unfinished).mpr ⟨answered, fun next leads => absurd leads (last next)⟩

omit [Procedures P] in
/-- A state without a limit in step with one that has a limit is sound. -/
theorem Limited.sound (limited : Limited limit left right) : right.Sound grammar :=
  ⟨limited.rightLimit, Oracle.backs_of_uncached _ _ limited.rightCache⟩

/-- A pass from a sound state ends exactly if there is an answer to it. -/
theorem State.Sound.pass_ends_iff (free : grammar.isProcedureFree = true)
    (sound : state.Sound grammar) :
    (pass grammar state).1 ≠ .failed .divergence ↔
      ∃ answer, RuleParse grammar grammar.root state.scanner answer := by
  rcases pass_cases NodeStack.ledger free sound with ⟨result, known, answers⟩ | ⟨unknown, diverged⟩
  · refine iff_of_true (fun diverged => ?_)
      ⟨_, ruleParse_iff_finalVerdict.mpr ⟨result, known, rfl⟩⟩
    have ordinary := answers.ordinary
    rw [diverged] at ordinary
    contradiction
  · refine iff_of_false (not_not_intro diverged) ?_
    rintro ⟨answer, parse⟩
    obtain ⟨result, known, -⟩ := ruleParse_iff_finalVerdict.mp parse
    rw [unknown] at known
    contradiction

/-- Passes that use up the source come to an end. -/
theorem passesEnd_of_done (free : grammar.isProcedureFree = true) (sound : state.Sound grammar)
    {budget : Nat} (done : (runPasses grammar budget state).1 = none) :
    PassesEnd grammar state := by
  induction budget generalizing state with
  | zero =>
    rcases runPasses_done done with ⟨ended, -⟩ | ⟨-, rest, next, room, -⟩
    · exact passesEnd_of_ended ended
    · contradiction
  | succ budget ih =>
    rcases runPasses_done done with ⟨ended, -⟩ | ⟨unfinished, rest, next, room, passed, -, same⟩
    · exact passesEnd_of_ended ended
    · obtain rfl : budget = rest := Nat.succ.inj room
      obtain ⟨-, callLimit, memory⟩ := pass_forward NodeStack.ledger free sound.memory passed
      rw [same] at done
      have later := ih ⟨callLimit.trans sound.unlimited, memory⟩ done
      refine (passesEnd_iff unfinished).mpr
        ⟨(sound.pass_ends_iff free).mp (by rw [passed]; nofun), fun other leads => ?_⟩
      obtain rfl : next = other := leads.next_eq passed
      exact later

/-- A pass under a limit is stopped by it if a pass without one never ends. -/
theorem pass_curbed_of_lost (free : grammar.isProcedureFree = true)
    (inStep : InStep (Limited limit) left right) (few : left.calls ≤ limit)
    (lost : (pass grammar right).1 = .failed .divergence) :
    (pass grammar left).1 = .failed .callLimit := by
  have unknown : finalVerdict grammar grammar.root left.scanner = none := by
    rcases pass_cases NodeStack.ledger free inStep.side.sound with
      ⟨result, known, answers⟩ | ⟨unknown, -⟩
    · have ordinary := answers.ordinary
      rw [lost] at ordinary
      contradiction
    · rw [inStep.scanner, unknown]
  have finite := pass_ne_divergence free inStep.side.leftCache inStep.side.leftLimit few
  have obeys := descend_obeys NodeStack.ledger free
    (State.depthBound { left with attempts := .none, journal := [], mark := none } grammar)
    grammar.root { left with attempts := .none, journal := [], mark := none }
    (Oracle.backs_of_uncached _ _ inStep.side.leftCache)
  change Obeys _ _ _ _ _ _ (pass grammar left) at obeys
  generalize pass grammar left = result at obeys finite
  cases obeys with
  | answered verdict known answers =>
    change finalVerdict grammar grammar.root left.scanner = some verdict at known
    rw [unknown] at known
    contradiction
  | limited _ => rfl
  | diverged _ => exact absurd rfl finite

/-- A pass under a limit ends as the one without it, or it is stopped at its start and the one
without it goes past the limit or never ends. -/
theorem pass_limited (free : grammar.isProcedureFree = true)
    (inStep : InStep (Limited limit) left right) (few : left.calls ≤ limit) :
    (∃ outcome leftNext rightNext, pass grammar left = (outcome, leftNext) ∧
      pass grammar right = (outcome, rightNext) ∧ outcome.stops = false ∧
      InStep (Limited limit) leftNext rightNext ∧ leftNext.calls ≤ limit) ∨
    ((pass grammar left).1 = .failed .callLimit ∧
      (pass grammar left).2.position = left.position ∧
      ((pass grammar right).1 = .failed .divergence ∨ limit < (pass grammar right).2.calls)) := by
  have counted := (pass_counted free left).within limit inStep.side.leftLimit few
  have back : (pass grammar left).1 = .failed .callLimit →
      (pass grammar left).2.position = left.position := by
    intro stopped
    have passive : grammar.IsPassive NodeStack := .of_isProcedureFree free
    exact congrArg Scanner.position (descend_stopped_restores NodeStack.ledger passive
      (by change (pass grammar left).1.stops = true; rw [stopped]; rfl)).scanner
  have curbed := pass_curbed_of_lost free inStep few
  have tracks : Tracks (InStep (Limited limit)) (some limit) (pass grammar left)
      (pass grammar right) := by
    have room : State.depthBound { left with attempts := .none, journal := [], mark := none }
        grammar = State.depthBound { right with attempts := .none, journal := [], mark := none }
          grammar + limit := by
      simp only [State.depthBound, State.source, inStep.side.leftLimit, inStep.side.rightLimit,
        inStep.scanner, Option.getD_some, Option.getD_none, Nat.add_zero]
    unfold pass matchRule
    rw [room]
    exact descend_limited free _ _ ((tandem_limited limit).restarted inStep)
  generalize pass grammar left = leftResult at tracks counted back curbed
  generalize pass grammar right = rightResult at tracks curbed
  cases tracks with
  | matched related => exact .inl ⟨_, _, _, rfl, rfl, rfl, related, counted⟩
  | mismatched related => exact .inl ⟨_, _, _, rfl, rfl, rfl, related, counted⟩
  | curbed past => exact .inr ⟨rfl, back rfl, .inr (of_decide_eq_true past)⟩
  | lost => exact .inr ⟨curbed rfl, back (curbed rfl), .inl rfl⟩

/-- Passes only add calls. -/
theorem calls_le_runPasses (free : grammar.isProcedureFree = true) (budget : Nat)
    (state : State NodeStack) : state.calls ≤ (runPasses grammar budget state).2.calls := by
  induction budget generalizing state with
  | zero =>
    unfold runPasses
    split <;> exact Nat.le_refl _
  | succ budget ih =>
    have more := (pass_counted free state).more
    unfold runPasses
    split
    · exact Nat.le_refl _
    · generalize pass grammar state = result at more
      obtain ⟨outcome, next⟩ := result
      cases outcome with
      | matched =>
        simp only
        split
        · exact more
        · exact more.trans (ih next)
      | failed reason =>
        cases reason with
        | divergence => exact Nat.le_refl _
        | mismatch => exact more
        | callLimit => exact more

/-- Passes make the calls of the first of them, if it ends. -/
theorem calls_pass_le_runPasses (free : grammar.isProcedureFree = true)
    (unfinished : state.scanner.atEnd = false)
    (finite : (pass grammar state).1 ≠ .failed .divergence) (budget : Nat) :
    (pass grammar state).2.calls ≤ (runPasses grammar (budget + 1) state).2.calls := by
  match passed : pass grammar state with
  | (.failed reason, next) =>
    rw [passed] at finite
    rw [runPasses_of_failed unfinished passed (fun diverged => finite (by rw [diverged]))]
    exact Nat.le_refl _
  | (.matched, next) =>
    by_cases still : next.position = state.position
    · rw [runPasses_of_stalled unfinished passed still]
      exact Nat.le_refl _
    · rw [runPasses_of_matched unfinished passed still]
      exact calls_le_runPasses free budget next

/-- How passes under a limit compare with passes without one. -/
inductive Cutoff (grammar : Grammar P) (limit : Nat) (left right : State NodeStack)
    (leftResult rightResult : Option Diagnostic × State NodeStack) : Prop
  /-- The passes without a limit come to an end within it, and those under it end the same. -/
  | within (ends : PassesEnd grammar right) (few : rightResult.2.calls ≤ limit)
      (failure : leftResult.1 = rightResult.1)
      (builder : leftResult.2.builder = rightResult.2.builder)
      (errors : leftResult.2.errors = rightResult.2.errors) :
      Cutoff grammar limit left right leftResult rightResult
  /-- The passes without a limit go past it if they come to an end, and one of those under it is
  stopped. -/
  | beyond (past : PassesEnd grammar right → limit < rightResult.2.calls) {begun : State NodeStack}
      (reached : Relation.ReflTransGen (Leads grammar) left begun)
      (unfinished : begun.scanner.atEnd = false)
      (stopped : (pass grammar begun).1 = .failed .callLimit)
      (failure : leftResult.1 = some ⟨.point begun.position, "call limit reached"⟩) :
      Cutoff grammar limit left right leftResult rightResult

/-- Passes with and without a limit go on after one of them that both end the same way. -/
theorem Cutoff.of_leads {leftNext rightNext : State NodeStack}
    {leftResult rightResult : Option Diagnostic × State NodeStack}
    (answered : ∃ answer, RuleParse grammar grammar.root right.scanner answer)
    (leftLeads : Leads grammar left leftNext) (rightLeads : Leads grammar right rightNext)
    (later : Cutoff grammar limit leftNext rightNext leftResult rightResult) :
    Cutoff grammar limit left right leftResult rightResult := by
  have ends : PassesEnd grammar right ↔ PassesEnd grammar rightNext := by
    rw [passesEnd_iff rightLeads.unfinished]
    refine ⟨fun ends => ends.2 rightNext rightLeads, fun ends => ⟨answered, fun next leads => ?_⟩⟩
    obtain rfl : rightNext = next := leads.next_eq rightLeads.matched
    exact ends
  cases later with
  | within nextEnds few failure builder errors =>
    exact .within (ends.mpr nextEnds) few failure builder errors
  | beyond past reached unfinished stopped failure =>
    exact .beyond (past ∘ ends.mp) (.head leftLeads reached) unfinished stopped failure

/-- Passes that are stopped by a limit at once are cut off, if those without it go past the limit or
never end. -/
theorem Cutoff.of_stopped (free : grammar.isProcedureFree = true)
    (inStep : InStep (Limited limit) left right) (unfinished : left.scanner.atEnd = false)
    (stopped : (pass grammar left).1 = .failed .callLimit)
    (back : (pass grammar left).2.position = left.position)
    (past : (pass grammar right).1 = .failed .divergence ∨ limit < (pass grammar right).2.calls)
    (budget spare : Nat) :
    Cutoff grammar limit left right (runPasses grammar (spare + 1) left)
      (runPasses grammar (budget + 1) right) := by
  refine .beyond (fun ends => ?_) .refl unfinished stopped ?_
  · rw [inStep.scanner] at unfinished
    have finite : (pass grammar right).1 ≠ .failed .divergence :=
      (inStep.side.sound.pass_ends_iff free).mpr (ends right .refl unfinished)
    exact Nat.lt_of_lt_of_le (past.resolve_left finite)
      (calls_pass_le_runPasses free unfinished finite budget)
  · have passed : pass grammar left = (.failed .callLimit, (pass grammar left).2) :=
      Prod.ext stopped rfl
    rw [runPasses_of_failed unfinished passed nofun, ← back]
    rfl

/-- Passes under a limit end as those without it, unless these go past the limit or never end; then
one of the passes under the limit is stopped. -/
theorem runPasses_cutoff (free : grammar.isProcedureFree = true) (budget spare : Nat)
    (inStep : InStep (Limited limit) left right) (few : left.calls ≤ limit)
    (enough : right.source.length - right.position < budget) :
    Cutoff grammar limit left right (runPasses grammar (budget + spare) left)
      (runPasses grammar budget right) := by
  induction budget generalizing left right with
  | zero => omega
  | succ budget ih =>
    rw [Nat.succ_add]
    cases rightEnd : right.scanner.atEnd with
    | true =>
      have leftEnd : left.scanner.atEnd = true := by rw [inStep.scanner, rightEnd]
      rw [runPasses_of_ended leftEnd, runPasses_of_ended rightEnd]
      exact .within (passesEnd_of_ended rightEnd) (inStep.side.calls ▸ few) rfl inStep.builder
        inStep.errors
    | false =>
      have leftEnd : left.scanner.atEnd = false := by rw [inStep.scanner, rightEnd]
      have sound : right.Sound grammar := inStep.side.sound
      rcases pass_limited free inStep few with
        ⟨outcome, leftNext, rightNext, leftPassed, rightPassed, ordinary, related, within⟩ |
        ⟨stopped, back, past⟩
      · have answered := (sound.pass_ends_iff free).mp fun diverged => by
          rw [rightPassed] at diverged
          obtain rfl : outcome = .failed .divergence := diverged
          contradiction
        have calls : rightNext.calls ≤ limit := related.side.calls ▸ within
        have diagnosed := congrArg some (diagnose_eq related.scanner related.attempts .mismatch)
        match outcome with
        | .failed .mismatch =>
          rw [runPasses_of_failed leftEnd leftPassed nofun,
            runPasses_of_failed rightEnd rightPassed nofun]
          refine .within (passesEnd_of_last answered rightEnd fun next leads => ?_) calls diagnosed
            related.builder related.errors
          exact absurd (rightPassed.symm.trans leads.matched) nofun
        | .matched =>
          by_cases still : rightNext.position = right.position
          · have leftStill : leftNext.position = left.position := by
              rw [related.position, inStep.position, still]
            rw [runPasses_of_stalled leftEnd leftPassed leftStill,
              runPasses_of_stalled rightEnd rightPassed still]
            refine .within (passesEnd_of_last answered rightEnd fun next leads => ?_) calls
              diagnosed related.builder related.errors
            obtain rfl : rightNext = next := leads.next_eq rightPassed
            exact leads.onward still
          · have leftOnward : leftNext.position ≠ left.position := by
              rw [related.position, inStep.position]
              exact still
            have reached := (pass_forward NodeStack.ledger free sound.memory rightPassed).1
            have less : rightNext.source.length - rightNext.position < budget :=
              Nat.lt_of_lt_of_le (reached.remaining_lt still) (Nat.le_of_lt_succ enough)
            rw [runPasses_of_matched leftEnd leftPassed leftOnward,
              runPasses_of_matched rightEnd rightPassed still]
            exact .of_leads answered ⟨leftEnd, leftPassed, leftOnward⟩
              ⟨rightEnd, rightPassed, still⟩ (ih related within less)
      · exact .of_stopped free inStep leftEnd stopped back past _ _

end Passes

/-! ## Builds -/

/-- Passes that end with a diagnostic leave an error that has it among its causes. -/
theorem generate_fails {stack : NodeStack} (depth : stack.depth = 1) (errors : List Diagnostic)
    (diagnostic : Diagnostic) :
    ∃ error, (generate stack errors (some diagnostic)).1 = .error error ∧
      diagnostic ∈ error.causes := by
  have among : diagnostic ∈ errors ++ [diagnostic] :=
    List.mem_append_right errors (List.mem_singleton_self diagnostic)
  unfold generate
  rw [if_neg (not_not_intro depth)]
  simp only
  split
  · exact ⟨_, rfl, List.mem_append_left _ among⟩
  · exact ⟨_, rfl, among⟩

namespace Constructor

variable [Procedures P]

/-- Builds with and without a limit parse the source the same or are cut off. -/
theorem parse_cutoff {grammar : Grammar P} (free : grammar.isProcedureFree = true) (source : Source)
    {limit : Nat} (positive : 1 ≤ limit) :
    Cutoff grammar limit ((make grammar (Config.default.withCallLimit limit)).start source)
      ((make grammar .default).start source)
      (parse grammar ((make grammar (Config.default.withCallLimit limit)).start source))
      (parse grammar ((make grammar .default).start source)) := by
  have limited : (Config.default.withCallLimit limit).callLimit = some limit :=
    if_neg (Nat.ne_of_gt positive)
  have inStep : InStep (Limited limit)
      ((make grammar (Config.default.withCallLimit limit)).start source)
      ((make grammar .default).start source) :=
    { scanner := rfl, builder := rfl, errors := rfl, mark := rfl, attempts := rfl, journal := rfl
      negations := rfl
      side := ⟨limited, rfl, rfl, rfl, rfl⟩ }
  have room := ((make grammar .default).start source).length_lt_loopBound
  have more : ((make grammar .default).start source).loopBound ≤
      ((make grammar (Config.default.withCallLimit limit)).start source).loopBound :=
    Nat.mul_le_mul_left _ (Nat.succ_le_succ (Nat.zero_le _))
  obtain ⟨spare, bound⟩ := Nat.exists_eq_add_of_le more
  unfold parse
  rw [bound]
  exact runPasses_cutoff free _ spare inStep (Nat.zero_le _) (by omega)

/-- A call limit is a sharp cutoff of builds without a cache under a procedure-free grammar. If the
build without a limit comes to an end and calls no more rules than the limit allows, then the build
under the limit gives the same result and leaves the same diagnostics. Otherwise one of its passes
is stopped by the limit, and it gives an error with a cause that says so at the start of that pass.
-/
theorem build_withCallLimit {grammar : Grammar P} (free : grammar.isProcedureFree = true)
    (source : Source) {limit : Nat} (positive : 1 ≤ limit) :
    (PassesEnd grammar ((make grammar .default).start source) ∧
        (parse grammar ((make grammar .default).start source)).2.calls ≤ limit →
      ((make grammar (Config.default.withCallLimit limit)).build source).1.result =
          ((make grammar .default).build source).1.result ∧
        ((make grammar (Config.default.withCallLimit limit)).build source).2.errors =
          ((make grammar .default).build source).2.errors) ∧
    (¬ (PassesEnd grammar ((make grammar .default).start source) ∧
        (parse grammar ((make grammar .default).start source)).2.calls ≤ limit) →
      ∃ begun error,
        Relation.ReflTransGen (Leads grammar)
          ((make grammar (Config.default.withCallLimit limit)).start source) begun ∧
        begun.scanner.atEnd = false ∧ (pass grammar begun).1 = .failed .callLimit ∧
        ((make grammar (Config.default.withCallLimit limit)).build source).1.result =
          .error error ∧
        ⟨.point begun.position, "call limit reached"⟩ ∈ error.causes) := by
  have generated := (make grammar (Config.default.withCallLimit limit)).construct_generates source
  have plain := (make grammar .default).construct_generates source
  have level := level_of_start (NodeStack.bracketing_level.runPasses free
    ((make grammar (Config.default.withCallLimit limit)).start source).loopBound
    ((make grammar (Config.default.withCallLimit limit)).start source))
  cases parse_cutoff free source positive with
  | within ends few failure builder errors =>
    refine ⟨fun _ => ?_, fun cut => absurd ⟨ends, few⟩ cut⟩
    refine Prod.mk.inj (generated.trans (Eq.trans ?_ plain.symm))
    exact congr (congrArg₂ generate builder errors) failure
  | @beyond past begun reached unfinished stopped failure =>
    refine ⟨fun ⟨ends, few⟩ => absurd few (Nat.not_le_of_gt (past ends)), fun _ => ?_⟩
    obtain ⟨error, failed, among⟩ := generate_fails level.1
      (parse grammar ((make grammar (Config.default.withCallLimit limit)).start source)).2.errors
      ⟨.point begun.position, "call limit reached"⟩
    refine ⟨begun, error, reached, unfinished, stopped, ?_, among⟩
    refine (congrArg Prod.fst generated).trans (Eq.trans ?_ failed)
    exact congrArg (fun failure => (generate _ _ failure).1) failure

/-- A word and a shout take sixteen calls in two passes. A limit of sixteen changes nothing, and one
of fifteen stops the build in a pass that is named as the cause. -/
theorem build_withCallLimit_shouts :
    (((make .shouts (Config.default.withCallLimit 16)).build ⟨['a', ' ', 'b', '!']⟩).1.result =
        ((make .shouts .default).build ⟨['a', ' ', 'b', '!']⟩).1.result ∧
      ((make .shouts (Config.default.withCallLimit 16)).build ⟨['a', ' ', 'b', '!']⟩).2.errors =
        ((make .shouts .default).build ⟨['a', ' ', 'b', '!']⟩).2.errors) ∧
    ((make .shouts .default).build ⟨['a', ' ', 'b', '!']⟩).1.result.isOk = true ∧
    ∃ begun error,
      Relation.ReflTransGen (Leads .shouts)
        ((make .shouts (Config.default.withCallLimit 15)).start ⟨['a', ' ', 'b', '!']⟩) begun ∧
      begun.scanner.atEnd = false ∧ (pass .shouts begun).1 = .failed .callLimit ∧
      ((make .shouts (Config.default.withCallLimit 15)).build ⟨['a', ' ', 'b', '!']⟩).1.result =
        .error error ∧
      ⟨.point begun.position, "call limit reached"⟩ ∈ error.causes := by
  have done : (parse .shouts ((make .shouts .default).start ⟨['a', ' ', 'b', '!']⟩)).1 = none := by
    decide +kernel
  have calls :
      (parse .shouts ((make .shouts .default).start ⟨['a', ' ', 'b', '!']⟩)).2.calls = 16 := by
    decide +kernel
  have ends := passesEnd_of_done Grammar.isProcedureFree_shouts
    ((make .shouts .default).start_sound ⟨['a', ' ', 'b', '!']⟩ rfl) done
  have wide := @build_withCallLimit _ _ .shouts Grammar.isProcedureFree_shouts
    ⟨['a', ' ', 'b', '!']⟩ 16 (by decide)
  have narrow := @build_withCallLimit _ _ .shouts Grammar.isProcedureFree_shouts
    ⟨['a', ' ', 'b', '!']⟩ 15 (by decide)
  rw [calls] at wide narrow
  have cut := narrow.2 fun within => absurd within.2 (by decide)
  exact ⟨wide.1 ⟨ends, Nat.le_refl 16⟩, by decide +kernel, cut⟩

end Constructor

end Packrat
