import Packrat.Proofs.Effect
import Packrat.Proofs.StreamDiagnostics

/-!
# Grammars that match a source as a whole

The root of such a grammar ends where the source does and leaves a node wherever it matches
(`Grammar.MatchesWhole`). There is then one pass at most, and a build succeeds with some diagnostics
just if the root matches at the start of a source that is not empty and records them
(`Constructor.construct_whole`).
-/

namespace Packrat

variable {P : Type}

/-! ## Rules that leave nodes -/

/-- A rule leaves a node wherever it matches. -/
def Grammar.LeavesNodes (grammar : Grammar P) (id : RuleId) : Prop :=
  ∀ here result, finalVerdict grammar id here = some result →
    (result.reply grammar (grammar.rule id) here.position).matched = true →
    (result.reply grammar (grammar.rule id) here.position).nodes ≠ []

section Leaving

variable {given : List (String × Rule P)} {grammar : Grammar P} {rule : Rule P} {id : RuleId}

/-- A rule that takes what it matches leaves nodes if the productions of its matches do. -/
theorem Grammar.leavesNodes_of_trial (taking : (grammar.rule id).behaviour.lookahead = false)
    (leaves : ∀ here ended, Trial.repeated grammar (finalVerdict grammar) (grammar.rule id)
        (.start here) = .matched ended →
      (production (grammar.rule id) (ended.mark.content ended.scanner.position)).leaves
        ended.nodes ≠ []) : grammar.LeavesNodes id := by
  intro here result known matched
  rw [← finalVerdict_eq_step, Oracle.step] at known
  cases trial : Trial.repeated grammar (finalVerdict grammar) (grammar.rule id) (.start here) with
  | diverged => simp [trial, Trial.conclude] at known
  | failed journal =>
    rw [trial] at known
    obtain rfl := Option.some.inj known
    simp only [MatchResult.reply] at matched ⊢
    rw [if_pos matched]
    exact List.cons_ne_nil _ _
  | matched ended =>
    rw [trial] at known
    obtain rfl := Option.some.inj known
    simp only [MatchResult.reply, Trial.remembered, taking, Bool.false_eq_true, ↓reduceIte]
    exact leaves here ended trial

/-- A structural rule that keeps its node leaves it. -/
theorem Rule.Stands.leavesNodes_of_structural (stands : rule.Stands given grammar id)
    {token : Token} (structural : rule.behaviour.kind = .structural token)
    (taking : rule.behaviour.lookahead = false) (kept : rule.annotations.void = false)
    (shown : rule.annotations.transient = false) : grammar.LeavesNodes id := by
  obtain ⟨behaviour, annotations, _⟩ := stands.rule_eq
  have shape : (grammar.rule id).shape = .node := by
    simp [Occurrence.shape, behaviour, annotations, structural, kept, shown]
  have tokened : (grammar.rule id).token.isSome = true := by
    simp [Occurrence.token, Behaviour.token, behaviour, structural]
  obtain ⟨shownToken, has⟩ := Option.isSome_iff_exists.mp tokened
  refine Grammar.leavesNodes_of_trial (by rw [behaviour, taking]) fun here ended _ => ?_
  rw [production, shape, has]
  exact List.cons_ne_nil _ _

/-- A rule that hands on the nodes of its parts and is matched once leaves nodes if its test does.
-/
theorem Rule.Stands.leavesNodes_of_test (stands : rule.Stands given grammar id)
    (scanning : rule.behaviour = .scanning)
    (leaves : ∀ here ended, Trial.test grammar (finalVerdict grammar)
        (grammar.testOf (grammar.rule id)) (.start here) = .matched ended → ended.nodes ≠ []) :
    grammar.LeavesNodes id := by
  obtain ⟨behaviour, _, _⟩ := stands.rule_eq
  rw [scanning] at behaviour
  have shape : (grammar.rule id).shape = .transparent := by
    simp [Occurrence.shape, behaviour, Behaviour.scanning]
  refine Grammar.leavesNodes_of_trial (by rw [behaviour]; rfl) fun here ended repeated => ?_
  have transparent : ∀ span, production (grammar.rule id) span = .transparent := by
    intro span
    rw [production, shape]
  rw [Trial.repeated_once (by rw [behaviour]; rfl) (by rw [behaviour]; rfl)] at repeated
  rw [transparent]
  exact leaves here ended repeated

/-- A part that leaves nodes leaves them to the rule around it. -/
theorem Trial.nodes_of_call (leaves : grammar.LeavesNodes id) {progress next : Progress}
    (matched : call grammar (finalVerdict grammar) id progress = .matched next) :
    next.nodes ≠ [] := by
  obtain ⟨result, known, taken⟩ := exists_of_call matched
  obtain ⟨accepted, rfl⟩ := Progress.eq_of_take taken
  have left := leaves progress.scanner result known accepted
  simp [left]

/-- Parts that are matched in order leave nodes if there are some or one of the parts does. -/
theorem Trial.nodes_of_all {parts : List RuleId} {progress next : Progress}
    (leaves : progress.nodes ≠ [] ∨ ∃ part ∈ parts, grammar.LeavesNodes part)
    (matched : all grammar (finalVerdict grammar) parts progress = .matched next) :
    next.nodes ≠ [] := by
  induction parts generalizing progress with
  | nil =>
    obtain rfl := Trial.matched.inj matched
    simpa using leaves
  | cons id later ih =>
    unfold Trial.all at matched
    split at matched
    · rename_i middle called
      refine ih ?_ matched
      rcases leaves with there | ⟨part, member, leaving⟩
      · obtain ⟨result, _, taken⟩ := exists_of_call called
        obtain ⟨_, rfl⟩ := Progress.eq_of_take taken
        exact .inl (by simp [there])
      · rcases List.mem_cons.mp member with rfl | member
        · exact .inl (nodes_of_call leaving called)
        · exact .inr ⟨part, member, leaving⟩
    · contradiction
    · contradiction

/-- A reference leaves nodes if the definition does. -/
theorem Rule.Stands.leavesNodes_of_reference {name : String} {definition : RuleId}
    (stands : (Rule.reference name).Stands given grammar id)
    (defined : given.findIdx? (·.1 == name) = some definition)
    (leaves : grammar.LeavesNodes definition) : grammar.LeavesNodes id := by
  obtain ⟨_, _, renders⟩ := stands.rule_eq
  refine stands.leavesNodes_of_test rfl fun here ended tested => ?_
  generalize grammar.testOf (grammar.rule id) = test at renders tested
  cases renders with
  | reference found =>
    obtain rfl := Option.some.inj (defined.symm.trans found)
    exact Trial.nodes_of_call leaves tested
  | substitute replaced => contradiction

/-- A sequence leaves nodes if one of its parts does. -/
theorem Rule.Stands.leavesNodes_of_sequence {rules : List (Rule P)}
    (stands : (Rule.sequence rules).Stands given grammar id) {part : Rule P} (member : part ∈ rules)
    (leaves : ∀ inner, part.Stands given grammar inner → grammar.LeavesNodes inner) :
    grammar.LeavesNodes id := by
  obtain ⟨_, _, renders⟩ := stands.rule_eq
  refine stands.leavesNodes_of_test rfl fun here ended tested => ?_
  generalize grammar.testOf (grammar.rule id) = test at renders tested
  have standing : ∀ {rules : List (Rule P)} {parts : List RuleId},
      Draft.RendersAll given grammar.rules rules parts → part ∈ rules →
        ∃ inner ∈ parts, part.Stands given grammar inner := by
    intro rules parts all member
    induction rules generalizing parts with
    | nil => contradiction
    | cons first later ih =>
      cases all with
      | cons here rest =>
        rcases List.mem_cons.mp member with rfl | member
        · exact ⟨_, List.mem_cons_self, Rule.stands_of_part here⟩
        · obtain ⟨inner, listed, stands⟩ := ih rest member
          exact ⟨inner, List.mem_cons_of_mem _ listed, stands⟩
  cases renders with
  | sequence all =>
    obtain ⟨inner, listed, stands⟩ := standing all member
    exact Trial.nodes_of_all (.inr ⟨inner, listed, leaves inner stands⟩) tested

end Leaving

/-! ## Builds -/

/-- A grammar without procedures whose root ends where the source does, and leaves a node. -/
structure Grammar.MatchesWhole (grammar : Grammar P) : Prop where
  /-- There are no procedures. -/
  free : grammar.isProcedureFree = true
  /-- The root ends where the source does. -/
  ends : ∀ {here next : Scanner} {diagnostics : List Diagnostic},
    grammar.effect grammar.root here = .matched next diagnostics → next.atEnd = true
  /-- The root leaves a node. -/
  leaves : grammar.LeavesNodes grammar.root

variable [Procedures P]

/-- A pass from a sound state at a cursor where the root matches ends where the root does, and adds
the nodes and the diagnostics that the root leaves. -/
theorem pass_of_effect {grammar : Grammar P} (free : grammar.isProcedureFree = true)
    {state : State NodeStack} (sound : state.Sound grammar) {next : Scanner}
    {diagnostics : List Diagnostic}
    (matched : grammar.effect grammar.root state.scanner = .matched next diagnostics) :
    ∃ nodes ended, pass grammar state = (.matched, ended) ∧ ended.scanner = next ∧
      ended.builder = state.builder.adding nodes ∧ ended.errors = state.errors ++ diagnostics ∧
      (grammar.LeavesNodes grammar.root → nodes ≠ []) := by
  unfold Grammar.effect at matched
  rcases pass_cases NodeStack.ledger free sound with ⟨result, known, answers⟩ | ⟨unknown, _⟩
  · rw [known] at matched
    simp only [Reply.effect] at matched
    split at matched
    · rename_i accepted
      obtain ⟨rfl, rfl⟩ := Effect.matched.inj matched
      have outcome : (pass grammar state).1 = .matched := answers.outcome.trans (if_pos accepted)
      exact ⟨_, _, Prod.ext outcome rfl, answers.scanner, answers.builder, answers.errors,
        fun leaves => leaves state.scanner result known accepted⟩
    · contradiction
  · rw [unknown] at matched
    contradiction

namespace Grammar.MatchesWhole

variable {grammar : Grammar P} {source : Source}

/-- A source that is not empty is not used up at its start. -/
theorem start_unfinished (filled : source.chars ≠ []) : (Scanner.start source).atEnd = false :=
  decide_eq_false (Nat.not_le.mpr (List.length_pos_iff.mpr filled))

/-- Where the root matches at the start of a source that is not empty, parsing ends with its nodes
and its diagnostics. -/
theorem parse_of_matched (whole : grammar.MatchesWhole) (filled : source.chars ≠ [])
    {next : Scanner} {diagnostics : List Diagnostic}
    (matched : grammar.effect grammar.root (.start source) = .matched next diagnostics) :
    ∃ nodes ended, nodes ≠ [] ∧
      Packrat.parse grammar ((Constructor.make grammar .default).start source) = (none, ended) ∧
      ended.builder = ⟨[], ⟨nodes⟩⟩ ∧ ended.errors = diagnostics := by
  obtain ⟨nodes, ended, passed, rfl, builder, errors, left⟩ := pass_of_effect whole.free
    ((Constructor.make grammar .default).start_sound source rfl) matched
  have atEnd := whole.ends matched
  have started := start_unfinished filled
  have reached := (pass_forward NodeStack.ledger whole.free
    ((Constructor.make grammar .default).start_sound source rfl).memory passed).1
  have onward : ended.position ≠
      ((Constructor.make grammar .default).start source).position := by
    have sources : ended.scanner.source = source := reached.source
    have last : ended.scanner.source.length ≤ ended.scanner.position := of_decide_eq_true atEnd
    have some : 0 < source.chars.length := List.length_pos_iff.mpr filled
    rw [sources] at last
    exact Nat.ne_of_gt (Nat.lt_of_lt_of_le some last)
  have bound := State.length_lt_loopBound ((Constructor.make grammar .default).start source)
  obtain ⟨budget, more⟩ : ∃ budget,
      ((Constructor.make grammar .default).start source).loopBound = budget + 1 :=
    ⟨_, (Nat.succ_pred_eq_of_pos (Nat.lt_of_le_of_lt (Nat.zero_le _) bound)).symm⟩
  refine ⟨nodes, ended, left whole.leaves, ?_, ?_, errors⟩
  · rw [Packrat.parse, more, runPasses_of_matched started passed onward, runPasses_of_ended atEnd]
  · rw [builder]
    exact NodeStack.adding_root rfl nodes

/-- Where parsing uses up a source that is not empty, the root matches at its start. -/
theorem exists_of_parse (whole : grammar.MatchesWhole) (filled : source.chars ≠ [])
    (done : (Packrat.parse grammar ((Constructor.make grammar .default).start source)).1 = none) :
    ∃ next diagnostics,
      grammar.effect grammar.root (.start source) = .matched next diagnostics := by
  rcases runPasses_done done with ⟨ended, _⟩ | ⟨_, rest, next, _, passed, _⟩
  · have unfinished := start_unfinished filled
    change (Scanner.start source).atEnd = true at ended
    rw [unfinished] at ended
    contradiction
  · obtain ⟨result, known, answers⟩ := pass_answered NodeStack.ledger whole.free
      ((Constructor.make grammar .default).start_sound source rfl).memory passed
    change finalVerdict grammar grammar.root (.start source) = some result at known
    have outcome := answers.outcome
    unfold effect
    rw [known]
    simp only [Reply.effect]
    split at outcome
    · rename_i accepted
      exact ⟨_, _, if_pos accepted⟩
    · contradiction

end Grammar.MatchesWhole

/-- A build with a grammar that matches sources as a whole succeeds with some diagnostics just if
the source is not empty and the root matches at its start and records them. -/
theorem Constructor.construct_whole {grammar : Grammar P} (whole : grammar.MatchesWhole)
    (source : Source) (diagnostics : List Diagnostic) :
    (((make grammar .default).construct source).result.isOk = true ∧
      ((make grammar .default).construct source).errors = diagnostics) ↔
    source.chars ≠ [] ∧ ∃ next,
      grammar.effect grammar.root (.start source) = .matched next diagnostics := by
  have generated := (make grammar .default).construct_generates source
  have built : ∀ {nodes : List Node} {ended : State NodeStack}, nodes ≠ [] →
      parse grammar ((make grammar .default).start source) = (none, ended) →
      ended.builder = ⟨[], ⟨nodes⟩⟩ →
      ((make grammar .default).construct source).result.isOk = true ∧
        ((make grammar .default).construct source).errors = ended.errors := by
    intro nodes ended some parsed stack
    change _ = generate (parse grammar _).2.builder (parse grammar _).2.errors
      (parse grammar _).1 at generated
    rw [parsed, stack] at generated
    obtain ⟨result, errors⟩ := Prod.mk.inj generated
    rw [result, errors]
    match nodes, some with
    | [only], _ => exact ⟨rfl, List.append_nil _⟩
    | first :: second :: later, _ => exact ⟨rfl, List.append_nil _⟩
  constructor
  · rintro ⟨succeeded, recorded⟩
    obtain ⟨tree, result⟩ :
        ∃ tree, ((make grammar .default).construct source).result = .ok tree := by
      cases known : ((make grammar .default).construct source).result with
      | ok tree => exact ⟨tree, rfl⟩
      | error fault => simp [known, Except.isOk, Except.toBool] at succeeded
    have gathered := gathered_of_generate ((congrArg Prod.fst generated).symm.trans result)
    have filled : source.chars ≠ [] := by
      intro empty
      have ended : ((make grammar .default).start source).scanner.atEnd = true := by
        refine decide_eq_true ?_
        change source.chars.length ≤ 0
        rw [empty, List.length_nil]
      have nothing : parse grammar ((make grammar .default).start source) =
          (none, (make grammar .default).start source) := runPasses_of_ended ended _
      have found := gathered.2
      change Node.gather
        (parse grammar ((make grammar .default).start source)).2.builder.top.nodes =
          some tree at found
      rw [nothing] at found
      contradiction
    obtain ⟨next, others, matched⟩ := whole.exists_of_parse filled gathered.1
    obtain ⟨nodes, ended, some, parsed, stack, errors⟩ := whole.parse_of_matched filled matched
    have same := (built some parsed stack).2
    rw [recorded, errors] at same
    exact ⟨filled, next, same ▸ matched⟩
  · rintro ⟨filled, next, matched⟩
    obtain ⟨nodes, ended, some, parsed, stack, errors⟩ := whole.parse_of_matched filled matched
    rw [← errors]
    exact built some parsed stack

end Packrat
