import Packrat.Proofs.Bounds
import Packrat.Proofs.Effect
import Packrat.Proofs.StreamNodes
import Packrat.Proofs.Trimming

/-!
# Lexing

The root of a grammar for streams is often a choice of references, one for each kind of token. Such
a rule lexes at a cursor: it matches without a diagnostic, leaves some nodes, and whatever fails on
the way fails before a node is left (`Grammar.Lexes`). Or it refuses: it fails, and no rule that was
tried for it was tried further on (`Grammar.Refuses`). What references and choices do follows from
what the rules do that they refer to.

If the root lexes in one pass after the other (`Grammar.Lexing`), a stream yields the nodes of all
passes, up to the end of the source (`Paired.yields_all`) or to where the root refuses, and there it
records one diagnostic, at the cursor (`Paired.yields_refused`).
-/

namespace Packrat

variable {P : Type} {grammar : Grammar P} {id : RuleId} {here next : Scanner} {nodes : List Node}

/-! ## Rules without skipped parts -/

/-- Whether a rule is not skipped, and no part of it is that is looked through, at most to some
depth. -/
def Grammar.isSolid (grammar : Grammar P) : Nat → RuleId → Bool
  | 0, _ => false
  | depth + 1, id =>
    !(grammar.rule id).behaviour.isSkipping &&
      (!grammar.isTransparent (grammar.rule id) ||
        (grammar.testOf (grammar.rule id)).callees.all (grammar.isSolid depth))

mutual
/-- No item of a rule without skipped parts is skipped. -/
theorem PartItems.isSolid {id : RuleId} {here : Scanner} {items : List Item} {depth : Nat}
    (solid : grammar.isSolid depth id = true) :
    PartItems grammar id here items → ∀ item ∈ items, item.isSolid = true
  | .ahead _ _ => nofun
  | .recovered _ => fun _ member => List.mem_singleton.mp member ▸ rfl
  | .through _ transparent inside => by
    cases depth with
    | zero => contradiction
    | succ depth =>
      rw [Grammar.isSolid, transparent, Bool.not_true, Bool.false_or, Bool.and_eq_true] at solid
      exact inside.isSolid solid.2
  | .whole _ _ _ => by
    cases depth with
    | zero => contradiction
    | succ depth =>
      rw [Grammar.isSolid, Bool.and_eq_true] at solid
      exact fun _ member => List.mem_singleton.mp member ▸ solid.1

/-- No item of repetition is skipped if no part is. -/
theorem RepeatItems.isSolid {rule : Occurrence P} {count : Nat} {here : Scanner} {items : List Item}
    {depth : Nat} (solid : (grammar.testOf rule).callees.all (grammar.isSolid depth) = true) :
    RepeatItems grammar rule count here items → ∀ item ∈ items, item.isSolid = true
  | .full _ => nofun
  | .failure _ _ => nofun
  | .standing _ _ _ test => test.isSolid solid
  | .further _ _ _ test rest => fun item member =>
    (List.mem_append.mp member).elim (test.isSolid solid item) (rest.isSolid solid item)

/-- No item of a test is skipped if no part is. -/
theorem TestItems.isSolid {test : Test P} {here : Scanner} {items : List Item} {depth : Nat}
    (solid : test.callees.all (grammar.isSolid depth) = true) :
    TestItems grammar test here items → ∀ item ∈ items, item.isSolid = true
  | .reference part => part.isSolid (List.all_eq_true.mp solid _ List.mem_cons_self)
  | .group part => part.isSolid (List.all_eq_true.mp solid _ List.mem_cons_self)
  | .sequence all => all.isSolid solid
  | .choice first => first.isSolid solid

/-- No item of parts in order is skipped if no part is. -/
theorem AllItems.isSolid {parts : List RuleId} {here : Scanner} {items : List Item} {depth : Nat}
    (solid : parts.all (grammar.isSolid depth) = true) :
    AllItems grammar parts here items → ∀ item ∈ items, item.isSolid = true
  | .nil => nofun
  | .cons _ part rest => fun item member => by
    rw [List.all_cons, Bool.and_eq_true] at solid
    exact (List.mem_append.mp member).elim (part.isSolid solid.1 item) (rest.isSolid solid.2 item)

/-- No item of the first part that matches is skipped if no part is. -/
theorem FirstItems.isSolid {parts : List RuleId} {here : Scanner} {items : List Item} {depth : Nat}
    (solid : parts.all (grammar.isSolid depth) = true) :
    FirstItems grammar parts here items → ∀ item ∈ items, item.isSolid = true
  | .here _ part => by
    rw [List.all_cons, Bool.and_eq_true] at solid
    exact part.isSolid solid.1
  | .later _ rest => by
    rw [List.all_cons, Bool.and_eq_true] at solid
    exact rest.isSolid solid.2
end

/-- The last of an item and a row behind it ends where the row does. -/
theorem InRow.stop_getLastD {first last : Nat} {items : List Item} (row : InRow first items last)
    {item : Item} (ends : item.stop = first) : (items.getLastD item).stop = last := by
  induction row generalizing item with
  | nil => exact ends
  | cons _ _ ih =>
    rw [List.getLastD_cons]
    exact ih rfl

/-- The hull of all items of a row runs from one end of it to the other. -/
theorem InRow.hull_eq {first last : Nat} {items : List Item} (row : InRow first items last) :
    hull last items = ⟨first, last⟩ := by
  cases row with
  | nil => rfl
  | cons _ row => rw [hull, row.stop_getLastD rfl]

/-- The content of a match of a rule without skipped parts is the match. -/
theorem Trial.content_of_solid [Procedures P] (free : grammar.isProcedureFree = true)
    {rule : Occurrence P}
    {depth : Nat} (solid : (grammar.testOf rule).callees.all (grammar.isSolid depth) = true)
    {ended : Progress}
    (matched : repeated grammar (finalVerdict grammar) rule (.start here) = .matched ended) :
    ended.mark.content ended.scanner.position = ⟨here.position, ended.scanner.position⟩ := by
  have itemizes := finalVerdict_itemizes free
  cases made : grammar.isMadeOfParts rule with
  | true =>
    obtain ⟨items, inside, row, _, noted⟩ := repeated_items itemizes made matched
    rw [noted, row.content, List.filter_eq_self.mpr (inside.isSolid solid), row.hull_eq]
  | false =>
    have reached := (keeps_reaches itemizes.forward here).rounds (.refl _) matched
    rw [repeated_mark made matched, Mark.content_start reached.forward]

/-! ## Nodes that are left last -/

/-- Some rules fail, and then perhaps a node is left. -/
inductive LeavesLast : List Event → Prop
  /-- Nothing happens. -/
  | nothing : LeavesLast []
  /-- A node is left, and nothing happens after it. -/
  | left (level : Nat) : LeavesLast [.left level]
  /-- A rule fails before the others do. -/
  | failed (level : Nat) {later : List Event} (rest : LeavesLast later) :
      LeavesLast (.failed level :: later)

namespace LeavesLast

variable {events failures : List Event}

/-- A node that is left last stays. -/
theorem orderly (last : LeavesLast events) : Orderly events := by
  induction last with
  | nothing => exact .nil
  | left level => exact List.pairwise_singleton _ _
  | failed level rest ih => exact .cons (fun _ _ => rfl) ih

/-- A node that is left last is not hidden. -/
theorem shown (last : LeavesLast events) : .hidden ∉ events := by
  induction last with
  | nothing => nofun
  | left level => simp
  | failed level rest ih => simpa using ih

/-- Rules may fail before a node is left last. -/
theorem append (all : ∀ event ∈ failures, event.isFailed = true) (last : LeavesLast events) :
    LeavesLast (failures ++ events) := by
  induction failures with
  | nil => exact last
  | cons event others ih =>
    obtain ⟨fails, rest⟩ := List.forall_mem_cons.mp all
    cases event with
    | failed level => exact .failed level (ih rest)
    | left level => contradiction
    | hidden => contradiction

end LeavesLast

/-! ## Rules that refuse -/

/-- Rules that failed at a position, none of them recovered from, and nothing was tried behind the
position for them. -/
def AreVain (grammar : Grammar P) (position : Nat) (attempts : List Attempt) : Prop :=
  ∀ attempt ∈ attempts, ∃ id inside, attempt = .rule id position false inside ∧
    (grammar.rule id).annotations.pinned = false ∧ Attempt.allStartBy position inside = true

/-- Rules that failed at a position were tried there. -/
theorem AreVain.allStartBy {position : Nat} {attempts : List Attempt}
    (vain : AreVain grammar position attempts) : Attempt.allStartBy position attempts = true := by
  refine Attempt.allStartBy_iff.mpr fun attempt member => ?_
  obtain ⟨id, inside, rfl, _, near⟩ := vain attempt member
  rw [Attempt.startsBy, near, Bool.and_true]
  exact decide_eq_true (Nat.le_refl position)

/-- Nothing but failures happens while rules fail that are not recovered from. -/
theorem AreVain.isFailed {position level : Nat} {attempts : List Attempt}
    (vain : AreVain grammar position attempts) :
    ∀ event ∈ Attempt.eventsAll grammar level attempts, event.isFailed = true := by
  induction attempts with
  | nil =>
    rw [Attempt.eventsAll]
    nofun
  | cons attempt later ih =>
    obtain ⟨⟨id, inside, rfl, unpinned, _⟩, rest⟩ := List.forall_mem_cons.mp vain
    rw [Attempt.eventsAll, Attempt.events, unpinned]
    exact List.forall_mem_cons.mpr ⟨rfl, ih rest⟩

/-- A rule fails at a cursor and is not recovered from, and nothing was tried behind the cursor for
it. -/
structure Grammar.Refuses (grammar : Grammar P) (id : RuleId) (here : Scanner) : Prop where
  /-- The rule is not recovered from. -/
  unpinned : (grammar.rule id).annotations.pinned = false
  /-- The rule fails. -/
  fails : ∃ inside, finalVerdict grammar id here =
      some (.failure [.rule id here.position false inside]) ∧
    Attempt.allStartBy here.position inside = true

/-- Whether a rule of a behaviour fails where its test does. -/
def Behaviour.demands (behaviour : Behaviour) : Bool :=
  !behaviour.negate && !behaviour.cardinality.accepts 0 && behaviour.cardinality.maximum != some 0

/-- A rule that has to be matched fails where its test does. -/
theorem Trial.repeated_failed {oracle : Oracle} {rule : Occurrence P} {progress : Progress}
    {journal : List Attempt} (demands : rule.behaviour.demands = true)
    (failed : test grammar oracle (grammar.testOf rule) progress = .failed journal) :
    repeated grammar oracle rule progress = .failed journal := by
  simp only [Behaviour.demands, Bool.and_eq_true, Bool.not_eq_true', bne_iff_ne] at demands
  obtain ⟨⟨plain, needed⟩, room⟩ := demands
  have budget : rule.behaviour.cardinality.maximum.getD (progress.scanner.source.length + 2) ≠
      0 := by
    cases bound : rule.behaviour.cardinality.maximum with
    | none => exact Nat.succ_ne_zero _
    | some most => exact fun zero => room (bound.trans (congrArg some zero))
  obtain ⟨spare, enough⟩ := Nat.exists_eq_succ_of_ne_zero budget
  rw [repeated, enough, rounds, once, plain]
  simp only [Bool.false_eq_true, if_false, failed, settle, needed]

/-- A rule that has to be matched refuses where its test fails with nothing tried further on. -/
theorem Grammar.refuses_of_test (demands : (grammar.rule id).behaviour.demands = true)
    (unpinned : (grammar.rule id).annotations.pinned = false) {journal : List Attempt}
    (failed : Trial.test grammar (finalVerdict grammar) (grammar.testOf (grammar.rule id))
      (.start here) = .failed journal)
    (near : Attempt.allStartBy here.position journal = true) : grammar.Refuses id here := by
  refine ⟨unpinned, journal.reverse, ?_, Attempt.allStartBy_reverse near⟩
  rw [← finalVerdict_eq_step, Oracle.step, Trial.repeated_failed demands failed]
  rfl

/-- A part that refuses fails, and is noted. -/
theorem Grammar.Refuses.call {progress : Progress} (refuses : grammar.Refuses id progress.scanner) :
    ∃ attempt, AreVain grammar progress.scanner.position [attempt] ∧
      Trial.call grammar (finalVerdict grammar) id progress =
        .failed (attempt :: progress.journal) := by
  obtain ⟨unpinned, inside, known, near⟩ := refuses
  refine ⟨.rule id progress.scanner.position false inside, ?_, ?_⟩
  · intro attempt member
    exact ⟨id, inside, List.mem_singleton.mp member, unpinned, near⟩
  · simp only [Trial.call, known, Progress.take, MatchResult.reply, unpinned]
    rfl

/-- After parts that refuse the others are tried. -/
theorem Trial.first_refused {earlier later : List RuleId} {progress : Progress}
    (refuse : ∀ part ∈ earlier, grammar.Refuses part progress.scanner) :
    ∃ failures, AreVain grammar progress.scanner.position failures ∧
      first grammar (finalVerdict grammar) (earlier ++ later) progress =
        first grammar (finalVerdict grammar) later
          { progress with journal := failures.reverse ++ progress.journal } := by
  induction earlier generalizing progress with
  | nil => exact ⟨[], nofun, rfl⟩
  | cons part others ih =>
    obtain ⟨refuses, rest⟩ := List.forall_mem_cons.mp refuse
    obtain ⟨attempt, vain, called⟩ := refuses.call
    obtain ⟨failures, alsoVain, tried⟩ := @ih
      { progress with journal := attempt :: progress.journal } rest
    refine ⟨attempt :: failures, ?_, ?_⟩
    · exact List.forall_mem_cons.mpr ⟨vain attempt List.mem_cons_self, alsoVain⟩
    · rw [List.cons_append, first, called]
      simp only [tried, List.reverse_cons, List.append_assoc, List.singleton_append]

namespace Grammar

section Refusing

variable {parts : List RuleId} {part target : RuleId}
  (demands : (grammar.rule id).behaviour.demands = true)
  (unpinned : (grammar.rule id).annotations.pinned = false)

include demands unpinned

/-- A rule with a terminal refuses where the terminal finds nothing. -/
theorem refuses_of_scan {terminal : Terminal}
    (test : grammar.testOf (grammar.rule id) = .terminal terminal)
    (missing : terminal.scan here = none) : grammar.Refuses id here := by
  have failed : Trial.test grammar (finalVerdict grammar) (grammar.testOf (grammar.rule id))
      (.start here) = .failed [] := by
    have begun : (Progress.start here).scanner = here := rfl
    rw [test, Trial.test, begun, missing]
    rfl
  exact refuses_of_test demands unpinned failed rfl

/-- A reference refuses where the rule does that it refers to. -/
theorem Refuses.reference (test : grammar.testOf (grammar.rule id) = .reference target)
    (refuses : grammar.Refuses target here) : grammar.Refuses id here := by
  obtain ⟨attempt, vain, called⟩ := @Refuses.call _ _ _ (.start here) refuses
  refine refuses_of_test demands unpinned ?_ vain.allStartBy
  rw [test]
  exact called

/-- A sequence refuses where its first part does. -/
theorem Refuses.sequence (test : grammar.testOf (grammar.rule id) = .sequence (part :: parts))
    (refuses : grammar.Refuses part here) : grammar.Refuses id here := by
  obtain ⟨attempt, vain, called⟩ := @Refuses.call _ _ _ (.start here) refuses
  refine refuses_of_test demands unpinned ?_ vain.allStartBy
  rw [test, Trial.test, Trial.all, called]
  rfl

/-- A choice refuses where all parts do. -/
theorem refuses_of_choice (test : grammar.testOf (grammar.rule id) = .choice parts)
    (refuse : ∀ part ∈ parts, grammar.Refuses part here) : grammar.Refuses id here := by
  obtain ⟨failures, vain, tried⟩ := @Trial.first_refused _ _ parts [] (.start here) refuse
  refine refuses_of_test demands unpinned ?_ (Attempt.allStartBy_reverse vain.allStartBy)
  rw [test, Trial.test, ← List.append_nil parts, tried]
  exact congrArg Trial.failed (List.append_nil _)

end Refusing

end Grammar

/-! ## Rules that lex -/

/-- A rule matches between two cursors without a diagnostic and leaves some nodes, and nothing fails
after a node is left. -/
def Grammar.Lexes (grammar : Grammar P) (id : RuleId) (here : Scanner) (nodes : List Node)
    (next : Scanner) : Prop :=
  ∃ remembered, finalVerdict grammar id here = some (.success remembered) ∧
    here.moveTo remembered.stop = next ∧ remembered.nodes = nodes ∧
    remembered.diagnostics = [] ∧
    ∀ level, LeavesLast (Attempt.eventsAll grammar level remembered.attempts)

/-- A part that lexes matches, and is noted. -/
theorem Grammar.Lexes.call {progress : Progress}
    (lexes : grammar.Lexes id progress.scanner nodes next) :
    ∃ mark attempts, (∀ level, LeavesLast (Attempt.eventsAll grammar level attempts)) ∧
      Trial.call grammar (finalVerdict grammar) id progress =
        .matched ⟨next, progress.nodes ++ nodes, progress.diagnostics, mark,
          attempts.reverse ++ progress.journal⟩ := by
  obtain ⟨remembered, known, rfl, rfl, clean, last⟩ := lexes
  let reply := (MatchResult.success remembered).reply grammar (grammar.rule id)
    progress.scanner.position
  refine ⟨reply.change progress.mark, remembered.attempts, last, ?_⟩
  simp only [Trial.call, known, Progress.take, MatchResult.reply, clean, List.append_nil]
  rfl

namespace Grammar

/-- A rule that hands on what its test leaves lexes where its test matches without a diagnostic and
nothing fails after a node is left. -/
theorem lexes_of_test (scanning : (grammar.rule id).behaviour = .scanning) {ended : Progress}
    (matched : Trial.test grammar (finalVerdict grammar) (grammar.testOf (grammar.rule id))
      (.start here) = .matched ended) (clean : ended.diagnostics = [])
    (last : ∀ level, LeavesLast (Attempt.eventsAll grammar level ended.journal.reverse)) :
    grammar.Lexes id here ended.nodes ended.scanner := by
  have source : ended.scanner.source = here.source :=
    (Trial.keeps_source grammar (finalVerdict grammar) here.source).test rfl matched
  have bare : (grammar.rule id).token.isSome = false := by
    rw [Occurrence.token, scanning]
    rfl
  have shows : (grammar.rule id).hides = false := by
    rw [Occurrence.hides, scanning]
    rfl
  refine ⟨Trial.remembered grammar id here.position ended, ?_, ?_, ?_, clean, fun level => ?_⟩
  · rw [← finalVerdict_eq_step, Oracle.step, Trial.repeated_once (by rw [scanning]; rfl)
      (by rw [scanning]; rfl), matched]
    rfl
  · simp only [Trial.remembered, scanning]
    exact Scanner.moveTo_position source.symm
  · simp only [Trial.remembered, production, Occurrence.shape, scanning]
    rfl
  · rw [Trial.remembered, Attempt.eventsAll_singleton, Attempt.events, bare, shows]
    simp only [Bool.false_eq_true, if_false, Bool.false_and, List.append_nil]
    exact last (level + 1)

variable {parts earlier later : List RuleId} {part target : RuleId}

/-- A reference lexes where the rule does that it refers to. -/
theorem Lexes.reference (scanning : (grammar.rule id).behaviour = .scanning)
    (test : grammar.testOf (grammar.rule id) = .reference target)
    (lexes : grammar.Lexes target here nodes next) : grammar.Lexes id here nodes next := by
  obtain ⟨mark, attempts, last, called⟩ := @Lexes.call _ _ _ _ _ (.start here) lexes
  refine lexes_of_test scanning (by rw [test]; exact called) rfl fun level => ?_
  simpa [Progress.start] using last level

/-- A choice lexes where a part does and those before it refuse. -/
theorem Lexes.choice (scanning : (grammar.rule id).behaviour = .scanning)
    (test : grammar.testOf (grammar.rule id) = .choice (earlier ++ part :: later))
    (refuse : ∀ part ∈ earlier, grammar.Refuses part here)
    (lexes : grammar.Lexes part here nodes next) : grammar.Lexes id here nodes next := by
  obtain ⟨failures, vain, tried⟩ :=
    @Trial.first_refused _ _ earlier (part :: later) (.start here) refuse
  obtain ⟨mark, attempts, last, called⟩ := @Lexes.call _ _ _ _ _
    { Progress.start here with journal := failures.reverse ++ [] } lexes
  have matched : Trial.test grammar (finalVerdict grammar) (grammar.testOf (grammar.rule id))
      (.start here) = .matched ⟨next, nodes, [], mark, attempts.reverse ++ (failures.reverse ++ [])⟩
      := by
    rw [test, Trial.test, tried, Trial.first]
    simp only [Progress.start] at called ⊢
    rw [called]
    rfl
  refine lexes_of_test scanning matched rfl fun level => ?_
  simp only [List.append_nil, List.reverse_append, List.reverse_reverse, Attempt.eventsAll_append]
  exact (last level).append vain.isFailed

/-- A rule that takes what it matches and is not recovered from, with an effect that is a match
without diagnostics, has come to that by its test. -/
theorem exists_of_effect (taking : (grammar.rule id).behaviour.lookahead = false)
    (unpinned : (grammar.rule id).annotations.pinned = false)
    (effect : grammar.effect id here = .matched next []) :
    ∃ ended, Trial.repeated grammar (finalVerdict grammar) (grammar.rule id) (.start here) =
        .matched ended ∧ ended.scanner = next ∧ ended.diagnostics = [] ∧
      finalVerdict grammar id here =
        some (.success (Trial.remembered grammar id here.position ended)) := by
  have concluded := congrFun (congrFun (finalVerdict_eq_step grammar) id) here
  rw [Oracle.step] at concluded
  unfold Grammar.effect at effect
  cases trial : Trial.repeated grammar (finalVerdict grammar) (grammar.rule id) (.start here) with
  | diverged =>
    rw [← concluded, trial] at effect
    contradiction
  | failed journal =>
    rw [← concluded, trial] at effect
    simp [Trial.conclude, MatchResult.reply, Reply.effect, unpinned] at effect
  | matched ended =>
    have source : ended.scanner.source = here.source :=
      (Trial.keeps_source grammar (finalVerdict grammar) here.source).rounds rfl trial
    rw [← concluded, trial] at effect ⊢
    simp only [Trial.conclude, MatchResult.reply, Trial.remembered, Reply.effect, taking,
      Bool.false_eq_true, ↓reduceIte, Effect.matched.injEq,
      Scanner.moveTo_position source.symm] at effect
    exact ⟨ended, rfl, effect.1, effect.2, rfl⟩

/-- A rule with a token and without skipped parts lexes where its effect is a match without
diagnostics: it leaves a node over what it took. -/
theorem lexes_of_node [Procedures P] (free : grammar.isProcedureFree = true) {token : Token}
    {depth : Nat}
    (taking : (grammar.rule id).behaviour.lookahead = false)
    (unpinned : (grammar.rule id).annotations.pinned = false)
    (shape : (grammar.rule id).shape = .node) (named : (grammar.rule id).token = some token)
    (solid : (grammar.testOf (grammar.rule id)).callees.all (grammar.isSolid depth) = true)
    (effect : grammar.effect id here = .matched next []) :
    ∃ children, grammar.Lexes id here
      [.mk token ⟨here.position, next.position⟩ (grammar.rule id).annotations children] next := by
  obtain ⟨ended, repeated, rfl, clean, known⟩ := exists_of_effect taking unpinned effect
  have source : ended.scanner.source = here.source :=
    (Trial.keeps_source grammar (finalVerdict grammar) here.source).rounds rfl repeated
  refine ⟨ended.nodes, _, known, ?_, ?_, clean, fun level => ?_⟩
  · simp only [Trial.remembered, taking, Bool.false_eq_true, if_false]
    exact Scanner.moveTo_position source.symm
  · simp only [Trial.remembered, taking, Bool.false_eq_true, if_false, production, shape, named,
      Trial.content_of_solid free solid repeated]
    rfl
  · rw [Trial.remembered, Attempt.eventsAll_singleton, Attempt.events, named]
    refine LeavesLast.append (fun event member => (List.mem_filter.mp member).2) ?_
    split
    · exact .left level
    · exact .nothing

end Grammar

/-- Repetition of a terminal makes no attempts. -/
theorem Trial.journal_of_terminal {oracle : Oracle} {rule : Occurrence P} {terminal : Terminal}
    (plain : rule.behaviour.negate = false) (test : grammar.testOf rule = .terminal terminal)
    {budget count : Nat} {progress ended : Progress}
    (matched : rounds grammar oracle rule budget count progress = .matched ended) :
    ended.journal = progress.journal := by
  have iterated : ∀ progress, once grammar oracle rule progress =
      Trial.test grammar oracle (.terminal terminal) progress := by
    intro progress
    unfold once
    rw [plain, test]
    rfl
  induction budget generalizing count progress with
  | zero =>
    unfold rounds at matched
    split at matched
    · rw [eq_of_settle matched]
    · contradiction
  | succ budget ih =>
    unfold rounds at matched
    rw [iterated] at matched
    cases found : terminal.scan progress.scanner with
    | none =>
      simp only [Trial.test, found] at matched
      rw [eq_of_settle matched]
    | some scanner =>
      simp only [Trial.test, found] at matched
      split at matched
      · rw [eq_of_settle matched]
      · exact @ih _ { progress with scanner } matched

/-- A terminal that is skipped lexes where its effect is a match without diagnostics, and leaves
nothing. -/
theorem Grammar.lexes_of_skipped {terminal : Terminal}
    (taking : (grammar.rule id).behaviour.lookahead = false)
    (plain : (grammar.rule id).behaviour.negate = false)
    (unpinned : (grammar.rule id).annotations.pinned = false)
    (skipped : (grammar.rule id).behaviour.kind = .skipping)
    (test : grammar.testOf (grammar.rule id) = .terminal terminal)
    (effect : grammar.effect id here = .matched next []) : grammar.Lexes id here [] next := by
  obtain ⟨ended, repeated, rfl, clean, known⟩ := exists_of_effect taking unpinned effect
  have source : ended.scanner.source = here.source :=
    (Trial.keeps_source grammar (finalVerdict grammar) here.source).rounds rfl repeated
  have unwritten : ended.journal = [] := Trial.journal_of_terminal plain test repeated
  have bare : (grammar.rule id).token.isSome = false := by
    rw [Occurrence.token, Behaviour.token, skipped]
    rfl
  refine ⟨_, known, ?_, ?_, clean, fun level => ?_⟩
  · simp only [Trial.remembered, taking, Bool.false_eq_true, if_false]
    exact Scanner.moveTo_position source.symm
  · simp only [Trial.remembered, taking, Bool.false_eq_true, if_false, production,
      Occurrence.shape, skipped]
    rfl
  · rw [Trial.remembered, unwritten, Attempt.eventsAll_singleton, List.reverse_nil, Attempt.events,
      bare, Attempt.eventsAll]
    simp only [Bool.false_eq_true, if_false, List.any_nil, Bool.and_false, List.append_nil]
    exact .nothing

/-! ## Rules of drafts -/

namespace Rule

variable {given : List (String × Rule P)} {rule : Rule P}

/-- Rules that stand under numbers, cut before one of them: so are the numbers. -/
theorem exists_of_renders {earlier later : List (Rule P)} {parts : List RuleId}
    (renders : Draft.RendersAll given grammar.rules (earlier ++ rule :: later) parts) :
    ∃ before part after, parts = before ++ part :: after ∧ rule.Stands given grammar part ∧
      ∀ other ∈ before, ∃ first ∈ earlier, first.Stands given grammar other := by
  induction earlier generalizing parts with
  | nil =>
    cases renders with
    | cons part _ =>
      exact ⟨[], _, _, rfl, stands_of_part part, fun _ member => absurd member List.not_mem_nil⟩
  | cons first others ih =>
    cases renders with
    | @cons _ id _ _ part rest =>
      obtain ⟨before, found, after, rfl, stands, each⟩ := ih rest
      refine ⟨id :: before, found, after, rfl, stands, List.forall_mem_cons.mpr ⟨?_, ?_⟩⟩
      · exact ⟨first, List.mem_cons_self, stands_of_part part⟩
      · intro other member
        obtain ⟨source, listed, known⟩ := each other member
        exact ⟨source, List.mem_cons_of_mem _ listed, known⟩

/-- What stands under one of several numbers is one of the rules. -/
theorem exists_of_mem_parts {rules : List (Rule P)} {parts : List RuleId}
    (renders : Draft.RendersAll given grammar.rules rules parts) :
    ∀ part ∈ parts, ∃ rule ∈ rules, rule.Stands given grammar part := by
  induction rules generalizing parts with
  | nil =>
    cases renders
    exact fun _ member => absurd member List.not_mem_nil
  | cons first later ih =>
    cases renders with
    | cons part rest =>
      refine List.forall_mem_cons.mpr ⟨⟨first, List.mem_cons_self, stands_of_part part⟩, ?_⟩
      intro other member
      obtain ⟨rule, listed, stands⟩ := ih rest other member
      exact ⟨rule, List.mem_cons_of_mem _ listed, stands⟩

namespace Stands

variable {name : String} {definition : RuleId} {rules earlier later : List (Rule P)}

/-- A terminal is the test of what stands for it. -/
theorem test_eq_terminal (stands : rule.Stands given grammar id) {terminal : Terminal}
    (same : rule.expression = .terminal terminal) :
    grammar.testOf (grammar.rule id) = .terminal terminal := by
  obtain ⟨-, -, renders⟩ := stands.rule_eq
  rw [same] at renders
  generalize grammar.testOf (grammar.rule id) = test at renders
  cases renders
  rfl

/-- A definition is referred to by what stands for a reference to it. -/
theorem test_eq_reference (stands : (Rule.reference name).Stands given grammar id)
    (defined : given.findIdx? (·.1 == name) = some definition) :
    grammar.testOf (grammar.rule id) = .reference definition := by
  obtain ⟨-, -, renders⟩ := stands.rule_eq
  generalize grammar.testOf (grammar.rule id) = test at renders
  cases renders with
  | reference found => rw [Option.some.inj (defined.symm.trans found)]
  | substitute replaced => contradiction

/-- The parts of a sequence stand for its rules. -/
theorem exists_sequence (stands : rule.Stands given grammar id)
    (same : rule.expression = .sequence rules) :
    ∃ parts, grammar.testOf (grammar.rule id) = .sequence parts ∧
      Draft.RendersAll given grammar.rules rules parts := by
  obtain ⟨-, -, renders⟩ := stands.rule_eq
  rw [same] at renders
  generalize grammar.testOf (grammar.rule id) = test at renders
  cases renders with
  | sequence all => exact ⟨_, rfl, all⟩

/-- The parts of a choice stand for its rules. -/
theorem exists_choice (stands : (Rule.choice rules).Stands given grammar id) :
    ∃ parts, grammar.testOf (grammar.rule id) = .choice parts ∧
      Draft.RendersAll given grammar.rules rules parts := by
  obtain ⟨-, -, renders⟩ := stands.rule_eq
  generalize grammar.testOf (grammar.rule id) = test at renders
  cases renders with
  | choice all => exact ⟨_, rfl, all⟩

/-- A reference refuses where the definition does. -/
theorem refuses_of_reference (stands : (Rule.reference name).Stands given grammar id)
    (defined : given.findIdx? (·.1 == name) = some definition)
    (refuses : grammar.Refuses definition here) : grammar.Refuses id here := by
  obtain ⟨behaviour, annotations, -⟩ := stands.rule_eq
  exact refuses.reference (by rw [behaviour]; rfl) (by rw [annotations]; rfl)
    (stands.test_eq_reference defined)

/-- A reference lexes where the definition does. -/
theorem lexes_of_reference (stands : (Rule.reference name).Stands given grammar id)
    (defined : given.findIdx? (·.1 == name) = some definition)
    (lexes : grammar.Lexes definition here nodes next) : grammar.Lexes id here nodes next :=
  lexes.reference stands.rule_eq.1 (stands.test_eq_reference defined)

/-- A rule with a terminal refuses where the terminal finds nothing. -/
theorem refuses_of_terminal (stands : rule.Stands given grammar id)
    (demands : rule.behaviour.demands = true) (unpinned : rule.annotations.pinned = false)
    {terminal : Terminal} (same : rule.expression = .terminal terminal)
    (missing : terminal.scan here = none) : grammar.Refuses id here := by
  obtain ⟨behaviour, annotations, -⟩ := stands.rule_eq
  exact Grammar.refuses_of_scan (by rw [behaviour, demands]) (by rw [annotations, unpinned])
    (stands.test_eq_terminal same) missing

/-- A rule with a sequence refuses where the first rule of the sequence does. -/
theorem refuses_of_sequence (stands : rule.Stands given grammar id)
    (demands : rule.behaviour.demands = true) (unpinned : rule.annotations.pinned = false)
    {first : Rule P} (same : rule.expression = .sequence (first :: later))
    (refuses : ∀ part, first.Stands given grammar part → grammar.Refuses part here) :
    grammar.Refuses id here := by
  obtain ⟨behaviour, annotations, -⟩ := stands.rule_eq
  obtain ⟨parts, test, renders⟩ := stands.exists_sequence same
  cases renders with
  | cons part _ =>
    exact (refuses _ (stands_of_part part)).sequence (by rw [behaviour, demands])
      (by rw [annotations, unpinned]) test

/-- A terminal that is skipped lexes where its effect is a match without diagnostics. -/
theorem lexes_of_skipped (stands : rule.Stands given grammar id) {cardinality : Cardinality}
    (skipped : rule.behaviour = ⟨.skipping, cardinality, false, false⟩)
    (unpinned : rule.annotations.pinned = false) {terminal : Terminal}
    (same : rule.expression = .terminal terminal)
    (effect : grammar.effect id here = .matched next []) : grammar.Lexes id here [] next := by
  obtain ⟨behaviour, annotations, -⟩ := stands.rule_eq
  rw [skipped] at behaviour
  exact Grammar.lexes_of_skipped (by rw [behaviour]) (by rw [behaviour])
    (by rw [annotations, unpinned]) (by rw [behaviour]) (stands.test_eq_terminal same) effect

/-- A choice refuses where all its rules do. -/
theorem refuses_of_choice (stands : (Rule.choice rules).Stands given grammar id)
    (refuse : ∀ rule ∈ rules, ∀ part, rule.Stands given grammar part →
      grammar.Refuses part here) : grammar.Refuses id here := by
  obtain ⟨behaviour, annotations, -⟩ := stands.rule_eq
  obtain ⟨parts, test, renders⟩ := stands.exists_choice
  refine Grammar.refuses_of_choice (by rw [behaviour]; rfl) (by rw [annotations]; rfl) test
    fun part member => ?_
  obtain ⟨rule, listed, standing⟩ := exists_of_mem_parts renders part member
  exact refuse rule listed part standing

/-- A choice lexes where one of its rules does and those before it refuse. -/
theorem lexes_of_choice
    (stands : (Rule.choice (earlier ++ rule :: later)).Stands given grammar id)
    (refuse : ∀ other ∈ earlier, ∀ part, other.Stands given grammar part →
      grammar.Refuses part here)
    (lexes : ∀ part, rule.Stands given grammar part → grammar.Lexes part here nodes next) :
    grammar.Lexes id here nodes next := by
  obtain ⟨parts, test, renders⟩ := stands.exists_choice
  obtain ⟨before, part, after, rfl, standing, each⟩ := exists_of_renders renders
  refine Grammar.Lexes.choice stands.rule_eq.1 test (fun other member => ?_) (lexes part standing)
  obtain ⟨first, listed, known⟩ := each other member
  exact refuse first listed other known

section References

variable {names : List String}
  (stands : (Rule.choice (names.map Rule.reference)).Stands given grammar id)
  (defined : ∀ place name, names[place]? = some name →
    given.findIdx? (·.1 == name) = some place)

include stands defined

/-- A choice of references to the definitions, in their order, refuses where all of them do. -/
theorem refuses_of_references (refuse : ∀ place < names.length, grammar.Refuses place here) :
    grammar.Refuses id here := by
  refine stands.refuses_of_choice fun rule member part standing => ?_
  obtain ⟨name, listed, rfl⟩ := List.mem_map.mp member
  obtain ⟨place, inside, rfl⟩ := List.getElem_of_mem listed
  exact standing.refuses_of_reference (defined place _ (List.getElem?_eq_getElem inside))
    (refuse place inside)

/-- A choice of references to the definitions, in their order, lexes where one of them does and
those before it refuse. -/
theorem lexes_of_references {place : Nat} (inside : place < names.length)
    (refuse : ∀ earlier < place, grammar.Refuses earlier here)
    (lexes : grammar.Lexes place here nodes next) : grammar.Lexes id here nodes next := by
  have split : (names.map Rule.reference : List (Rule P)) =
      (names.take place).map Rule.reference ++
      .reference names[place] :: (names.drop (place + 1)).map Rule.reference := by
    rw [← List.map_cons, ← List.map_append, List.getElem_cons_drop, List.take_append_drop]
  rw [split] at stands
  refine stands.lexes_of_choice (fun other member part standing => ?_) fun part standing =>
    standing.lexes_of_reference (defined place _ (List.getElem?_eq_getElem inside)) lexes
  obtain ⟨name, listed, rfl⟩ := List.mem_map.mp member
  obtain ⟨earlier, before, rfl⟩ := List.getElem_of_mem listed
  rw [List.length_take] at before
  rw [List.getElem_take] at standing
  exact standing.refuses_of_reference (defined earlier _ (List.getElem?_eq_getElem _))
    (refuse earlier (by omega))

end References

end Stands

end Rule

/-! ## Passes of a stream -/

variable {state : State NodeStack} {stream : TokenStream P}

/-- A rule that lexes leads forward in the source. -/
theorem Grammar.Lexes.reaches (lexes : grammar.Lexes id here nodes next) : here.Reaches next := by
  obtain ⟨remembered, known, rfl, -⟩ := lexes
  obtain ⟨behind, inside⟩ := finalVerdict_forward grammar id here remembered known
  refine ⟨rfl, ?_⟩
  rw [Scanner.position_moveTo inside]
  exact behind

variable [Procedures P]

/-- Where the root lexes and takes something, a pass of the stream leaves the nodes, without their
children. -/
theorem Paired.lexes (free : grammar.isProcedureFree = true) (keeps : grammar.keepsNodes = true)
    (paired : Paired grammar state stream)
    (lexes : grammar.Lexes grammar.root state.scanner nodes next)
    (onward : next.position ≠ state.position) :
    ∃ later ended, Packrat.pass grammar stream.fresh = (.matched, ended) ∧
      Paired grammar later { stream.moved ended with buffered := [] } ∧
      later.scanner = next ∧ ended.errors = stream.errors ∧
      ended.builder.nodes = nodes.map Node.stripped := by
  obtain ⟨remembered, known, rfl, rfl, clean, last⟩ := lexes
  rcases pass_cases NodeStack.ledger free paired.sound with
    ⟨result, same, answers⟩ | ⟨unknown, _⟩
  swap
  · rw [known] at unknown
    contradiction
  obtain rfl := Option.some.inj (known.symm.trans same)
  have passed : Packrat.pass grammar state = (.matched, (Packrat.pass grammar state).2) :=
    Prod.ext answers.outcome rfl
  have moved : (Packrat.pass grammar state).2.position ≠ state.position := by
    intro still
    exact onward ((congrArg Scanner.position answers.scanner).symm.trans still)
  obtain ⟨again, ended, knownAgain, scanner, _, streamPassed, pairedNext, alike⟩ :=
    paired.pass free passed moved
  obtain rfl := MatchResult.success.inj (Option.some.inj (known.symm.trans knownAgain))
  refine ⟨_, ended, streamPassed, pairedNext, scanner, ?_, ?_⟩
  · have memory : (finalVerdict grammar).Backs stream.fresh.source stream.fresh.memory :=
      paired.streamSound.memory
    obtain ⟨result, same, streamAnswers⟩ :=
      pass_answered Emitter.discreet.ledger free memory streamPassed
    have knownThere : finalVerdict grammar grammar.root stream.fresh.scanner =
        some (.success remembered) := paired.scanner ▸ known
    obtain rfl := Option.some.inj (knownThere.symm.trans same)
    have errors : ended.errors = stream.errors ++ remembered.diagnostics := streamAnswers.errors
    rw [errors, clean, List.append_nil]
  · exact (alike.sound (last 0).orderly (last 0).shown).antisymm
      (alike.complete keeps (last 0).orderly)

/-- Where the root refuses, the stream gives nothing more, and records a diagnostic at the cursor.
-/
theorem Paired.refused (free : grammar.isProcedureFree = true)
    (paired : Paired grammar state stream) (unfinished : state.scanner.atEnd = false)
    (refuses : grammar.Refuses grammar.root state.scanner) :
    ∃ last message, stream.Yields [] last ∧ last.position = state.position ∧
      last.errors =
        stream.errors ++ [⟨⟨state.position, state.position + 1⟩, message⟩] := by
  obtain rfl := paired.grammar_eq
  obtain ⟨unpinned, inside, known, near⟩ := refuses
  have knownThere : finalVerdict stream.grammar stream.grammar.root stream.fresh.scanner =
      some (.failure [.rule stream.grammar.root state.position false inside]) :=
    paired.scanner ▸ known
  have sound : stream.fresh.Sound stream.grammar :=
    ⟨paired.streamSound.unlimited, paired.streamSound.memory⟩
  rcases pass_cases Emitter.discreet.ledger free sound with ⟨result, same, answers⟩ | ⟨unknown, _⟩
  swap
  · rw [knownThere] at unknown
    contradiction
  obtain rfl := Option.some.inj (knownThere.symm.trans same)
  generalize passed : Packrat.pass stream.grammar stream.fresh = result at answers
  obtain ⟨outcome, ended⟩ := result
  obtain rfl : outcome = .failed .mismatch := by
    simpa [MatchResult.reply, unpinned] using answers.outcome
  have scanner : ended.scanner = state.scanner :=
    (answers.scanner.trans (Scanner.moveTo_position rfl)).trans paired.scanner.symm
  have errors : ended.errors = stream.fresh.errors := by
    simpa [MatchResult.reply, unpinned] using answers.errors
  have furthest : ended.attempts.position ≤ state.position := by
    rw [answers.attempts]
    refine Attempts.position_retraceAll_le _ _ ?_ (Nat.zero_le _)
    simpa [MatchResult.reply, Attempt.allStartBy, Attempt.startsBy, State.position] using near
  have position : ended.position = state.position := congrArg Scanner.position scanner
  have inSource : state.position < ended.source.length := by
    have source : ended.source = state.source := congrArg Scanner.source scanner
    rw [source]
    exact Nat.lt_of_not_le (of_decide_eq_false unfinished)
  have diagnosed : (ended.diagnose .mismatch).span = ⟨state.position, state.position + 1⟩ := by
    simp only [State.diagnose, State.spanAt, position, Nat.max_eq_right furthest, if_pos inSource]
  have advanced := TokenStream.advance_of_failed passed (by decide)
  have stopped : stream.advance.stopped = true := by
    rw [advanced]
    rfl
  have nothing : stream.advance.buffered = [] := by
    rw [advanced]
    exact paired.empty
  have yields := TokenStream.yields_stopped stopped
  rw [nothing] at yields
  refine ⟨_, (ended.diagnose .mismatch).message, .advance ⟨free, paired.streamSound.memory⟩
    paired.empty paired.running (paired.scanner ▸ unfinished) yields, ?_, ?_⟩
  · rw [advanced]
    exact position
  · rw [advanced, ← diagnosed]
    exact congrArg (· ++ [ended.diagnose .mismatch]) errors

/-! ## Runs of a stream -/

/-- The root lexes in one pass after the other, and takes something in each. -/
inductive Grammar.Lexing (grammar : Grammar P) : Scanner → List Node → Scanner → Prop
  /-- There is no pass. -/
  | nothing {here : Scanner} : Lexing grammar here [] here
  /-- After a pass come the others. -/
  | further {here middle last : Scanner} {nodes later : List Node}
      (lexes : grammar.Lexes grammar.root here nodes middle)
      (onward : middle.position ≠ here.position) (rest : Lexing grammar middle later last) :
      Lexing grammar here (nodes ++ later) last

/-- As far as the root lexes, a stream yields the nodes before those that it yields from there. -/
theorem Paired.lexing (free : grammar.isProcedureFree = true) (keeps : grammar.keepsNodes = true)
    {last : Scanner} (paired : Paired grammar state stream)
    (lexing : grammar.Lexing state.scanner nodes last) :
    ∃ later rest, Paired grammar later rest ∧ later.scanner = last ∧ rest.errors = stream.errors ∧
      ∀ more final, rest.Yields more final → stream.Yields (nodes.map Node.stripped ++ more) final
    := by
  generalize begun : state.scanner = here at lexing
  induction lexing generalizing state stream with
  | nothing => exact ⟨state, stream, paired, begun, rfl, fun _ _ yields => yields⟩
  | @further here middle last nodes later lexes onward rest ih =>
    subst begun
    have unfinished : state.scanner.atEnd = false := by
      refine decide_eq_false fun ended => ?_
      have reached := lexes.reaches
      have inside := middle.inside
      have forward := reached.forward
      rw [reached.source] at inside
      omega
    obtain ⟨nextState, ended, passed, pairedNext, rfl, errors, left⟩ :=
      paired.lexes free keeps lexes onward
    obtain ⟨lastState, lastStream, pairedLast, stopped, sameErrors, goesOn⟩ := ih pairedNext rfl
    refine ⟨lastState, lastStream, pairedLast, stopped, sameErrors.trans errors,
      fun more final yields => ?_⟩
    have yields := goesOn more final yields
    obtain rfl := paired.grammar_eq
    rw [List.map_append, List.append_assoc, ← left]
    refine yields.moved ⟨free, paired.streamSound.memory⟩ paired.empty paired.running
      (paired.scanner ▸ unfinished) passed fun still => onward ?_
    exact (congrArg Scanner.position pairedNext.scanner).trans
      (still.trans (congrArg Scanner.position paired.scanner).symm)

/-- If the root lexes in one pass after the other up to the end of the source, a stream yields the
nodes and records nothing. -/
theorem Paired.yields_all (free : grammar.isProcedureFree = true)
    (keeps : grammar.keepsNodes = true) {last : Scanner} (paired : Paired grammar state stream)
    (lexing : grammar.Lexing state.scanner nodes last) (ended : last.atEnd = true) :
    ∃ rest, stream.Yields (nodes.map Node.stripped) rest ∧ rest.state.scanner = last ∧
      rest.errors = stream.errors := by
  obtain ⟨later, rest, pairedLast, rfl, errors, goesOn⟩ := paired.lexing free keeps lexing
  have scanner := pairedLast.scanner.symm
  have yields := goesOn [] rest
    (TokenStream.yields_nil pairedLast.empty (by rw [scanner, ended, Bool.or_true]))
  rw [List.append_nil] at yields
  exact ⟨rest, yields, scanner, errors⟩

/-- If the root lexes in one pass after the other up to where it refuses, a stream yields the nodes
and records a diagnostic there. -/
theorem Paired.yields_refused (free : grammar.isProcedureFree = true)
    (keeps : grammar.keepsNodes = true) {last : Scanner} (paired : Paired grammar state stream)
    (lexing : grammar.Lexing state.scanner nodes last) (unfinished : last.atEnd = false)
    (refuses : grammar.Refuses grammar.root last) :
    ∃ rest message, stream.Yields (nodes.map Node.stripped) rest ∧
      rest.position = last.position ∧
      rest.errors = stream.errors ++ [⟨⟨last.position, last.position + 1⟩, message⟩] := by
  obtain ⟨later, middle, pairedLast, rfl, errors, goesOn⟩ := paired.lexing free keeps lexing
  obtain ⟨rest, message, nothing, position, diagnosed⟩ := pairedLast.refused free unfinished refuses
  have yields := goesOn [] rest nothing
  rw [List.append_nil] at yields
  exact ⟨rest, message, yields, position, errors ▸ diagnosed⟩

end Packrat
