import Mathlib.Data.List.Forall2
import Packrat.Proofs.CacheTransparency
import Packrat.Proofs.Framing
import Packrat.Proofs.Streaming

/-!
# Grammars that mirror each other

Two grammars mirror each other along a relation between their rules if related rules match the same
way and have tests of the same form, made of related parts (`Grammar.Mirrors`); on either side, some
parts in order may be wrapped in a rule that only matches them (`Row`). Evaluations of related rules
then go in step: a verdict on a rule, at whatever depth of calls, is like the final one on a related
rule (`verdict_mirrors`), down to what their attempts leave for the message of a failure
(`SameTrace`). So both grammars build the same from every source (`Grammar.Mirrors.construct`).
-/

namespace Packrat

variable {P : Type}

/-! ## Rules -/

/-- Two occurrences that match the same way, whatever their written form. -/
structure Occurrence.Resembles (rule other : Occurrence P) : Prop where
  /-- The name is the same. -/
  name : rule.name = other.name
  /-- The behaviour is the same. -/
  behaviour : rule.behaviour = other.behaviour
  /-- The annotations are the same. -/
  annotations : rule.annotations = other.annotations

section Tests

variable (left right : Grammar P) (related : RuleId → RuleId → Prop)

/-- Two rows of parts that come to the same when matched in order: part by part, or with some parts
of one wrapped in a rule of the other. -/
inductive Row : List RuleId → List RuleId → Prop
  /-- There are no parts. -/
  | nil : Row [] []
  /-- The first parts are related. -/
  | cons {part other : RuleId} {later laterOthers : List RuleId} (linked : related part other)
      (rest : Row later laterOthers) : Row (part :: later) (other :: laterOthers)
  /-- The first parts on the left are wrapped on the right. -/
  | wrapped {wrapper : RuleId} {parts others later laterOthers : List RuleId}
      (wraps : right.Wraps wrapper others) (inside : Row parts others)
      (rest : Row later laterOthers) : Row (parts ++ later) (wrapper :: laterOthers)
  /-- The first parts on the right are wrapped on the left. -/
  | unwrapped {wrapper : RuleId} {parts others later laterOthers : List RuleId}
      (wraps : left.Wraps wrapper parts) (inside : Row parts others)
      (rest : Row later laterOthers) : Row (wrapper :: later) (others ++ laterOthers)

/-- Two tests of the same form with related parts, where a reference may stand against a group. -/
inductive Test.Mirrors : Test P → Test P → Prop
  /-- The same terminal. -/
  | terminal {terminal : Terminal} : Mirrors (.terminal terminal) (.terminal terminal)
  /-- References to related rules. -/
  | reference {target other : RuleId} (part : related target other) :
      Mirrors (.reference target) (.reference other)
  /-- The same procedure. -/
  | procedure {procedure : P} : Mirrors (.procedure procedure) (.procedure procedure)
  /-- Sequences that come to the same. -/
  | sequence {parts others : List RuleId} (row : Row left right related parts others) :
      Mirrors (.sequence parts) (.sequence others)
  /-- Choices between parts that come to the same. -/
  | choice {parts others : List RuleId}
      (rows : List.Forall₂ (fun part other => Row left right related [part] [other]) parts others) :
      Mirrors (.choice parts) (.choice others)
  /-- Groups around parts that come to the same. -/
  | group {part other : RuleId} (row : Row left right related [part] [other]) :
      Mirrors (.group part) (.group other)
  /-- A reference to a rule and a group around a related one. -/
  | inlined {target other : RuleId} (part : related target other) :
      Mirrors (.reference target) (.group other)
  /-- A group around a rule and a reference to a related one. -/
  | outlined {part target : RuleId} (linked : related part target) :
      Mirrors (.group part) (.reference target)

end Tests

section Rows

variable {left right : Grammar P} {related : RuleId → RuleId → Prop} {parts others : List RuleId}

namespace Row

/-- Related parts come to the same. -/
theorem of_forall₂ (linked : List.Forall₂ related parts others) :
    Row left right related parts others := by
  induction linked with
  | nil => exact .nil
  | cons first _ ih => exact .cons first ih

/-- Two related parts come to the same. -/
theorem single {part other : RuleId} (linked : related part other) :
    Row left right related [part] [other] :=
  .cons linked .nil

/-- Parts come to the same as a rule that wraps parts that do. -/
theorem wrap {wrapper : RuleId} (wraps : right.Wraps wrapper others)
    (inside : Row left right related parts others) : Row left right related parts [wrapper] := by
  have row := Row.wrapped wraps inside .nil
  rwa [List.append_nil] at row

/-- A rule that wraps parts comes to the same as parts that do. -/
theorem unwrap {wrapper : RuleId} (wraps : left.Wraps wrapper parts)
    (inside : Row left right related parts others) : Row left right related [wrapper] others := by
  have row := Row.unwrapped wraps inside .nil
  rwa [List.append_nil] at row

/-- Parts one after the other come to the same if they do one by one. -/
theorem append {later laterOthers : List RuleId} (row : Row left right related parts others)
    (rest : Row left right related later laterOthers) :
    Row left right related (parts ++ later) (others ++ laterOthers) := by
  induction row with
  | nil => exact rest
  | cons linked _ ih => exact .cons linked ih
  | wrapped wraps inside _ _ ih =>
    rw [List.append_assoc]
    exact .wrapped wraps inside ih
  | unwrapped wraps inside _ _ ih =>
    rw [List.append_assoc]
    exact .unwrapped wraps inside ih

/-- Parts that come to the same one by one come to the same in order. -/
theorem of_rows
    (rows : List.Forall₂ (fun part other => Row left right related [part] [other]) parts others) :
    Row left right related parts others := by
  induction rows with
  | nil => exact .nil
  | cons row _ ih => exact row.append ih

/-- Rows come to the same whichever comes first. -/
theorem symm (row : Row left right related parts others) :
    Row right left (fun other part => related part other) others parts := by
  induction row with
  | nil => exact .nil
  | cons linked _ ih => exact .cons linked ih
  | wrapped wraps _ _ inside rest => exact .unwrapped wraps inside rest
  | unwrapped wraps _ _ inside rest => exact .wrapped wraps inside rest

end Row

namespace Test.Mirrors

variable {subject other : Test P}

/-- Mirrored tests both match only through other rules, or neither does. -/
theorem throughRules (mirrors : Test.Mirrors left right related subject other) :
    Grammar.throughRules subject = Grammar.throughRules other := by
  cases mirrors <;> rfl

/-- Tests mirror each other whichever comes first. -/
theorem symm (mirrors : Test.Mirrors left right related subject other) :
    Test.Mirrors right left (fun other part => related part other) other subject := by
  cases mirrors with
  | terminal => exact .terminal
  | reference part => exact .reference part
  | procedure => exact .procedure
  | sequence row => exact .sequence row.symm
  | choice rows => exact .choice (rows.flip.imp fun _ _ row => row.symm)
  | group row => exact .group row.symm
  | inlined part => exact .outlined part
  | outlined part => exact .inlined part

end Test.Mirrors

end Rows

/-- Every pinned rule of a grammar has a message for its failure. -/
def Grammar.explainsPins (grammar : Grammar P) : Bool :=
  grammar.rules.all fun rule => !rule.annotations.pinned || rule.annotations.error.isSome

/-- A pinned rule of a grammar that explains its pins has a message. -/
theorem Grammar.isSome_error_of_pinned {grammar : Grammar P}
    (explains : grammar.explainsPins = true) (id : RuleId)
    (pinned : (grammar.rule id).annotations.pinned = true) :
    (grammar.rule id).annotations.error.isSome = true := by
  rw [explainsPins, Array.all_eq_true] at explains
  by_cases inTable : id < grammar.rules.size
  · have entry : grammar.rule id = grammar.rules[id] := by
      rw [rule, Array.getElem?_eq_getElem inTable, Option.getD_some]
    have explained := explains id inTable
    rw [← entry, pinned] at explained
    simpa using explained
  · have never : grammar.rule id = .never := by
      rw [rule, Array.getElem?_eq_none (Nat.le_of_not_lt inTable), Option.getD_none]
    rw [never] at pinned
    contradiction

/-- Two grammars whose rules stand in a relation match alike: related rules resemble each other and
have mirrored tests. -/
structure Grammar.Mirrors (left right : Grammar P) (related : RuleId → RuleId → Prop) : Prop where
  /-- The roots are related. -/
  root : related left.root right.root
  /-- Related rules resemble each other. -/
  rule : ∀ {id other}, related id other → (left.rule id).Resembles (right.rule other)
  /-- Related rules have mirrored tests. -/
  test : ∀ {id other}, related id other →
    Test.Mirrors left right related (left.testOf (left.rule id)) (right.testOf (right.rule other))
  /-- Related rules that are pinned have messages. -/
  explained : ∀ {id other}, related id other → (left.rule id).annotations.pinned = true →
    (left.rule id).annotations.error.isSome = true

namespace Occurrence

variable {rule other : Occurrence P}

/-- Occurrences resemble each other whichever comes first. -/
theorem Resembles.symm (resembles : rule.Resembles other) : other.Resembles rule :=
  ⟨resembles.name.symm, resembles.behaviour.symm, resembles.annotations.symm⟩

/-- Resembling occurrences have the same token. -/
theorem Resembles.token (resembles : rule.Resembles other) : rule.token = other.token := by
  unfold Occurrence.token
  rw [resembles.behaviour, resembles.annotations]

/-- Resembling occurrences leave nodes of the same shape. -/
theorem Resembles.production (resembles : rule.Resembles other) (span : Span) :
    production rule span = production other span := by
  have shape : rule.shape = other.shape := by
    unfold Occurrence.shape
    rw [resembles.behaviour, resembles.annotations]
  unfold Packrat.production
  rw [shape, resembles.token, resembles.annotations]

/-- Resembling occurrences are reported alike. -/
theorem Resembles.track (resembles : rule.Resembles other) (attempts : Attempts) (position : Nat)
    (mark : AttemptsMark) (negated : Bool) :
    attempts.track rule position mark negated = attempts.track other position mark negated := by
  have reported : rule.isReported = other.isReported := by
    unfold Occurrence.isReported
    rw [resembles.behaviour, resembles.name]
  unfold Attempts.track
  rw [← reported]
  cases known : rule.isReported with
  | false => rfl
  | true =>
    have expected : rule.expected = other.expected := by
      unfold Occurrence.expected
      rw [← resembles.token, ← resembles.name]
      unfold Occurrence.isReported at known
      cases shown : rule.token with
      | some token => rfl
      | none =>
        rw [Occurrence.token, Option.map_eq_none_iff] at shown
        rw [shown, Option.isSome_none, Bool.false_or] at known
        obtain ⟨name, named⟩ := Option.isSome_iff_exists.mp known
        rw [named]
    rw [expected]

end Occurrence

/-- Grammars mirror each other whichever comes first. -/
theorem Grammar.Mirrors.symm {left right : Grammar P} {related : RuleId → RuleId → Prop}
    (mirrors : left.Mirrors right related) :
    right.Mirrors left fun other id => related id other where
  root := mirrors.root
  rule linked := (mirrors.rule linked).symm
  test linked := (mirrors.test linked).symm
  explained linked pinned := by
    rw [← (mirrors.rule linked).annotations] at pinned ⊢
    exact mirrors.explained linked pinned

/-! ## Attempts -/

/-- Attempts under one grammar leave behind what other attempts leave under another. -/
def SameTrace (left right : Grammar P) (made other : List Attempt) : Prop :=
  ∀ (negations : Nat) (attempts : Attempts),
    attempts.retraceAll left negations made = attempts.retraceAll right negations other

namespace SameTrace

variable {left right : Grammar P}

/-- No attempts leave nothing behind. -/
theorem nil : SameTrace left right [] [] := by
  intro negations attempts
  rw [Attempts.retraceAll, Attempts.retraceAll]

/-- The same attempts leave the same behind. -/
theorem refl (grammar : Grammar P) (made : List Attempt) : SameTrace grammar grammar made made :=
  fun _ _ => rfl

/-- Attempts leave the same behind whichever come first. -/
theorem symm {made other : List Attempt} (same : SameTrace left right made other) :
    SameTrace right left other made :=
  fun negations attempts => (same negations attempts).symm

/-- Attempts leave the same behind as those that leave the same behind as others do. -/
theorem trans {third : Grammar P} {made other last : List Attempt}
    (first : SameTrace left right made other) (second : SameTrace right third other last) :
    SameTrace left third made last :=
  fun negations attempts => (first negations attempts).trans (second negations attempts)

/-- A rule that is not reported leaves behind what the attempts inside it do. -/
theorem unreported {grammar : Grammar P} {id : RuleId}
    (unreported : (grammar.rule id).isReported = false) (origin : Nat) (matched : Bool)
    (inside : List Attempt) :
    SameTrace grammar grammar [.rule id origin matched inside] inside := by
  intro negations attempts
  rw [Attempts.retraceAll, Attempts.retraceAll, Attempts.retrace]
  simp only [Attempts.track, unreported, Bool.not_false, ↓reduceIte, ite_self]

/-- Attempts one after the other leave the same behind if they do one by one. -/
theorem append {earlier earlierOther later laterOther : List Attempt}
    (first : SameTrace left right earlier earlierOther)
    (second : SameTrace left right later laterOther) :
    SameTrace left right (earlier ++ later) (earlierOther ++ laterOther) := by
  intro negations attempts
  rw [Attempts.retraceAll_append, Attempts.retraceAll_append, first, second]

/-- Resembling rules inside which the same was left behind leave the same behind. -/
theorem rule {id other : RuleId} {inside insideOther : List Attempt}
    (resembles : (left.rule id).Resembles (right.rule other)) (origin : Nat) (matched : Bool)
    (same : SameTrace left right inside insideOther) :
    SameTrace left right [.rule id origin matched inside]
      [.rule other origin matched insideOther] := by
  intro negations attempts
  rw [Attempts.retraceAll, Attempts.retraceAll, Attempts.retrace, Attempts.retraceAll,
    Attempts.retraceAll, Attempts.retrace, same]
  simp only [resembles.track]

/-- Attempts that were made to see them fail leave the same behind if they do under any number of
negations. -/
theorem negation {inside insideOther : List Attempt}
    (same : SameTrace left right inside insideOther) :
    SameTrace left right [.negation inside] [.negation insideOther] := by
  intro negations attempts
  rw [Attempts.retraceAll, Attempts.retraceAll, Attempts.retrace, Attempts.retraceAll,
    Attempts.retraceAll, Attempts.retrace, same]

end SameTrace

/-! ## Results -/

section Results

variable (left right : Grammar P)

/-- Two results that differ at most in which rules were tried. -/
inductive MatchResult.Mirrors : MatchResult → MatchResult → Prop
  /-- The matches are the same and leave the same behind. -/
  | success {match₁ match₂ : RememberedMatch} (stop : match₁.stop = match₂.stop)
      (content : match₁.content = match₂.content) (nodes : match₁.nodes = match₂.nodes)
      (diagnostics : match₁.diagnostics = match₂.diagnostics)
      (attempts : SameTrace left right match₁.attempts match₂.attempts) :
      Mirrors (.success match₁) (.success match₂)
  /-- The failures leave the same behind. -/
  | failure {made other : List Attempt} (attempts : SameTrace left right made other) :
      Mirrors (.failure made) (.failure other)

/-- Two replies that differ at most in which rules were tried. -/
structure Reply.Mirrors (reply other : Reply) : Prop where
  /-- Both go on, or neither does. -/
  matched : reply.matched = other.matched
  /-- Both stop at the same place. -/
  stop : reply.stop = other.stop
  /-- The nodes are the same. -/
  nodes : reply.nodes = other.nodes
  /-- The diagnostics are the same. -/
  diagnostics : reply.diagnostics = other.diagnostics
  /-- The mark around becomes the same. -/
  change : reply.change = other.change
  /-- The attempts leave the same behind. -/
  attempts : SameTrace left right reply.attempts other.attempts

/-- Two evaluations that have come to the same, whichever rules were tried. -/
structure Progress.Mirrors (progress other : Progress) : Prop where
  /-- The cursor is the same. -/
  scanner : progress.scanner = other.scanner
  /-- The nodes are the same. -/
  nodes : progress.nodes = other.nodes
  /-- The diagnostics are the same. -/
  diagnostics : progress.diagnostics = other.diagnostics
  /-- The mark is the same. -/
  mark : progress.mark = other.mark
  /-- The attempts leave the same behind. -/
  journal : SameTrace left right progress.journal.reverse other.journal.reverse
  /-- The content starts before the cursor. -/
  lead : progress.mark.lead ≤ progress.scanner.position

/-- Two evaluations that end the same way, if the first has an end. -/
inductive Trial.Mirrors : Trial → Trial → Prop
  /-- The first has no end. -/
  | diverged {other : Trial} : Mirrors .diverged other
  /-- Both failed after attempts that leave the same behind. -/
  | failed {journal other : List Attempt}
      (attempts : SameTrace left right journal.reverse other.reverse) :
      Mirrors (.failed journal) (.failed other)
  /-- Both matched and came to the same. -/
  | matched {progress other : Progress} (same : Progress.Mirrors left right progress other) :
      Mirrors (.matched progress) (.matched other)

/-- An oracle of which another knows the verdicts on related rules. The other knows all that follows
from what it knows, the first nothing else. -/
structure Oracle.Mirrors (related : RuleId → RuleId → Prop) (oracle mirror : Oracle) : Prop where
  /-- What the first knows of a rule, the other knows alike of a related one. -/
  alike : ∀ {id other scanner result}, related id other → oracle id scanner = some result →
    ∃ mirrored, mirror other scanner = some mirrored ∧
      MatchResult.Mirrors left right result mirrored
  /-- What the first knows follows from what it knows. -/
  follows : ∀ {id scanner result}, oracle id scanner = some result →
    oracle.step left id scanner = some result
  /-- What follows from what the other knows, it knows. -/
  closed : mirror.step right = mirror
  /-- The first changes marks as the cursor goes. -/
  paces : oracle.Paces left
  /-- The other changes marks as the cursor goes. -/
  mirrorPaces : mirror.Paces right

end Results

variable {left right : Grammar P} {related : RuleId → RuleId → Prop}

namespace Grammar.Mirrors

variable {id other : RuleId}

/-- Related rules report to the rule around them alike. -/
theorem reportTo (mirrors : left.Mirrors right related) (linked : related id other)
    (start stop : Nat) (content : Option Span) :
    reportTo left (left.rule id) start stop content =
      reportTo right (right.rule other) start stop content := by
  have behaviour := (mirrors.rule linked).behaviour
  have transparent : left.isTransparent (left.rule id) =
      right.isTransparent (right.rule other) := by
    unfold isTransparent
    rw [behaviour, (mirrors.test linked).throughRules]
  funext mark
  unfold Packrat.reportTo
  rw [behaviour, transparent]

/-- Related rules that are pinned recover with the same message. -/
theorem recoveryMessage (mirrors : left.Mirrors right related) (linked : related id other)
    (pinned : (left.rule id).annotations.pinned = true) :
    recoveryMessage left (left.rule id) = recoveryMessage right (right.rule other) := by
  obtain ⟨message, given⟩ := Option.isSome_iff_exists.mp (mirrors.explained linked pinned)
  have givenOther : (right.rule other).annotations.error = some message := by
    rw [← (mirrors.rule linked).annotations, given]
  rw [Packrat.recoveryMessage, Packrat.recoveryMessage, given, givenOther, Option.getD_some,
    Option.getD_some]

/-- Related rules with results that are alike reply alike. -/
theorem reply (mirrors : left.Mirrors right related) (linked : related id other) (origin : Nat)
    {result mirror : MatchResult} (same : MatchResult.Mirrors left right result mirror) :
    Reply.Mirrors left right (result.reply left (left.rule id) origin)
      (mirror.reply right (right.rule other) origin) := by
  have resembles := mirrors.rule linked
  cases same with
  | success stop content nodes diagnostics attempts =>
    refine ⟨rfl, stop, nodes, diagnostics, ?_, attempts⟩
    simp only [MatchResult.reply]
    rw [resembles.behaviour, stop, content, mirrors.reportTo linked]
  | failure attempts =>
    simp only [MatchResult.reply]
    rw [← resembles.annotations]
    cases pinned : (left.rule id).annotations.pinned with
    | false =>
      simp only [Bool.false_eq_true, ↓reduceIte]
      exact ⟨rfl, rfl, rfl, rfl, rfl, attempts⟩
    | true =>
      have message := mirrors.recoveryMessage linked pinned
      simp only [↓reduceIte, errorNode, message, resembles.annotations]
      exact ⟨rfl, rfl, rfl, rfl, rfl, attempts⟩

end Grammar.Mirrors

/-! ## Evaluations go in step -/

/-- Progress that is alike stays so with progress that is like the second. -/
theorem Progress.Mirrors.trans {third : Grammar P} {progress other last : Progress}
    (first : Progress.Mirrors left right progress other)
    (second : Progress.Mirrors right third other last) :
    Progress.Mirrors left third progress last :=
  ⟨first.scanner.trans second.scanner, first.nodes.trans second.nodes,
    first.diagnostics.trans second.diagnostics, first.mark.trans second.mark,
    first.journal.trans second.journal, first.lead⟩

/-- Progress is alike whichever comes first. -/
theorem Progress.Mirrors.symm {progress other : Progress}
    (same : Progress.Mirrors left right progress other) :
    Progress.Mirrors right left other progress :=
  ⟨same.scanner.symm, same.nodes.symm, same.diagnostics.symm, same.mark.symm, same.journal.symm, by
    rw [← same.mark, ← same.scanner]
    exact same.lead⟩

/-- An evaluation ends like one that ends like another. -/
theorem Trial.Mirrors.trans {third : Grammar P} {trial other last : Trial}
    (first : Trial.Mirrors left right trial other)
    (second : Trial.Mirrors right third other last) : Trial.Mirrors left third trial last := by
  cases first with
  | diverged => exact .diverged
  | failed attempts =>
    cases second with
    | failed further => exact .failed (attempts.trans further)
  | matched same =>
    cases second with
    | matched further => exact .matched (same.trans further)

/-- Evaluations that end the same way go on the same way, if from where they match they do. -/
theorem Trial.Mirrors.andThen {trial other : Trial} (same : Trial.Mirrors left right trial other)
    {later laterOther : Progress → Trial}
    (onward : ∀ {progress progress'}, Progress.Mirrors left right progress progress' →
      Trial.Mirrors left right (later progress) (laterOther progress')) :
    Trial.Mirrors left right (trial.andThen later) (other.andThen laterOther) := by
  cases same with
  | diverged => exact .diverged
  | failed attempts => exact .failed attempts
  | matched next => exact onward next

/-- Replies that are alike are taken alike. -/
theorem Progress.Mirrors.take {progress progress' : Progress} {reply reply' : Reply}
    (same : Progress.Mirrors left right progress progress') (pace : reply.Paces progress.scanner)
    (alike : Reply.Mirrors left right reply reply') :
    Trial.Mirrors left right (progress.take reply) (progress'.take reply') := by
  have attempts : SameTrace left right (reply.attempts.reverse ++ progress.journal).reverse
      (reply'.attempts.reverse ++ progress'.journal).reverse := by
    rw [List.reverse_append, List.reverse_append, List.reverse_reverse, List.reverse_reverse]
    exact same.journal.append alike.attempts
  unfold Progress.take
  rw [← alike.matched]
  cases reply.matched with
  | false => exact .failed attempts
  | true =>
    refine .matched ⟨?_, ?_, ?_, ?_, attempts, ?_⟩
    · rw [same.scanner, alike.stop]
    · rw [same.nodes, alike.nodes]
    · rw [same.diagnostics, alike.diagnostics]
    · rw [same.mark, alike.change]
    · rw [Scanner.position_moveTo pace.inside]
      exact pace.moves.lead_le same.lead

/-- Progress that is alike stays so with attempts that leave the same behind. -/
theorem Progress.Mirrors.noting {progress progress' : Progress} {journal journal' : List Attempt}
    (same : Progress.Mirrors left right progress progress')
    (attempts : SameTrace left right journal.reverse journal'.reverse) :
    Progress.Mirrors left right { progress with journal } { progress' with journal := journal' } :=
  ⟨same.scanner, same.nodes, same.diagnostics, same.mark, attempts, same.lead⟩

/-- Progress that is alike stays so when both cursors go to one place. -/
theorem Progress.Mirrors.moving {progress progress' : Progress}
    (same : Progress.Mirrors left right progress progress') {scanner : Scanner}
    (reached : progress.scanner.Reaches scanner) :
    Progress.Mirrors left right { progress with scanner } { progress' with scanner } :=
  ⟨rfl, same.nodes, same.diagnostics, same.mark, same.journal,
    Nat.le_trans same.lead reached.forward⟩

namespace Trial

/-- A rule that wraps parts, on which there is the verdict that follows from those on the parts, is
matched by matching the parts. -/
theorem call_wraps {grammar : Grammar P} {oracle : Oracle} {wrapper : RuleId} {parts : List RuleId}
    {progress : Progress} (wraps : grammar.Wraps wrapper parts) (paces : oracle.Paces grammar)
    (lead : progress.mark.lead ≤ progress.scanner.position)
    (settled : oracle.step grammar wrapper progress.scanner = oracle wrapper progress.scanner) :
    Trial.Mirrors grammar grammar (all grammar oracle parts progress)
        (call grammar oracle wrapper progress) ∧
      Trial.Mirrors grammar grammar (call grammar oracle wrapper progress)
        (all grammar oracle parts progress) := by
  have joins := all_joins paces (.start lead) parts
  have noted : ∀ (matched : Bool) (journal : List Attempt),
      SameTrace grammar grammar (journal ++ progress.journal).reverse
        (.rule wrapper progress.scanner.position matched journal.reverse ::
          progress.journal).reverse := by
    intro matched journal
    rw [List.reverse_append, List.reverse_cons]
    exact (SameTrace.refl grammar _).append (SameTrace.unreported wraps.isReported _ _ _).symm
  unfold call
  rw [← settled, wraps.step]
  generalize all grammar oracle parts (.start progress.scanner) = trial at joins
  generalize all grammar oracle parts progress = joined at joins
  cases joins with
  | diverged => exact ⟨.diverged, .diverged⟩
  | failed =>
    simp only [conclude, MatchResult.reply, wraps.pinned]
    exact ⟨.failed (noted _ _), .failed (noted _ _).symm⟩
  | @matched ended joined joins =>
    simp only [conclude, wraps.reply_success, Progress.take, ↓reduceIte]
    have traced := noted true ended.journal
    rw [← joins.journal] at traced
    have moved : progress.scanner.moveTo ended.scanner.position = joined.scanner := by
      rw [joins.scanner]
      exact Scanner.moveTo_position joins.source
    suffices same : Progress.Mirrors grammar grammar joined _ from
      ⟨.matched same, .matched same.symm⟩
    exact ⟨moved.symm, joins.nodes, joins.diagnostics, joins.mark.joined, traced,
      joins.scanner ▸ joins.mark.lead_le⟩

variable {oracle mirror : Oracle} {progress progress' : Progress}

/-- Matching related parts goes in step. -/
theorem call_mirrors (mirrors : left.Mirrors right related)
    (oracles : oracle.Mirrors left right related mirror) {id other : RuleId}
    (linked : related id other) (same : Progress.Mirrors left right progress progress') :
    Trial.Mirrors left right (call left oracle id progress)
      (call right mirror other progress') := by
  unfold call
  rw [← same.scanner]
  cases known : oracle id progress.scanner with
  | none => exact .diverged
  | some result =>
    obtain ⟨mirrored, otherKnown, alike⟩ := oracles.alike linked known
    rw [otherKnown]
    exact same.take (oracles.paces id _ result known) (mirrors.reply linked _ alike)

/-- Matching a row of parts goes in step. -/
theorem all_mirrors (mirrors : left.Mirrors right related)
    (oracles : oracle.Mirrors left right related mirror) {parts others : List RuleId}
    (row : Row left right related parts others)
    (same : Progress.Mirrors left right progress progress') :
    Trial.Mirrors left right (all left oracle parts progress)
      (all right mirror others progress') := by
  induction row generalizing progress progress' with
  | nil => exact .matched same
  | cons linked rest ih =>
    rw [all_cons, all_cons]
    exact (call_mirrors mirrors oracles linked same).andThen ih
  | @wrapped wrapper parts others later laterOthers wraps inside rest ihInside ih =>
    have settled := congrFun (congrFun oracles.closed wrapper) progress'.scanner
    have called := (ihInside same).trans
      (call_wraps wraps oracles.mirrorPaces same.symm.lead settled).1
    rw [all_append, all_cons]
    exact called.andThen ih
  | @unwrapped wrapper parts others later laterOthers wraps inside rest ihInside ih =>
    have called : Trial.Mirrors left right (call left oracle wrapper progress)
        (all right mirror others progress') := by
      cases known : oracle wrapper progress.scanner with
      | none =>
        unfold call
        rw [known]
        exact .diverged
      | some result =>
        have settled := (oracles.follows known).trans known.symm
        exact (call_wraps wraps oracles.paces same.lead settled).2.trans (ihInside same)
    rw [all_cons, all_append]
    exact called.andThen ih

/-- Matching parts that come to the same goes in step. -/
theorem part_mirrors (mirrors : left.Mirrors right related)
    (oracles : oracle.Mirrors left right related mirror) {part other : RuleId}
    (row : Row left right related [part] [other])
    (same : Progress.Mirrors left right progress progress') :
    Trial.Mirrors left right (call left oracle part progress)
      (call right mirror other progress') := by
  rw [← all_single left, ← all_single right]
  exact all_mirrors mirrors oracles row same

/-- Matching the first that succeeds of parts that come to the same goes in step. -/
theorem first_mirrors (mirrors : left.Mirrors right related)
    (oracles : oracle.Mirrors left right related mirror) {parts others : List RuleId}
    (rows : List.Forall₂ (fun part other => Row left right related [part] [other]) parts others)
    (same : Progress.Mirrors left right progress progress') :
    Trial.Mirrors left right (first left oracle parts progress)
      (first right mirror others progress') := by
  induction rows generalizing progress progress' with
  | nil => exact .failed same.journal
  | cons row _ ih =>
    have called := part_mirrors mirrors oracles row same
    unfold first
    generalize call left oracle _ progress = trial at called
    generalize call right mirror _ progress' = mirrored at called
    cases called with
    | diverged => exact .diverged
    | failed attempts => exact ih (same.noting attempts)
    | matched next => exact .matched next

/-- Mirrored tests go in step. -/
theorem test_mirrors (mirrors : left.Mirrors right related)
    (oracles : oracle.Mirrors left right related mirror) {subject other : Test P}
    (linked : Test.Mirrors left right related subject other)
    (same : Progress.Mirrors left right progress progress') :
    Trial.Mirrors left right (test left oracle subject progress)
      (test right mirror other progress') := by
  cases linked with
  | @terminal terminal =>
    simp only [test]
    rw [← same.scanner]
    cases found : terminal.scan progress.scanner with
    | none => exact .failed same.journal
    | some scanner => exact .matched (same.moving (Terminal.scan_reaches found))
  | reference part => exact call_mirrors mirrors oracles part same
  | group row => exact part_mirrors mirrors oracles row same
  | inlined part => exact call_mirrors mirrors oracles part same
  | outlined part => exact call_mirrors mirrors oracles part same
  | procedure => exact .diverged
  | sequence row => exact all_mirrors mirrors oracles row same
  | choice rows => exact first_mirrors mirrors oracles rows same

/-- Seeing related rules fail goes in step. -/
theorem refute_mirrors (mirrors : left.Mirrors right related)
    (oracles : oracle.Mirrors left right related mirror) {id other : RuleId}
    (linked : related id other) (same : Progress.Mirrors left right progress progress') :
    Trial.Mirrors left right (refute left oracle (left.rule id) progress)
      (refute right mirror (right.rule other) progress') := by
  have fresh : Progress.Mirrors left right { progress with journal := [] }
      { progress' with journal := [] } := same.noting .nil
  have tested := test_mirrors mirrors oracles (mirrors.test linked) fresh
  have noted : ∀ {inside inside' : List Attempt}, SameTrace left right inside inside' →
      SameTrace left right (.negation inside :: progress.journal).reverse
        (.negation inside' :: progress'.journal).reverse := by
    intro inside inside' attempts
    rw [List.reverse_cons, List.reverse_cons]
    exact same.journal.append attempts.negation
  have consumed : progress'.scanner.consume = progress.scanner.consume := by rw [same.scanner]
  unfold refute
  rw [← (mirrors.rule linked).behaviour, consumed]
  generalize test left oracle _ { progress with journal := [] } = trial at tested
  generalize test right mirror _ { progress' with journal := [] } = mirrored at tested
  cases tested with
  | diverged => exact .diverged
  | matched next => exact .failed (noted next.journal)
  | failed attempts =>
    simp only
    split
    · exact .matched (same.noting (noted attempts))
    · cases found : progress.scanner.consume with
      | none => exact .failed (noted attempts)
      | some taken =>
        exact .matched ((same.noting (noted attempts)).moving (Scanner.consume_reaches found))

/-- An iteration of related rules goes in step. -/
theorem once_mirrors (mirrors : left.Mirrors right related)
    (oracles : oracle.Mirrors left right related mirror) {id other : RuleId}
    (linked : related id other) (same : Progress.Mirrors left right progress progress') :
    Trial.Mirrors left right (once left oracle (left.rule id) progress)
      (once right mirror (right.rule other) progress') := by
  unfold once
  rw [← (mirrors.rule linked).behaviour]
  split
  · exact refute_mirrors mirrors oracles linked same
  · exact test_mirrors mirrors oracles (mirrors.test linked) same

/-- Repetition of resembling rules ends the same way after as many successes. -/
theorem settle_mirrors {rule other : Occurrence P} (resembles : rule.Resembles other) (count : Nat)
    (same : Progress.Mirrors left right progress progress') :
    Trial.Mirrors left right (settle rule count progress) (settle other count progress') := by
  unfold settle
  rw [← resembles.behaviour]
  split
  · exact .matched same
  · exact .failed same.journal

/-- Repetition of related rules goes in step. -/
theorem rounds_mirrors (mirrors : left.Mirrors right related)
    (oracles : oracle.Mirrors left right related mirror) {id other : RuleId}
    (linked : related id other) (budget count : Nat)
    (same : Progress.Mirrors left right progress progress') :
    Trial.Mirrors left right (rounds left oracle (left.rule id) budget count progress)
      (rounds right mirror (right.rule other) budget count progress') := by
  have resembles := mirrors.rule linked
  induction budget generalizing count progress progress' with
  | zero =>
    unfold rounds
    rw [← resembles.behaviour]
    split
    · exact settle_mirrors resembles count same
    · exact .diverged
  | succ budget ih =>
    have iterated := once_mirrors mirrors oracles linked same
    unfold rounds
    generalize once left oracle _ progress = trial at iterated
    generalize once right mirror _ progress' = mirrored at iterated
    cases iterated with
    | diverged => exact .diverged
    | failed attempts => exact settle_mirrors resembles count (same.noting attempts)
    | matched next =>
      simp only
      rw [← next.scanner, ← same.scanner]
      split
      · exact settle_mirrors resembles (count + 1) next
      · exact ih (count + 1) next

/-- A rule whose evaluation ends comes to a result like that of a related rule whose evaluation ends
the same way. -/
theorem conclude_mirrors (mirrors : left.Mirrors right related) {id other : RuleId}
    (linked : related id other) {origin : Nat} {trial mirrored : Trial}
    (same : Trial.Mirrors left right trial mirrored) {result : MatchResult}
    (concluded : conclude left id origin trial = some result) :
    ∃ mirror, conclude right other origin mirrored = some mirror ∧
      MatchResult.Mirrors left right result mirror := by
  have resembles := mirrors.rule linked
  cases same with
  | diverged => contradiction
  | failed attempts =>
    obtain rfl := Option.some.inj concluded
    exact ⟨_, rfl, .failure (.rule resembles origin false attempts)⟩
  | matched ended =>
    obtain rfl := Option.some.inj concluded
    refine ⟨_, rfl, .success ?_ ?_ ?_ ended.diagnostics (.rule resembles origin true ended.journal)⟩
    · simp only [remembered, resembles.behaviour, ended.scanner]
    · simp only [remembered, ended.mark, ended.scanner]
    · simp only [remembered, resembles.behaviour, resembles.production, ended.mark, ended.scanner,
        ended.nodes]

end Trial

/-- What follows for a rule from verdicts on parts follows alike for a related rule. -/
theorem Oracle.Mirrors.step (mirrors : left.Mirrors right related) {oracle mirror : Oracle}
    (oracles : oracle.Mirrors left right related mirror) {id other : RuleId} {origin : Scanner}
    {result : MatchResult} (linked : related id other)
    (known : oracle.step left id origin = some result) :
    ∃ mirrored, mirror.step right other origin = some mirrored ∧
      MatchResult.Mirrors left right result mirrored := by
  have start : Progress.Mirrors left right (.start origin) (.start origin) :=
    ⟨rfl, rfl, rfl, rfl, .nil, Nat.le_refl _⟩
  unfold Oracle.step Trial.repeated at known ⊢
  rw [← (mirrors.rule linked).behaviour]
  exact Trial.conclude_mirrors mirrors linked
    (Trial.rounds_mirrors mirrors oracles linked _ 0 start) known

/-- A verdict at any depth of calls is like the final one on a related rule. -/
theorem verdict_mirrors (mirrors : left.Mirrors right related) (depth : Nat) :
    (verdict left depth).Mirrors left right related (finalVerdict right) := by
  induction depth with
  | zero =>
    exact ⟨fun _ known => by contradiction, fun known => by contradiction,
      finalVerdict_eq_step right, verdict_paces left 0, finalVerdict_paces right⟩
  | succ depth ih =>
    refine ⟨fun linked known => ?_, fun {id scanner result} known => ?_,
      finalVerdict_eq_step right, verdict_paces left _, finalVerdict_paces right⟩
    · rw [← finalVerdict_eq_step right]
      exact ih.step mirrors linked known
    · exact verdict_refines left scanner.source (Nat.le_succ _) id scanner result rfl known

/-- The final verdict on a rule is like that on a related one. -/
theorem finalVerdict_alike (mirrors : left.Mirrors right related) {id other : RuleId}
    {scanner : Scanner} {result : MatchResult} (linked : related id other)
    (known : finalVerdict left id scanner = some result) :
    ∃ mirrored, finalVerdict right other scanner = some mirrored ∧
      MatchResult.Mirrors left right result mirrored :=
  (verdict_mirrors mirrors _).alike linked known

/-- The final verdicts on related rules are alike. -/
theorem finalVerdict_mirrors (mirrors : left.Mirrors right related) {id other : RuleId}
    (linked : related id other) (scanner : Scanner) :
    Option.Rel (MatchResult.Mirrors left right) (finalVerdict left id scanner)
      (finalVerdict right other scanner) := by
  cases known : finalVerdict left id scanner with
  | some result =>
    obtain ⟨mirrored, otherKnown, alike⟩ := finalVerdict_alike mirrors linked known
    rw [otherKnown]
    exact .some alike
  | none =>
    cases otherKnown : finalVerdict right other scanner with
    | none => exact .none
    | some mirrored =>
      obtain ⟨result, back, _⟩ := finalVerdict_alike mirrors.symm linked otherKnown
      rw [known] at back
      contradiction

/-! ## Builds -/

/-- States at the same place with the same nodes and diagnostics, each sound for its grammar. -/
structure State.Mirrors (left right : Grammar P) (state other : State NodeStack) : Prop where
  /-- The cursor is the same. -/
  scanner : state.scanner = other.scanner
  /-- The nodes are the same. -/
  builder : state.builder = other.builder
  /-- The diagnostics are the same. -/
  errors : state.errors = other.errors
  /-- As many negations are open. -/
  negations : state.negations = other.negations
  /-- The first state is sound. -/
  sound : state.Sound left
  /-- The second state is sound. -/
  otherSound : other.Sound right

variable [Procedures P]

/-- Passes of mirrored grammars from states at the same place end the same way, and leave the same
attempts and states at the same place, unless they never end. -/
theorem State.Mirrors.pass {state other : State NodeStack} (mirrors : left.Mirrors right related)
    (free : left.isProcedureFree = true) (otherFree : right.isProcedureFree = true)
    (same : State.Mirrors left right state other) :
    ((pass left state).1 = .failed .divergence ∧ (pass right other).1 = .failed .divergence) ∨
    ((pass left state).1 = (pass right other).1 ∧
      (pass left state).2.attempts = (pass right other).2.attempts ∧
      State.Mirrors left right (pass left state).2 (pass right other).2) := by
  have verdicts := finalVerdict_mirrors mirrors mirrors.root state.scanner
  have position : other.position = state.position := congrArg Scanner.position same.scanner.symm
  rcases pass_cases NodeStack.ledger free same.sound with
    ⟨result, known, answers⟩ | ⟨unknown, diverged⟩
  all_goals
    rcases pass_cases NodeStack.ledger otherFree same.otherSound with
      ⟨mirror, otherKnown, otherAnswers⟩ | ⟨otherUnknown, otherDiverged⟩
  · rw [known, same.scanner, otherKnown] at verdicts
    cases verdicts with
    | some alike =>
      have replies := mirrors.reply mirrors.root state.position alike
      rw [position] at otherAnswers
      have outcome : (Packrat.pass left state).1 = (Packrat.pass right other).1 := by
        rw [answers.outcome, otherAnswers.outcome, replies.matched]
      refine .inr ⟨outcome, ?_, ?_, ?_, ?_, ?_, same.sound.restarted.answered answers,
        same.otherSound.restarted.answered otherAnswers⟩
      · rw [answers.attempts, otherAnswers.attempts, replies.attempts, same.negations]
      · rw [answers.scanner, otherAnswers.scanner, replies.stop, same.scanner]
      · rw [answers.builder, otherAnswers.builder, replies.nodes, same.builder]
      · rw [answers.errors, otherAnswers.errors, replies.diagnostics, same.errors]
      · rw [answers.negations, otherAnswers.negations, same.negations]
  · rw [known, same.scanner, otherUnknown] at verdicts
    cases verdicts
  · rw [unknown, same.scanner, otherKnown] at verdicts
    cases verdicts
  · exact .inl ⟨diverged, otherDiverged⟩

/-- Mirrored grammars without procedures build the same from every source if there is no limit on
calls. -/
theorem Grammar.Mirrors.construct_unlimited (mirrors : left.Mirrors right related)
    (free : left.isProcedureFree = true) (otherFree : right.isProcedureFree = true)
    {config : Config} (unlimited : config.callLimit = none) (source : Source) :
    ((Constructor.make left config).construct source).result =
        ((Constructor.make right config).construct source).result ∧
      ((Constructor.make left config).construct source).errors =
        ((Constructor.make right config).construct source).errors := by
  have coupling : Coupling left right (State.Mirrors left right) :=
    { scanner := fun same => same.scanner
      builder := fun same => same.builder
      errors := fun same => same.errors
      callLimit := fun same => same.sound.unlimited.trans same.otherSound.unlimited.symm
      pass := fun same => same.pass mirrors free otherFree }
  have start : State.Mirrors left right ((Constructor.make left config).start source)
      ((Constructor.make right config).start source) :=
    ⟨rfl, rfl, rfl, rfl, (Constructor.make left config).start_sound source unlimited,
      (Constructor.make right config).start_sound source unlimited⟩
  exact Coupling.construct coupling start

/-- Mirrored grammars without procedures build the same from every source. -/
theorem Grammar.Mirrors.construct (mirrors : left.Mirrors right related)
    (free : left.isProcedureFree = true) (otherFree : right.isProcedureFree = true)
    (source : Source) :
    ((Constructor.make left .default).construct source).result =
        ((Constructor.make right .default).construct source).result ∧
      ((Constructor.make left .default).construct source).errors =
        ((Constructor.make right .default).construct source).errors :=
  mirrors.construct_unlimited free otherFree rfl source

end Packrat
