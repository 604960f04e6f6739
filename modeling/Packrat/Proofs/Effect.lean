import Packrat.Proofs.CacheTransparency
import Packrat.Proofs.Rendering

/-!
# Effects of rules

The effect of a rule at a cursor is where it ends and which diagnostics it records, with nothing
said about nodes, marks and attempts. It is read off the final verdict (`Grammar.effect`), and the
effect of a rule that neither negates nor looks ahead follows from those of its parts
(`Grammar.effect_eq`). So a rule of a draft has a meaning, put together from the meanings of its
parts, that every occurrence of it in the grammar has (`Rule.Means`).
-/

namespace Packrat

variable {P : Type}

/-- What an evaluation comes to: it never ends, fails, or ends at a cursor with diagnostics. -/
inductive Effect where
  /-- There is no end. -/
  | endless
  /-- It fails. -/
  | failed
  /-- It matches, and leaves the cursor and diagnostics. -/
  | matched (next : Scanner) (diagnostics : List Diagnostic)

namespace Effect

/-! ## Putting effects together -/

/-- The effect with diagnostics recorded before it. -/
def after (earlier : List Diagnostic) : Effect → Effect
  | matched next diagnostics => matched next (earlier ++ diagnostics)
  | effect => effect

/-- The effect of going on where another evaluation ends. -/
def andThen (effect : Effect) (later : Scanner → Effect) : Effect :=
  match effect with
  | matched next diagnostics => (later next).after diagnostics
  | effect => effect

/-- The effect of trying something else where an evaluation fails. -/
def orElse (effect other : Effect) : Effect :=
  match effect with
  | failed => other
  | effect => effect

/-- The effect of several evaluations one after the other. -/
def sequence : List (Scanner → Effect) → Scanner → Effect
  | [], here => matched here []
  | part :: later, here => (part here).andThen (sequence later)

/-- The effect of the first of several evaluations that does not fail. -/
def choice : List (Scanner → Effect) → Scanner → Effect
  | [], _ => failed
  | part :: later, here => (part here).orElse (choice later here)

/-- How repetition ends after a number of successes. -/
def settle (cardinality : Cardinality) (count : Nat) (here : Scanner) : Effect :=
  if cardinality.accepts count then matched here [] else failed

/-- The effect of an evaluation again and again after `count` successes, at most `budget` more
times. -/
def rounds (part : Scanner → Effect) (cardinality : Cardinality) :
    (budget count : Nat) → Scanner → Effect
  | 0, count, here =>
    match cardinality.maximum with
    | some _ => settle cardinality count here
    | none => endless
  | budget + 1, count, here =>
    match part here with
    | matched next diagnostics =>
      (if next.position = here.position then settle cardinality (count + 1) next
        else rounds part cardinality budget (count + 1) next).after diagnostics
    | failed => settle cardinality count here
    | endless => endless

/-- The effect of an evaluation as often as a cardinality asks. -/
def repeated (part : Scanner → Effect) (cardinality : Cardinality) (here : Scanner) : Effect :=
  rounds part cardinality (cardinality.maximum.getD (here.source.length + 2)) 0 here

/-- The effect of scanning for a terminal. -/
def scan (terminal : Terminal) (here : Scanner) : Effect :=
  match terminal.scan here with
  | some next => matched next []
  | none => failed

variable {effect : Effect} {next : Scanner} {diagnostics : List Diagnostic}

/-- No diagnostics before an effect leave it as it is. -/
@[simp] theorem after_nil (effect : Effect) : effect.after [] = effect := by
  cases effect <;> rfl

/-- Diagnostics are recorded in order. -/
@[simp] theorem after_after (effect : Effect) (earlier later : List Diagnostic) :
    (effect.after later).after earlier = effect.after (earlier ++ later) := by
  cases effect with
  | matched next diagnostics => simp only [after, List.append_assoc]
  | _ => rfl

/-- An effect after diagnostics is a match just if it is one, with these in front. -/
theorem after_eq_matched {earlier : List Diagnostic} :
    effect.after earlier = matched next diagnostics ↔
      ∃ later, effect = matched next later ∧ diagnostics = earlier ++ later := by
  cases effect with
  | matched other later => simp [after, eq_comm]
  | _ => simp [after]

/-- Diagnostics recorded before an evaluation goes on are recorded before both. -/
theorem andThen_after (effect : Effect) (later : Scanner → Effect) (earlier : List Diagnostic) :
    (effect.after earlier).andThen later = (effect.andThen later).after earlier := by
  cases effect with
  | matched next diagnostics => exact (after_after (later next) earlier diagnostics).symm
  | _ => rfl

/-- Going on matches just if both evaluations match, one where the other ends. -/
theorem andThen_eq_matched {later : Scanner → Effect} :
    effect.andThen later = matched next diagnostics ↔
      ∃ middle first second, effect = matched middle first ∧ later middle = matched next second ∧
        diagnostics = first ++ second := by
  cases effect with
  | matched middle first => simp [andThen, after_eq_matched]
  | _ => simp [andThen]

/-- Trying something else matches just if the evaluation does, or fails and the other matches. -/
theorem orElse_eq_matched {other : Effect} :
    effect.orElse other = matched next diagnostics ↔
      effect = matched next diagnostics ∨ effect = failed ∧ other = matched next diagnostics := by
  cases effect <;> simp [orElse]

/-- An evaluation of cardinality one is made once. -/
theorem repeated_one (part : Scanner → Effect) (here : Scanner) :
    repeated part .one here = part here := by
  have settled : ∀ next, settle .one 1 next = matched next [] := fun _ => rfl
  change rounds part .one 1 0 here = part here
  unfold rounds
  cases part here with
  | matched next diagnostics =>
    simp only
    split
    · simp [settled, after]
    · change (settle .one 1 next).after diagnostics = _
      simp [settled, after]
  | _ => rfl

/-- An optional evaluation is made once, and matches where it fails. -/
theorem repeated_optional (part : Scanner → Effect) (here : Scanner) :
    repeated part .optional here = (part here).orElse (matched here []) := by
  have settled : ∀ next, settle .optional 1 next = matched next [] := fun _ => rfl
  change rounds part .optional 1 0 here = _
  unfold rounds
  cases part here with
  | matched next diagnostics =>
    simp only
    split
    · simp [settled, after, orElse]
    · change (settle .optional 1 next).after diagnostics = _
      simp [settled, after, orElse]
  | _ => rfl

end Effect

/-! ## Effects in a grammar -/

/-- The effect of a reply at a cursor. -/
def Reply.effect (reply : Reply) (here : Scanner) : Effect :=
  if reply.matched then .matched (here.moveTo reply.stop) reply.diagnostics else .failed

/-- The effect of a rule at a cursor. -/
def Grammar.effect (grammar : Grammar P) (id : RuleId) (here : Scanner) : Effect :=
  match finalVerdict grammar id here with
  | some result => (result.reply grammar (grammar.rule id) here.position).effect here
  | none => .endless

/-- The effect of a test at a cursor. -/
def Test.effect (grammar : Grammar P) : Test P → Scanner → Effect
  | .terminal sought => .scan sought
  | .reference target => grammar.effect target
  | .group inner => grammar.effect inner
  | .procedure _ => fun _ => .endless
  | .sequence parts => .sequence (parts.map grammar.effect)
  | .choice parts => .choice (parts.map grammar.effect)

/-- The effect of a trial. -/
def Trial.effect : Trial → Effect
  | .diverged => .endless
  | .failed _ => .failed
  | .matched progress => .matched progress.scanner progress.diagnostics

namespace Trial

variable (grammar : Grammar P)

/-- A part that is matched has its effect. -/
theorem call_effect (progress : Progress) (id : RuleId) :
    (call grammar (finalVerdict grammar) id progress).effect =
      (grammar.effect id progress.scanner).after progress.diagnostics := by
  unfold call Grammar.effect
  cases finalVerdict grammar id progress.scanner with
  | none => rfl
  | some result =>
    simp only [Progress.take, Reply.effect]
    split <;> rfl

/-- Parts that are matched in order have their effects one after the other. -/
theorem all_effect (parts : List RuleId) (progress : Progress) :
    (all grammar (finalVerdict grammar) parts progress).effect =
      (Effect.sequence (parts.map grammar.effect) progress.scanner).after progress.diagnostics := by
  induction parts generalizing progress with
  | nil => simp [all, effect, Effect.sequence, Effect.after]
  | cons id later ih =>
    have called := call_effect grammar progress id
    rw [List.map_cons, Effect.sequence, ← Effect.andThen_after, ← called]
    unfold all
    cases call grammar (finalVerdict grammar) id progress with
    | matched next => exact ih next
    | failed journal => rfl
    | diverged => rfl

/-- The first part that matches has its effect. -/
theorem first_effect (parts : List RuleId) (progress : Progress) :
    (first grammar (finalVerdict grammar) parts progress).effect =
      (Effect.choice (parts.map grammar.effect) progress.scanner).after progress.diagnostics := by
  induction parts generalizing progress with
  | nil => rfl
  | cons id later ih =>
    have called := call_effect grammar progress id
    rw [List.map_cons, Effect.choice]
    unfold first
    cases known : grammar.effect id progress.scanner with
    | failed =>
      rw [known] at called
      cases tried : call grammar (finalVerdict grammar) id progress with
      | failed journal => exact ih { progress with journal }
      | matched next => simp [tried, effect, Effect.after] at called
      | diverged => simp [tried, effect, Effect.after] at called
    | matched next diagnostics =>
      rw [known] at called
      cases tried : call grammar (finalVerdict grammar) id progress with
      | matched next => rwa [tried] at called
      | failed journal => simp [tried, effect, Effect.after] at called
      | diverged => simp [tried, effect, Effect.after] at called
    | endless =>
      rw [known] at called
      cases tried : call grammar (finalVerdict grammar) id progress with
      | diverged => rfl
      | failed journal => simp [tried, effect, Effect.after] at called
      | matched next => simp [tried, effect, Effect.after] at called

/-- A test has its effect. -/
theorem test_effect (progress : Progress) (subject : Test P) :
    (test grammar (finalVerdict grammar) subject progress).effect =
      (subject.effect grammar progress.scanner).after progress.diagnostics := by
  cases subject with
  | terminal terminal =>
    simp only [test, Test.effect, Effect.scan]
    cases terminal.scan progress.scanner with
    | none => rfl
    | some next => simp [effect, Effect.after]
  | reference target => exact call_effect grammar progress target
  | group inner => exact call_effect grammar progress inner
  | procedure steps => rfl
  | sequence parts => exact all_effect grammar parts progress
  | choice parts => exact first_effect grammar parts progress

/-- How repetition ends has its effect. -/
theorem settle_effect (progress : Progress) (rule : Occurrence P) (count : Nat) :
    (settle rule count progress).effect =
      (Effect.settle rule.behaviour.cardinality count progress.scanner).after
        progress.diagnostics := by
  unfold settle Effect.settle
  split
  · simp [effect, Effect.after]
  · rfl

/-- Repetition of a rule that does not negate has its effect. -/
theorem rounds_effect {rule : Occurrence P} (plain : rule.behaviour.negate = false)
    (budget count : Nat) (progress : Progress) :
    (rounds grammar (finalVerdict grammar) rule budget count progress).effect =
      (Effect.rounds ((grammar.testOf rule).effect grammar) rule.behaviour.cardinality budget count
        progress.scanner).after progress.diagnostics := by
  induction budget generalizing count progress with
  | zero =>
    unfold rounds Effect.rounds
    cases rule.behaviour.cardinality.maximum with
    | none => rfl
    | some bound => exact settle_effect progress rule count
  | succ budget ih =>
    have tested := test_effect grammar progress (grammar.testOf rule)
    have iterated : once grammar (finalVerdict grammar) rule progress =
        test grammar (finalVerdict grammar) (grammar.testOf rule) progress := by
      unfold once
      rw [plain]
      rfl
    unfold rounds Effect.rounds
    rw [iterated]
    generalize test grammar (finalVerdict grammar) (grammar.testOf rule) progress = trial at tested
    generalize (grammar.testOf rule).effect grammar progress.scanner = known at tested
    cases trial with
    | diverged => cases known <;> simp_all [effect, Effect.after]
    | failed journal =>
      cases known with
      | failed => exact settle_effect { progress with journal } rule count
      | endless => simp [effect, Effect.after] at tested
      | matched next diagnostics => simp [effect, Effect.after] at tested
    | matched next =>
      cases known with
      | endless => simp [effect, Effect.after] at tested
      | failed => simp [effect, Effect.after] at tested
      | matched other diagnostics =>
        obtain ⟨rfl, recorded⟩ : next.scanner = other ∧
            next.diagnostics = progress.diagnostics ++ diagnostics := by
          simpa [effect, Effect.after] using tested
        simp only
        split
        · rw [settle_effect, recorded, Effect.after_after]
        · rw [ih, recorded, Effect.after_after]

end Trial

namespace Grammar

variable {grammar : Grammar P} {id : RuleId}

/-- The effect of a rule that neither negates nor looks ahead: that of its test as often as its
cardinality asks; a pinned rule matches where it fails and records its message. -/
theorem effect_eq (plain : (grammar.rule id).behaviour.negate = false)
    (taking : (grammar.rule id).behaviour.lookahead = false) (here : Scanner) :
    grammar.effect id here =
      (Effect.repeated ((grammar.testOf (grammar.rule id)).effect grammar)
        (grammar.rule id).behaviour.cardinality here).orElse
        (if (grammar.rule id).annotations.pinned then
          .matched here [⟨.point here.position, recoveryMessage grammar (grammar.rule id)⟩]
        else .failed) := by
  have begun : (Progress.start here).scanner = here := rfl
  have rounds := Trial.rounds_effect grammar plain
    ((grammar.rule id).behaviour.cardinality.maximum.getD (here.source.length + 2)) 0 (.start here)
  change _ = (Effect.repeated _ _ here).after [] at rounds
  rw [Effect.after_nil] at rounds
  unfold effect
  rw [← finalVerdict_eq_step, Oracle.step, Trial.repeated, begun, ← rounds]
  generalize known : Trial.rounds grammar (finalVerdict grammar) (grammar.rule id) _ 0
    (.start here) = trial
  cases trial with
  | diverged => rfl
  | failed journal =>
    simp only [Trial.conclude, MatchResult.reply, Reply.effect, Trial.effect, Effect.orElse]
    split
    · rw [Scanner.moveTo_position rfl]
    · rfl
  | matched ended =>
    have source : ended.scanner.source = here.source :=
      (Trial.keeps_source grammar (finalVerdict grammar) here.source).rounds rfl known
    simp only [Trial.conclude, Trial.remembered, MatchResult.reply, Reply.effect, Trial.effect,
      Effect.orElse, taking, Bool.false_eq_true, ↓reduceIte]
    rw [Scanner.moveTo_position source.symm]

end Grammar

/-! ## Meanings of rules -/

section Meanings

variable (given : List (String × Rule P)) (grammar : Grammar P)

/-- A rule stands in a grammar under a number, whatever it is called there. -/
def Rule.Stands (rule : Rule P) (id : RuleId) : Prop :=
  ∃ name text test,
    grammar.rules[id]? = some ⟨name, text, rule.behaviour, rule.annotations, .own test⟩ ∧
      Draft.RendersTest given grammar.rules rule.expression test

/-- The effect that every test has that an expression comes to. -/
def Expression.Means (expression : Expression P) (meaning : Scanner → Effect) : Prop :=
  ∀ test, Draft.RendersTest given grammar.rules expression test → test.effect grammar = meaning

/-- The effect that a rule has wherever it stands in a grammar. -/
def Rule.Means (rule : Rule P) (meaning : Scanner → Effect) : Prop :=
  ∀ id, rule.Stands given grammar id → grammar.effect id = meaning

variable {given grammar}

/-- A part stands where it is rendered. -/
theorem Rule.stands_of_part {rule : Rule P} {id : RuleId}
    (renders : Draft.RendersPart given grammar.rules rule id) : rule.Stands given grammar id := by
  cases renders with
  | mk _ stands inside => exact ⟨_, _, _, stands, inside⟩

/-- A definition stands where it is rendered. -/
theorem Rule.stands_of_definition {name : String} {rule : Rule P} {id : RuleId}
    (renders : Draft.RendersDefinition given grammar.rules name rule id) :
    rule.Stands given grammar id := by
  obtain ⟨test, stands, inside⟩ := renders
  exact ⟨_, _, test, stands, inside⟩

/-- The parts of several rules have the effects that the rules mean. -/
theorem Rule.map_effect {rules : List (Rule P)} {parts : List RuleId}
    {meanings : List (Scanner → Effect)}
    (mean : List.Forall₂ (Rule.Means given grammar) rules meanings)
    (renders : Draft.RendersAll given grammar.rules rules parts) :
    parts.map grammar.effect = meanings := by
  induction mean generalizing parts with
  | nil =>
    cases renders
    rfl
  | cons first later ih =>
    cases renders with
    | cons part rest => rw [List.map_cons, first _ (Rule.stands_of_part part), ih rest]

namespace Expression

/-- A terminal means a scan. -/
theorem means_terminal (terminal : Terminal) :
    (Expression.terminal terminal).Means given grammar (.scan terminal) := by
  intro test renders
  cases renders
  rfl

/-- A reference means what the definition does. -/
theorem means_reference {name : String} {definition : RuleId}
    (defined : given.findIdx? (·.1 == name) = some definition) :
    (Expression.reference name none none).Means given grammar (grammar.effect definition) := by
  intro test renders
  cases renders with
  | reference found =>
    obtain rfl := Option.some.inj (defined.symm.trans found)
    rfl
  | substitute replaced => contradiction

/-- A sequence means its parts one after the other. -/
theorem means_sequence {rules : List (Rule P)} {meanings : List (Scanner → Effect)}
    (mean : List.Forall₂ (Rule.Means given grammar) rules meanings) :
    (Expression.sequence rules).Means given grammar (.sequence meanings) := by
  intro test renders
  cases renders with
  | sequence all => rw [Test.effect, Rule.map_effect mean all]

/-- A choice means the first of its parts that does not fail. -/
theorem means_choice {rules : List (Rule P)} {meanings : List (Scanner → Effect)}
    (mean : List.Forall₂ (Rule.Means given grammar) rules meanings) :
    (Expression.choice rules).Means given grammar (.choice meanings) := by
  intro test renders
  cases renders with
  | choice all => rw [Test.effect, Rule.map_effect mean all]

end Expression

namespace Rule

variable {rule : Rule P} {meaning : Scanner → Effect} {id : RuleId}

/-- Where a rule stands, the grammar has a rule with its behaviour, its annotations and a test that
its expression comes to. -/
theorem Stands.rule_eq (stands : rule.Stands given grammar id) :
    (grammar.rule id).behaviour = rule.behaviour ∧
      (grammar.rule id).annotations = rule.annotations ∧
      Draft.RendersTest given grammar.rules rule.expression
        (grammar.testOf (grammar.rule id)) := by
  obtain ⟨name, text, test, found, renders⟩ := stands
  have same : grammar.rule id =
      ⟨name, text, rule.behaviour, rule.annotations, .own test⟩ := by
    rw [Grammar.rule, found, Option.getD_some]
  rw [same]
  exact ⟨rfl, rfl, renders⟩

/-- A rule that neither negates nor looks ahead nor recovers means its test as often as its
cardinality asks. -/
theorem means_repeated (plain : rule.behaviour.negate = false)
    (taking : rule.behaviour.lookahead = false) (unpinned : rule.annotations.pinned = false)
    (mean : rule.expression.Means given grammar meaning) :
    rule.Means given grammar (.repeated meaning rule.behaviour.cardinality) := by
  intro id stands
  obtain ⟨behaviour, annotations, renders⟩ := stands.rule_eq
  funext here
  rw [Grammar.effect_eq (by rw [behaviour, plain]) (by rw [behaviour, taking]), mean _ renders,
    behaviour, annotations, unpinned]
  cases Effect.repeated meaning rule.behaviour.cardinality here <;> rfl

/-- A rule that is matched once means its test. -/
theorem means_once (plain : rule.behaviour.negate = false)
    (taking : rule.behaviour.lookahead = false) (unpinned : rule.annotations.pinned = false)
    (once : rule.behaviour.cardinality = .one)
    (mean : rule.expression.Means given grammar meaning) : rule.Means given grammar meaning := by
  have repeated := means_repeated plain taking unpinned mean
  rw [once] at repeated
  rwa [funext (Effect.repeated_one meaning)] at repeated

/-- An optional rule means its test, and matches where that fails. -/
theorem means_optional (plain : rule.behaviour.negate = false)
    (taking : rule.behaviour.lookahead = false) (unpinned : rule.annotations.pinned = false)
    (optional : rule.behaviour.cardinality = .optional)
    (mean : rule.expression.Means given grammar meaning) :
    rule.Means given grammar fun here => (meaning here).orElse (.matched here []) := by
  have repeated := means_repeated plain taking unpinned mean
  rw [optional] at repeated
  rwa [funext (Effect.repeated_optional meaning)] at repeated

/-- A pinned rule that is matched once means its test, and matches where that fails, with its
message as a diagnostic. -/
theorem means_pinned {message : String} (plain : rule.behaviour.negate = false)
    (taking : rule.behaviour.lookahead = false) (pinned : rule.annotations.pinned = true)
    (explained : rule.annotations.error = some message)
    (once : rule.behaviour.cardinality = .one)
    (mean : rule.expression.Means given grammar meaning) :
    rule.Means given grammar fun here =>
      (meaning here).orElse (.matched here [⟨.point here.position, message⟩]) := by
  intro id stands
  obtain ⟨behaviour, annotations, renders⟩ := stands.rule_eq
  have told : recoveryMessage grammar (grammar.rule id) = message := by
    rw [recoveryMessage, annotations, explained, Option.getD_some]
  funext here
  rw [Grammar.effect_eq (by rw [behaviour, plain]) (by rw [behaviour, taking]), mean _ renders,
    behaviour, annotations, pinned, once, Effect.repeated_one, told, if_pos rfl]

end Rule

end Meanings

end Packrat
