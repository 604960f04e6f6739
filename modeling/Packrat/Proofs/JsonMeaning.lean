import Packrat.Proofs.DraftClass
import Packrat.Proofs.JsonTokens
import Packrat.Proofs.Taking
import Packrat.Proofs.WholeMatch

/-!
# What the rules of JSON mean

The effects of the rules of the JSON grammar, put together from scans: values and members of objects
are what satisfies two equations (`Json.Meaning`). The grammar is built and matches texts as a
whole, and its root means a value with blanks around it, up to the end (`Json.exists_meaning`).
-/

namespace Packrat

/-- A rule that matches an expression once means what that does. -/
theorem Rule.means_ofExpression {given : List (String × Rule)} {grammar : Grammar}
    {expression : Expression} {meaning : Scanner → Effect}
    (mean : expression.Means given grammar meaning) :
    (Rule.ofExpression expression).Means given grammar meaning :=
  means_once rfl rfl rfl rfl mean

namespace Json

namespace Meaning

/-- What blanks mean: any number of blank characters. -/
def blanks : Scanner → Effect :=
  .perhaps (.repeated (.scan (.set .whitespacesAndNewlines)) .oneOrMore)

/-- What a number means. -/
def number : Scanner → Effect :=
  .scan (.regex numberPattern ⟨Terminal.anchored numberPattern, Number.pattern⟩)

/-- What a string means. -/
def string : Scanner → Effect :=
  .scan (.regex stringPattern ⟨Terminal.anchored stringPattern, Text.pattern⟩)

/-- What a literal for a truth value means. -/
def bool : Scanner → Effect :=
  .choice [.scan (.literal "true"), .scan (.literal "false")]

/-- What the literal for no value means. -/
def null : Scanner → Effect :=
  .scan (.literal "null")

/-- What a comma and another element mean. -/
def another (element : Scanner → Effect) : Scanner → Effect :=
  .sequence [blanks, .scan (.literal ","), blanks, element]

/-- What elements with commas between them mean. -/
def separated (element : Scanner → Effect) : Scanner → Effect :=
  .perhaps (.sequence [element, .repeated (another element) .zeroOrMore])

/-- What a closing bracket means: if it is missing, a diagnostic. -/
def closing (word : String) (here : Scanner) : Effect :=
  (Effect.scan (.literal word) here).orElse
    (.matched here [⟨.point here.position, "expected " ++ word⟩])

/-- What elements between brackets mean. -/
def delimited (opening : String) (element : Scanner → Effect) (word : String) : Scanner → Effect :=
  .sequence [.scan (.literal opening), blanks, separated element, blanks, closing word]

/-- What a name and a value mean. -/
def named (value : Scanner → Effect) : Scanner → Effect :=
  .sequence [string, blanks, .scan (.literal ":"), blanks, value]

end Meaning

/-- The effects of the rules for values and members. -/
structure Meaning where
  /-- The effect of values. -/
  value : Scanner → Effect
  /-- The effect of members of objects. -/
  member : Scanner → Effect
  /-- A value is an object, an array, a string, a number or a literal. -/
  value_eq : value = .choice
    [Meaning.delimited "\x7b" member "\x7d", Meaning.delimited "[" value "]", Meaning.string,
      Meaning.number, Meaning.bool, Meaning.null]
  /-- A member is a name and a value with a colon in between. -/
  member_eq : member = Meaning.named value

/-- The rule of numbers. -/
def numberRule : Rule :=
  .terminal (.regex numberPattern ⟨Terminal.anchored numberPattern, Number.pattern⟩)

/-- The rule of strings. -/
def stringRule : Rule :=
  .terminal (.regex stringPattern ⟨Terminal.anchored stringPattern, Text.pattern⟩)

/-- The grammar is what the draft with the rules of numbers and strings gives. -/
theorem grammar_eq : grammar = (draft numberRule stringRule).build := by
  have number : Rule.pattern numberPattern = .ok numberRule := by
    rw [Rule.pattern, Terminal.ofPattern, Number.compile_pattern]
    rfl
  have string : Rule.pattern stringPattern = .ok stringRule := by
    rw [Rule.pattern, Terminal.ofPattern, Text.compile_pattern]
    rfl
  have bound : ∀ {α β : Type} (a : α) (f : α → Except GrammarError β), (.ok a >>= f) = f a :=
    fun _ _ => rfl
  rw [grammar, number, bound, string, bound]

/-- The draft gives a grammar. -/
theorem build_isOk : (draft numberRule stringRule).build.isOk = true := by
  decide +kernel

/-- The definitions of the grammar. -/
abbrev definitions : List (String × Rule) :=
  (draft numberRule stringRule).definitions

section Rendered

variable {grammar : Grammar}

/-- A literal means a scan for its text. -/
theorem means_literal (word : String) :
    (Rule.literal word).Means definitions grammar (.scan (.literal word)) :=
  Rule.means_ofExpression (Expression.means_terminal _)

/-- A reference means the effect of a definition. -/
theorem means_reference {name : String} {id : RuleId}
    (defined : definitions.findIdx? (·.1 == name) = some id) :
    (Rule.reference name).Means definitions grammar (grammar.effect id) :=
  Rule.means_ofExpression (Expression.means_reference defined)

/-- A sequence means its parts one after the other. -/
theorem means_sequence {rules : List Rule} {meanings : List (Scanner → Effect)}
    (mean : List.Forall₂ (Rule.Means definitions grammar) rules meanings) :
    (Rule.sequence rules).Means definitions grammar (.sequence meanings) :=
  Rule.means_ofExpression (Expression.means_sequence mean)

/-- A closing bracket means its literal, or a diagnostic. -/
theorem means_closing {word : String} :
    (((Rule.literal word).pin).error ("expected " ++ word)).Means definitions grammar
      (Meaning.closing word) :=
  Rule.means_pinned rfl rfl rfl rfl rfl (Expression.means_terminal _)

variable (rendered : (draft numberRule stringRule).IsRendered grammar)

include rendered

/-- A definition has the effect that its rule means. -/
theorem effect_eq {id : RuleId} {name : String} {rule : Rule} {meaning : Scanner → Effect}
    (listed : definitions[id]? = some (name, rule))
    (mean : rule.Means definitions grammar meaning) : grammar.effect id = meaning :=
  mean id (Rule.stands_of_definition (rendered.definition listed))

/-- Blanks mean any number of blank characters. -/
theorem means_blanks : blanks.Means definitions grammar Meaning.blanks := by
  have spaces : grammar.effect 0 =
      .repeated (.scan (.set .whitespacesAndNewlines)) .oneOrMore :=
    effect_eq rendered rfl (Rule.means_repeated rfl rfl rfl (Expression.means_terminal _))
  have mean : blanks.Means definitions grammar (.perhaps (grammar.effect 0)) :=
    Rule.means_optional rfl rfl rfl rfl (Expression.means_reference rfl)
  rwa [spaces] at mean

/-- Elements with commas between them mean elements with commas between them. -/
theorem means_separated {name : String} {id : RuleId}
    (defined : definitions.findIdx? (·.1 == name) = some id) :
    (separated name).Means definitions grammar (Meaning.separated (grammar.effect id)) := by
  have blank := means_blanks rendered
  have element : (Rule.reference name).Means definitions grammar (grammar.effect id) :=
    means_reference defined
  have another : (Rule.sequence [blanks, .literal ",", blanks, .reference name]).zeroOrMore.Means
      definitions grammar (.repeated (Meaning.another (grammar.effect id)) .zeroOrMore) :=
    Rule.means_repeated rfl rfl rfl (Expression.means_sequence
      (.cons blank (.cons (means_literal _) (.cons blank (.cons element .nil)))))
  exact Rule.means_optional rfl rfl rfl rfl
    (Expression.means_sequence (.cons element (.cons another .nil)))

/-- Elements between brackets mean elements between brackets. -/
theorem means_delimited {name opening word : String} {id : RuleId}
    (defined : definitions.findIdx? (·.1 == name) = some id) (token : Token) :
    ((delimited opening name word).token token).Means definitions grammar
      (Meaning.delimited opening (grammar.effect id) word) := by
  have blank := means_blanks rendered
  exact Rule.means_once rfl rfl rfl rfl (Expression.means_sequence
    (.cons (means_literal _) (.cons blank (.cons (means_separated rendered defined)
      (.cons blank (.cons means_closing .nil))))))

/-- Strings mean a scan for their pattern. -/
theorem effect_string : grammar.effect 4 = Meaning.string :=
  effect_eq rendered rfl (Rule.means_once rfl rfl rfl rfl (Expression.means_terminal _))

/-- The effects of the definitions of values and members. -/
def meaningOf : Meaning where
  value := grammar.effect 8
  member := grammar.effect 5
  value_eq := by
    have object : grammar.effect 6 = Meaning.delimited "\x7b" (grammar.effect 5) "\x7d" :=
      effect_eq rendered rfl (means_delimited rendered rfl _)
    have array : grammar.effect 7 = Meaning.delimited "[" (grammar.effect 8) "]" :=
      effect_eq rendered rfl (means_delimited rendered rfl _)
    have number : grammar.effect 3 = Meaning.number :=
      effect_eq rendered rfl (Rule.means_once rfl rfl rfl rfl (Expression.means_terminal _))
    have bool : grammar.effect 2 = Meaning.bool :=
      effect_eq rendered rfl (Rule.means_once rfl rfl rfl rfl (Expression.means_choice
        (.cons (means_literal _) (.cons (means_literal _) .nil))))
    have null : grammar.effect 1 = Meaning.null :=
      effect_eq rendered rfl (Rule.means_once rfl rfl rfl rfl (Expression.means_terminal _))
    rw [← object, ← array, ← effect_string rendered, ← number, ← bool, ← null]
    exact effect_eq rendered rfl (Rule.means_once rfl rfl rfl rfl (Expression.means_choice
      (.cons (means_reference rfl) (.cons (means_reference rfl) (.cons (means_reference rfl)
        (.cons (means_reference rfl) (.cons (means_reference rfl)
          (.cons (means_reference rfl) .nil))))))))
  member_eq := by
    have blank := means_blanks rendered
    rw [Meaning.named, ← effect_string rendered]
    exact effect_eq rendered rfl (Rule.means_once rfl rfl rfl rfl (Expression.means_sequence
      (.cons (means_reference rfl) (.cons blank (.cons (means_literal _) (.cons blank
        (.cons (means_reference rfl) .nil)))))))

/-- The root means a value with blanks around it, up to the end. -/
theorem effect_root : grammar.effect grammar.root =
    .sequence [Meaning.blanks, (meaningOf rendered).value, Meaning.blanks, .scan .endOfInput] := by
  have blank := means_blanks rendered
  have ending : grammar.effect 9 = .scan .endOfInput :=
    effect_eq rendered rfl (Rule.means_ofExpression (Expression.means_terminal _))
  rw [← ending]
  exact means_sequence (.cons blank (.cons (means_reference rfl) (.cons blank
    (.cons (means_reference rfl) .nil)))) grammar.root
    (Rule.stands_of_part (rendered.root rfl))

/-- The root leaves the node of a value. -/
theorem root_leavesNodes : grammar.LeavesNodes grammar.root := by
  have listed : definitions[8]? = some ("value", _) := rfl
  have defined := Rule.stands_of_definition (rendered.definition listed)
  have value : grammar.LeavesNodes 8 := defined.leavesNodes_of_structural rfl rfl rfl rfl
  refine (Rule.stands_of_part (rendered.root rfl)).leavesNodes_of_sequence
    (List.mem_cons_of_mem _ List.mem_cons_self) fun inner stands => ?_
  exact stands.leavesNodes_of_reference rfl value

end Rendered

/-- The grammar is built, matches texts as a whole, and its root means a value with blanks around
it, up to the end. -/
theorem exists_meaning : ∃ built, grammar = .ok built ∧ built.MatchesWhole ∧
    ∃ meaning : Meaning, built.effect built.root =
      .sequence [Meaning.blanks, meaning.value, Meaning.blanks, .scan .endOfInput] := by
  obtain ⟨built, known⟩ : ∃ built, (draft numberRule stringRule).build = .ok built := by
    have accepted := build_isOk
    cases known : (draft numberRule stringRule).build with
    | ok built => exact ⟨built, rfl⟩
    | error fault =>
      rw [known] at accepted
      contradiction
  have rendered := Draft.isRendered_of_build known
  refine ⟨built, grammar_eq.trans known, ⟨?_, ?_, root_leavesNodes rendered⟩, meaningOf rendered,
    effect_root rendered⟩
  · exact (Draft.isProcedureFree_of_build known).mpr (by decide +kernel)
  · intro here next diagnostics matched
    rw [effect_root rendered] at matched
    obtain ⟨_, _, _, _, matched, _⟩ := Effect.andThen_eq_matched.mp matched
    obtain ⟨_, _, _, _, matched, _⟩ := Effect.andThen_eq_matched.mp matched
    obtain ⟨_, _, _, _, matched, _⟩ := Effect.andThen_eq_matched.mp matched
    obtain ⟨last, _, _, scanned, done, _⟩ := Effect.andThen_eq_matched.mp matched
    obtain ⟨rfl, _⟩ := Effect.matched.inj done
    obtain ⟨ended, rfl⟩ := Terminal.scan_endOfInput.mp (Effect.scan_eq_matched.mp scanned).1
    exact Scanner.atEnd_iff.mpr ended

end Json

end Packrat
