import Packrat.Grammar.Basic

/-!
# Classes of grammars

A grammar is procedure-free if none of its rules runs a procedure. That is a condition on the tests
of the grammar's table, and the test of every rule meets it, also that of a rule outside the table.
-/

namespace Packrat

variable {P : Type}

/-- Whether a test is no procedure. -/
def Test.isNoProcedure : Test P → Bool
  | .procedure _ => false
  | _ => true

namespace Grammar

/-- Whether a condition holds of every test in the table of a grammar. -/
def allTests (grammar : Grammar P) (condition : Test P → Bool) : Bool :=
  grammar.rules.toList.all fun rule =>
    match rule.body with
    | .own test => condition test
    | .shared _ => true

/-- Whether no rule of a grammar runs a procedure. -/
def isProcedureFree (grammar : Grammar P) : Bool :=
  grammar.allTests Test.isNoProcedure

variable {grammar : Grammar P} {condition : Test P → Bool}

/-- A condition on all tests holds of the test that a rule has of its own. -/
theorem condition_of_own (all : grammar.allTests condition = true)
    (never : condition (.choice []) = true) {id : RuleId} {test : Test P}
    (own : (grammar.rule id).body = .own test) :
    condition test = true := by
  unfold rule at own
  cases found : grammar.rules[id]? with
  | none =>
    rw [found] at own
    obtain rfl : Test.choice [] = test := Body.own.inj own
    exact never
  | some occurrence =>
    rw [found] at own
    have member := (Array.mem_of_getElem? found).val
    have held := List.all_eq_true.mp all occurrence member
    rw [Option.getD_some] at own
    rwa [own] at held

/-- A condition on all tests holds of the test of every rule, its own or one that it shares. -/
theorem condition_testOf (all : grammar.allTests condition = true)
    (never : condition (.choice []) = true) (id : RuleId) :
    condition (grammar.testOf (grammar.rule id)) = true := by
  unfold testOf
  split
  · rename_i test own
    exact condition_of_own all never own
  · rename_i definition shared
    split
    · rename_i test own
      exact condition_of_own all never own
    · exact never

/-- The test of a rule of a procedure-free grammar is no procedure. -/
theorem testOf_isNoProcedure (free : grammar.isProcedureFree = true) (id : RuleId) :
    (grammar.testOf (grammar.rule id)).isNoProcedure = true :=
  condition_testOf free rfl id

end Grammar

/-! ## A member of the class -/

/-- Letters between blanks that are skipped: a word of one letter, or a shout if an exclamation mark
follows. The blanks and the letter before the mark are tried again where the mark is missing. -/
def Grammar.shouts : Grammar where
  rules :=
    #[⟨some "letter", "letter", ⟨.structural (.named "letter"), .one, false, false⟩, .empty,
        .own (.terminal (.range 'a' 'z'))⟩,
      ⟨some "blank", "blank", ⟨.skipping, .zeroOrMore, false, false⟩, .empty,
        .own (.terminal (.range ' ' ' '))⟩,
      ⟨some "shout", "shout", ⟨.structural (.named "shout"), .one, false, false⟩, .empty,
        .own (.sequence [1, 0, 1, 4])⟩,
      ⟨some "word", "word", ⟨.structural (.named "word"), .one, false, false⟩, .empty,
        .own (.sequence [1, 0, 1])⟩,
      ⟨none, "!", .scanning, .empty, .own (.terminal (.range '!' '!'))⟩,
      ⟨none, "shout | word", .scanning, .empty, .own (.choice [2, 3])⟩]
  names := ["letter", "blank", "shout", "word"]
  root := 5

/-- No rule of the grammar of shouts runs a procedure. -/
theorem Grammar.isProcedureFree_shouts : Grammar.shouts.isProcedureFree = true := by
  decide +kernel

end Packrat
