import Packrat.Grammar.Basic

/-!
# Left recursion

A definition that can reach itself before a character is taken would match forever. The search
follows references through everything that may stand at the front of a match: groups, all parts of a
choice, and the parts of a sequence up to the first that has to take a character.
-/

namespace Packrat.Grammar

variable {P : Type}

/-- How many steps a search can take: at most every occurrence is followed once by reference, and
between two references the search only goes down into parts. -/
def searchBound (grammar : Grammar P) : Nat :=
  (grammar.size + 1) * (grammar.size + 1)

/-- Whether an occurrence is held to match without taking a character. References already followed
count as taking one. -/
def nullableWithin (grammar : Grammar P) : Nat → List RuleId → RuleId → Bool
  | 0, _, _ => false
  | steps + 1, followed, id =>
    let rule := grammar.rule id
    let follow := fun target =>
      if followed.contains target then false
      else grammar.nullableWithin steps (target :: followed) target
    if rule.behaviour.cardinality.isOptional || rule.behaviour.lookahead ||
        rule.annotations.pinned then
      true
    else if rule.behaviour.negate then false
    else
      match rule.body with
      | .shared definition => follow definition
      | .own (.terminal terminal) => terminal.canBeEmpty
      | .own (.reference target) => follow target
      | .own (.group inner) => grammar.nullableWithin steps followed inner
      | .own (.sequence parts) => parts.all (grammar.nullableWithin steps followed)
      | .own (.choice parts) => parts.any (grammar.nullableWithin steps followed)
      | .own (.procedure _) => false

/-- Whether an occurrence is held to match without taking a character. -/
def isNullable (grammar : Grammar P) (id : RuleId) : Bool :=
  grammar.nullableWithin grammar.searchBound [] id

/-- The parts of a sequence up to the first that has to take a character. -/
def leading (nullable : RuleId → Bool) : List RuleId → List RuleId
  | [] => []
  | id :: later => id :: (if nullable id then leading nullable later else [])

/-- Searches the front of an occurrence for a way back to `start`. The references followed so far
are given in order and lead from the start to here. -/
def chainWithin (grammar : Grammar P) (start : RuleId) :
    Nat → List RuleId → RuleId → Option (List RuleId)
  | 0, _, _ => none
  | steps + 1, followed, id =>
    let follow := fun target =>
      if target = start then some (followed ++ [target])
      else if followed.contains target then none
      else grammar.chainWithin start steps (followed ++ [target]) target
    match (grammar.rule id).body with
    | .shared definition => follow definition
    | .own (.reference target) => follow target
    | .own (.group inner) => grammar.chainWithin start steps followed inner
    | .own (.sequence parts) =>
      (leading grammar.isNullable parts).findSome? (grammar.chainWithin start steps followed)
    | .own (.choice parts) => parts.findSome? (grammar.chainWithin start steps followed)
    | .own (.terminal _) => none
    | .own (.procedure _) => none

/-- A way from a definition back to itself. -/
def leftChain? (grammar : Grammar P) (definition : RuleId) : Option (List RuleId) :=
  grammar.chainWithin definition grammar.searchBound [definition] definition

/-- The first definition that can reach itself, as the fault it is. -/
def leftRecursion? (grammar : Grammar P) : Option GrammarError :=
  (List.range grammar.names.length).findSome? fun definition =>
    (grammar.leftChain? definition).map fun chain =>
      .leftRecursion ((grammar.rule definition).name.getD "")
        (chain.filterMap fun id => (grammar.rule id).name)

end Packrat.Grammar
