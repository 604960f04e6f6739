import Packrat.Text.Structured

/-!
# Faults of grammars

Why a cardinality, a behaviour, a rule or a grammar is refused.
-/

namespace Packrat

/-- Why a behaviour is refused. -/
inductive BehaviourFault where
  /-- The greatest number of matches is below the least. -/
  | invertedCardinality
  /-- A rule that only looks ahead would produce a node. -/
  | structuralLookahead
  /-- A negated rule need not match at all. -/
  | optionalNegation
deriving DecidableEq, Repr

/-- The wording of a fault of a behaviour. -/
def BehaviourFault.message : BehaviourFault → String
  | invertedCardinality => "maximum cardinality is lower than its minimum"
  | structuralLookahead => "lookahead rules cannot be structural"
  | optionalNegation => "negated rules must match at least once"

/-- Why a grammar, or a part of one, is refused. -/
inductive GrammarError where
  /-- A reference names no definition. -/
  | undefinedRule (name : String)
  /-- Two definitions have one name. -/
  | duplicateRule (name : String)
  /-- A behaviour combines what cannot be combined. -/
  | invalidBehaviour (rule : String) (fault : BehaviourFault)
  /-- A cardinality has its greatest number below its least. -/
  | invalidCardinality (minimum maximum : Nat)
  /-- A text describes no pattern. -/
  | invalidRegex
  /-- A definition reaches itself before any character is taken. -/
  | leftRecursion (rule : String) (chain : List String)
  /-- No root was given. -/
  | missingRoot
deriving DecidableEq, Repr

/-- The wording of a fault of a grammar. -/
def GrammarError.message : GrammarError → String
  | undefinedRule name => "undefined rule " ++ name
  | duplicateRule name => "rule " ++ name ++ " is defined more than once"
  | invalidBehaviour rule fault => "invalid behaviour for " ++ rule ++ ": " ++ fault.message
  | invalidCardinality minimum maximum =>
    "invalid cardinality \x7b" ++ Text.natural minimum ++ ", " ++ Text.natural maximum ++ "\x7d"
  | invalidRegex => "invalid regular expression"
  | leftRecursion rule chain =>
    "rule " ++ rule ++ " is left-recursive (" ++ " -> ".intercalate chain ++ ")"
  | missingRoot => "no root rule was supplied"

end Packrat
