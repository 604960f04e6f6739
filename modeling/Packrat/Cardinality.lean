import Packrat.Text.Structured

/-!
# Cardinalities

A cardinality says how many times in a row a rule's test has to succeed.
-/

namespace Packrat

/-- How many times a test has to succeed. -/
structure Cardinality where
  /-- The least number of times. -/
  minimum : Nat
  /-- The greatest number of times, if there is one. -/
  maximum : Option Nat
deriving DecidableEq, Repr, Inhabited

namespace Cardinality

/-- Exactly once. -/
def one : Cardinality :=
  ⟨1, some 1⟩

/-- At most once. -/
def optional : Cardinality :=
  ⟨0, some 1⟩

/-- Any number of times. -/
def zeroOrMore : Cardinality :=
  ⟨0, none⟩

/-- At least once. -/
def oneOrMore : Cardinality :=
  ⟨1, none⟩

/-- Whether a number of successes is enough and not too many. -/
def accepts (cardinality : Cardinality) (count : Nat) : Bool :=
  cardinality.minimum ≤ count && cardinality.maximum.all (count ≤ ·)

/-- Whether no success at all is enough. -/
def isOptional (cardinality : Cardinality) : Bool :=
  cardinality.minimum == 0

/-- Whether the greatest number is below the least. -/
def isInverted (cardinality : Cardinality) : Bool :=
  cardinality.maximum.any (· < cardinality.minimum)

/-- The written form of a cardinality, as it follows a rule. -/
def text (cardinality : Cardinality) : String :=
  match cardinality.minimum, cardinality.maximum with
  | 1, some 1 => ""
  | 0, some 1 => "?"
  | 0, none => "*"
  | 1, none => "+"
  | minimum, none => "\x7b" ++ Text.natural minimum ++ ",\x7d"
  | minimum, some maximum =>
    if minimum = maximum then "\x7b" ++ Text.natural minimum ++ "\x7d"
    else "\x7b" ++ Text.natural minimum ++ ", " ++ Text.natural maximum ++ "\x7d"

/-- The inspection form of a cardinality. -/
def inspect (cardinality : Cardinality) : String :=
  Text.record "Cardinality"
    [("minimum", Text.natural cardinality.minimum),
      ("maximum", Text.optional (cardinality.maximum.map Text.natural))]

end Cardinality

end Packrat
