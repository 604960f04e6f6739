import Packrat.Cardinality
import Packrat.Grammar.Error
import Packrat.Token

/-!
# Behaviours

A behaviour says what a match of a rule contributes, how often its test has to succeed, whether the
test is turned around, and whether the match only looks ahead. Some combinations make no sense;
`Behaviour.fault` names the first thing wrong with one.
-/

namespace Packrat

/-- What a match contributes. -/
inductive Kind where
  /-- A node with a token. -/
  | structural (token : Token)
  /-- The nodes of its parts. -/
  | scanning
  /-- Nothing; at the edge of a node the match is trimmed off. -/
  | skipping
deriving DecidableEq, Repr

/-- How a rule matches. -/
structure Behaviour where
  /-- What a match contributes. -/
  kind : Kind
  /-- How many times the test has to succeed. -/
  cardinality : Cardinality
  /-- Whether each time the test has to fail instead. -/
  negate : Bool
  /-- Whether a match gives back what it took. -/
  lookahead : Bool
deriving DecidableEq, Repr

namespace Cardinality

/-- The cardinality between two numbers, unless they are the wrong way round. -/
def range (minimum : Nat) (maximum : Option Nat) : Except GrammarError Cardinality :=
  match maximum with
  | some bound =>
    if bound < minimum then .error (.invalidCardinality minimum bound)
    else .ok ⟨minimum, maximum⟩
  | none => .ok ⟨minimum, maximum⟩

end Cardinality

namespace Behaviour

/-- Matches once and contributes the nodes of its parts. -/
def scanning : Behaviour :=
  ⟨.scanning, .one, false, false⟩

/-- The token of the node that a match contributes. -/
def token (behaviour : Behaviour) : Option Token :=
  match behaviour.kind with
  | .structural token => some token
  | _ => none

/-- Whether a match is skipped. -/
def isSkipping (behaviour : Behaviour) : Bool :=
  match behaviour.kind with
  | .skipping => true
  | _ => false

/-- The first thing wrong with a behaviour. -/
def fault (behaviour : Behaviour) : Option BehaviourFault :=
  if behaviour.cardinality.isInverted then some .invertedCardinality
  else if behaviour.lookahead && behaviour.token.isSome then some .structuralLookahead
  else if behaviour.negate && behaviour.cardinality.isOptional then some .optionalNegation
  else none

/-- The mark in front of a rule that says how it matches. -/
def lead (behaviour : Behaviour) : String :=
  (if behaviour.lookahead then ">>" else "") ++ (if behaviour.negate then "!" else "")

/-- The mark behind a rule that says how often it matches and what it is called. -/
def trail (behaviour : Behaviour) : String :=
  behaviour.cardinality.text ++
    match behaviour.token with
    | some token => " as " ++ token.name
    | none => ""

/-- A behaviour described on its own, with a blank for the test. -/
def text (behaviour : Behaviour) : String :=
  behaviour.lead ++ "_" ++ behaviour.trail

/-- A behaviour put together from its parts, unless they do not fit. -/
def make (kind : Kind) (cardinality : Cardinality) (negate lookahead : Bool) :
    Except GrammarError Behaviour :=
  let behaviour : Behaviour := ⟨kind, cardinality, negate, lookahead⟩
  match behaviour.fault with
  | some fault => .error (.invalidBehaviour behaviour.text fault)
  | none => .ok behaviour

/-- Whether two behaviours are the same, up to the sameness of their tokens. -/
def same (left right : Behaviour) : Bool :=
  (match left.kind, right.kind with
    | .structural token, .structural other => token.same other
    | .scanning, .scanning => true
    | .skipping, .skipping => true
    | _, _ => false) &&
  left.cardinality == right.cardinality && left.negate == right.negate &&
  left.lookahead == right.lookahead

/-- The inspection form of a kind. -/
def inspectKind : Kind → String
  | .structural token => Text.tuple "Structural" [token.inspect]
  | .scanning => "Scanning"
  | .skipping => "Skipping"

/-- The inspection form of a behaviour. -/
def inspect (behaviour : Behaviour) : String :=
  Text.record "Behaviour"
    [("kind", inspectKind behaviour.kind), ("cardinality", behaviour.cardinality.inspect),
      ("negate", Text.truth behaviour.negate), ("lookahead", Text.truth behaviour.lookahead)]

end Behaviour

end Packrat
