import Packrat.Rule

/-!
# Grammars

A grammar keeps every occurrence of a rule in one numbered table. Definitions have the first
numbers, in the order in which they were given; the root has the last. An occurrence that replaces
the behaviour or the annotations of a definition shares the definition's test. The type of the
procedures is a parameter, as it is for rules.
-/

namespace Packrat

/-- The number of an occurrence in its grammar. -/
abbrev RuleId := Nat

/-- The test of an occurrence, its parts given by number. -/
inductive Test (P : Type := Program) where
  /-- Looks at the source. -/
  | terminal (terminal : Terminal)
  /-- Matches another occurrence by name. -/
  | reference (target : RuleId)
  /-- Runs a procedure. -/
  | procedure (procedure : P)
  /-- Matches every part, one after the other. -/
  | sequence (parts : List RuleId)
  /-- Matches the first part that succeeds. -/
  | choice (parts : List RuleId)
  /-- Matches one part. -/
  | group (inner : RuleId)

/-- Where an occurrence has its test from. -/
inductive Body (P : Type := Program) where
  /-- The occurrence has a test of its own. -/
  | own (test : Test P)
  /-- The occurrence shares the test of a definition. -/
  | shared (definition : RuleId)

/-- What a match of an occurrence leaves for the rule around it. -/
inductive Shape where
  /-- A node around the nodes of the parts. -/
  | node
  /-- The nodes of the parts. -/
  | transparent
  /-- Nothing. -/
  | discarded
deriving DecidableEq, Repr

/-- An occurrence of a rule in a grammar. -/
structure Occurrence (P : Type := Program) where
  /-- The name, if the occurrence is a definition. -/
  name : Option String
  /-- The written form of the rule. -/
  description : String
  /-- How the occurrence matches. -/
  behaviour : Behaviour
  /-- The annotations. -/
  annotations : Annotations
  /-- The test, or where to find it. -/
  body : Body P

namespace Occurrence

variable {P : Type}

/-- The occurrence that stands at numbers outside a grammar and never matches. -/
def never : Occurrence P :=
  ⟨none, "", .scanning, .empty, .own (.choice [])⟩

/-- The token of the occurrence's node, renamed as its annotations say. -/
def token (rule : Occurrence P) : Option Token :=
  rule.behaviour.token.map fun token =>
    match rule.annotations.token with
    | some name => token.renamed name
    | none => token

/-- What a match leaves for the rule around it. -/
def shape (rule : Occurrence P) : Shape :=
  match rule.behaviour.kind with
  | .structural _ =>
    if rule.annotations.void then .discarded
    else if rule.annotations.transient then .transparent
    else .node
  | .scanning => .transparent
  | .skipping => .discarded

/-- What the occurrence is called in messages about a failure. -/
def expected (rule : Occurrence P) : String :=
  match rule.token, rule.name with
  | some token, _ => token.name
  | none, some name => name
  | none, none => rule.description

/-- Whether failures of the occurrence are worth a message. -/
def isReported (rule : Occurrence P) : Bool :=
  rule.behaviour.token.isSome || rule.name.isSome

/-- What the occurrence is called in the trace. -/
def label (rule : Occurrence P) : String :=
  rule.name.getD rule.description

/-- The occurrence that this one stands for, if it stands for another. -/
def target? (rule : Occurrence P) : Option RuleId :=
  match rule.body with
  | .own (.reference target) => some target
  | .shared definition => some definition
  | _ => none

end Occurrence

/-- A set of rules ready to match. -/
structure Grammar (P : Type := Program) where
  /-- The occurrences by number. -/
  rules : Array (Occurrence P)
  /-- The names of the definitions, the definition at place `n` having the number `n`. -/
  names : List String
  /-- The number of the root. -/
  root : RuleId

namespace Grammar

variable {P : Type}

/-- The occurrence with a number. -/
def rule (grammar : Grammar P) (id : RuleId) : Occurrence P :=
  grammar.rules[id]?.getD .never

/-- How many occurrences there are. -/
def size (grammar : Grammar P) : Nat :=
  grammar.rules.size

/-- The number of the definition with a name. -/
def named? (grammar : Grammar P) (name : String) : Option RuleId :=
  grammar.names.findIdx? (· == name)

/-- The written form of the rule with a number. -/
def describe? (grammar : Grammar P) (id : RuleId) : Option String :=
  grammar.rules[id]?.map (·.description)

/-- The test of an occurrence, its own or that of the definition it shares. Definitions share
nothing, so one step leads to a test. -/
def testOf (grammar : Grammar P) (rule : Occurrence P) : Test P :=
  match rule.body with
  | .own test => test
  | .shared definition =>
    match (grammar.rule definition).body with
    | .own test => test
    | .shared _ => .choice []

/-- Whether a test matches only through other rules. -/
def throughRules : Test P → Bool
  | .terminal _ => false
  | .procedure _ => false
  | _ => true

/-- Whether an occurrence hands the skipped edges of its parts on to the rule around it. -/
def isTransparent (grammar : Grammar P) (rule : Occurrence P) : Bool :=
  (match rule.behaviour.kind with
    | .scanning => true
    | _ => false) &&
  !rule.behaviour.negate && throughRules (grammar.testOf rule)

/-- What an occurrence is called in the message of its recovery, following at most `hops` nameless
occurrences to what they stand for. -/
def expectedWithin (grammar : Grammar P) : Nat → Occurrence P → String
  | 0, rule => rule.expected
  | hops + 1, rule =>
    match rule.isReported, rule.target? with
    | false, some target => grammar.expectedWithin hops (grammar.rule target)
    | _, _ => rule.expected

/-- What an occurrence is called in the message of its recovery: a nameless occurrence that stands
for another is called like that one. -/
def expected (grammar : Grammar P) (rule : Occurrence P) : String :=
  grammar.expectedWithin grammar.size rule

/-- The inspection form of a grammar: the names of its definitions in order, and its root. -/
def inspect (grammar : Grammar P) : String :=
  Text.record "Grammar"
    [("rules", Text.sequence ((grammar.names.mergeSort (· ≤ ·)).map Text.quoted)),
      ("root", Text.quoted (grammar.rule grammar.root).description)]

end Grammar

end Packrat
