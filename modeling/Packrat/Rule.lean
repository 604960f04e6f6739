import Packrat.Annotations
import Packrat.Behaviour
import Packrat.Procedure
import Packrat.Terminal

/-!
# Rules

A rule is a test together with the behaviour and the annotations of one occurrence of it. Rules are
values: the same test can occur with different behaviours at different places of a grammar. The type
of the procedures that tests may run is a parameter.
-/

namespace Packrat

mutual

/-- An occurrence of a test. -/
inductive Rule (P : Type := Program) where
  /-- A test with its behaviour and annotations. -/
  | mk (behaviour : Behaviour) (annotations : Annotations) (expression : Expression P)

/-- The test of a rule. -/
inductive Expression (P : Type := Program) where
  /-- Looks at the source. -/
  | terminal (terminal : Terminal)
  /-- Matches the rule defined under a name. A behaviour or annotations given here replace those of
  the definition for this occurrence. -/
  | reference (name : String) (behaviour : Option Behaviour) (annotations : Option Annotations)
  /-- Runs a procedure. -/
  | procedure (procedure : P)
  /-- Matches every rule, one after the other. -/
  | sequence (rules : List (Rule P))
  /-- Matches the first rule that succeeds. -/
  | choice (rules : List (Rule P))
  /-- Matches one rule. -/
  | group (rule : Rule P)

end

namespace Rule

variable {P : Type}

/-- How the rule matches. -/
def behaviour : Rule P → Behaviour
  | mk behaviour _ _ => behaviour

/-- The annotations of the rule. -/
def annotations : Rule P → Annotations
  | mk _ annotations _ => annotations

/-- The test of the rule. -/
def expression : Rule P → Expression P
  | mk _ _ expression => expression

/-- The rule that matches a test once and contributes the nodes of its parts. -/
def ofExpression (expression : Expression P) : Rule P :=
  mk .scanning .empty expression

/-- The rule of a terminal. -/
def terminal (terminal : Terminal) : Rule P :=
  ofExpression (.terminal terminal)

/-- The rule that takes a text. -/
def literal (text : String) : Rule P :=
  terminal (.literal text)

/-- The rule that takes one character of a set. -/
def set (members : CharacterSet) : Rule P :=
  terminal (.set members)

/-- The rule that takes the match of a pattern. -/
def pattern (written : String) : Except GrammarError (Rule P) :=
  (Terminal.ofPattern written).map terminal

/-- The rule that matches at the end of the source. -/
def endOfInput : Rule P :=
  terminal .endOfInput

/-- The rule that matches a definition as it stands. -/
def reference (name : String) : Rule P :=
  ofExpression (.reference name none none)

/-- The rule that matches every rule, one after the other. -/
def sequence (rules : List (Rule P)) : Rule P :=
  ofExpression (.sequence rules)

/-- The rule that matches the first rule that succeeds. -/
def choice (rules : List (Rule P)) : Rule P :=
  ofExpression (.choice rules)

/-- The rule with another behaviour. -/
def withBehaviour (rule : Rule P) (behaviour : Behaviour) : Rule P :=
  mk behaviour rule.annotations rule.expression

/-- The rule with other annotations. -/
def withAnnotations (rule : Rule P) (annotations : Annotations) : Rule P :=
  mk rule.behaviour annotations rule.expression

/-- The rule with another contribution. -/
def withKind (rule : Rule P) (kind : Kind) : Rule P :=
  rule.withBehaviour { rule.behaviour with kind }

/-- The rule that produces a node with a token. -/
def token (rule : Rule P) (token : Token) : Rule P :=
  rule.withKind (.structural token)

/-- The rule that contributes the nodes of its parts. -/
def scan (rule : Rule P) : Rule P :=
  rule.withKind .scanning

/-- The rule that contributes nothing. -/
def skip (rule : Rule P) : Rule P :=
  rule.withKind .skipping

/-- The rule with another cardinality. -/
def require (rule : Rule P) (cardinality : Cardinality) : Rule P :=
  rule.withBehaviour { rule.behaviour with cardinality }

/-- The rule at least once. -/
def oneOrMore (rule : Rule P) : Rule P :=
  rule.require .oneOrMore

/-- The rule any number of times. -/
def zeroOrMore (rule : Rule P) : Rule P :=
  rule.require .zeroOrMore

/-- The rule at most once. -/
def optional (rule : Rule P) : Rule P :=
  rule.require .optional

/-- The rule with its test turned around. -/
def negate (rule : Rule P) : Rule P :=
  rule.withBehaviour { rule.behaviour with negate := true }

/-- The rule that gives back what it took. -/
def lookahead (rule : Rule P) : Rule P :=
  rule.withBehaviour { rule.behaviour with lookahead := true }

/-- The rule with an annotation set. -/
def annotate (rule : Rule P) (key : AnnotationKey) (value : AnnotationValue) : Rule P :=
  rule.withAnnotations (rule.annotations.insert key value)

/-- The rule that recovers from failure. -/
def pin (rule : Rule P) : Rule P :=
  rule.annotate .pinned .set

/-- The rule with a message for its failure. -/
def error (rule : Rule P) (message : String) : Rule P :=
  rule.annotate .error (.text message)

/-- The rule whose node is dropped with its children. -/
def void (rule : Rule P) : Rule P :=
  rule.annotate .void .set

/-- The rule whose node is replaced by its children. -/
def transient (rule : Rule P) : Rule P :=
  rule.annotate .transient .set

/-- The rule whose node has another name. -/
def rename (rule : Rule P) (name : String) : Rule P :=
  rule.annotate .token (.text name)

/-- The annotations of a rule as they stand in front of it. -/
def leadingAnnotations (annotations : Annotations) : String :=
  if annotations.isEmpty then "" else annotations.text ++ " "

mutual
/-- The written form of a rule. -/
def text : Rule P → String
  | mk behaviour annotations expression =>
    leadingAnnotations annotations ++ (if behaviour.isSkipping then "-" else "") ++
      behaviour.lead ++ expressionText expression ++ behaviour.trail

/-- The written form of a test. -/
def expressionText : Expression P → String
  | .terminal terminal => terminal.text
  | .reference name _ _ => name
  | .procedure _ => "\x7bclosure\x7d"
  | .sequence rules => "(" ++ " ".intercalate (texts rules) ++ ")"
  | .choice rules => "(" ++ " | ".intercalate (texts rules) ++ ")"
  | .group rule => "(" ++ text rule ++ ")"

/-- The written forms of several rules. -/
def texts : List (Rule P) → List String
  | [] => []
  | rule :: rules => text rule :: texts rules
end

mutual
/-- The inspection form of a rule. -/
def inspect : Rule P → String
  | mk behaviour annotations expression =>
    Text.record "Rule"
      [("behaviour", behaviour.inspect), ("annotations", annotations.inspect),
        ("expression", inspectExpression expression)]

/-- The inspection form of a test. -/
def inspectExpression : Expression P → String
  | .terminal terminal => Text.tuple "Terminal" [terminal.inspect]
  | .reference name behaviour annotations =>
    Text.record "Reference"
      [("name", Text.quoted name), ("behaviour", Text.optional (behaviour.map Behaviour.inspect)),
        ("annotations", Text.optional (annotations.map Annotations.inspect))]
  | .procedure _ => "Closure"
  | .sequence rules => Text.tuple "Sequence" [Text.sequence (inspectAll rules)]
  | .choice rules => Text.tuple "Choice" [Text.sequence (inspectAll rules)]
  | .group rule => Text.tuple "Group" [inspect rule]

/-- The inspection forms of several rules. -/
def inspectAll : List (Rule P) → List String
  | [] => []
  | rule :: rules => inspect rule :: inspectAll rules
end

end Rule

end Packrat
