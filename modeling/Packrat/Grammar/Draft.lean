import Packrat.Grammar.LeftRecursion

/-!
# Drafts of grammars

A draft collects definitions and a root. Building it numbers every occurrence of a rule, resolves
references by name, refuses behaviours that make no sense, and refuses left recursion.
-/

namespace Packrat

/-- Definitions and a root that are yet to be checked. -/
structure Draft (P : Type := Program) where
  /-- The definitions, in the order in which they were given. -/
  definitions : List (String × Rule P)
  /-- The root, if one was given. -/
  root : Option (Rule P)

namespace Draft

variable {P : Type}

/-- The draft with nothing in it. -/
def empty : Draft P :=
  ⟨[], none⟩

/-- The draft with one more definition. -/
def define (draft : Draft P) (name : String) (rule : Rule P) : Draft P :=
  { draft with definitions := draft.definitions ++ [(name, rule)] }

/-- The draft with a root in place of the one it had. -/
def withRoot (draft : Draft P) (rule : Rule P) : Draft P :=
  { draft with root := some rule }

/-- The draft whose root matches the first of several rules that succeeds. -/
def withRoots (draft : Draft P) (rules : List (Rule P)) : Draft P :=
  draft.withRoot (.choice rules)

/-- The draft whose root matches every rule, one after the other. -/
def withRootSequence (draft : Draft P) (rules : List (Rule P)) : Draft P :=
  draft.withRoot (.sequence rules)

/-- The names of the definitions. -/
def names (draft : Draft P) : List String :=
  draft.definitions.map (·.1)

/-- The first name that stands in a list for the second time. -/
def firstRepeated (seen : List String) : List String → Option String
  | [] => none
  | name :: later => if seen.contains name then some name else firstRepeated (name :: seen) later

/-- The occurrences numbered so far. -/
abbrev Table (P : Type := Program) := Array (Occurrence P)

/-- Refuses a behaviour that makes no sense, on behalf of a rule. -/
def checkBehaviour (rule : String) (behaviour : Behaviour) : Except GrammarError Unit :=
  match behaviour.fault with
  | some fault => .error (.invalidBehaviour rule fault)
  | none => .ok ()

/-- The occurrence that shares the test of a definition under a behaviour and annotations of its
own, where they are given. -/
def substitute (name : String) (definition : RuleId) (rule : Rule P) (behaviour : Option Behaviour)
    (annotations : Option Annotations) : Occurrence P where
  name := none
  description := name
  behaviour := behaviour.getD rule.behaviour
  annotations := annotations.getD rule.annotations
  body := .shared definition

/-- The test of a reference: the definition itself, or a substitute that is numbered for it. -/
def lowerReference (definitions : List (String × Rule P)) (name : String)
    (behaviour : Option Behaviour) (annotations : Option Annotations) (table : Table P) :
    Except GrammarError (Test P × Table P) :=
  match definitions.findIdx? (·.1 == name), definitions.lookup name with
  | some definition, some rule =>
    if behaviour.isNone && annotations.isNone then .ok (.reference definition, table)
    else
      match behaviour.map (checkBehaviour name) with
      | some (.error fault) => .error fault
      | _ =>
        .ok (.reference table.size,
          table.push (substitute name definition rule behaviour annotations))
  | _, _ => .error (.undefinedRule name)

mutual
/-- The occurrence of a rule, after its parts have been numbered. -/
def lower (definitions : List (String × Rule P)) :
    Rule P → Table P → Except GrammarError (Occurrence P × Table P)
  | rule@(.mk behaviour annotations expression), table => do
    checkBehaviour rule.text behaviour
    let (test, table) ← lowerExpression definitions expression table
    .ok (⟨none, rule.text, behaviour, annotations, .own test⟩, table)

/-- The test of a rule, after its parts have been numbered. -/
def lowerExpression (definitions : List (String × Rule P)) :
    Expression P → Table P → Except GrammarError (Test P × Table P)
  | .terminal terminal, table => .ok (.terminal terminal, table)
  | .reference name behaviour annotations, table =>
    lowerReference definitions name behaviour annotations table
  | .procedure procedure, table => .ok (.procedure procedure, table)
  | .sequence rules, table => do
    let (parts, table) ← lowerAll definitions rules table
    .ok (.sequence parts, table)
  | .choice rules, table => do
    let (parts, table) ← lowerAll definitions rules table
    .ok (.choice parts, table)
  | .group rule, table => do
    let (occurrence, table) ← lower definitions rule table
    .ok (.group table.size, table.push occurrence)

/-- The numbers of several rules, each numbered after its parts. -/
def lowerAll (definitions : List (String × Rule P)) :
    List (Rule P) → Table P → Except GrammarError (List RuleId × Table P)
  | [], table => .ok ([], table)
  | rule :: rules, table => do
    let (occurrence, table) ← lower definitions rule table
    let (later, numbered) ← lowerAll definitions rules (table.push occurrence)
    .ok (table.size :: later, numbered)
end

/-- Fills the places kept for definitions, from the definition with number `id` on. -/
def lowerDefinitions (definitions : List (String × Rule P)) :
    RuleId → List (String × Rule P) → Table P → Except GrammarError (Table P)
  | _, [], table => .ok table
  | id, (name, rule) :: later, table => do
    let (occurrence, table) ← lower definitions rule table
    lowerDefinitions definitions (id + 1) later
      (table.setIfInBounds id { occurrence with name := some name })

/-- Numbers the definitions and a root, without looking for left recursion. -/
def number (draft : Draft P) (root : Rule P) : Except GrammarError (Grammar P) := do
  let places := Array.replicate draft.definitions.length Occurrence.never
  let table ← lowerDefinitions draft.definitions 0 draft.definitions places
  let (occurrence, table) ← lower draft.definitions root table
  .ok ⟨table.push occurrence, draft.names, table.size⟩

/-- The grammar of a draft, or the first fault found in it. -/
def build (draft : Draft P) : Except GrammarError (Grammar P) :=
  match draft.root, firstRepeated [] draft.names with
  | none, _ => .error .missingRoot
  | some _, some name => .error (.duplicateRule name)
  | some root, none => do
    let grammar ← draft.number root
    match grammar.leftRecursion? with
    | some fault => .error fault
    | none => .ok grammar

end Draft

end Packrat
