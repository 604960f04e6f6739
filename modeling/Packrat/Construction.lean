import Packrat.Builder.NodeStack
import Packrat.Engine.Passes

/-!
# Construction of trees

A constructor matches a source with a node stack as its builder and makes a tree of what the root
frame holds in the end. Several nodes are put under one root node.
-/

namespace Packrat

/-- Why there is no tree. -/
inductive ConstructionError where
  /-- No node was produced. -/
  | parsingFailed (causes : List Diagnostic)
  /-- Nodes were produced, but the source was not used up. -/
  | constructionFailed (causes : List Diagnostic)
  /-- The node stack was left out of balance. -/
  | unknown (message : String)
deriving DecidableEq, Repr

namespace ConstructionError

/-- The diagnostics behind an error. -/
def causes : ConstructionError → List Diagnostic
  | parsingFailed causes => causes
  | constructionFailed causes => causes
  | unknown _ => []

/-- The messages of the causes, or the message of an error without causes. -/
def message (error : ConstructionError) : String :=
  match error with
  | unknown message => message
  | _ => Text.commaSeparated (error.causes.map (·.message))

/-- The wording of an error. -/
def text (error : ConstructionError) : String :=
  match error with
  | parsingFailed _ => "parsing failed: " ++ error.message
  | constructionFailed _ => "construction failed: " ++ error.message
  | unknown _ => "unknown error: " ++ error.message

/-- The smallest span with every cause inside it. -/
def span (error : ConstructionError) : Option Span :=
  Span.covering (error.causes.map (·.span))

end ConstructionError

/-- Matches sources with one grammar and keeps the diagnostics of the last build. -/
structure Constructor (P : Type := Program) where
  /-- The grammar. -/
  grammar : Grammar P
  /-- The settings of the builds to come. -/
  config : Config
  /-- The diagnostics of the last build. -/
  errors : List Diagnostic

/-- What a build gave. -/
structure Construction where
  /-- The tree, or why there is none. -/
  result : Except ConstructionError Node
  /-- The diagnostics, including those of rules that recovered. -/
  errors : List Diagnostic
  /-- The remarks made, in order. -/
  remarks : List Remark
  /-- The notes made by procedures, in order. -/
  probes : List Probe

/-- The nodes under one root, unless there is only one. -/
def Node.gather : List Node → Option Node
  | [] => none
  | [only] => some only
  | nodes => some (.mk .root ((Span.covering (nodes.map Node.span)).getD (.point 0)) .empty nodes)

/-- The tree of a node stack at the end of matching, with the diagnostics of the build, after the
passes ended with or without a diagnostic of their own. -/
def generate (stack : NodeStack) (errors : List Diagnostic) (failure : Option Diagnostic) :
    Except ConstructionError Node × List Diagnostic :=
  if stack.depth ≠ 1 then
    (.error (.unknown ("node stack left at depth " ++ Text.natural stack.depth)), errors)
  else
    let causes := errors ++ failure.toList
    match Node.gather stack.top.nodes with
    | none =>
      let causes := causes ++ [⟨.point 0, "No nodes created"⟩]
      (.error (.parsingFailed causes), causes)
    | some tree =>
      if failure.isSome then (.error (.constructionFailed causes), causes) else (.ok tree, causes)

/-- How the match cache of a state did, if there is one. -/
def cacheRemarks {β : Type} (state : State β) : List Remark :=
  state.cache.toList.map fun cache => .cacheSummary cache.hits cache.misses cache.size

namespace Constructor

variable {P : Type}

/-- The constructor of a grammar with settings. -/
def make (grammar : Grammar P) (config : Config) : Constructor P :=
  ⟨grammar, config, []⟩

/-- The constructor with a match cache for the builds to come. -/
def withCache (constructor : Constructor P) (depth breadth : Nat) : Constructor P :=
  { constructor with config := constructor.config.withCache depth breadth }

/-- The constructor with the last build forgotten. -/
def reset (constructor : Constructor P) : Constructor P :=
  { constructor with errors := [] }

/-- The state that a build starts from. -/
def start (constructor : Constructor P) (source : Source) : State NodeStack :=
  State.initial source constructor.config NodeStack.initial

variable [Procedures P]

/-- Builds the tree of a source. -/
def construct (constructor : Constructor P) (source : Source) : Construction :=
  let (failure, ended) := parse constructor.grammar (constructor.start source)
  let (result, errors) := generate ended.builder ended.errors failure
  ⟨result, errors, ended.remarks.reverse ++ cacheRemarks ended, ended.probes.reverse⟩

/-- What a build gives is generated from the node stack and the diagnostics that parsing ends with.
-/
theorem construct_generates (constructor : Constructor P) (source : Source) :
    ((constructor.construct source).result, (constructor.construct source).errors) =
      generate (parse constructor.grammar (constructor.start source)).2.builder
        (parse constructor.grammar (constructor.start source)).2.errors
        (parse constructor.grammar (constructor.start source)).1 :=
  rfl

/-- Builds the tree of a source and keeps the diagnostics. -/
def build (constructor : Constructor P) (source : Source) : Construction × Constructor P :=
  let construction := constructor.construct source
  (construction, { constructor with errors := construction.errors })

end Constructor

/-- The tree of a source under a grammar. -/
def Grammar.parse {P : Type} [Procedures P] (grammar : Grammar P) (config : Config)
    (source : Source) :
    Except ConstructionError Node :=
  ((Constructor.make grammar config).construct source).result

end Packrat
