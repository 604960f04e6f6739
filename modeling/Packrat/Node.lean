import Packrat.Annotations
import Packrat.Source
import Packrat.Text.Document
import Packrat.Token

/-!
# Nodes

The tree built from a source. A node has a token, the span it covers, the annotations of the rule
that made it, and its children in order.
-/

namespace Packrat

/-- A node of the tree built from a source. -/
inductive Node where
  /-- A node with its label, its span, its annotations and its children. -/
  | mk (token : Token) (span : Span) (annotations : Annotations) (children : List Node)
deriving Repr, Inhabited

namespace Node

/-- The label. -/
def token : Node → Token
  | mk token _ _ _ => token

/-- The span that the node covers. -/
def span : Node → Span
  | mk _ span _ _ => span

/-- The annotations of the rule that made the node. -/
def annotations : Node → Annotations
  | mk _ _ annotations _ => annotations

/-- The children. -/
def children : Node → List Node
  | mk _ _ _ children => children

/-- A node without children. -/
def leaf (token : Token) (span : Span) (annotations : Annotations) : Node :=
  mk token span annotations []

/-- The node without its children. -/
def stripped (node : Node) : Node :=
  leaf node.token node.span node.annotations

/-- The text that the node covers. -/
def covered (node : Node) (source : Source) : String :=
  source.slice node.span

/-- The children with a name. -/
def childrenNamed (node : Node) (name : String) : List Node :=
  node.children.filter (·.token.name == name)

/-- The first child with a name. -/
def child? (node : Node) (name : String) : Option Node :=
  node.children.find? (·.token.name == name)

mutual
/-- The node and all nodes below it, each before its children. -/
def descendants : Node → List Node
  | node@(mk _ _ _ children) => node :: forestDescendants children

/-- The nodes of several trees, one tree after the other. -/
def forestDescendants : List Node → List Node
  | [] => []
  | node :: later => descendants node ++ forestDescendants later
end

/-- The nodes without children, in order. -/
def leaves (node : Node) : List Node :=
  node.descendants.filter (·.children.isEmpty)

/-- The message of a node that stands for a failure recovered from. -/
def errorMessage (node : Node) : Option String :=
  if node.token.same .error then node.annotations.error else none

/-- Whether a node stands for a failure recovered from. -/
def isError (node : Node) : Bool :=
  node.errorMessage.isSome

/-- The nodes of the tree that stand for failures recovered from. -/
def errors (node : Node) : List Node :=
  node.descendants.filter (·.isError)

mutual
/-- The written form of a tree on one line. -/
def text : Node → String
  | mk token span _ children =>
    let ends := Text.natural span.start ++ ", " ++ Text.natural span.stop
    match texts children with
    | [] => token.name ++ "(" ++ ends ++ ")"
    | shown => token.name ++ "(" ++ ends ++ ", [" ++ Text.commaSeparated shown ++ "])"

/-- The written forms of several trees. -/
def texts : List Node → List String
  | [] => []
  | node :: later => text node :: texts later
end

mutual
/-- The tree as a document. -/
def document : Node → Text.Document
  | mk token span annotations children =>
    .record
      [("pos", .list [.number span.start, .number span.stop]),
        ("token", .text token.name),
        ("annotations", .list (annotations.shownEntries.map .text)),
        ("inner", .list (documents children))]

/-- Several trees as documents. -/
def documents : List Node → List Text.Document
  | [] => []
  | node :: later => document node :: documents later
end

/-- The tree written over several lines. -/
def pretty (node : Node) : String :=
  node.document.pretty 0

mutual
/-- The inspection form of a tree. -/
def inspect : Node → String
  | mk token span annotations children =>
    Text.record "Node"
      [("token", token.inspect), ("range", span.text),
        ("children", Text.sequence (inspectAll children)),
        ("annotations", annotations.inspect)]

/-- The inspection forms of several trees. -/
def inspectAll : List Node → List String
  | [] => []
  | node :: later => inspect node :: inspectAll later
end

end Node

end Packrat
