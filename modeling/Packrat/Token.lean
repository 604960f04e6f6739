import Packrat.Text.Structured

/-!
# Tokens

A token labels the nodes of a rule. It has a name and may have a number. Two numbered tokens are the
same if their numbers are; in every other case the names decide, so sameness is not transitive and
is kept apart from equality.
-/

namespace Packrat

/-- The label of a node. -/
structure Token where
  /-- The number, if the token has one. -/
  id : Option Nat
  /-- The name. -/
  name : String
deriving DecidableEq, Repr, Inhabited

namespace Token

/-- The token without a number. -/
def named (name : String) : Token :=
  ⟨none, name⟩

/-- The token of a node made to hold several top-level nodes. -/
def root : Token :=
  named "root"

/-- The token of a node that stands for a failure recovered from. -/
def error : Token :=
  named "error"

/-- The token with another name and the same number. -/
def renamed (token : Token) (name : String) : Token :=
  { token with name }

/-- Whether two tokens count as the same. -/
def same (left right : Token) : Bool :=
  match left.id, right.id with
  | some number, some other => number == other
  | _, _ => left.name == right.name

/-- The inspection form of a token. -/
def inspect (token : Token) : String :=
  Text.record "Token"
    [("id", Text.optional (token.id.map Text.natural)), ("name", Text.quoted token.name)]

end Token

end Packrat
