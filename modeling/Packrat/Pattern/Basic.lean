import Packrat.Pattern.CharClass

/-!
# Patterns

A pattern is a regular expression over characters: classes of single characters, assertions about
the place between two characters, sequences, ordered alternatives and counted repetition. The order
of alternatives and the greed of repetition decide which of several matches is meant.
-/

namespace Packrat

/-- A place in the text being matched: the character before it, if any, and all that follows. -/
structure Cursor where
  /-- The character before the place. -/
  previous : Option Char
  /-- The characters after the place. -/
  rest : List Char
deriving DecidableEq, Repr

namespace Cursor

/-- The place before the first character of a text. -/
def start (text : List Char) : Cursor :=
  ⟨none, text⟩

/-- Whether the place lies between a word character and something else. -/
def atWordBoundary (cursor : Cursor) : Bool :=
  cursor.previous.any Unicode.isWord != cursor.rest.head?.any Unicode.isWord

end Cursor

/-- A condition on a place that takes no character. -/
inductive Assertion where
  /-- The start of the text. -/
  | textStart
  /-- The end of the text. -/
  | textEnd
  /-- The start of the text or of a line. -/
  | lineStart
  /-- The end of the text or of a line. -/
  | lineEnd
  /-- A word starts or ends here. -/
  | wordBoundary
  /-- No word starts or ends here. -/
  | noWordBoundary
deriving DecidableEq, Repr

/-- Whether an assertion holds at a place. -/
def Assertion.holds (assertion : Assertion) (cursor : Cursor) : Bool :=
  match assertion with
  | .textStart => cursor.previous.isNone
  | .textEnd => cursor.rest.isEmpty
  | .lineStart => cursor.previous.isNone || cursor.previous == some '\n'
  | .lineEnd => cursor.rest.isEmpty || cursor.rest.head? == some '\n'
  | .wordBoundary => cursor.atWordBoundary
  | .noWordBoundary => !cursor.atWordBoundary

/-- A regular expression. -/
inductive Pattern where
  /-- Matches without taking a character. -/
  | empty
  /-- Takes one character of a class. -/
  | one (cls : CharClass)
  /-- Takes nothing where an assertion holds. -/
  | assertion (condition : Assertion)
  /-- Matches one pattern, then another. -/
  | sequence (first second : Pattern)
  /-- Matches one pattern or, failing that, another. -/
  | alternative (first second : Pattern)
  /-- Matches a pattern at least `minimum` and at most `maximum` times, as often as possible if
  greedy and as rarely as possible if not. -/
  | repeated (minimum : Nat) (maximum : Option Nat) (greedy : Bool) (body : Pattern)
  /-- Matches a pattern that is a numbered group. -/
  | numbered (index : Nat) (body : Pattern)
deriving DecidableEq, Repr

namespace Pattern

/-- A pattern need not be compared with itself. -/
instance (priority := high) : DecidableEq Pattern := fun left right =>
  withPtrEqDecEq left right fun _ => instDecidableEqPattern left right

/-- Whether every match of the pattern is empty, as far as its form tells. -/
def takesNothing : Pattern → Bool
  | empty => true
  | one _ => false
  | assertion _ => true
  | sequence first second => first.takesNothing && second.takesNothing
  | alternative first second => first.takesNothing && second.takesNothing
  | repeated _ maximum _ body => maximum == some 0 || body.takesNothing
  | numbered _ body => body.takesNothing

/-- Whether some match of the pattern may be empty, as far as its form tells. -/
def mayTakeNothing : Pattern → Bool
  | empty => true
  | one _ => false
  | assertion _ => true
  | sequence first second => first.mayTakeNothing && second.mayTakeNothing
  | alternative first second => first.mayTakeNothing || second.mayTakeNothing
  | repeated minimum _ _ body => minimum == 0 || body.mayTakeNothing
  | numbered _ body => body.mayTakeNothing

/-- How many parts the pattern has as it stands. -/
def nodes : Pattern → Nat
  | sequence first second => first.nodes + second.nodes + 1
  | alternative first second => first.nodes + second.nodes + 1
  | repeated _ _ _ body => body.nodes + 1
  | numbered _ body => body.nodes + 1
  | _ => 1

/-- How many parts the pattern has when every repetition is written out. -/
def size : Pattern → Nat
  | empty => 1
  | one _ => 1
  | assertion _ => 1
  | sequence first second => first.size + second.size + 1
  | alternative first second => first.size + second.size + 1
  | repeated minimum maximum _ body => (maximum.getD (minimum + 1) + 1) * (body.size + 1) + 1
  | numbered _ body => body.size + 1

end Pattern

end Packrat
