import Packrat.Pattern.Basic

/-!
# Composing patterns

Sequences, alternatives and repetitions are composed in a normal form. A sequence has no empty parts
and no sequences among its parts. Alternatives that each take one character are one class, and
alternatives that are sequences with a common front share it: the front is matched first, and only
then is one of the ends chosen. Where the front has several matches this decides which is meant.
-/

namespace Packrat.Pattern

/-- The parts of a sequence, in order; the empty pattern has none. -/
def parts : Pattern → List Pattern
  | empty => []
  | sequence first second => first.parts ++ second.parts
  | pattern => [pattern]

/-- The sequence of some parts. -/
def ofParts : List Pattern → Pattern
  | [] => empty
  | [part] => part
  | part :: later => sequence part (ofParts later)

/-- Matches some patterns, one after the other. -/
def inOrder (patterns : List Pattern) : Pattern :=
  ofParts (patterns.flatMap parts)

/-- The class of a pattern that takes exactly one character. -/
def class? : Pattern → Option CharClass
  | one cls => some cls
  | _ => none

/-- What two lists have in common at the front. -/
def commonFront : List Pattern → List Pattern → List Pattern
  | left :: lefts, right :: rights =>
    if left = right then left :: commonFront lefts rights else []
  | _, _ => []

/-- The front that alternatives share, given by their parts; there is none unless each of them has
at least two parts. -/
def sharedFront : List (List Pattern) → List Pattern
  | first :: others =>
    if (first :: others).all (2 ≤ ·.length) then others.foldl commonFront first else []
  | [] => []

/-- Matches a pattern or one of some others, those that come first being preferred. -/
def orElse (first : Pattern) : List Pattern → Pattern
  | [] => first
  | next :: later => alternative first (orElse next later)

/-- Matches one of some patterns, those that come first being preferred: as one class if each takes
one character. -/
def choose (patterns : List Pattern) : Pattern :=
  match patterns.mapM class?, patterns with
  | some classes, _ => one (.unionAll classes)
  | none, [] => one .none
  | none, first :: others => orElse first others

/-- Matches one of some patterns, those that come first being preferred. -/
def either (patterns : List Pattern) : Pattern :=
  match patterns with
  | [pattern] => pattern
  | _ =>
    match patterns.mapM class?, sharedFront (patterns.map parts) with
    | none, part :: front =>
      let ends := patterns.map fun pattern => ofParts (pattern.parts.drop (front.length + 1))
      inOrder (part :: front ++ [choose ends])
    | _, _ => choose patterns

/-- Matches a pattern a number of times. What takes nothing is matched once at most, and to match a
pattern once is to match it. -/
def times (minimum : Nat) (maximum : Option Nat) (greedy : Bool) (body : Pattern) : Pattern :=
  let (minimum, maximum) :=
    if body.takesNothing then (min minimum 1, some (min (maximum.getD 1) 1))
    else (minimum, maximum)
  match minimum, maximum with
  | 0, some 0 => empty
  | 1, some 1 => body
  | _, _ => repeated minimum maximum greedy body

end Packrat.Pattern
