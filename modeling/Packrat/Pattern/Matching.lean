import Packrat.Pattern.Basic

/-!
# Matching a pattern

A thread is what is left to match, from a place on. Threads run side by side through the text, the
preferred ones first. Between two characters a thread spreads to the threads that it may become
without taking a character, the preferred way first; one that has been reached there before, from
the same place, is not followed again. So a repetition that took nothing leads nowhere new, and
there are never more threads than parts of the pattern. A thread with nothing left to match has
found a match, and those it is preferred to are given up.
-/

namespace Packrat

/-- One thing that a thread has left to match. The parts of a pattern are numbered from the outside
in and from left to right; the place tells equal parts of a pattern from each other. -/
inductive Goal where
  /-- The part of a pattern at a place. -/
  | part (place : Nat) (pattern : Pattern)
  /-- Any number of rounds of the repetition at a place: those after the first one, or all of them
  if no round can take nothing. -/
  | again (place : Nat) (greedy : Bool) (body : Pattern)
deriving DecidableEq, Repr

/-- What is left to match, in order. -/
abbrev Thread := List Goal

namespace Thread

/-- The thread that matches a pattern. -/
def start (pattern : Pattern) : Thread :=
  [.part 0 pattern]

/-- The two ways on from a repetition: another round, and the way out. A greedy one prefers the
round. -/
def fork (greedy : Bool) (round out : Thread) : List Thread :=
  if greedy then [round, out] else [out, round]

/-- The threads that a part of a pattern and what is left after it may become at a cursor without
taking a character, the preferred one first. -/
def unfold (cursor : Cursor) (place : Nat) (later : Thread) : Pattern → List Thread
  | .empty => [later]
  | .one _ => []
  | .assertion condition => if condition.holds cursor then [later] else []
  | .sequence first second =>
    [.part (place + 1) first :: .part (place + 1 + first.nodes) second :: later]
  | .alternative first second =>
    [.part (place + 1) first :: later, .part (place + 1 + first.nodes) second :: later]
  | .numbered _ body => [.part (place + 1) body :: later]
  | .repeated 0 none greedy body =>
    if body.mayTakeNothing then
      fork greedy (.part (place + 1) body :: .again place greedy body :: later) later
    else [.again place greedy body :: later]
  | .repeated 1 none greedy body => [.part (place + 1) body :: .again place greedy body :: later]
  | .repeated 0 (some 0) _ _ => [later]
  | .repeated 0 (some (more + 1)) greedy body =>
    fork greedy
      (.part (place + 1) body :: .part place (.repeated 0 (some more) greedy body) :: later) later
  | .repeated (minimum + 1) maximum greedy body =>
    [.part (place + 1) body ::
      .part place (.repeated minimum (maximum.map (· - 1)) greedy body) :: later]

/-- The threads that a thread may become at a cursor without taking a character, the preferred one
first. -/
def ways (cursor : Cursor) : Thread → List Thread
  | .part place pattern :: later => unfold cursor place later pattern
  | .again place greedy body :: later =>
    fork greedy (.part (place + 1) body :: .again place greedy body :: later) later
  | [] => []

/-- The thread after it has taken a character, if it takes that character. -/
def take (c : Char) : Thread → Option Thread
  | .part _ (.one cls) :: later => if cls.accepts c then some later else none
  | _ => none

/-- The threads reached so far, the last one first, with a thread and those that it leads to. Every
one of them leads to others at most once, so `depth` need not exceed their number. -/
def visit (cursor : Cursor) : (depth : Nat) → List Thread → Thread → List Thread
  | 0, reached, _ => reached
  | depth + 1, reached, thread =>
    if thread ∈ reached then reached
    else (ways cursor thread).foldl (visit cursor depth) (thread :: reached)

/-- All threads that some threads lead to at a place, in order of preference. -/
def spread (cursor : Cursor) (depth : Nat) (threads : List Thread) : List Thread :=
  (threads.foldl (visit cursor depth) []).reverse

/-- The best match found so far after the threads reached at a place are looked at. -/
def record (taken : Nat) (best : Option Nat) (reached : List Thread) : Option Nat :=
  if reached.any List.isEmpty then some taken else best

/-- The threads that go on after a character: those preferred to one that has found a match, if
they take the character. -/
def advance (c : Char) (reached : List Thread) : List Thread :=
  (reached.takeWhile (!·.isEmpty)).filterMap (take c)

/-- Runs threads through a text after `taken` characters, where `best` is the length of the match to
be given if they find none. -/
def race (depth taken : Nat) (best : Option Nat) (threads : List Thread) (previous : Option Char) :
    List Char → Option Nat
  | [] => record taken best (spread ⟨previous, []⟩ depth threads)
  | c :: later =>
    let reached := spread ⟨previous, c :: later⟩ depth threads
    match advance c reached with
    | [] => record taken best reached
    | next => race depth (taken + 1) (record taken best reached) next (some c) later

end Thread

/-- How many characters the preferred match at the start of a text takes, if there is a match. -/
def Pattern.matchLength (pattern : Pattern) (text : List Char) : Option Nat :=
  Thread.race (pattern.size + 1) 0 none [.start pattern] none text

end Packrat
