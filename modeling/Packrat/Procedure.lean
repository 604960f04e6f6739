import Packrat.CharacterSet
import Packrat.Node
import Packrat.Pattern.Parser

/-!
# Programs

Some rules have a procedure for their test. What procedures there are is a parameter of rules and
grammars; a program of steps is what they are if nothing else is said. Steps match other rules, move
the cursor at will, talk to the builder directly, and stop with a failure. A program gives nothing
back when it fails: that is left to the rule around it.
-/

namespace Packrat

/-- A step of a program. -/
inductive Step where
  /-- Matches the rule defined under a name. -/
  | named (name : String)
  /-- Matches the root rule. -/
  | root
  /-- Takes a text. -/
  | literal (text : String)
  /-- Takes a text up to the case of letters. -/
  | insensitive (text : String)
  /-- Takes one character of a set. -/
  | set (members : CharacterSet)
  /-- Takes the match of a pattern. -/
  | regex (compiled : Regex)
  /-- Takes a text, then refuses it. -/
  | refuse (text : String)
  /-- Takes a number of characters; those taken before the end of the source stay taken. -/
  | consume (count : Nat)
  /-- Goes on only before a certain character, or only at the end of the source. -/
  | peek (expected : Option Char)
  /-- Moves the cursor. -/
  | moveTo (position : Nat)
  /-- Runs steps and goes on even if they do not match. -/
  | attempt (steps : List Step)
  /-- Runs the first of several programs that matches. -/
  | either (programs : List (List Step))
  /-- Does not match. -/
  | fail
  /-- Stops everything as if the call limit had been reached. -/
  | abort
  /-- Tells the builder that a rule starts. -/
  | openRule (token : Option Token)
  /-- Tells the builder that the innermost rule failed. -/
  | closeRule
  /-- Tells the builder that a rule started and produced a node. -/
  | node (token : Token) (span : Span)
  /-- Tells the builder that a rule started and brought back nodes. -/
  | restore (nodes : List Node)
  /-- Notes what the matcher looks like. -/
  | probe (label : String)

/-- A program: steps that are run one after the other, up to the first that fails. -/
abbrev Program := List Step

end Packrat
