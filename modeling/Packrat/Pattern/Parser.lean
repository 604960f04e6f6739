import Packrat.Pattern.Composition
import Packrat.Pattern.Footprint
import Packrat.Pattern.Lexeme
import Packrat.Pattern.Matching
import Packrat.Text.Structured

/-!
# Parsing written patterns

The lexemes of a pattern are read from left to right with a stack of open groups. A group keeps its
finished alternatives and the items of the current one; flags set inside a group end with it. A text
whose parts are nested too deep, or whose pattern would take too much memory, is refused.
-/

namespace Packrat

/-- The ways in which a pattern is read. -/
structure Flags where
  /-- Letters are matched without regard to case. -/
  ignoreCase : Bool
  /-- The start and end marks also stand at lines. -/
  multiLine : Bool
  /-- The dot also takes a line feed. -/
  dotAll : Bool
  /-- The greed of repetition is swapped. -/
  swapGreed : Bool
deriving DecidableEq, Repr

namespace Flags

/-- The flags a pattern starts with: none is set. -/
def initial : Flags :=
  ⟨false, false, false, false⟩

/-- The flags after a change. -/
def apply (flags : Flags) (change : FlagChange) : Flags where
  ignoreCase := change.ignoreCase.getD flags.ignoreCase
  multiLine := change.multiLine.getD flags.multiLine
  dotAll := change.dotAll.getD flags.dotAll
  swapGreed := change.swapGreed.getD flags.swapGreed

end Flags

namespace Pattern

/-- A part of a written pattern that has been read. -/
structure Piece where
  /-- What it describes; a change of flags describes nothing to match. -/
  pattern : Option Pattern
  /-- How deep parts are nested in it. -/
  depth : Nat

namespace Piece

/-- A piece without parts. -/
def simple (pattern : Pattern) : Piece :=
  ⟨some pattern, 0⟩

/-- The depth of pieces that stand together: one alone adds nothing to its own. -/
def jointDepth : List Piece → Nat
  | [piece] => piece.depth
  | pieces => pieces.foldl (fun depth piece => max depth (piece.depth + 1)) 0

/-- The patterns of some pieces. -/
def patterns (pieces : List Piece) : List Pattern :=
  pieces.filterMap Piece.pattern

/-- Pieces one after the other. -/
def inOrder (pieces : List Piece) : Piece :=
  ⟨some (Pattern.inOrder (patterns pieces)), jointDepth pieces⟩

/-- Pieces of which one is matched. -/
def either (pieces : List Piece) : Piece :=
  ⟨some (Pattern.either (patterns pieces)), jointDepth pieces⟩

/-- The piece of a bracketed class. Several members stand together one level further down. -/
def ofSet (members : List CharClass) (negated ignoreCase : Bool) : Piece :=
  let listed := CharClass.unionAll members
  let cls := if ignoreCase then listed.ignoringCase else listed
  ⟨some (.one (if negated then cls.complement else cls)), if members.length = 1 then 1 else 2⟩

/-- The piece of one character. -/
def ofCharacter (c : Char) (ignoreCase : Bool) : Piece :=
  simple (.one (if ignoreCase then (CharClass.single c).ignoringCase else .single c))

/-- The piece of a lexeme that takes a character or asserts something. -/
def atom (flags : Flags) : Lexeme → Option Piece
  | .character c => some (ofCharacter c flags.ignoreCase)
  | .dot =>
    some (simple (.one (if flags.dotAll then CharClass.none else .single '\n').complement))
  | .caret => some (simple (.assertion (if flags.multiLine then .lineStart else .textStart)))
  | .dollar => some (simple (.assertion (if flags.multiLine then .lineEnd else .textEnd)))
  | .shorthand cls => some (simple (.one cls))
  | .set members negated => some (ofSet members negated flags.ignoreCase)
  | .assertion condition => some (simple (.assertion condition))
  | _ => none

end Piece

/-- An open group of a written pattern. -/
structure Group where
  /-- The number of the group, if it has one. -/
  index : Option Nat
  /-- The flags that hold inside the group from here on. -/
  flags : Flags
  /-- The finished alternatives, the last one first. -/
  alternatives : List Piece
  /-- The items of the current alternative, the last one first. -/
  items : List Piece

namespace Group

/-- A group in which nothing has been read. -/
def start (index : Option Nat) (flags : Flags) : Group :=
  ⟨index, flags, [], []⟩

/-- The group with one more item. -/
def push (group : Group) (piece : Piece) : Group :=
  { group with items := piece :: group.items }

/-- The group with a change of flags as an item. -/
def change (group : Group) (change : FlagChange) : Group :=
  { group with flags := group.flags.apply change, items := ⟨none, 0⟩ :: group.items }

/-- The group with its current alternative finished. -/
def next (group : Group) : Group :=
  { group with
    alternatives := Piece.inOrder group.items.reverse :: group.alternatives
    items := [] }

/-- What has been read in the group. -/
def content (group : Group) : Piece :=
  Piece.either group.next.alternatives.reverse

/-- The whole group as one piece. -/
def finish (group : Group) : Piece :=
  let content := group.content
  let pattern := match group.index with
    | some index => content.pattern.map (.numbered index)
    | none => content.pattern
  ⟨pattern, content.depth + 1⟩

end Group

/-- Reads lexemes into the innermost open group, with the groups around it, after a number of
numbered groups. -/
def ofLexemes (numbered : Nat) (group : Group) : List Group → List Lexeme → Option Piece
  | [], [] => some group.content
  | _ :: _, [] => none
  | outer, .opening isNumbered change :: later =>
    let index := if isNumbered then some numbered else none
    ofLexemes (if isNumbered then numbered + 1 else numbered)
      (Group.start index (group.flags.apply change)) (group :: outer) later
  | outer, .flags change :: later => ofLexemes numbered (group.change change) outer later
  | [], .closing :: _ => none
  | parent :: outer, .closing :: later =>
    ofLexemes numbered (parent.push group.finish) outer later
  | outer, .bar :: later => ofLexemes numbered group.next outer later
  | outer, .repetition minimum maximum greedy :: later =>
    match group.items with
    | ⟨some body, depth⟩ :: items =>
      let repeated := times minimum maximum (greedy != group.flags.swapGreed) body
      ofLexemes numbered { group with items := ⟨some repeated, depth + 1⟩ :: items } outer later
    | _ => none
  | outer, lexeme :: later =>
    match Piece.atom group.flags lexeme with
    | some piece => ofLexemes numbered (group.push piece) outer later
    | none => none

/-- How deep parts of a written pattern may be nested. -/
def depthLimit : Nat :=
  250

/-- The pattern that a text describes, if it describes one that is not refused. -/
def parse? (text : String) : Option Pattern := do
  let lexemes ← Lexeme.all text.length text.toList
  let piece ← ofLexemes 1 (Group.start none Flags.initial) [] lexemes
  let pattern ← piece.pattern
  if piece.depth ≤ depthLimit && pattern.footprint ≤ footprintLimit then some pattern else none

end Pattern

/-- A pattern together with the text that describes it. -/
structure Regex where
  /-- The text as written. -/
  text : String
  /-- The pattern it describes. -/
  pattern : Pattern
deriving DecidableEq, Repr

namespace Regex

/-- Compiles a text, if it describes a pattern. -/
def compile? (text : String) : Option Regex :=
  (Pattern.parse? text).map (⟨text, ·⟩)

/-- How many characters the preferred match at the start of a text takes, if there is a match. -/
def matchLength (regex : Regex) (text : List Char) : Option Nat :=
  regex.pattern.matchLength text

/-- The inspection form of a compiled pattern. -/
def inspect (regex : Regex) : String :=
  Text.tuple "Regex" [Text.quoted regex.text]

end Regex

end Packrat
