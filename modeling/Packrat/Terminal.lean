import Packrat.CharacterSet
import Packrat.Grammar.Error
import Packrat.Scanner

/-!
# Terminals

A terminal is a test that looks at the source itself.
-/

namespace Packrat

/-- A test of the text at the cursor. -/
inductive Terminal where
  /-- A text. -/
  | literal (text : String)
  /-- A text up to the case of letters. -/
  | insensitive (text : String)
  /-- One character of a set. -/
  | set (members : CharacterSet)
  /-- One character between two, both included. -/
  | range (first last : Char)
  /-- A pattern, kept with the text it was given by. -/
  | regex (written : String) (compiled : Regex)
  /-- Any one character. -/
  | any
  /-- The end of the source. -/
  | endOfInput
deriving Repr

namespace Terminal

/-- The text that ties a written pattern to the cursor. -/
def anchored (written : String) : String :=
  "^(?:" ++ written ++ ")"

/-- The terminal of a written pattern, tied to the cursor. -/
def ofPattern (written : String) : Except GrammarError Terminal :=
  match Regex.compile? (anchored written) with
  | some compiled => .ok (.regex written compiled)
  | none => .error .invalidRegex

/-- Takes what the terminal describes. -/
def scan (terminal : Terminal) (scanner : Scanner) : Option Scanner :=
  match terminal with
  | literal text => scanner.scanLiteral text
  | insensitive text => scanner.scanInsensitive text
  | set members => scanner.scanWhere members.contains
  | range first last => scanner.scanWhere fun c => first ≤ c && c ≤ last
  | regex _ compiled => scanner.scanRegex compiled
  | any => scanner.scanWhere fun _ => true
  | endOfInput => if scanner.atEnd then some scanner else none

/-- Whether the terminal is held to match without taking a character. A pattern is tried on the
empty text. -/
def canBeEmpty : Terminal → Bool
  | literal text => text.isEmpty
  | insensitive text => text.isEmpty
  | regex _ compiled => (compiled.matchLength []).isSome
  | endOfInput => true
  | set _ => false
  | range _ _ => false
  | any => false

/-- The written form of a terminal. -/
def text : Terminal → String
  | literal text => Text.quoted text
  | insensitive text => "^" ++ Text.quoted text
  | set members => members.text
  | range first last => Text.quotedChar first ++ ".." ++ Text.quotedChar last
  | regex written _ => "/" ++ written ++ "/"
  | any => "ANY"
  | endOfInput => "EOI"

/-- The inspection form of a terminal. -/
def inspect : Terminal → String
  | literal text => Text.tuple "Literal" [Text.quoted text]
  | insensitive text => Text.tuple "Insensitive" [Text.quoted text]
  | set members => Text.tuple "Set" [members.inspect]
  | range first last =>
    Text.tuple "Range" [Text.quotedChar first ++ "..=" ++ Text.quotedChar last]
  | regex written compiled =>
    Text.record "Regex" [("pattern", Text.quoted written), ("regex", compiled.inspect)]
  | any => "Any"
  | endOfInput => "EndOfInput"

end Terminal

end Packrat
