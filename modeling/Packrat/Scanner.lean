import Packrat.Pattern.Parser
import Packrat.Source
import Packrat.Unicode.Lowercase

/-!
# Scanners

A scanner is a cursor over a source. A scan looks for something at the cursor and gives the scanner
that stands behind it, or nothing; the scanner it started from is a value and stays what it was,
which is all that backtracking needs.
-/

namespace Packrat

/-- A stretch of a text, measured in bytes from the start of the text. -/
structure Extent where
  /-- The offset at which the stretch starts. -/
  start : Nat
  /-- The offset at which the stretch ends. -/
  stop : Nat
deriving DecidableEq, Repr

/-- The preferred match of a pattern at the start of a text, if there is a match. -/
def Regex.find (regex : Regex) (text : List Char) : Option Extent :=
  (regex.matchLength text).map fun count => ⟨0, Source.byteLength (text.take count)⟩

/-- A cursor over a source. -/
structure Scanner where
  /-- The source. -/
  source : Source
  /-- The position of the cursor. -/
  position : Nat
  /-- The cursor stands before a character of the source or at its end. -/
  inside : position ≤ source.length
deriving DecidableEq, Repr

namespace Scanner

/-- The scanner at the start of a source. -/
def start (source : Source) : Scanner :=
  ⟨source, 0, Nat.zero_le _⟩

/-- The scanner at a position, or at the end of the source if the position lies beyond. -/
def moveTo (scanner : Scanner) (position : Nat) : Scanner :=
  ⟨scanner.source, min position scanner.source.length, Nat.min_le_right _ _⟩

/-- The scanner some characters further on, at the most at the end of the source. -/
def advance (scanner : Scanner) (count : Nat) : Scanner :=
  scanner.moveTo (scanner.position + count)

/-- Whether every character lies behind the cursor. -/
def atEnd (scanner : Scanner) : Bool :=
  scanner.source.length ≤ scanner.position

/-- The character at the cursor. -/
def peek (scanner : Scanner) : Option Char :=
  scanner.source.charAt scanner.position

/-- The characters from the cursor on. -/
def remaining (scanner : Scanner) : List Char :=
  scanner.source.after scanner.position

/-- Takes the character at the cursor. -/
def consume (scanner : Scanner) : Option (Char × Scanner) :=
  scanner.peek.map (·, scanner.advance 1)

/-- Takes a character that a test accepts. -/
def scanWhere (scanner : Scanner) (accept : Char → Bool) : Option Scanner :=
  match scanner.peek with
  | some c => if accept c then some (scanner.advance 1) else none
  | none => none

/-- Takes a text that stands at the cursor. -/
def scanLiteral (scanner : Scanner) (text : String) : Option Scanner :=
  if text.toList.isPrefixOf scanner.remaining then some (scanner.advance text.length) else none

/-- Whether a list starts with another, character by character up to the case of letters. -/
def startsInsensitive : List Char → List Char → Bool
  | [], _ => true
  | _ :: _, [] => false
  | expected :: later, c :: rest =>
    Unicode.lowercase c == Unicode.lowercase expected && startsInsensitive later rest

/-- Takes a text that stands at the cursor up to the case of letters. -/
def scanInsensitive (scanner : Scanner) (text : String) : Option Scanner :=
  if startsInsensitive text.toList scanner.remaining then some (scanner.advance text.length)
  else none

/-- Takes what is found in the remaining characters, if it stands at the cursor. The search sees the
remaining characters as a text of their own. -/
def scanFound (scanner : Scanner) (find : List Char → Option Extent) : Option Scanner :=
  match find scanner.remaining with
  | some found =>
    if found.start = 0 then
      let offset := scanner.source.byteOffset scanner.position
      some (scanner.moveTo (scanner.source.scalarOffset (offset + found.stop)))
    else none
  | none => none

/-- Takes the preferred match of a pattern at the cursor. -/
def scanRegex (scanner : Scanner) (regex : Regex) : Option Scanner :=
  scanner.scanFound regex.find

end Scanner

end Packrat
