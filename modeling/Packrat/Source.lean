import Packrat.Bisection
import Packrat.Span
import Packrat.Text.Structured

/-!
# Sources

A source is the text being matched. Positions in it count characters; offsets count the bytes of
its encoding. A table has the offset of every character and of the end, so a position is looked up
in it and an offset is searched for. Lines end at a line feed, and lines and columns are numbered
from one; another table has the position where each line starts.
-/

namespace Packrat

/-- The text being matched. -/
structure Source where
  /-- The characters of the text, in order. -/
  chars : List Char
deriving DecidableEq, Repr, Inhabited

namespace Source

/-- The source of a text. -/
def ofString (text : String) : Source :=
  ⟨text.toList⟩

/-- The text of a source. -/
def text (source : Source) : String :=
  String.ofList source.chars

/-- How many characters the source has. -/
def length (source : Source) : Nat :=
  source.chars.length

/-- The character at a position, if the position is inside the source. -/
def charAt (source : Source) (position : Nat) : Option Char :=
  source.chars[position]?

/-- The characters from a position on. -/
def after (source : Source) (position : Nat) : List Char :=
  source.chars.drop position

/-- How many bytes the encoding of a list of characters takes. -/
def byteLength : List Char → Nat
  | [] => 0
  | c :: later => c.utf8Size + byteLength later

/-- The offsets of the characters of a text that starts at an offset, and of its end. -/
def offsetsFrom (offset : Nat) : List Char → List Nat
  | [] => [offset]
  | c :: later => offset :: offsetsFrom (offset + c.utf8Size) later

/-- There is an offset for every character and one for the end. -/
theorem length_offsetsFrom (offset : Nat) (text : List Char) :
    (offsetsFrom offset text).length = text.length + 1 := by
  induction text generalizing offset with
  | nil => rfl
  | cons c later ih => rw [offsetsFrom, List.length_cons, ih, List.length_cons]

/-- The table of the offsets of the characters and of the end. -/
def offsets (source : Source) : Array Nat :=
  (offsetsFrom 0 source.chars).toArray

/-- The table of offsets has one entry more than the source has characters. -/
theorem size_offsets (source : Source) : source.offsets.size = source.length + 1 := by
  rw [offsets, List.size_toArray, length_offsetsFrom, length]

/-- The offset of a position; positions past the end count as the end. -/
def byteOffset (source : Source) (position : Nat) : Nat :=
  have inside : min position source.length < source.offsets.size := by
    rw [size_offsets]
    exact Nat.lt_succ_of_le (Nat.min_le_right _ _)
  source.offsets[min position source.length]

/-- The first position at or after an offset; offsets past the end count as the end. -/
def scalarOffset (source : Source) (offset : Nat) : Nat :=
  match bisect source.offsets offset with
  | .held position => min position source.length
  | .missing position => min position source.length

/-- A text without its first bytes. A character that some of them belong to goes with them. -/
def dropBytes (text : List Char) (count : Nat) : List Char :=
  match text, count with
  | text, 0 => text
  | [], _ + 1 => []
  | c :: later, count + 1 => dropBytes later (count + 1 - c.utf8Size)

/-- The first bytes of a text, and with them all of the character that the last of them belongs to.
-/
def takeBytes (text : List Char) (count : Nat) : List Char :=
  match text, count with
  | _, 0 => []
  | [], _ + 1 => []
  | c :: later, count + 1 => c :: takeBytes later (count + 1 - c.utf8Size)

/-- The characters inside a span, as far as the source goes. -/
def within (source : Source) (span : Span) : List Char :=
  let first := source.byteOffset span.start
  let last := max (source.byteOffset span.stop) first
  takeBytes (dropBytes source.chars first) (last - first)

/-- The text inside a span, as far as the source goes. -/
def slice (source : Source) (span : Span) : String :=
  String.ofList (source.within span)

/-- The positions behind the line feeds of a text that starts at a position. -/
def startsFrom (position : Nat) : List Char → List Nat
  | [] => []
  | c :: later =>
    if c = '\n' then (position + 1) :: startsFrom (position + 1) later
    else startsFrom (position + 1) later

/-- The table of the positions where lines start. -/
def lineStarts (source : Source) : Array Nat :=
  (0 :: startsFrom 0 source.chars).toArray

/-- There is at least one line. -/
theorem size_lineStarts_pos (source : Source) : 0 < source.lineStarts.size := by
  rw [lineStarts, List.size_toArray]
  exact Nat.succ_pos _

/-- The index of the line of a position: of the last one that does not start behind it. -/
def lineIndex (source : Source) (position : Nat) : Fin source.lineStarts.size :=
  match bisect source.lineStarts position with
  | .held line => line
  | .missing line =>
    ⟨line - 1, by
      have some_line := source.size_lineStarts_pos
      have inside := line.isLt
      omega⟩

/-- The line and the column of a position; positions past the end count as the end. -/
def lineColumn (source : Source) (position : Nat) : Nat × Nat :=
  let place := min position source.length
  let line := source.lineIndex place
  (line + 1, place - source.lineStarts[line] + 1)

/-- Where the text of a line ends: before the line feed in front of the next line, if there is a
next line, and else at the end. -/
def lineStop (source : Source) (line : Nat) : Nat :=
  match source.lineStarts[line + 1]? with
  | some next => next - 1
  | none => source.length

/-- A list without its last character if that is a carriage return. -/
def withoutReturn (line : List Char) : List Char :=
  if line.getLast? = some '\r' then line.dropLast else line

/-- The text of the line of a position, without its line feed and without a carriage return at its
end. -/
def lineText (source : Source) (position : Nat) : String :=
  let line := source.lineIndex (min position source.length)
  String.ofList (withoutReturn (source.within ⟨source.lineStarts[line], source.lineStop line⟩))

/-- The inspection form of a source. -/
def inspect (source : Source) : String :=
  Text.record "Source" [("text", Text.quoted source.text), ("len", Text.natural source.length)]

end Source

end Packrat
