import Packrat.Unicode.Blank
import Packrat.Unicode.CaseFolding
import Packrat.Unicode.Decimal
import Packrat.Unicode.Word

/-!
# Character classes

A class of characters is the table of its code points. Classes with the same characters have the
same table, so their equality is equality of what they take.
-/

namespace Packrat

open Unicode (RangeTable)

/-- A class of characters. -/
structure CharClass where
  /-- The code points of the class, in ascending ranges that do not touch. -/
  ranges : RangeTable
deriving Repr

namespace CharClass

/-- Classes are equal if their tables are; one table need not be compared with itself. -/
instance : DecidableEq CharClass := fun left right =>
  withPtrEqDecEq left right fun _ =>
    match decEq left.ranges right.ranges with
    | isTrue same => isTrue (by cases left; cases right; exact congrArg mk same)
    | isFalse different => isFalse fun same => different (congrArg ranges same)

/-- Whether the class takes a character. -/
def accepts (cls : CharClass) (c : Char) : Bool :=
  cls.ranges.covers c.toNat

/-- The class of the characters between two, both included. -/
def between (first last : Char) : CharClass :=
  ⟨[(first.toNat, last.toNat)]⟩

/-- The class of one character. -/
def single (c : Char) : CharClass :=
  between c c

/-- The class of nothing. -/
def none : CharClass :=
  ⟨[]⟩

/-- The decimal digits of every script. -/
def digits : CharClass :=
  ⟨Unicode.decimalRanges⟩

/-- The blank characters. -/
def blanks : CharClass :=
  ⟨Unicode.blankRanges⟩

/-- The word characters. -/
def words : CharClass :=
  ⟨Unicode.wordRanges⟩

/-- The characters that are not in the class. -/
def complement (cls : CharClass) : CharClass :=
  ⟨cls.ranges.complement⟩

/-- The characters of either class. -/
def union (left right : CharClass) : CharClass :=
  ⟨right.ranges.foldl (fun table (first, last) => table.insert first last) left.ranges⟩

/-- The characters of some classes. -/
def unionAll (classes : List CharClass) : CharClass :=
  classes.foldl union none

/-- The class with the case variants of its characters. -/
def ignoringCase (cls : CharClass) : CharClass :=
  ⟨Unicode.foldClosed cls.ranges⟩

end CharClass

end Packrat
