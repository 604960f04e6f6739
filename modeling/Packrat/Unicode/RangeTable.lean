/-!
# Tables of code points

A property of characters is stored as an ascending list of inclusive ranges, and a change of case
as an ascending list of ranges that shift together. Looking a code point up walks the list and stops
at the first range beyond it, so membership is what the walk says, with no index arithmetic to
trust.
-/

namespace Packrat.Unicode

/-- An ascending list of inclusive ranges of code points. -/
abbrev RangeTable := List (Nat × Nat)

/-- The highest code point. -/
def lastPoint : Nat :=
  0x10FFFF

namespace RangeTable

/-- Whether a code point lies in one of the ranges of an ascending table. -/
def covers : RangeTable → Nat → Bool
  | [], _ => false
  | (first, last) :: later, point =>
    if point < first then false
    else if point ≤ last then true
    else covers later point

/-- The table with one more range, joined with those that it meets or touches. -/
def insert (first last : Nat) : RangeTable → RangeTable
  | [] => [(first, last)]
  | (low, high) :: later =>
    if last + 1 < low then (first, last) :: (low, high) :: later
    else if high + 1 < first then (low, high) :: insert first last later
    else insert (min first low) (max last high) later

/-- The table of the code points in some of the ranges, which may come in any order. -/
def ofRanges (ranges : List (Nat × Nat)) : RangeTable :=
  ranges.foldr (fun (first, last) table => insert first last table) []

/-- The code points from `next` on that are in no range of the table. -/
def gapsFrom (next : Nat) : RangeTable → RangeTable
  | [] => if next ≤ lastPoint then [(next, lastPoint)] else []
  | (first, last) :: later =>
    if next < first then (next, first - 1) :: gapsFrom (last + 1) later
    else gapsFrom (last + 1) later

/-- The code points that are not in the table. -/
def complement (table : RangeTable) : RangeTable :=
  table.gapsFrom 0

end RangeTable

/-- Code points that move by one distance: every `stride`-th point from `first` to `last`. -/
structure CaseRange where
  /-- The lowest code point that moves. -/
  first : Nat
  /-- The highest code point that moves. -/
  last : Nat
  /-- The distance between neighbouring code points that move. -/
  stride : Nat
  /-- The distance that each of them moves. -/
  shift : Int
deriving DecidableEq, Repr

namespace CaseRange

/-- Whether the range moves a code point. -/
def moves (range : CaseRange) (point : Nat) : Bool :=
  range.first ≤ point && point ≤ range.last && (point - range.first) % range.stride == 0

/-- Where the range moves a code point. -/
def image (range : CaseRange) (point : Nat) : Nat :=
  (Int.ofNat point + range.shift).toNat

/-- The range that moves every image back. -/
def inverse (range : CaseRange) : CaseRange :=
  ⟨range.image range.first, range.image range.last, range.stride, -range.shift⟩

/-- The code points between two that the range moves, in ascending order. -/
def pointsBetween (range : CaseRange) (low high : Nat) : List Nat :=
  let skipped := (max low range.first - range.first + range.stride - 1) / range.stride
  let start := range.first + skipped * range.stride
  let stop := min high range.last
  List.range' start ((stop + range.stride - start) / range.stride) range.stride

end CaseRange

/-- An ascending list of case ranges. -/
abbrev CaseTable := List CaseRange

namespace CaseTable

/-- The image of a code point under a case table; a point outside every range stays where it is. -/
def apply (table : CaseTable) (point : Nat) : Nat :=
  match table.find? (·.moves point) with
  | some range => range.image point
  | none => point

/-- The case table that moves every image back. Where several code points have one image, it has a
range for each of them. -/
def inverse (table : CaseTable) : CaseTable :=
  table.map CaseRange.inverse

/-- The images of the code points of a table that move. -/
def imagesOf (table : CaseTable) (points : List (Nat × Nat)) : List (Nat × Nat) :=
  points.flatMap fun (low, high) =>
    table.flatMap fun range =>
      (range.pointsBetween low high).map fun point => (range.image point, range.image point)

end CaseTable

end Packrat.Unicode
