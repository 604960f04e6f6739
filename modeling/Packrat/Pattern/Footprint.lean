import Packrat.Pattern.Basic

/-!
# The footprint of a pattern

A pattern is refused if an automaton over bytes that finds its matches would take too much memory.
The footprint estimates that memory in bytes. Every state takes 32 bytes, every branch of a state 4
bytes more, and every range of bytes that a state decides by takes 8 bytes more. A class of
characters is written as sequences of byte ranges, and sequences share the states of a common front.
-/

namespace Packrat

namespace CharClass

/-- The digits in base 64 of the numbers between two, as sequences of digit ranges: a leading digit
and `count` more. -/
def digitSequences : (count low high : Nat) → List (List (Nat × Nat))
  | 0, low, high => [[(low, high)]]
  | count + 1, low, high =>
    let unit := 64 ^ (count + 1)
    let first := low / unit
    let last := high / unit
    if first = last then
      (digitSequences count (low % unit) (high % unit)).map ((first, first) :: ·)
    else
      let start := if low % unit = 0 then first else first + 1
      let stop := if high % unit = unit - 1 then last + 1 else last
      (if start = first then []
        else (digitSequences count (low % unit) (unit - 1)).map ((first, first) :: ·)) ++
      (if start < stop then [(start, stop - 1) :: List.replicate (count + 1) (0, 63)] else []) ++
      (if stop = last then (digitSequences count 0 (high % unit)).map ((last, last) :: ·) else [])

/-- The code points written with one number of bytes, and that number of bytes less one. -/
def encodingBands : List (Nat × Nat × Nat) :=
  [(0, 0, 0x7F), (1, 0x80, 0x7FF), (2, 0x800, 0xD7FF), (2, 0xE000, 0xFFFF), (3, 0x10000, 0x10FFFF)]

/-- The sequences of byte ranges that write the code points of the class in a band. -/
def sequencesIn (cls : CharClass) (band : Nat × Nat × Nat) : List (List (Nat × Nat)) :=
  let (count, first, last) := band
  cls.ranges.flatMap fun (low, high) =>
    if low ≤ last && first ≤ high then digitSequences count (max low first) (min high last) else []

/-- How many elements two lists have in common at the front. -/
def agreement {α : Type} [DecidableEq α] : List α → List α → Nat
  | left :: lefts, right :: rights => if left = right then agreement lefts rights + 1 else 0
  | _, _ => 0

/-- How many states some sequences need in order, each sharing its front with the one before. -/
def statesAfter {α : Type} [DecidableEq α] : List α → List (List α) → Nat
  | _, [] => 0
  | before, sequence :: later =>
    sequence.length - agreement before sequence + statesAfter sequence later

/-- The footprint of a class. -/
def footprint (cls : CharClass) : Nat :=
  match cls.ranges with
  | [(low, high)] =>
    if low = high then 32 * (Char.ofNat low).utf8Size else spread
  | _ => spread
where
  /-- The footprint of a class of several characters. -/
  spread : Nat :=
    if cls.ranges.all (·.2 < 0x80) then 64 + 8 * cls.ranges.length
    else
      encodingBands.foldl (fun bytes band =>
        let sequences := cls.sequencesIn band
        bytes + 4 * sequences.length + 32 * statesAfter [] sequences) 64

end CharClass

namespace Pattern

/-- The footprint of a pattern, where that of an alternative inside others counts as a branch. -/
def footprintIn (branching : Bool) : Pattern → Nat
  | alternative first second =>
    (if branching then 0 else 64) + first.footprintIn true + second.footprintIn true
  | empty => branch 32
  | one cls => branch cls.footprint
  | assertion _ => branch 32
  | sequence first second => branch (first.footprintIn false + second.footprintIn false)
  | repeated minimum none _ body =>
    branch (max minimum 1 * body.footprintIn false +
      if minimum = 0 && body.mayTakeNothing then 112 else 40)
  | repeated minimum (some maximum) _ body =>
    branch (maximum * body.footprintIn false +
      if minimum = maximum then 0 else 32 + 40 * (maximum - minimum))
  | numbered _ body => branch (body.footprintIn false + 64)
where
  /-- The footprint of something, with its branch if it is one of several alternatives. -/
  branch (bytes : Nat) : Nat :=
    if branching then bytes + 4 else bytes

/-- How many bytes an automaton for the pattern takes. -/
def footprint (pattern : Pattern) : Nat :=
  pattern.footprintIn false + 208

/-- The greatest footprint that is not refused. -/
def footprintLimit : Nat :=
  10 * 1024 * 1024

end Pattern

end Packrat
