import Packrat.Scanner

/-!
# Offsets

What the tables of a source say is what counting its characters says. A search by bisection parts
an increasing table at the number that is looked for (`bisect_isOf`), the offset of a position is
the length of the text before it (`Source.byteOffset_eq`), and to search for that offset leads back
to the position (`Source.scalarOffset_byteOffset`). So a match that is measured in bytes moves a
scanner by the characters of the match (`Scanner.scanRegex_eq`).
-/

namespace Packrat

/-! ## Bisection -/

/-- A table in which every entry is greater than those before it. -/
def IsIncreasing (table : Array Nat) : Prop :=
  table.toList.Pairwise (· < ·)

/-- A place is where a number stands, or it parts the smaller entries of a table from the greater
ones. -/
def Place.IsOf {table : Array Nat} (number : Nat) : Place table.size → Prop
  | held index => table[index] = number
  | missing index => ∀ (other : Nat) (inside : other < table.size),
    (other < index → table[other] < number) ∧ (index ≤ other → number < table[other])

section Bisection

variable {table : Array Nat} {number : Nat}

/-- Later entries of an increasing table are greater. -/
theorem IsIncreasing.lt (increasing : IsIncreasing table) {first second : Nat}
    (inside : second < table.size) (before : first < second) :
    table[first] < table[second] := by
  have entries := List.pairwise_iff_getElem.mp increasing first second
    (Nat.lt_trans before inside) inside before
  simpa only [Array.getElem_toList] using entries

/-- Later entries of an increasing table are not smaller. -/
theorem IsIncreasing.le (increasing : IsIncreasing table) {first second : Nat}
    (inside : second < table.size) (before : first ≤ second) :
    table[first] ≤ table[second] := by
  rcases Nat.lt_or_eq_of_le before with further | rfl
  · exact Nat.le_of_lt (increasing.lt inside further)
  · exact Nat.le_refl _

/-- A search in a stretch of an increasing table gives the place of the number, if the entries
before the stretch are smaller and those behind it greater. -/
theorem bisectWithin_isOf (increasing : IsIncreasing table) {low high : Nat}
    {ordered : low ≤ high} {inside : high ≤ table.size}
    (below : ∀ (other : Nat) (listed : other < table.size), other < low → table[other] < number)
    (above : ∀ (other : Nat) (listed : other < table.size), high ≤ other → number < table[other]) :
    (bisectWithin table number low high ordered inside).IsOf number := by
  fun_induction bisectWithin table number low high ordered inside with
  | case1 low high ordered inside wide middle before smaller ih =>
    have entry : table[middle] < number := Nat.compare_eq_lt.mp smaller
    refine ih (fun other listed left => ?_) above
    rcases Nat.lt_or_eq_of_le (Nat.le_of_lt_succ left) with further | rfl
    · exact Nat.lt_trans (increasing.lt (Nat.lt_of_lt_of_le before inside) further) entry
    · exact entry
  | case2 low high ordered inside wide middle before same =>
    exact Nat.compare_eq_eq.mp same
  | case3 low high ordered inside wide middle before greater ih =>
    have entry : number < table[middle] := Nat.compare_eq_gt.mp greater
    refine ih below fun other listed right => ?_
    rcases Nat.lt_or_eq_of_le right with further | rfl
    · exact Nat.lt_trans entry (increasing.lt listed further)
    · exact entry
  | case4 low high ordered inside narrow =>
    intro other listed
    have closed : high ≤ low := Nat.le_of_not_lt narrow
    exact ⟨below other listed, fun right => above other listed (Nat.le_trans closed right)⟩

/-- A search in an increasing table gives the place of the number. -/
theorem bisect_isOf (increasing : IsIncreasing table) (number : Nat) :
    (bisect table number).IsOf number := by
  refine bisectWithin_isOf increasing (fun other _ left => ?_) fun other listed right => ?_
  · exact absurd left (Nat.not_lt_zero other)
  · exact absurd listed (Nat.not_lt.mpr right)

/-- The place of a number parts the smaller entries of an increasing table from the others. -/
theorem Place.IsOf.lt_iff {place : Place table.size} (found : place.IsOf number)
    (increasing : IsIncreasing table) {other : Nat} (inside : other < table.size) :
    table[other] < number ↔ other < place.index := by
  cases place with
  | held index =>
    have entry : table[index.val] = number := found
    rw [← entry]
    constructor
    · intro smaller
      refine Nat.lt_of_not_le fun behind => ?_
      have greatest : table[index.val] ≤ table[other] := increasing.le inside behind
      omega
    · exact increasing.lt index.isLt
  | missing index =>
    constructor
    · intro smaller
      refine Nat.lt_of_not_le fun behind => ?_
      have greater := (found other inside).2 behind
      omega
    · exact (found other inside).1

end Bisection

namespace Source

/-! ## Offsets and positions -/

variable {source : Source}

/-- Two texts in a row take as many bytes as they take together. -/
theorem byteLength_append (first second : List Char) :
    byteLength (first ++ second) = byteLength first + byteLength second := by
  induction first with
  | nil => rw [List.nil_append, byteLength, Nat.zero_add]
  | cons c later ih => rw [List.cons_append, byteLength, byteLength, ih, Nat.add_assoc]

/-- The entry of the table for a position is the length of the text before it. -/
theorem getElem_offsetsFrom (text : List Char) (offset : Nat) {position : Nat}
    (inside : position < (offsetsFrom offset text).length) :
    (offsetsFrom offset text)[position] = offset + byteLength (text.take position) := by
  induction text generalizing offset position with
  | nil =>
    have first : position = 0 := by
      simpa [offsetsFrom] using inside
    subst first
    rfl
  | cons c later ih =>
    cases position with
    | zero => rfl
    | succ position =>
      have entry := ih (offset + c.utf8Size) (Nat.lt_of_succ_lt_succ inside)
      rw [List.take_succ_cons, byteLength, ← Nat.add_assoc]
      exact entry

/-- Every entry of the table of offsets is at least the offset it starts from. -/
theorem le_of_mem_offsetsFrom {text : List Char} {offset entry : Nat}
    (member : entry ∈ offsetsFrom offset text) : offset ≤ entry := by
  obtain ⟨position, inside, rfl⟩ := List.getElem_of_mem member
  rw [getElem_offsetsFrom]
  exact Nat.le_add_right _ _

/-- Offsets increase from one character to the next, which is at least a byte further on. -/
theorem pairwise_offsetsFrom (offset : Nat) (text : List Char) :
    (offsetsFrom offset text).Pairwise (· < ·) := by
  induction text generalizing offset with
  | nil => exact List.pairwise_singleton _ _
  | cons c later ih =>
    refine List.Pairwise.cons (fun entry member => ?_) (ih _)
    have behind := le_of_mem_offsetsFrom member
    have size := c.utf8Size_pos
    omega

/-- The table of offsets is increasing. -/
theorem isIncreasing_offsets (source : Source) : IsIncreasing source.offsets :=
  pairwise_offsetsFrom 0 source.chars

/-- The entry of the table for a position is the offset of the position. -/
theorem getElem_offsets {position : Nat} (inside : position < source.offsets.size) :
    source.offsets[position] = byteLength (source.chars.take position) := by
  have listed : position < (offsetsFrom 0 source.chars).length := by
    simpa [offsets] using inside
  have entry := getElem_offsetsFrom source.chars 0 listed
  rw [Nat.zero_add] at entry
  exact entry

/-- The offset of a position is the length of the text before it. -/
theorem byteOffset_eq (source : Source) (position : Nat) :
    source.byteOffset position = byteLength (source.chars.take position) := by
  rw [byteOffset, getElem_offsets, length, ← List.take_take, List.take_length]

/-- Positions past the end have the offset of the end. -/
theorem byteOffset_min (source : Source) (position : Nat) :
    source.byteOffset (min position source.length) = source.byteOffset position := by
  simp only [byteOffset, Nat.min_assoc, Nat.min_self]

/-- A position of the source has a greater offset than those before it. -/
theorem byteOffset_lt {first second : Nat} (before : first < second)
    (inside : second ≤ source.length) : source.byteOffset first < source.byteOffset second := by
  have listed : second < source.offsets.size := by
    rw [size_offsets]
    omega
  rw [byteOffset_eq, byteOffset_eq, ← getElem_offsets (Nat.lt_trans before listed),
    ← getElem_offsets listed]
  exact source.isIncreasing_offsets.lt listed before

/-- No offset is less than that of a position further back. -/
theorem byteOffset_le {first second : Nat} (before : first ≤ second) :
    source.byteOffset first ≤ source.byteOffset second := by
  rw [← byteOffset_min source first, ← byteOffset_min source second]
  rcases Nat.lt_or_ge (min first source.length) (min second source.length) with less | same
  · exact Nat.le_of_lt (byteOffset_lt less (Nat.min_le_right _ _))
  · have equal : min first source.length = min second source.length := by omega
    exact Nat.le_of_eq (congrArg source.byteOffset equal)

/-- An offset leads to a position of the source. -/
theorem scalarOffset_le (source : Source) (offset : Nat) :
    source.scalarOffset offset ≤ source.length := by
  unfold scalarOffset
  split <;> exact Nat.min_le_right _ _

/-- An offset leads past the positions of which the offsets are less. -/
theorem lt_scalarOffset_iff {position offset : Nat} (inside : position < source.length) :
    position < source.scalarOffset offset ↔ source.byteOffset position < offset := by
  have listed : position < source.offsets.size := by
    rw [size_offsets]
    omega
  have place : source.scalarOffset offset =
      min (bisect source.offsets offset).index source.length := by
    unfold scalarOffset
    split <;> rename_i found <;> rw [found] <;> rfl
  have parted := (bisect_isOf source.isIncreasing_offsets offset).lt_iff
    source.isIncreasing_offsets listed
  rw [getElem_offsets listed, ← byteOffset_eq] at parted
  rw [place, parted]
  omega

/-- The offset of a position leads back to the position, or to the end if it lies beyond. -/
theorem scalarOffset_byteOffset (source : Source) (position : Nat) :
    source.scalarOffset (source.byteOffset position) = min position source.length := by
  have inside := source.scalarOffset_le (source.byteOffset position)
  refine Nat.le_antisymm (Nat.le_of_not_lt fun past => ?_) (Nat.le_of_not_lt fun short => ?_)
  · have less := (lt_scalarOffset_iff (by omega)).mp past
    rw [byteOffset_min] at less
    exact Nat.lt_irrefl _ less
  · have less := byteOffset_lt short (Nat.min_le_right _ _)
    rw [byteOffset_min] at less
    exact Nat.lt_irrefl _ ((lt_scalarOffset_iff (by omega)).mpr less)

/-! ## The text between two positions -/

/-- The characters between two positions, as far as the source goes. -/
def between (source : Source) (first last : Nat) : List Char :=
  (source.after first).take (last - first)

/-- There is nothing between a position and itself, or one before it. -/
theorem between_of_le (source : Source) {first last : Nat} (behind : last ≤ first) :
    source.between first last = [] := by
  have none : last - first = 0 := by omega
  rw [between, none, List.take_zero]

/-- The text up to a position and the text from there on are the text. -/
theorem between_append (source : Source) {first middle last : Nat} (forward : first ≤ middle)
    (further : middle ≤ last) :
    source.between first middle ++ source.between middle last = source.between first last := by
  have rest : source.after middle = (source.after first).drop (middle - first) := by
    rw [after, after, List.drop_drop]
    congr 1
    omega
  have total : last - first = (middle - first) + (last - middle) := by omega
  rw [between, between, between, rest, total, List.take_add]

/-- Between the start and the end of the source lie all of its characters. -/
theorem between_all (source : Source) : source.between 0 source.length = source.chars := by
  rw [between, after, List.drop_zero, Nat.sub_zero, length, List.take_length]

/-- As many characters lie between two positions of the source as the positions are apart. -/
theorem length_between (source : Source) {first last : Nat} (inside : last ≤ source.length) :
    (source.between first last).length = last - first := by
  rw [between, List.length_take, after, List.length_drop]
  change min (last - first) (source.length - first) = last - first
  omega

/-! ## Cutting a text at an offset -/

/-- To drop the bytes of a character and some more is to drop those from the text behind it. -/
theorem dropBytes_cons (c : Char) (later : List Char) (count : Nat) :
    dropBytes (c :: later) (c.utf8Size + count) = dropBytes later count := by
  obtain ⟨size, positive⟩ := Nat.exists_eq_succ_of_ne_zero (Nat.ne_of_gt c.utf8Size_pos)
  have total : c.utf8Size + count = size + count + 1 := by omega
  rw [total, dropBytes, ← total, Nat.add_sub_cancel_left]

/-- To take the bytes of a character and some more is to take the character and then those. -/
theorem takeBytes_cons (c : Char) (later : List Char) (count : Nat) :
    takeBytes (c :: later) (c.utf8Size + count) = c :: takeBytes later count := by
  obtain ⟨size, positive⟩ := Nat.exists_eq_succ_of_ne_zero (Nat.ne_of_gt c.utf8Size_pos)
  have total : c.utf8Size + count = size + count + 1 := by omega
  rw [total, takeBytes, ← total, Nat.add_sub_cancel_left]

/-- A text without the bytes of its first characters is the text without these characters. -/
theorem dropBytes_byteLength (text : List Char) (count : Nat) :
    dropBytes text (byteLength (text.take count)) = text.drop count := by
  induction text generalizing count with
  | nil => rw [List.take_nil, byteLength, dropBytes, List.drop_nil]
  | cons c later ih =>
    cases count with
    | zero => rw [List.take_zero, byteLength, dropBytes, List.drop_zero]
    | succ count =>
      rw [List.take_succ_cons, byteLength, dropBytes_cons, ih, List.drop_succ_cons]

/-- The bytes of the first characters of a text are these characters. -/
theorem takeBytes_byteLength (text : List Char) (count : Nat) :
    takeBytes text (byteLength (text.take count)) = text.take count := by
  induction text generalizing count with
  | nil => rw [List.take_nil, byteLength, takeBytes]
  | cons c later ih =>
    cases count with
    | zero => rw [List.take_zero, byteLength, takeBytes]
    | succ count => rw [List.take_succ_cons, byteLength, takeBytes_cons, ih]

/-- The text from the offset of a position on is the text without the characters before it. -/
theorem dropBytes_byteOffset (source : Source) (position : Nat) :
    dropBytes source.chars (source.byteOffset position) = source.after position := by
  rw [byteOffset_eq, dropBytes_byteLength, after]

/-- Some characters further on, the offset is greater by their length. -/
theorem byteOffset_add (source : Source) (position count : Nat) :
    source.byteOffset (position + count) =
      source.byteOffset position + byteLength ((source.after position).take count) := by
  rw [byteOffset_eq, byteOffset_eq, after, List.take_add, byteLength_append]

/-- The characters inside a span are those between its ends. -/
theorem within_eq (source : Source) (span : Span) :
    source.within span = source.between span.start span.stop := by
  have length : max (source.byteOffset span.stop) (source.byteOffset span.start) -
      source.byteOffset span.start = byteLength (source.between span.start span.stop) := by
    rcases Nat.le_total span.start span.stop with forward | backward
    · have sum := source.byteOffset_add span.start (span.stop - span.start)
      rw [Nat.add_sub_cancel' forward] at sum
      change _ = _ + byteLength (source.between span.start span.stop) at sum
      omega
    · have less : source.byteOffset span.stop ≤ source.byteOffset span.start :=
        byteOffset_le backward
      rw [between_of_le source backward, byteLength]
      omega
  simp only [within]
  rw [length, dropBytes_byteOffset, between, takeBytes_byteLength]

end Source

namespace Scanner

/-- What is found at the cursor moves the scanner by the characters of which it has the bytes. -/
theorem scanFound_of_take {scanner : Scanner} {find : List Char → Option Extent} {count : Nat}
    (found : find scanner.remaining =
      some ⟨0, Source.byteLength (scanner.remaining.take count)⟩) :
    scanner.scanFound find = some (scanner.advance count) := by
  have offset := scanner.source.byteOffset_add scanner.position count
  change _ = _ + Source.byteLength (scanner.remaining.take count) at offset
  simp only [scanFound, found, if_true]
  rw [← offset, Source.scalarOffset_byteOffset, moveTo, advance, moveTo]
  simp only [Nat.min_assoc, Nat.min_self]

/-- The match of a pattern moves the scanner by the characters of the match. -/
theorem scanRegex_eq (scanner : Scanner) (regex : Regex) :
    scanner.scanRegex regex = (regex.matchLength scanner.remaining).map scanner.advance := by
  unfold scanRegex
  cases matched : regex.matchLength scanner.remaining with
  | none => simp only [scanFound, Regex.find, matched, Option.map_none]
  | some count =>
    rw [Option.map_some]
    apply scanFound_of_take
    rw [Regex.find, matched, Option.map_some]

end Scanner

end Packrat
