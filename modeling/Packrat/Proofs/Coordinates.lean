import Mathlib.Data.List.DropRight
import Mathlib.Data.Prod.Lex
import Mathlib.Order.Bounds.Basic
import Packrat.Proofs.Offsets

/-!
# Coordinates

A place in a source has a position, an offset, and a line with a column. The table of line starts
has an entry for every line feed (`Source.getElem?_lineStarts`), so what a search in it gives is the
number of line feeds before a position and the characters since the last one of them
(`Source.lineColumn_eq`). All coordinates run in the order of the positions
(`Source.coordinates_agree`).
-/

namespace Packrat

namespace Source

variable {source : Source}

/-! ## The encoding -/

/-- The length of a text in bytes is that of its encoding. -/
theorem byteLength_eq_utf8ByteSize (text : List Char) :
    byteLength text = (String.ofList text).utf8ByteSize := by
  induction text with
  | nil => rfl
  | cons c later ih =>
    rw [byteLength, ih, String.ofList_cons, String.utf8ByteSize_append,
      String.utf8ByteSize_singleton]

/-- An offset inside the source leads to the least position that is not before it. -/
theorem scalarOffset_isLeast {offset : Nat} (inside : offset ≤ source.byteOffset source.length) :
    IsLeast {position | offset ≤ source.byteOffset position} (source.scalarOffset offset) := by
  have bounded := source.scalarOffset_le offset
  constructor
  · show offset ≤ source.byteOffset (source.scalarOffset offset)
    refine Nat.le_of_not_lt fun short => ?_
    rcases Nat.lt_or_eq_of_le bounded with before | ended
    · exact Nat.lt_irrefl _ ((lt_scalarOffset_iff before).mpr short)
    · rw [ended] at short
      omega
  · intro position reached
    refine Nat.le_of_not_lt fun before => ?_
    have short := (lt_scalarOffset_iff (Nat.lt_of_lt_of_le before bounded)).mp before
    exact absurd short (Nat.not_lt.mpr reached)

/-- An offset past the end leads to the end. -/
theorem scalarOffset_of_lt {offset : Nat} (past : source.byteOffset source.length < offset) :
    source.scalarOffset offset = source.length := by
  refine Nat.le_antisymm (source.scalarOffset_le offset) (Nat.le_of_not_lt fun before => ?_)
  have less : source.byteOffset (source.scalarOffset offset) < offset :=
    Nat.lt_of_le_of_lt (byteOffset_le (Nat.le_of_lt before)) past
  exact Nat.lt_irrefl _ ((lt_scalarOffset_iff before).mpr less)

/-! ## The characters since the last line feed -/

/-- The characters of a text behind its last line feed; all of them, if it has none. -/
def sinceLineFeed (text : List Char) : List Char :=
  text.rtakeWhile (· ≠ '\n')

/-- Nothing stands behind a line feed that a text ends with. -/
theorem sinceLineFeed_lineFeed (text : List Char) : sinceLineFeed (text ++ ['\n']) = [] := by
  simp [sinceLineFeed]

/-- Characters that are no line feeds stand behind the last line feed with those before them. -/
theorem sinceLineFeed_append {text flat : List Char} (none : '\n' ∉ flat) :
    sinceLineFeed (text ++ flat) = sinceLineFeed text ++ flat := by
  have kept : ∀ c ∈ flat.reverse, decide (c ≠ '\n') = true := by
    intro c member
    rw [decide_eq_true_eq]
    rintro rfl
    exact none (List.mem_reverse.mp member)
  rw [sinceLineFeed, sinceLineFeed, List.rtakeWhile, List.rtakeWhile, List.reverse_append,
    List.takeWhile_append_of_pos kept, List.reverse_append, List.reverse_reverse]

/-! ## The table of line starts -/

/-- Line starts in two texts in a row are those in the first and, further on, those in the second.
-/
theorem startsFrom_append (position : Nat) (first second : List Char) :
    startsFrom position (first ++ second) =
      startsFrom position first ++ startsFrom (position + first.length) second := by
  induction first generalizing position with
  | nil => rfl
  | cons c later ih =>
    have further : position + (c :: later).length = position + 1 + later.length := by
      rw [List.length_cons]
      omega
    rw [List.cons_append, startsFrom, startsFrom, further, ih]
    split <;> rfl

/-- There is a line start for every line feed. -/
theorem length_startsFrom (position : Nat) (text : List Char) :
    (startsFrom position text).length = text.count '\n' := by
  induction text generalizing position with
  | nil => rfl
  | cons c later ih =>
    rw [startsFrom]
    by_cases feed : c = '\n'
    · rw [if_pos feed, List.length_cons, ih, feed, List.count_cons_self]
    · rw [if_neg feed, ih, List.count_cons_of_ne feed]

/-- Line starts in a text stand behind its start and not behind its end. -/
theorem mem_startsFrom {position entry : Nat} {text : List Char}
    (member : entry ∈ startsFrom position text) :
    position < entry ∧ entry ≤ position + text.length := by
  induction text generalizing position with
  | nil => exact absurd member List.not_mem_nil
  | cons c later ih =>
    have inner : entry = position + 1 ∨ entry ∈ startsFrom (position + 1) later := by
      rw [startsFrom] at member
      split at member
      · exact List.mem_cons.mp member
      · exact .inr member
    rw [List.length_cons]
    rcases inner with rfl | further
    · omega
    · have bounds := ih further
      omega

/-- Line starts increase from one line feed to the next. -/
theorem pairwise_startsFrom (position : Nat) (text : List Char) :
    (startsFrom position text).Pairwise (· < ·) := by
  induction text generalizing position with
  | nil => exact List.Pairwise.nil
  | cons c later ih =>
    rw [startsFrom]
    split
    · exact List.Pairwise.cons (fun entry member => (mem_startsFrom member).1) (ih _)
    · exact ih _

/-- The table of line starts is increasing. -/
theorem isIncreasing_lineStarts (source : Source) : IsIncreasing source.lineStarts :=
  List.Pairwise.cons (fun _ member => (mem_startsFrom member).1) (pairwise_startsFrom 0 _)

/-- The last line start in a text stands before the characters since its last line feed. -/
theorem getElem?_startsFrom (text : List Char) :
    (0 :: startsFrom 0 text)[text.count '\n']? =
      some (text.length - (sinceLineFeed text).length) := by
  induction text using List.reverseRecOn with
  | nil => rfl
  | append_singleton earlier c ih =>
    have counted := length_startsFrom 0 earlier
    rw [startsFrom_append, List.count_append, List.length_append, List.length_singleton]
    by_cases feed : c = '\n'
    · subst feed
      rw [sinceLineFeed_lineFeed, ← counted]
      simp [startsFrom]
    · have flat : '\n' ∉ [c] := by
        rw [List.mem_singleton]
        exact Ne.symm feed
      have nothing : startsFrom (0 + earlier.length) [c] = [] := by
        rw [startsFrom, if_neg feed, startsFrom]
      rw [nothing, List.append_nil, List.count_eq_zero_of_not_mem flat, Nat.add_zero, ih,
        sinceLineFeed_append flat, List.length_append, List.length_singleton,
        Nat.add_sub_add_right]

/-- The table of line starts lists those up to a position before those behind it. -/
theorem lineStarts_eq (source : Source) (position : Nat) :
    source.lineStarts = ((0 :: startsFrom 0 (source.chars.take position)) ++
      startsFrom (source.chars.take position).length (source.chars.drop position)).toArray := by
  have split := startsFrom_append 0 (source.chars.take position) (source.chars.drop position)
  rw [List.take_append_drop, Nat.zero_add] at split
  rw [lineStarts, split, List.cons_append]

/-- The entry of the table for as many lines as there are line feeds before a position is where the
line of the position starts. -/
theorem getElem?_lineStarts (source : Source) (position : Nat) :
    source.lineStarts[(source.chars.take position).count '\n']? =
      some ((source.chars.take position).length -
        (sinceLineFeed (source.chars.take position)).length) := by
  have listed : (source.chars.take position).count '\n' <
      (0 :: startsFrom 0 (source.chars.take position)).length := by
    rw [List.length_cons, length_startsFrom]
    exact Nat.lt_succ_self _
  rw [source.lineStarts_eq position, List.getElem?_toArray, List.getElem?_append_left listed,
    getElem?_startsFrom]

/-- The line of a position is the one that starts there or before, the next one behind it. -/
theorem lineIndex_eq {position line : Nat} (listed : line < source.lineStarts.size)
    (started : source.lineStarts[line] ≤ position)
    (ended : ∀ next : line + 1 < source.lineStarts.size,
      position < source.lineStarts[line + 1]) :
    (source.lineIndex position).val = line := by
  have increasing := source.isIncreasing_lineStarts
  have found := bisect_isOf increasing position
  unfold lineIndex
  split
  · rename_i place same
    rw [same] at found
    have entry : source.lineStarts[place.val] = position := found
    rcases Nat.lt_trichotomy place.val line with before | equal | behind
    · have less := increasing.lt listed before
      omega
    · exact equal
    · have next : source.lineStarts[line + 1] ≤ source.lineStarts[place.val] :=
        increasing.le place.isLt behind
      have past := ended (Nat.lt_of_le_of_lt behind place.isLt)
      omega
  · rename_i place same
    rw [same] at found
    have parted : ∀ (other : Nat) (inside : other < source.lineStarts.size),
        (other < place.val → source.lineStarts[other] < position) ∧
          (place.val ≤ other → position < source.lineStarts[other]) := found
    have bounded := place.isLt
    show place.val - 1 = line
    have above : line < place.val := by
      refine Nat.lt_of_not_le fun behind => ?_
      have greater := (parted line listed).2 behind
      omega
    have below : ¬ line + 1 < place.val := by
      intro further
      have next : line + 1 < source.lineStarts.size := by omega
      have less := (parted (line + 1) next).1 further
      have past := ended next
      omega
    omega

/-- The index of the line of a position is the number of line feeds before it. -/
theorem lineIndex_eq_count {position : Nat} (inside : position ≤ source.length) :
    (source.lineIndex position).val = (source.chars.take position).count '\n' := by
  have before : (source.chars.take position).length = position := List.length_take_of_le inside
  have entry := source.getElem?_lineStarts position
  obtain ⟨listed, starts⟩ := Array.getElem?_eq_some_iff.mp entry
  refine lineIndex_eq listed (by omega) fun next => ?_
  have past : (0 :: startsFrom 0 (source.chars.take position)).length ≤
      (source.chars.take position).count '\n' + 1 := by
    rw [List.length_cons, length_startsFrom]
  have found := Array.getElem?_eq_getElem next
  generalize source.lineStarts[(source.chars.take position).count '\n' + 1] = later at found ⊢
  rw [source.lineStarts_eq position, List.getElem?_toArray,
    List.getElem?_append_right past] at found
  have behind := (mem_startsFrom (List.mem_of_getElem? found)).1
  omega

/-- The text before a position ends where the source does, if the position lies beyond. -/
theorem take_min (source : Source) (position : Nat) :
    source.chars.take (min position source.length) = source.chars.take position := by
  rw [length, ← List.take_take, List.take_length]

/-- The line and the column of a position count the line feeds before it and the characters since
the last one of them. -/
theorem lineColumn_eq (source : Source) (position : Nat) :
    source.lineColumn position =
      ((source.chars.take position).count '\n' + 1,
        (sinceLineFeed (source.chars.take position)).length + 1) := by
  have inside : min position source.length ≤ source.length := Nat.min_le_right _ _
  have index := lineIndex_eq_count inside
  have entry := source.getElem?_lineStarts (min position source.length)
  have since : (sinceLineFeed (source.chars.take position)).length ≤
      (source.chars.take position).length := (List.rtakeWhile_suffix _ _).length_le
  rw [← index] at entry
  rw [take_min] at index entry
  obtain ⟨listed, starts⟩ := Array.getElem?_eq_some_iff.mp entry
  have before : (source.chars.take position).length = min position source.length :=
    List.length_take
  simp only [lineColumn, index, Fin.getElem_fin] at starts ⊢
  rw [Prod.mk.injEq]
  refine ⟨rfl, ?_⟩
  rw [starts]
  omega

/-- A position further back in the source has a later line, or the same line and a later column. -/
theorem lineColumn_lt {first second : Nat} (before : first < second)
    (inside : second ≤ source.length) :
    toLex (source.lineColumn first) < toLex (source.lineColumn second) := by
  have between : source.chars.take second =
      source.chars.take first ++ source.between first second := by
    have whole := source.between_append (Nat.zero_le first) (Nat.le_of_lt before)
    simpa only [between, after, List.drop_zero, Nat.sub_zero] using whole.symm
  have length : (source.between first second).length = second - first :=
    source.length_between inside
  rw [Prod.Lex.toLex_lt_toLex, lineColumn_eq, lineColumn_eq, between, List.count_append]
  by_cases feed : '\n' ∈ source.between first second
  · have positive := List.count_pos_iff.mpr feed
    left
    show _ < _
    omega
  · right
    rw [List.count_eq_zero_of_not_mem feed, sinceLineFeed_append feed, List.length_append]
    refine ⟨rfl, ?_⟩
    show _ < _
    omega

/-! ## All coordinates -/

/-- The coordinates of a source agree. The offset of a position is the size of the encoding of the
text before it and leads back to the position, and any offset leads to the least position that is
not before it. Slices that meet are one slice. The line and the column count the line feeds before a
position and the characters since the last one of them, so no two positions share them and they are
in the order of the positions. -/
theorem coordinates_agree (source : Source) :
    (∀ position, source.byteOffset position =
      (String.ofList (source.chars.take position)).utf8ByteSize) ∧
    (∀ position, source.scalarOffset (source.byteOffset position) =
      min position source.length) ∧
    (∀ offset, offset ≤ source.byteOffset source.length →
      IsLeast {position | offset ≤ source.byteOffset position} (source.scalarOffset offset)) ∧
    (∀ offset, source.byteOffset source.length < offset →
      source.scalarOffset offset = source.length) ∧
    (∀ first last, source.slice ⟨first, last⟩ =
      String.ofList ((source.chars.take last).drop first)) ∧
    (∀ first middle last, first ≤ middle → middle ≤ last →
      source.slice ⟨first, middle⟩ ++ source.slice ⟨middle, last⟩ = source.slice ⟨first, last⟩) ∧
    (∀ position, source.lineColumn position =
      ((source.chars.take position).count '\n' + 1,
        (sinceLineFeed (source.chars.take position)).length + 1)) ∧
    Set.InjOn source.lineColumn (Set.Iic source.length) ∧
    StrictMonoOn (fun position => toLex (source.lineColumn position)) (Set.Iic source.length) := by
  have ordered : StrictMonoOn (fun position => toLex (source.lineColumn position))
      (Set.Iic source.length) :=
    fun first _ second inside before => lineColumn_lt before inside
  refine ⟨fun position => ?_, source.scalarOffset_byteOffset, fun _ => scalarOffset_isLeast,
    fun _ => scalarOffset_of_lt, fun first last => ?_, fun first middle last forward further => ?_,
    source.lineColumn_eq, fun first left second right same => ?_, ordered⟩
  · rw [byteOffset_eq, byteLength_eq_utf8ByteSize]
  · rw [slice, within_eq, between, after, List.drop_take]
  · rw [slice, slice, slice, within_eq, within_eq, within_eq, ← String.ofList_append,
      source.between_append forward further]
  · exact ordered.injOn left right (congrArg toLex same)

/-- Two lines of characters of one to four bytes: an offset inside a character leads to the position
behind it, a slice runs over the line feed, and the last position is the fourth of its line. -/
theorem coordinates_agree_two_lines :
    let source : Source := ⟨['a', 'é', '\n', '嗨', '🙂', 'b']⟩
    IsLeast {position | 2 ≤ source.byteOffset position} (source.scalarOffset 2) ∧
      source.scalarOffset 2 = 2 ∧ source.scalarOffset 99 = 6 ∧
      source.slice ⟨1, 3⟩ ++ source.slice ⟨3, 5⟩ = source.slice ⟨1, 5⟩ ∧
      source.lineColumn 6 = (2, 4) := by
  intro source
  obtain ⟨_, _, least, past, _, slices, _, _, _⟩ := coordinates_agree source
  refine ⟨least 2 (by decide +kernel), by decide +kernel, past 99 (by decide +kernel),
    slices 1 3 5 (by decide) (by decide), by decide +kernel⟩

end Source

end Packrat
